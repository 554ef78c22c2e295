import IptvCloud.Stream.Factory

/-!
# Elements of a pipeline (`stream/elements`, `stream/stypes.h`)

The elements that a builder makes, under names of the templates of `stypes.h`, and `ElementAdd` and
`ElementLink` of `IBaseBuilder`. A pointer to an element is an option. A computation of `Build` has
the elements of the pipeline as its state; it ends with a value or with what stops the process: a
null pointer that is used, or a `CHECK`. What GStreamer answers and what `NOTREACHED` and
`CRITICAL_LOG` of the library `common` do is a `Run`. The properties that are set on the elements
are left out.
-/

namespace IptvCloud.Streams.Builders

/-- `elements::Element`. -/
structure Element where
  pluginName : String
  name : String
  deriving DecidableEq, Repr

/-! ## Names -/

/-- The templates of names. -/
inductive Template
  | videoTee
  | audioTee
  | udbVideo
  | udbAudio
  | postProc
  | videoLogo
  | deinterlace
  | aspectRatio
  | videoConvert
  | audioConvert
  | volume
  | audioConvertCapsFilter
  | src
  | videoCodec
  | audioCodec
  | videoScaleCapsFilter
  | videoX264encCapsFilterStreamFormat
  | videoX264encCapsFilterProfile
  | videoScale
  | videoRateCapsFilter
  | videoRate
  | audioResample
  | mpegAudioParse
  | decodebin
  | sink
  | audioParser
  | videoParser
  | muxer
  | audioPay
  | videoPay
  | videoTeeQueue
  | audioTeeQueue
  | splitSink
  deriving DecidableEq, Repr

/-- The text of a template up to its `%lu`. -/
def Template.text : Template → String
  | .videoTee => "video_tee_"
  | .audioTee => "audio_tee_"
  | .udbVideo => "udb_conn_video_"
  | .udbAudio => "udb_conn_audio_"
  | .postProc => "post_proc_"
  | .videoLogo => "videologo_"
  | .deinterlace => "deinterlace_"
  | .aspectRatio => "aspect_ratio_"
  | .videoConvert => "video_convert_"
  | .audioConvert => "audio_convert_"
  | .volume => "volume_"
  | .audioConvertCapsFilter => "audio_convert_capsfilter_"
  | .src => "src_"
  | .videoCodec => "video_codec_"
  | .audioCodec => "audio_codec_"
  | .videoScaleCapsFilter => "videoscale_capsfilter_"
  | .videoX264encCapsFilterStreamFormat => "x264enc_capsfilter_stream_format_"
  | .videoX264encCapsFilterProfile => "x264enc_capsfilter_profile_"
  | .videoScale => "videoscale_"
  | .videoRateCapsFilter => "videorate_capsfilter_"
  | .videoRate => "videorate_"
  | .audioResample => "audioresample_"
  | .mpegAudioParse => "mpegaudioparse_"
  | .decodebin => "decodebin_"
  | .sink => "sink_"
  | .audioParser => "audio_parser_"
  | .videoParser => "video_parser_"
  | .muxer => "muxer_"
  | .audioPay => "audio_pay_"
  | .videoPay => "video_pay_"
  | .videoTeeQueue => "video_tee_queue_"
  | .audioTeeQueue => "audio_tee_queue_"
  | .splitSink => "splitmuxsink_"

/-- `common::MemSPrintf` of a template. -/
def memSPrintf (template : Template) (id : Nat) : String :=
  template.text ++ String.ofList (Nat.toDigits 10 id)

/-! ## Computations -/

/-- The library code that builders call: that of `Common`; `IsValid` of a `Url` and of a `Size`; and
the file name of a path. -/
structure Library extends Common where
  isValidUrl : Url → Bool
  isValidSize : Int × Int → Bool
  fileName : String → String

/-- What is answered during a run: whether `gst_element_link` links two elements, and whether
`NOTREACHED` and `CRITICAL_LOG` stop the process or return. -/
structure Run where
  links : Element → Element → Bool
  notReachedStops : Bool
  criticalStops : Bool

/-- What stops the process. -/
inductive Fault
  /-- `ElementLink` or `link_to_multiplexer` of a null pointer. -/
  | nullLink
  /-- Another use of a null pointer. -/
  | nullElement
  /-- `gst_bin_add` refuses the name of an element that is there. -/
  | duplicateName (name : String)
  | notLinked
  /-- The first of no inputs. -/
  | noInput
  | checkFailed (text : String)
  /-- `NOTREACHED` or `CRITICAL_LOG`. -/
  | stopped
  deriving DecidableEq, Repr

abbrev Build := StateT (List Element) (Except Fault)

/-- `IBaseBuilder::ElementAdd`. -/
def elementAdd (elem : Option Element) : Build Unit := fun elements =>
  match elem with
  | none => .error .nullElement
  | some elem =>
    if elem.name ∈ elements.map Element.name then .error (.duplicateName elem.name)
    else .ok ((), elements ++ [elem])

/-- `IBaseBuilder::ElementLink`. -/
def elementLink (run : Run) (src dest : Option Element) : Build Unit :=
  match src, dest with
  | some src, some dest => if run.links src dest then pure () else throw .notLinked
  | _, _ => throw .nullLink

/-- An element that a method is called on. -/
def deref : Option Element → Build Element
  | some elem => pure elem
  | none => throw .nullElement

/-- `NOTREACHED`. -/
def notReached (run : Run) : Build Unit := if run.notReachedStops then throw .stopped else pure ()

/-- `CRITICAL_LOG`. -/
def criticalLog (run : Run) : Build Unit := if run.criticalStops then throw .stopped else pure ()

/-- A factory: the plugins it knows, and a `NOTREACHED` before the null pointer for the others. -/
def makeKnown (run : Run) (known : List String) (plugin name : String) : Build (Option Element) :=
  if plugin ∈ known then pure (some ⟨plugin, name⟩)
  else do
    notReached run
    return none

/-! ## Factories -/

def Source.pluginName : Source → String
  | .file _ => "filesrc"
  | .soupHttp _ _ _ => "souphttpsrc"
  | .udp _ => "udpsrc"
  | .rtmp _ _ => "rtmpsrc"
  | .tcpServer _ => "tcpserversrc"
  | .app => "appsrc"
  | .videoTest => "videotestsrc"
  | .audioTest => "audiotestsrc"
  | .v4l2 _ => "v4l2src"
  | .alsa _ => "alsasrc"

/-- `make_src`. -/
def makeSrc (lib : Library) (run : Run) (uri : InputUri) (inputId : Nat) : Build (Option Element) :=
  match Streams.makeSrc lib.toCommon uri with
  | .ok source => pure (some ⟨Source.pluginName source, memSPrintf .src inputId⟩)
  | .error _ => do
    notReached run
    return none

/-- The plugins of `make_video_parser`. -/
def videoParsers : List String := ["h264parse", "h265parse", "mpegvideoparse", "tsparse"]

/-- `make_video_parser`. -/
def makeVideoParser (run : Run) (parser name : String) : Build (Option Element) :=
  makeKnown run videoParsers parser name

/-- The plugins of `make_audio_parser`. -/
def audioParsers : List String := ["aacparse", "ac3parse", "mpegaudioparse"]

/-- `make_audio_parser`. -/
def makeAudioParser (run : Run) (parser name : String) : Build (Option Element) :=
  makeKnown run audioParsers parser name

/-- The plugins of `make_video_encoder`. -/
def videoEncoders : List String :=
  ["x264enc", "x265enc", "mpeg2enc", "vaapih264enc", "vaapimpeg2enc", "mfxh264enc", "openh264enc",
    "eavcenc", "nvh264enc", "msdkh264enc"]

/-- `make_video_encoder`. -/
def makeVideoEncoder (run : Run) (codec name : String) : Build (Option Element) :=
  makeKnown run videoEncoders codec name

/-- The plugins of `make_audio_encoder`. -/
def audioEncoders : List String := ["faac", "voaacenc", "lamemp3enc"]

/-- `make_audio_encoder`. -/
def makeAudioEncoder (run : Run) (codec name : String) : Build (Option Element) :=
  makeKnown run audioEncoders codec name

/-- `IsH264Encoder`. -/
def isH264Encoder (encoder : String) : Bool :=
  encoder ∈ ["x264enc", "vaapih264enc", "openh264enc", "nvh264enc", "mfxh264enc"]

/-- `IsAACEncoder`. -/
def isAACEncoder (encoder : String) : Bool := encoder ∈ ["faac", "voaacenc"]

/-- `make_muxer`. -/
def makeMuxer (run : Run) (scheme : Scheme) (muxerId : Nat) : Build (Option Element) :=
  match scheme with
  | .rtmp => pure (some ⟨"flvmux", memSPrintf .muxer muxerId⟩)
  | .udp => pure (some ⟨"rtpmux", memSPrintf .muxer muxerId⟩)
  | .tcp | .http => pure (some ⟨"mpegtsmux", memSPrintf .muxer muxerId⟩)
  | _ => do
    notReached run
    return none

inductive SupportedVideoCodec
  | h264
  | mpeg
  | h265
  deriving DecidableEq, Repr

inductive SupportedAudioCodec
  | mpeg
  | aac
  | ac3
  deriving DecidableEq, Repr

/-- `make_mpeg2_pay`, which is also the pay of an audio codec. -/
def makeMpeg2Pay (payId : Nat) : Element := ⟨"rtpmp2tpay", memSPrintf .videoPay payId⟩

/-- `make_video_pay`. -/
def makeVideoPay (vcodec : SupportedVideoCodec) (payId : Nat) : Element :=
  match vcodec with
  | .h264 => ⟨"rtph264pay", memSPrintf .videoPay payId⟩
  | .h265 => ⟨"rtph265pay", memSPrintf .videoPay payId⟩
  | .mpeg => makeMpeg2Pay payId

/-- `make_audio_pay`. -/
def makeAudioPay (acodec : SupportedAudioCodec) (payId : Nat) : Element :=
  match acodec with
  | .aac => ⟨"rtpmp4apay", memSPrintf .audioPay payId⟩
  | .ac3 => ⟨"rtpac3pay", memSPrintf .audioPay payId⟩
  | .mpeg => makeMpeg2Pay payId

/-- A sink, or a `NOTREACHED` before the null pointer. -/
def makeSinkIf (run : Run) (holds : Bool) (plugin : String) (sinkId : Nat) :
    Build (Option Element) :=
  if holds then pure (some ⟨plugin, memSPrintf .sink sinkId⟩)
  else do
    notReached run
    return none

/-- `build_output`. -/
def buildOutput (lib : Library) (run : Run) (output : OutputUri) (sinkId : Nat) :
    Build (Option Element) :=
  match output.output.scheme with
  | .udp => makeSinkIf run (lib.toHostAndPort output.output.host).isSome "udpsink" sinkId
  | .tcp => makeSinkIf run (lib.toHostAndPort output.output.host).isSome "tcpserversink" sinkId
  | .rtmp => pure (some ⟨"rtmpsink", memSPrintf .sink sinkId⟩)
  | .http => makeSinkIf run (!(lib.fileName output.output.path).isEmpty) "hlssink" sinkId
  | _ => do
    notReached run
    return none

end IptvCloud.Streams.Builders
