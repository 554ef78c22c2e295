import IptvCloud.Stream.Elements

/-!
# Builders of pipelines (`stream/streams/builders`)

`GstBaseBuilder::InitPipeline` with its five stages, as `EncodingStreamBuilder`,
`RelayStreamBuilder` and `TimeShiftRecorderStreamBuilder` define them. A stage takes the ends of the
pipeline, one of the video and one of the audio, and returns the new ones (`Connector`).
-/

namespace IptvCloud.Streams.Builders

open Streams

/-- The ends of the pipeline. -/
structure Connector where
  video : Option Element
  audio : Option Element
  deriving DecidableEq, Repr

/-- The first and the last element of a part of the pipeline (`elements_line_t`). -/
abbrev Line := Option Element × Option Element

/-- A builder and its configuration. -/
inductive Builder
  | encoding (config : EncodingConfig)
  | relay (config : RelayConfig)
  | timeShiftRecorder (config : TimeshiftConfig)

def Builder.config : Builder → AudioVideoConfig
  | .encoding config => config.toAudioVideoConfig
  | .relay config => config.toAudioVideoConfig
  | .timeShiftRecorder config => config.toAudioVideoConfig

variable (lib : Library) (run : Run)

/-- A step that is taken under a condition; without it the end stays. -/
def stepIf (holds : Bool) (last : Option Element) (step : Build (Option Element)) :
    Build (Option Element) :=
  if holds then step else pure last

/-- A step without a result that is taken under a condition. -/
def doIf (holds : Bool) (step : Build Unit) : Build Unit := if holds then step else pure ()

/-- An element that is made, added and linked to the end of the pipeline. -/
def appendElement (last : Option Element) (elem : Element) : Build (Option Element) := do
  elementAdd elem
  elementLink run last elem
  return some elem

/-- A line that is linked to the end of the pipeline. -/
def appendLine (last : Option Element) (line : Build Line) : Build (Option Element) := do
  let line ← line
  elementLink run last line.1
  return line.2

/-! ## `SrcDecodeStreamBuilder` -/

/-- `BuildInputSrc`. -/
def buildInputSrc (config : AudioVideoConfig) : Build (Option Element) :=
  match config.input with
  | [] => throw .noInput
  | uri :: _ => do
    let src ← makeSrc lib run uri 0
    let _ ← deref src
    elementAdd src
    return src

/-- `BuildInput`. -/
def buildInput (config : AudioVideoConfig) : Build Connector := do
  let src ← buildInputSrc lib run config
  let decodebin : Element := ⟨"decodebin", memSPrintf .decodebin 0⟩
  elementAdd decodebin
  elementLink run src decodebin
  return ⟨none, none⟩

/-- `BuildVideoUdbConnection`. -/
def Builder.buildVideoUdbConnection : Builder → Build (Option Element)
  | .encoding _ => pure (some ⟨"queue", memSPrintf .udbVideo 0⟩)
  | .relay config => makeVideoParser run config.videoParser (memSPrintf .udbVideo 0)
  | .timeShiftRecorder config => makeVideoParser run config.videoParser (memSPrintf .udbVideo 0)

/-- `BuildAudioUdbConnection`. -/
def Builder.buildAudioUdbConnection : Builder → Build (Option Element)
  | .encoding _ => pure (some ⟨"queue", memSPrintf .udbAudio 0⟩)
  | .relay config => makeAudioParser run config.audioParser (memSPrintf .udbAudio 0)
  | .timeShiftRecorder config => makeAudioParser run config.audioParser (memSPrintf .udbAudio 0)

/-- `CHECK`. -/
def check (holds : Bool) (text : String) : Build Unit :=
  if holds then pure () else throw (.checkFailed text)

/-- A connection that is made, checked and added. -/
def addUdbConnection (make : Build (Option Element)) (text : String) : Build (Option Element) := do
  let udb ← make
  check udb.isSome text
  elementAdd udb
  return udb

/-- `BuildUdbConnections`. -/
def Builder.buildUdbConnections (builder : Builder) (conn : Connector) : Build Connector := do
  check conn.video.isNone "Must be video empty channel."
  check conn.audio.isNone "Must be audio empty channel."
  let video ← stepIf builder.config.haveVideo conn.video
    (addUdbConnection (builder.buildVideoUdbConnection run) "vudb")
  let audio ← stepIf builder.config.haveAudio conn.audio
    (addUdbConnection (builder.buildAudioUdbConnection run) "audb")
  return ⟨video, audio⟩

/-- `GetVideoCodecType`. -/
def Builder.getVideoCodecType : Builder → Build SupportedVideoCodec
  | .encoding config =>
    if isH264Encoder config.videoEncoder then return .h264
    else if config.videoEncoder = "x265enc" then return .h265
    else if config.videoEncoder = "mpeg2enc" then return .mpeg
    else do
      notReached run
      return .h264
  | .relay config => ofParser config.videoParser
  | .timeShiftRecorder config => ofParser config.videoParser
where
  ofParser (vparser : String) : Build SupportedVideoCodec :=
    if vparser = "h264parse" then return .h264
    else if vparser = "h265parse" then return .h265
    else if vparser = "tsparse" then return .mpeg
    else do
      notReached run
      return .h264

/-- `GetAudioCodecType`. -/
def Builder.getAudioCodecType : Builder → Build SupportedAudioCodec
  | .encoding config =>
    if isAACEncoder config.audioEncoder then return .aac
    else if config.audioEncoder = "lamemp3enc" then return .mpeg
    else do
      notReached run
      return .mpeg
  | .relay config => ofParser config.audioParser
  | .timeShiftRecorder config => ofParser config.audioParser
where
  ofParser (aparser : String) : Build SupportedAudioCodec :=
    if aparser = "aacparse" then return .aac
    else if aparser = "mpegaudioparse" then return .mpeg
    else if aparser = "ac3parse" then return .ac3
    else do
      notReached run
      return .mpeg

/-- The video of an output: a queue and, towards rtp, a pay. -/
def Builder.linkVideo (builder : Builder) (conn : Connector) (mux : Option Element)
    (isRtpOut : Bool)
    (i : Nat) : Build Unit := do
  let next ← appendElement run conn.video ⟨"queue", memSPrintf .videoTeeQueue i⟩
  let next ← stepIf isRtpOut next do
    let vcodec ← builder.getVideoCodecType run
    appendElement run next (makeVideoPay vcodec i)
  elementLink run next mux

/-- The audio of an output. -/
def Builder.linkAudio (builder : Builder) (conn : Connector) (mux : Option Element)
    (isRtpOut : Bool)
    (i : Nat) : Build Unit := do
  let next ← appendElement run conn.audio ⟨"queue", memSPrintf .audioTeeQueue i⟩
  let next ← stepIf isRtpOut next do
    let acodec ← builder.getAudioCodecType run
    appendElement run next (makeAudioPay acodec i)
  elementLink run next mux

/-- `IsDeviceOutUrl`. -/
def isDeviceOutUrl (url : Url) : Bool :=
  url == lib.parseUrl "screen" || url == lib.parseUrl "decklink"

/-- `BuildGenericOutput`. -/
def buildGenericOutput (output : OutputUri) (sinkId : Nat) : Build (Option Element) := do
  let sink ← buildOutput lib run output sinkId
  let _ ← deref sink
  return sink

/-- The round of an output in `BuildOutput`. -/
def Builder.buildOneOutput (builder : Builder) (conn : Connector) (output : OutputUri) (i : Nat) :
    Build Unit :=
  if isDeviceOutUrl lib output.output then criticalLog run
  else do
    let isRtpOut : Bool := output.output.scheme = .udp
    let mux ← makeMuxer run output.output.scheme i
    elementAdd mux
    doIf builder.config.haveVideo (builder.linkVideo run conn mux isRtpOut i)
    doIf builder.config.haveAudio (builder.linkAudio run conn mux isRtpOut i)
    let sink ← buildGenericOutput lib run output i
    elementAdd sink
    elementLink run mux sink

/-- `BuildOutput`. -/
def Builder.buildOutputs (builder : Builder) (conn : Connector) : Build Connector := do
  builder.config.output.zipIdx.foldlM
    (fun _ output => builder.buildOneOutput lib run conn output.1 output.2) ()
  return conn

/-! ## `RelayStreamBuilder` -/

/-- `RelayStreamBuilder::BuildConverter`. -/
def buildRelayConverter (config : AudioVideoConfig) (conn : Connector) : Build Connector := do
  let video ← stepIf config.haveVideo conn.video
    (appendElement run conn.video ⟨"tee", memSPrintf .videoTee 0⟩)
  let audio ← stepIf config.haveAudio conn.audio
    (appendElement run conn.audio ⟨"tee", memSPrintf .audioTee 0⟩)
  return ⟨video, audio⟩

/-! ## `EncodingStreamBuilder` -/

/-- `EncodingConfig::IsMfxGpu`. -/
def isMfxGpu (config : EncodingConfig) : Bool := config.videoEncoder = "mfxh264enc"

/-- `EncodingConfig::IsGpu`. -/
def isGpu (config : EncodingConfig) : Bool :=
  config.videoEncoder ∈ ["mfxh264enc", "vaapih264enc", "vaapimpeg2enc"]

/-- `build_video_convert`. -/
def buildVideoConvert (deinterlace : Option Bool) (videoConvertId : Nat) : Build Line := do
  let videoConvert : Element := ⟨"videoconvert", memSPrintf .videoConvert videoConvertId⟩
  elementAdd videoConvert
  let last ← stepIf (deinterlace = some true) videoConvert
    (appendElement run videoConvert ⟨"avdeinterlace", memSPrintf .deinterlace videoConvertId⟩)
  return (some videoConvert, last)

/-- An element and its caps filter, `build_video_scale` and `build_video_framerate`. -/
def appendFiltered (last : Option Element) (elem capsfilter : Element) :
    Build (Option Element) := do
  elementAdd elem
  elementAdd capsfilter
  elementLink run last elem
  elementLink run elem capsfilter
  return some capsfilter

/-- `build_video_scale`. -/
def buildVideoScale (linkTo : Option Element) (videoScaleId : Nat) : Build (Option Element) :=
  appendFiltered run linkTo ⟨"videoscale", memSPrintf .videoScale videoScaleId⟩
    ⟨"capsfilter", memSPrintf .videoScaleCapsFilter videoScaleId⟩

/-- `build_video_framerate`. -/
def buildVideoFramerate (linkTo : Option Element) (videoFramerateId : Nat) :
    Build (Option Element) :=
  appendFiltered run linkTo ⟨"videorate", memSPrintf .videoRate videoFramerateId⟩
    ⟨"capsfilter", memSPrintf .videoRateCapsFilter videoFramerateId⟩

/-- The element of a GPU; it is the first one, and there is no last one. -/
def buildGpuPostProc (config : EncodingConfig) (videoId : Nat) : Build Line := do
  let plugin := if isMfxGpu config then "mfxvpp" else "vaapipostproc"
  let post : Element := ⟨plugin, memSPrintf .postProc videoId⟩
  elementAdd post
  return (some post, none)

/-- The elements that convert on a CPU. -/
def buildCpuPostProc (config : EncodingConfig) (videoId : Nat) : Build Line := do
  let firstLast ← buildVideoConvert run config.deinterlace videoId
  let last ← stepIf (lib.isValidSize config.size) firstLast.2
    (buildVideoScale run firstLast.2 videoId)
  let last ← stepIf config.aspectRatio.isSome last
    (appendElement run last ⟨"aspectratiocrop", memSPrintf .aspectRatio videoId⟩)
  let last ← stepIf config.frameRate.isSome last (buildVideoFramerate run last videoId)
  return (firstLast.1, last)

/-- The logo; a path that is no file is a `NOTREACHED`. -/
def appendLogo (logo : Logo) (last : Option Element) (videoId : Nat) : Build (Option Element) := do
  doIf (logo.path.scheme ≠ .file) (notReached run)
  appendElement run last ⟨"gdkpixbufoverlay", memSPrintf .videoLogo videoId⟩

/-- `BuildVideoPostProc`. -/
def buildVideoPostProc (config : EncodingConfig) (videoId : Nat) : Build Line := do
  let firstLast ←
    (if isGpu config then buildGpuPostProc config videoId
      else buildCpuPostProc lib run config videoId)
  let last ← stepIf (lib.isValidUrl config.logo.path) firstLast.2
    (appendLogo run config.logo firstLast.2 videoId)
  return (firstLast.1, last)

/-- `build_audio_converters`, the audio of `BuildPostProc`. -/
def buildAudioPostProc (config : EncodingConfig) (audioId : Nat) : Build Line := do
  let audioConvert : Element := ⟨"audioconvert", memSPrintf .audioConvert audioId⟩
  elementAdd audioConvert
  let last ← stepIf config.audioChannelsCount.isSome audioConvert
    (appendElement run audioConvert ⟨"capsfilter", memSPrintf .audioConvertCapsFilter audioId⟩)
  let last ← stepIf config.volume.isSome last
    (appendElement run last ⟨"volume", memSPrintf .volume audioId⟩)
  return (some audioConvert, last)

/-- `EncodingStreamBuilder::BuildPostProc`. -/
def buildEncodingPostProc (config : EncodingConfig) (conn : Connector) : Build Connector := do
  let video ← stepIf config.haveVideo conn.video
    (appendLine run conn.video (buildVideoPostProc lib run config 0))
  let audio ← stepIf config.haveAudio conn.audio
    (appendLine run conn.audio (buildAudioPostProc run config 0))
  return ⟨video, audio⟩

/-- The part of a key before its first point. -/
def encName (key : String) : String := String.ofList (key.toList.takeWhile (· ≠ '.'))

/-- The round of a key in `setup_encoder_str_params`: two keys of `x264enc` are caps filters, the
others are properties. -/
def setupEncoderStrParam (avc : Element) (encoderId : Nat) (last : Option Element) (key : String) :
    Build (Option Element) :=
  if encName key ≠ avc.pluginName then return last
  else if key = "x264enc.profile" then
    appendElement run last ⟨"capsfilter", memSPrintf .videoX264encCapsFilterProfile encoderId⟩
  else if key = "x264enc.stream-format" then
    appendElement run last ⟨"capsfilter", memSPrintf .videoX264encCapsFilterStreamFormat encoderId⟩
  else return last

/-- `setup_encoder_str_params`; a `std::map` is in the order of its keys. -/
def setupEncoderStrParams (videoStrArgs : ArgsMap) (avc : Element) (encoderId : Nat) :
    Build (Option Element) :=
  (videoStrArgs.keys.mergeSort fun a b => a ≤ b).foldlM (setupEncoderStrParam run avc encoderId) avc

/-- `build_video_encoder`. -/
def buildVideoEncoder (config : EncodingConfig) (encoderId : Nat) : Build Line := do
  let codecElement ← makeVideoEncoder run config.videoEncoder (memSPrintf .videoCodec encoderId)
  elementAdd codecElement
  let avc ← deref codecElement
  let last ← setupEncoderStrParams run config.videoEncoderStrArgs avc encoderId
  return (codecElement, last)

/-- The elements around the encoder of mp3. -/
def buildMp3Line (enc : Option Element) (audioId : Nat) : Build Line := do
  let audioresample : Element := ⟨"audioresample", memSPrintf .audioResample audioId⟩
  let mpegaudioparse : Element := ⟨"mpegaudioparse", memSPrintf .mpegAudioParse audioId⟩
  elementAdd audioresample
  elementAdd mpegaudioparse
  elementLink run audioresample enc
  elementLink run enc mpegaudioparse
  return (some audioresample, some mpegaudioparse)

/-- `BuildAudioConverter`. -/
def buildAudioConverter (config : EncodingConfig) (audioId : Nat) : Build Line := do
  let enc ← makeAudioEncoder run config.audioEncoder (memSPrintf .audioCodec audioId)
  elementAdd enc
  if config.audioEncoder = "lamemp3enc" then buildMp3Line run enc audioId else return (enc, enc)

/-- The encoder of the video, a parser for h264, and the tee. -/
def convertVideo (config : EncodingConfig) (last : Option Element) : Build (Option Element) := do
  let last ← appendLine run last (buildVideoEncoder run config 0)
  let last ← stepIf (isH264Encoder config.videoEncoder) last
    (appendElement run last ⟨"h264parse", memSPrintf .videoParser 0⟩)
  appendElement run last ⟨"tee", memSPrintf .videoTee 0⟩

/-- The encoder of the audio, a parser for aac, and the tee. -/
def convertAudio (config : EncodingConfig) (last : Option Element) : Build (Option Element) := do
  let last ← appendLine run last (buildAudioConverter run config 0)
  let last ← stepIf (isAACEncoder config.audioEncoder) last
    (appendElement run last ⟨"aacparse", memSPrintf .audioParser 0⟩)
  appendElement run last ⟨"tee", memSPrintf .audioTee 0⟩

/-- `EncodingStreamBuilder::BuildConverter`. -/
def buildEncodingConverter (config : EncodingConfig) (conn : Connector) : Build Connector := do
  let video ← stepIf config.haveVideo conn.video (convertVideo run config conn.video)
  let audio ← stepIf config.haveAudio conn.audio (convertAudio run config conn.audio)
  return ⟨video, audio⟩

/-! ## `TimeShiftRecorderStreamBuilder` -/

/-- `link_to_multiplexer`, as far as it uses the element. -/
def linkToMultiplexer (src : Option Element) : Build Unit :=
  match src with
  | some _ => pure ()
  | none => throw .nullLink

/-- `TimeShiftRecorderStreamBuilder::BuildOutput` and `OnSplitmuxsinkCreated`. -/
def buildRecorderOutput (conn : Connector) : Build Connector := do
  elementAdd (some ⟨"splitmuxsink", memSPrintf .splitSink 0⟩)
  linkToMultiplexer conn.audio
  linkToMultiplexer conn.video
  return conn

/-! ## Stages -/

def Builder.buildPostProc (builder : Builder) (conn : Connector) : Build Connector :=
  match builder with
  | .encoding config => buildEncodingPostProc lib run config conn
  | .relay _ | .timeShiftRecorder _ => return conn

def Builder.buildConverter (builder : Builder) (conn : Connector) : Build Connector :=
  match builder with
  | .encoding config => buildEncodingConverter run config conn
  | .relay config => buildRelayConverter run config.toAudioVideoConfig conn
  | .timeShiftRecorder _ => return conn

def Builder.buildOutput (builder : Builder) (conn : Connector) : Build Connector :=
  match builder with
  | .timeShiftRecorder _ => buildRecorderOutput conn
  | builder => builder.buildOutputs lib run conn

/-- `GstBaseBuilder::InitPipeline`. -/
def Builder.initPipeline (builder : Builder) : Build Bool := do
  let conn ← buildInput lib run builder.config
  let conn ← builder.buildUdbConnections run conn
  let conn ← builder.buildPostProc lib run conn
  let conn ← builder.buildConverter run conn
  let _ ← builder.buildOutput lib run conn
  return true

/-- The stages after `BuildInput`. -/
inductive Stage
  | udbConnections
  | postProc
  | converter
  | output
  deriving DecidableEq, Repr

/-- `InitPipeline` up to a stage, with the connector that the stage returns. -/
def Builder.buildUpTo (builder : Builder) (stage : Stage) : Build Connector :=
  let udbConnections := buildInput lib run builder.config >>= builder.buildUdbConnections run
  let postProc := udbConnections >>= builder.buildPostProc lib run
  let converter := postProc >>= builder.buildConverter run
  match stage with
  | .udbConnections => udbConnections
  | .postProc => postProc
  | .converter => converter
  | .output => converter >>= builder.buildOutput lib run

end IptvCloud.Streams.Builders
