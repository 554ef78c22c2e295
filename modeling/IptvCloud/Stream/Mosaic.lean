import IptvCloud.Lib.Tiling
import IptvCloud.Stream.Pads

/-!
# Mosaics (`stream/streams/mosaic_stream.cpp`, `builders/mosaic_stream_builder.cpp`)

The pipeline that `MosaicStreamBuilder` makes of several inputs, each in a cell of a grid, and what
a mosaic does with the pads of its decodebins, with the sound levels and with the picture. A double
is given by its bits; the colours of the bars are left out.
-/

namespace IptvCloud.Streams.Mosaic

open M3u8 Builders Pads Tiling

/-! ## Names -/

/-- The templates of names that only a mosaic and the sinks of devices use. -/
inductive Template
  | videoMixer
  | interlive
  | cairo
  | muxVideoScale
  | muxVideoScaleCapsFilter
  | videoBox
  | audioLevel
  | videoSink
  | audioSink
  deriving DecidableEq, Repr

/-- The text of a template up to its `%lu`. -/
def Template.text : Template → String
  | .videoMixer => "videomixer_"
  | .interlive => "interlive_"
  | .cairo => "cairo_"
  | .muxVideoScale => "mux_videoscale_"
  | .muxVideoScaleCapsFilter => "mux_videoscale_capsfilter_"
  | .videoBox => "videobox_"
  | .audioLevel => "level_"
  | .videoSink => "video_sink_"
  | .audioSink => "audio_sink_"

/-- `common::MemSPrintf` of a template. -/
def Template.name (template : Template) (id : Nat) : String :=
  template.text ++ String.ofList (Nat.toDigits 10 id)

/-! ## Options -/

structure AudioChannelInfo where
  rmsDB : UInt64 := 0
  peakDB : UInt64 := 0
  decayDB : UInt64 := 0
  deriving DecidableEq, Repr

structure ImageInfo where
  xy : Int × Int := (0, 0)
  size : Int × Int := (0, 0)
  deriving DecidableEq, Repr

/-- `StreamInfo` with the channels of its `SoundInfo`. -/
structure StreamInfo where
  img : ImageInfo := {}
  channels : List AudioChannelInfo := []
  deriving DecidableEq, Repr

structure MosaicImageOptions where
  screenSize : Int × Int := (0, 0)
  rightPadding : Int := 0
  sreams : List StreamInfo := []
  deriving DecidableEq, Repr

/-- `MosaicImageOptions::isValid`. -/
def MosaicImageOptions.isValid (options : MosaicImageOptions) : Bool :=
  options.screenSize.1 ≠ 0 && options.screenSize.2 ≠ 0

/-! ## The inputs -/

section
variable (lib : Library) (run : Run) (config : EncodingConfig)

/-- `build_mux_video_scale`. -/
def buildMuxVideoScale (linkTo : Option Element) (videoScaleId : Nat) : Build (Option Element) :=
  appendFiltered run linkTo ⟨"videoscale", Template.muxVideoScale.name videoScaleId⟩
    ⟨"capsfilter", Template.muxVideoScaleCapsFilter.name videoScaleId⟩

/-- The video of an input, up to the mixer. -/
def buildTileVideo (vmix : Element) (i : Nat) : Build Unit := do
  let videoQueue : Element := ⟨"queue", memSPrintf .udbVideo i⟩
  elementAdd videoQueue
  let scale ← buildMuxVideoScale run videoQueue i
  let videoBox ← appendElement run scale ⟨"videobox", Template.videoBox.name i⟩
  elementLink run videoBox vmix

/-- The audio of an input, up to the mixer. -/
def buildTileAudio (amix : Element) (i : Nat) : Build Unit := do
  let audioQueue : Element := ⟨"queue", memSPrintf .udbAudio i⟩
  elementAdd audioQueue
  let spec ← appendElement run audioQueue ⟨"level", Template.audioLevel.name i⟩
  elementLink run spec amix

/-- The image of a cell; without a video it is `ImageInfo()`. -/
def imageOf (screenSize : Int × Int) (grid cell : Nat × Nat) : ImageInfo :=
  if config.haveVideo then
    let imageSize := (screenSize.1 / grid.2, screenSize.2 / grid.1)
    ⟨(cell.2 * imageSize.1, cell.1 * imageSize.2), imageSize⟩
  else {}

/-- The input with the number `i`, in a cell of the grid. -/
def buildTile (vmix amix : Element) (grid cell : Nat × Nat) (uri : InputUri) (i : Nat)
    (options : MosaicImageOptions) : Build MosaicImageOptions := do
  let src ← Builders.makeSrc lib run uri i
  let _ ← deref src
  elementAdd src
  let decodebin : Element := ⟨"decodebin", memSPrintf .decodebin i⟩
  elementAdd decodebin
  elementLink run src decodebin
  doIf config.haveVideo (buildTileVideo run vmix i)
  doIf config.haveAudio (buildTileAudio run amix i)
  return { options with
    sreams := options.sreams ++ [⟨imageOf config options.screenSize grid cell, []⟩] }

/-- The cells of a grid, row by row. -/
def cells (grid : Nat × Nat) : List (Nat × Nat) :=
  (List.range grid.1).flatMap fun r => (List.range grid.2).map fun c => (r, c)

/-- The loops over the rows and the columns; a grid has a cell for each input. -/
def buildTiles (vmix amix : Element) (grid : Nat × Nat) (options : MosaicImageOptions) :
    Build MosaicImageOptions :=
  ((cells grid).zip config.input).zipIdx.foldlM
    (fun options tile => buildTile lib run config vmix amix grid tile.1.1 tile.1.2 tile.2 options)
    options

/-! ## The ends -/

/-- The video after the mixer. -/
def buildMixedVideo (vmix : Option Element) : Build (Option Element) := do
  let video ← appendElement run vmix ⟨"cairooverlay", Template.cairo.name 0⟩
  let video ← appendLine run video (buildVideoConvert run config.deinterlace 0)
  appendElement run video ⟨"tee", memSPrintf .videoTee 0⟩

/-- The audio after the mixer. -/
def buildMixedAudio (amix : Option Element) : Build (Option Element) := do
  let audio ← appendLine run amix (buildAudioPostProc run config 0)
  appendElement run audio ⟨"tee", memSPrintf .audioTee 0⟩

/-! ## The outputs -/

inductive SinkDeviceType
  | screen
  | decklink
  deriving DecidableEq, Repr

/-- `IsDeviceOutUrl` with the type of the device. -/
def sinkDeviceType (url : Url) : Option SinkDeviceType :=
  if url == lib.parseUrl "screen" then some .screen
  else if url == lib.parseUrl "decklink" then some .decklink
  else none

/-- `make_video_device_sink`. -/
def makeVideoDeviceSink (dt : SinkDeviceType) (sinkId : Nat) : Element :=
  match dt with
  | .screen => ⟨"autovideosink", Template.videoSink.name sinkId⟩
  | .decklink => ⟨"decklinkvideosink", Template.videoSink.name sinkId⟩

/-- `make_audio_device_sink`. -/
def makeAudioDeviceSink (dt : SinkDeviceType) (sinkId : Nat) : Element :=
  match dt with
  | .screen => ⟨"autoaudiosink", Template.audioSink.name sinkId⟩
  | .decklink => ⟨"decklinkaudiosink", Template.audioSink.name sinkId⟩

/-- A queue and the sink of a device. -/
def buildDevice (last : Option Element) (queue sink : Element) : Build Unit := do
  let next ← appendElement run last queue
  let _ ← appendElement run next sink
  return ()

/-- The pay of the video towards rtp. -/
def appendVideoPay (last : Option Element) (i : Nat) : Build (Option Element) :=
  if isH264Encoder config.videoEncoder then appendElement run last (makeVideoPay .h264 i)
  else if config.videoEncoder = "x265enc" then appendElement run last (makeVideoPay .h265 i)
  else if config.videoEncoder = "mpeg2enc" then appendElement run last (makeVideoPay .mpeg i)
  else do
    Builders.notReached run
    elementAdd none
    return none

/-- The encoder of the video of an output, with what stands before and behind it. -/
def linkVideo (video mux : Option Element) (isRtpOut : Bool) (i : Nat) : Build Unit := do
  let next ← appendElement run video ⟨"queue", memSPrintf .videoTeeQueue i⟩
  let last ← stepIf config.aspectRatio.isSome next
    (appendElement run next ⟨"aspectratiocrop", memSPrintf .aspectRatio i⟩)
  let last ← stepIf (config.frameRate.isSome && !isMfxGpu config) last
    (buildVideoFramerate run last i)
  let next ← appendLine run last (buildVideoEncoder run config i)
  let next ← stepIf isRtpOut next (appendVideoPay run config next i)
  let next ← stepIf (isH264Encoder config.videoEncoder) next
    (appendElement run next ⟨"h264parse", memSPrintf .videoParser i⟩)
  elementLink run next mux

/-- The elements around the encoder of mp3. -/
def appendMp3 (last audioEncoder : Option Element) (i : Nat) : Build (Option Element) := do
  let audioresample : Element := ⟨"audioresample", memSPrintf .audioResample i⟩
  let mpegaudioparse : Element := ⟨"mpegaudioparse", memSPrintf .mpegAudioParse i⟩
  elementAdd audioresample
  elementAdd mpegaudioparse
  elementLink run last audioresample
  elementLink run audioresample audioEncoder
  elementLink run audioEncoder mpegaudioparse
  return some mpegaudioparse

/-- The encoder of the audio of an output. -/
def appendAudioEncoder (last : Option Element) (i : Nat) : Build (Option Element) := do
  let audioEncoder ← makeAudioEncoder run config.audioEncoder (memSPrintf .audioCodec i)
  elementAdd audioEncoder
  if config.audioEncoder = "lamemp3enc" then appendMp3 run last audioEncoder i
  else do
    elementLink run last audioEncoder
    return audioEncoder

/-- The audio of an output. -/
def linkAudio (audio mux : Option Element) (isRtpOut : Bool) (i : Nat) : Build Unit := do
  let next ← appendElement run audio ⟨"queue", memSPrintf .audioTeeQueue i⟩
  let next ← appendAudioEncoder run config next i
  let next ← stepIf isRtpOut next (appendElement run next (makeAudioPay .aac i))
  elementLink run next mux

/-- The round of an output in `BuildOutput`. -/
def buildOneOutput (video audio : Option Element) (output : OutputUri) (i : Nat) : Build Unit :=
  match sinkDeviceType lib output.output with
  | some dt => do
    doIf config.haveVideo
      (buildDevice run video ⟨"queue", memSPrintf .videoTeeQueue i⟩ (makeVideoDeviceSink dt i))
    doIf config.haveAudio
      (buildDevice run audio ⟨"queue", memSPrintf .audioTeeQueue i⟩ (makeAudioDeviceSink dt i))
  | none => do
    let isRtpOut : Bool := output.output.scheme = .udp
    let mux ← makeMuxer run output.output.scheme i
    elementAdd mux
    doIf config.haveVideo (linkVideo run config video mux isRtpOut i)
    doIf config.haveAudio (linkAudio run config audio mux isRtpOut i)
    let sink ← buildGenericOutput lib run output i
    elementAdd sink
    elementLink run mux sink

/-- `MosaicStreamBuilder::BuildOutput`. -/
def buildOutput (video audio : Option Element) : Build Unit :=
  config.output.zipIdx.foldlM
    (fun _ output => buildOneOutput lib run config video audio output.1 output.2) ()

/-- `MosaicStreamBuilder::InitPipeline`: `none` when it returns false, and else `options_` of the
stream, which it is told of with the element that draws. -/
def initPipeline : Build (Option MosaicImageOptions) :=
  match mosaicGrid config.input.length with
  | none => return none
  | some grid => do
    let vmix : Element := ⟨"videomixer", Template.videoMixer.name 0⟩
    elementAdd vmix
    let amix : Element := ⟨"audiomixer", Template.interlive.name 0⟩
    elementAdd amix
    let options ← buildTiles lib run config vmix amix grid
      { screenSize := (1280, 720), rightPadding := 100 }
    let video ← stepIf config.haveVideo vmix (buildMixedVideo run config vmix)
    let audio ← stepIf config.haveAudio amix (buildMixedAudio run config amix)
    buildOutput lib run config video audio
    return some (if config.haveVideo then options else {})

end

/-! ## Pads -/

/-- `MosaicStream`: `options_`, `flags_`, and what GStreamer holds, the elements whose sink pads are
linked, with the elements and the pads that they are linked to. The alarms are noted. -/
structure MosaicStream where
  options : MosaicImageOptions
  flags : BitVec 32 := initedNothing
  peers : List (Element × String × Pad) := []
  alarms : List Alarm := []

/-- What happens to a mosaic: an element adds a pad, whose caps may have channels, and which
`gst_pad_link` would link or not; an element removes a pad, which unlinks it; an element tells the
levels of its channels. -/
inductive Event
  | padAdded (src : String) (newPad : Pad) (channels : Option Int) (links : Bool)
  | padRemoved (src : String) (pad : Pad)
  | level (src : String) (rms peak decay : List UInt64)
  deriving DecidableEq, Repr

/-- `IBaseStream::GetElementByName`. -/
def MosaicStream.getElementByName (elements : List Element) (name : String) (s : MosaicStream) :
    Option Element × MosaicStream :=
  match elements.find? fun el => el.name = name with
  | some el => (some el, s)
  | none => (none, { s with alarms := s.alarms ++ [.notFounded name] })

/-- The channels of a new pad are added to those of its input. -/
def MosaicStream.addChannels (elemId : Nat) (channels : Option Int) (s : MosaicStream) :
    MosaicStream :=
  match channels with
  | none => s
  | some channels => { s with options := { s.options with
      sreams := s.options.sreams.modify elemId fun stream =>
        { stream with channels := stream.channels ++ List.replicate channels.toNat {} } } }

/-- `gst_pad_is_linked` of the sink pad of an element. -/
def MosaicStream.isLinked (s : MosaicStream) (dest : Element) : Bool :=
  s.peers.any fun peer => peer.1 = dest

section
variable (cv : Convert) (config : AudioVideoConfig) (elements : List Element)
  (isValid : Element → Bool)

/-- The element that a pad is to be linked to. -/
def findDest (type : Text) (elemId : Nat) (channels : Option Int) (s : MosaicStream) :
    Option Element × MosaicStream :=
  if startsWith type "video" then
    if config.haveVideo && !isInited s.flags initedVideo then
      s.getElementByName elements (memSPrintf .udbVideo elemId)
    else (none, s)
  else if startsWith type "audio" then
    if config.haveAudio && !isInited s.flags initedAudio then
      let (dest, s) := s.getElementByName elements (memSPrintf .udbAudio elemId)
      (dest, s.addChannels elemId channels)
    else (none, s)
  else (none, s)

/-- `MosaicStream::HandleDecodeBinPadAdded`; `isValid` says whether an element has a static sink
pad. The calls that would note what is inited are commented out. -/
def handleDecodeBinPadAdded (s : MosaicStream) (src : String) (newPad : Pad)
    (channels : Option Int) (links : Bool) : MosaicStream :=
  match newPad.type with
  | none => { s with alarms := s.alarms ++ [.noType] }
  | some type =>
    match getElementId cv src.toList (some 0) with
    | (true, some elemId) =>
      match findDest config elements type elemId channels s with
      | (none, s) => s
      | (some dest, s) =>
        if !isValid dest then s
        else if !s.isLinked dest && links then
          { s with peers := s.peers ++ [(dest, src, newPad)] }
        else s
    | _ => s

/-- The loop over the levels of an input; `none` is an index out of range. -/
def setLevels (channels : List AudioChannelInfo) (rms peak decay : List UInt64) :
    Option (List AudioChannelInfo) :=
  (List.range rms.length).foldlM (fun channels i =>
    if i < channels.length then
      some (channels.set i ⟨rms.getD i 0, peak.getD i 0, decay.getD i 0⟩)
    else none) channels

/-- The `level` messages of `MosaicStream::HandleAsyncBusMessageReceived`; `none` is an index out of
range. A value that an array does not have is read as zero. -/
def handleLevel (s : MosaicStream) (src : String) (rms peak decay : List UInt64) :
    Option MosaicStream :=
  match getElementId cv src.toList (some 0) with
  | (true, some elemId) =>
    match s.options.sreams[elemId]? with
    | none => some s
    | some stream => (setLevels stream.channels rms peak decay).map fun channels =>
        { s with options := { s.options with
          sreams := s.options.sreams.set elemId { stream with channels } } }
  | _ => some s

/-- An event; `none` is an index out of range. -/
def step (s : MosaicStream) : Event → Option MosaicStream
  | .padAdded src newPad channels links =>
    some (handleDecodeBinPadAdded cv config elements isValid s src newPad channels links)
  | .padRemoved src pad => some { s with peers := s.peers.filter fun peer => peer.2 ≠ (src, pad) }
  | .level src rms peak decay => handleLevel cv s src rms peak decay

end

/-! ## The picture -/

/-- `COUNT_CHUNKS` and `CHANNELS`. -/
def countChunks : Nat := 10
def channelsCount : Nat := 2

/-- The rectangle of an image. -/
def ImageInfo.rect (img : ImageInfo) : Rect := ⟨img.xy.1, img.xy.2, img.size.1, img.size.2⟩

/-- The bars of an image: for each level the bars of the channels. -/
def barsOf (rightPadding : Int) (img : ImageInfo) : List Rect :=
  let widthChunk := rightPadding.tdiv (2 * channelsCount)
  let x0 := img.xy.1 + img.size.1 - rightPadding
  let y0 := img.xy.2
  let heightChunk := img.size.2.tdiv (countChunks * 2)
  (List.range countChunks).flatMap fun k => (List.range channelsCount).map fun j =>
    ⟨x0 + widthChunk + widthChunk * j + widthChunk.tdiv 2 * j,
      y0 + heightChunk + heightChunk * (2 * k), widthChunk, heightChunk⟩

/-- `MosaicStream::HandleCairoDraw`: the rectangles, image by image. -/
def handleCairoDraw (options : MosaicImageOptions) : List (List Rect) :=
  if options.isValid then
    options.sreams.map fun stream => barsOf options.rightPadding stream.img
  else []

end IptvCloud.Streams.Mosaic
