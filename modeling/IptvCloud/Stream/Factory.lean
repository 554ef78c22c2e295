import IptvCloud.Lib.Checked
import IptvCloud.Stream.Controller
import IptvCloud.Stream.Configs
import IptvCloud.Utils.Cleanup

/-!
# Streams of a configuration (`stream/streams_factory.cpp`)

`StreamsFactory::CreateStream` and what `StreamController::Exec` does before it, with every
`static_cast` of the configuration: a cast to a class that the object is not of stops the model, as
a `NOTREACHED` and a `CHECK` do. Then the part of `IBaseStream::Exec` that indexes the inputs and
the probes of the inputs: the sources of the pipeline, `PreLoop` and the messages of the bus. The
other elements of a pipeline come from GStreamer: they are assembled, or a `CHECK` of theirs fails.
-/

namespace IptvCloud.Streams

open Checked

/-! ## Casts -/

inductive ConfigClass
  | relay
  | vodRelay
  | timeshift
  | encoding
  | vodEncode
  deriving DecidableEq, Repr

/-- The places that index the inputs or the probes. -/
inductive Site
  | createStream
  | buildInputSrc
  | buildDeviceInput
  | buildMosaic
  | preLoop
  | durationChanged
  deriving DecidableEq, Repr

/-- What stops the process; after a cast to a class that the object is not of it goes on with
values that are not its own. -/
inductive Cause
  | badCast (target : ConfigClass)
  | notReached
  | checkFailed
  deriving DecidableEq, Repr

abbrev Outcome (α : Type) := Except (Fault Site Cause) α

def badCast {α : Type} (target : ConfigClass) : Outcome α := .error (.stopped (.badCast target))

def notReached {α : Type} : Outcome α := .error (.stopped .notReached)

/-- `static_cast<const RelayConfig*>`. -/
def ConfigObject.asRelay : ConfigObject → Outcome RelayConfig
  | .relay config => .ok config
  | .vodRelay config => .ok config.toRelayConfig
  | .timeshift config => .ok config.toRelayConfig
  | _ => badCast .relay

/-- `static_cast<const VodRelayConfig*>`. -/
def ConfigObject.asVodRelay : ConfigObject → Outcome VodRelayConfig
  | .vodRelay config => .ok config
  | _ => badCast .vodRelay

/-- `static_cast<const TimeshiftConfig*>`. -/
def ConfigObject.asTimeshift : ConfigObject → Outcome TimeshiftConfig
  | .timeshift config => .ok config
  | _ => badCast .timeshift

/-- `static_cast<const EncodingConfig*>`. -/
def ConfigObject.asEncoding : ConfigObject → Outcome EncodingConfig
  | .encoding config => .ok config
  | .vodEncode config => .ok config.toEncodingConfig
  | _ => badCast .encoding

/-- `static_cast<const VodEncodeConfig*>`. -/
def ConfigObject.asVodEncode : ConfigObject → Outcome VodEncodeConfig
  | .vodEncode config => .ok config
  | _ => badCast .vodEncode

/-! ## `CreateStream` -/

/-- A stream and the configuration it is constructed with. -/
inductive BaseStream
  | playlistRelay (config : RelayConfig)
  | relay (config : RelayConfig)
  | playlistEncoding (config : EncodingConfig)
  | mosaic (config : EncodingConfig)
  | testInput (config : EncodingConfig)
  | device (config : EncodingConfig)
  | encodingOnlyAudio (config : EncodingConfig)
  | encodingOnlyVideo (config : EncodingConfig)
  | encoding (config : EncodingConfig)
  | timeShiftPlayer (config : RelayConfig) (startChunkIndex : Nat)
  | timeShiftRecorder (config : TimeshiftConfig)
  | catchup (config : TimeshiftConfig)
  | testLife (config : RelayConfig)
  | vodRelay (config : VodRelayConfig)
  | vodEncode (config : VodEncodeConfig)

/-- Every input is a file. -/
def isPlaylist (input : List InputUri) : Bool := input.all fun uri => uri.input.scheme = .file

/-- The stream of an `ENCODE` configuration with a single input. -/
def createEncodingStream (cm : Common) (econfig : EncodingConfig) (uri : InputUri) : BaseStream :=
  if isTestInputUrl cm uri then .testInput econfig
  else if uri.input.scheme = .dev then .device econfig
  else if econfig.relayVideo then .encodingOnlyAudio econfig
  else if econfig.relayAudio then .encodingOnlyVideo econfig
  else .encoding econfig

/-- `StreamsFactory::CreateStream`. -/
def createStream (cm : Common) (object : ConfigObject) (startChunkIndex : Nat) :
    Outcome BaseStream :=
  let input := object.base.input
  match object.base.type with
  | .relay => do
    let rconfig ← object.asRelay
    if input.length > 1 then
      if isPlaylist input then
        let prconfig ← object.asRelay
        return .playlistRelay prconfig
      else notReached
    else return .relay rconfig
  | .encode => do
    let econfig ← object.asEncoding
    if input.length > 1 then
      if isPlaylist input then return .playlistEncoding econfig else return .mosaic econfig
    else do
      let uri ← elemAt .createStream input 0
      return createEncodingStream cm econfig uri
  | .timeshiftPlayer => do
    let tconfig ← object.asRelay
    return .timeShiftPlayer tconfig startChunkIndex
  | .timeshiftRecorder => do
    let tconfig ← object.asTimeshift
    return .timeShiftRecorder tconfig
  | .catchup => do
    let tconfig ← object.asTimeshift
    return .catchup tconfig
  | .testLife => do
    let rconfig ← object.asRelay
    return .testLife rconfig
  | .vodRelay => do
    let vconfig ← object.asVodRelay
    if vconfig.isVod then return .vodRelay vconfig else notReached
  | .vodEncode => do
    let vconfig ← object.asVodEncode
    if vconfig.isVod then return .vodEncode vconfig else notReached
  | .proxy | .screen | .other _ => notReached

/-- `PostExecCleanup`, which the VOD streams override. -/
def BaseStream.postExecCleanup (fs : Cleanup.FileSystem) : BaseStream → Cleanup.FileSystem
  | .vodRelay vconfig => Cleanup.postExecCleanup fs vconfig.cleanupTs vconfig.output
  | .vodEncode vconfig => Cleanup.postExecCleanup fs vconfig.cleanupTs vconfig.output
  | _ => fs

/-- A turn of the loop of `StreamController::Exec` up to the stream it creates; `search` is the
index that the calls of `FindChunkToPlay` with a duration end with. Without one there is no
stream in this turn. -/
def execTurn (cm : Common) (search : Int64 → Nat) (object : ConfigObject) :
    Outcome (Option BaseStream) := do
  if object.base.type = .timeshiftPlayer then
    let tconfig ← object.asTimeshift
    let startChunkIndex := search tconfig.timeshiftChunkDuration
    if startChunkIndex = invalidChunkIndex then return none
    else do
      let origin ← createStream cm object startChunkIndex
      return some origin
  else do
    let origin ← createStream cm object invalidChunkIndex
    return some origin

/-! ## Sources -/

/-- The source elements (`stream/elements/sources`) with what they are made for. -/
inductive Source
  | file (location : String)
  | soupHttp (location : Url) (agent : Option String) (timeoutSecs : Nat)
  | udp (host : String × UInt16)
  | rtmp (location : Url) (timeoutSecs : Nat)
  | tcpServer (host : String × UInt16)
  | app
  | videoTest
  | audioTest
  | v4l2 (device : String)
  | alsa (device : String)
  deriving DecidableEq, Repr

/-- `src_timeout_sec`. -/
def srcTimeoutSec : Nat := 120

/-- The user agent of an input; any other integer is `GSTREAMER`. -/
def userAgent (uri : InputUri) : Option String :=
  if uri.userAgent = 1 then some "VLC/3.0.1 LibVLC/3.0.1"
  else if uri.userAgent = 2 then some "Lavf/58.27.103"
  else none

/-- `make_src`. -/
def makeSrc (cm : Common) (uri : InputUri) : Outcome Source :=
  match uri.input.scheme with
  | .file => .ok (.file uri.input.path)
  | .http | .https => .ok (.soupHttp uri.input (userAgent uri) srcTimeoutSec)
  | .udp =>
    match cm.toHostAndPort uri.input.host with
    | some host => .ok (.udp host)
    | none => notReached
  | .rtmp => .ok (.rtmp uri.input srcTimeoutSec)
  | .tcp =>
    match cm.toHostAndPort uri.input.host with
    | some host => .ok (.tcpServer host)
    | none => notReached
  | .unknown | .dev | .other _ => notReached

/-- The ids of the probes in `probe_in_`. -/
abbrev Probes := List Nat

/-- `HandleInputSrcPadCreated` for the static pad `src` of a source, when it has one:
`LinkInputPad` of the stream. -/
def linkInputPad (hasSrcPad : Source → Bool) (probeIn : Probes) (src : Source) (id : Nat) :
    Probes :=
  if hasSrcPad src then probeIn ++ [id] else probeIn

/-- The ends of the pipeline that are there (`Connector`). -/
structure Connector where
  video : Bool
  audio : Bool
  deriving DecidableEq, Repr

/-- `BuildInput` of a test stream or of a device: a source for each kind of data. -/
def buildSources (hasSrcPad : Source → Bool) (config : EncodingConfig) (video audio : Source)
    (audioId : Nat) : Probes × Connector :=
  let probeIn := if config.haveVideo then linkInputPad hasSrcPad [] video 0 else []
  let probeIn := if config.haveAudio then linkInputPad hasSrcPad probeIn audio audioId else probeIn
  (probeIn, ⟨config.haveVideo, config.haveAudio⟩)

/-- `SrcDecodeStreamBuilder::BuildInputSrc`. -/
def buildInputSrc (cm : Common) (hasSrcPad : Source → Bool) (prepared : List InputUri) :
    Outcome Probes := do
  let uri ← elemAt .buildInputSrc prepared 0
  let src ← makeSrc cm uri
  return linkInputPad hasSrcPad [] src 0

/-- The rows and columns of a mosaic. -/
def mosaicGrid (size : Nat) : Option (Nat × Nat) :=
  if size = 1 then some (1, 1)
  else if size = 2 then some (2, 1)
  else if size = 4 then some (2, 2)
  else if size = 9 then some (3, 3)
  else if size = 16 then some (4, 4)
  else none

/-- The sources of `MosaicStreamBuilder::InitPipeline`, cell by cell; the test that leaves a row
at `i == sz` succeeds at the last cell only. -/
def buildMosaic (cm : Common) (hasSrcPad : Source → Bool) (prepared : List InputUri)
    (cells : Nat) : Outcome Probes :=
  (List.range cells).foldlM (fun probeIn i => do
    let uri ← elemAt .buildMosaic prepared i
    let src ← makeSrc cm uri
    return linkInputPad hasSrcPad probeIn src i) []

/-- `BuildUdbConnections`: only the builder of a test stream takes ends that are there. -/
def buildUdbConnections (conn : Connector) : Outcome Unit :=
  if conn.video || conn.audio then .error (.stopped .checkFailed) else .ok ()

/-! ## `IBaseStream::Exec` -/

def BaseStream.config : BaseStream → AudioVideoConfig
  | .playlistRelay config | .relay config | .timeShiftPlayer config _ | .testLife config =>
    config.toAudioVideoConfig
  | .playlistEncoding config | .mosaic config | .testInput config | .device config
  | .encodingOnlyAudio config | .encodingOnlyVideo config | .encoding config =>
    config.toAudioVideoConfig
  | .timeShiftRecorder config | .catchup config => config.toAudioVideoConfig
  | .vodRelay config => config.toAudioVideoConfig
  | .vodEncode config => config.toAudioVideoConfig

/-- The inputs of `InitPipeLine` of the builder of the stream; `none` is its `false`. -/
def BaseStream.initPipeLine (cm : Common) (hasSrcPad : Source → Bool) (stream : BaseStream) :
    Outcome (Option Probes) :=
  match stream with
  | .playlistRelay _ | .playlistEncoding _ => return some (linkInputPad hasSrcPad [] .app 0)
  -- `multifilesrc` is added without a probe
  | .timeShiftPlayer _ _ => return some []
  | .testInput config => return some (buildSources hasSrcPad config .videoTest .audioTest 0).1
  | .device config => do
    let uri ← elemAt .buildDeviceInput config.input 0
    let built :=
      buildSources hasSrcPad config (.v4l2 uri.input.path) (.alsa uri.input.query) 1
    buildUdbConnections built.2
    return some built.1
  | .mosaic config =>
    match mosaicGrid config.input.length with
    | some (rows, columns) => do
      let probeIn ← buildMosaic cm hasSrcPad config.input (rows * columns)
      return some probeIn
    | none => return none
  | .relay config | .testLife config => some <$> buildInputSrc cm hasSrcPad config.input
  | .encodingOnlyAudio config | .encodingOnlyVideo config | .encoding config =>
    some <$> buildInputSrc cm hasSrcPad config.input
  | .timeShiftRecorder config | .catchup config =>
    some <$> buildInputSrc cm hasSrcPad config.input
  | .vodRelay config => some <$> buildInputSrc cm hasSrcPad config.input
  | .vodEncode config => some <$> buildInputSrc cm hasSrcPad config.input

/-- `PreLoop`: the input that the client is told of; a playlist tells of none here. -/
def BaseStream.preLoop (stream : BaseStream) : Outcome (Option InputUri) :=
  match stream with
  | .playlistRelay _ | .playlistEncoding _ => .ok none
  | stream => some <$> elemAt .preLoop stream.config.input 0

inductive GstState
  | null
  | ready
  | paused
  | playing
  deriving DecidableEq, Repr

/-- A message of the bus, as far as `HandleAsyncBusMessageReceived` tells them apart. -/
inductive BusMessage
  | buffering
  | clockLost
  /-- With the duration of the segment of its source. -/
  | durationChanged (duration : UInt64)
  | stateChanged (ofPipeline : Bool) (newState : GstState)
  | eos
  | other
  deriving DecidableEq, Repr

/-- What the messages change: `totalBytes` are those of `stats_->input`. -/
structure Session where
  probeIn : Probes
  status : Stream.StreamStatus
  totalBytes : List UInt64
  deriving DecidableEq, Repr

/-- `UpdateStats` for a probe of an input. -/
def updateStats (totalBytes : List UInt64) (id : Nat) (size : UInt64) : List UInt64 :=
  totalBytes.modify id (· + size)

/-- The loop of the `GST_MESSAGE_DURATION_CHANGED` branch, from input `i` on. -/
def updateDurations (probeIn : Probes) (duration : UInt64) :
    List InputUri → Nat → List UInt64 → Outcome (List UInt64)
  | [], _, totalBytes => .ok totalBytes
  | uri :: input, i, totalBytes =>
    if uri.input.scheme = .http then do
      let id ← elemAt .durationChanged probeIn i
      updateDurations probeIn duration input (i + 1) (updateStats totalBytes id duration)
    else updateDurations probeIn duration input (i + 1) totalBytes

/-- `IBaseStream::HandleAsyncBusMessageReceived`. -/
def handleAsyncBusMessageReceived (config : AudioVideoConfig) (s : Session) (message : BusMessage) :
    Outcome Session :=
  match message with
  | .durationChanged duration => do
    let totalBytes ← updateDurations s.probeIn duration config.input 0 s.totalBytes
    return { s with totalBytes }
  | .stateChanged true .null => .ok { s with status := .init }
  | .stateChanged true .ready => .ok { s with status := .ready }
  | .stateChanged true .playing => .ok { s with status := .playing }
  | .stateChanged _ _ | .buffering | .clockLost | .eos | .other => .ok s

/-- `IBaseStream::Exec` while the messages of a session arrive; `assembled` says whether the other
elements of the pipeline are. Without a pipeline there is no session. -/
def BaseStream.exec (cm : Common) (hasSrcPad : Source → Bool) (assembled : Bool)
    (totalBytes : List UInt64) (messages : List BusMessage) (stream : BaseStream) :
    Outcome (Option Session) := do
  match ← stream.initPipeLine cm hasSrcPad with
  | none => return none
  | some probeIn =>
    if assembled then do
      let _ ← stream.preLoop
      let session ←
        messages.foldlM (handleAsyncBusMessageReceived stream.config) ⟨probeIn, .init, totalBytes⟩
      return some session
    else .error (.stopped .checkFailed)

/-- The life of a stream of a configuration: `CreateStream`, then its `Exec`. -/
def runStream (cm : Common) (hasSrcPad : Source → Bool) (startChunkIndex : Nat) (assembled : Bool)
    (totalBytes : List UInt64) (messages : List BusMessage) (object : ConfigObject) :
    Outcome (Option Session) := do
  let stream ← createStream cm object startChunkIndex
  stream.exec cm hasSrcPad assembled totalBytes messages

end IptvCloud.Streams
