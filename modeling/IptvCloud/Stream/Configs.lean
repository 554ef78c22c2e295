import IptvCloud.Base.InputsOutputs

/-!
# Stream configurations (`stream/configs_factory.cpp`)

The classes of configurations (`stream/config.h`, `stream/streams/configs`) and `make_config`, which
makes one of them of an argument map. A `ConfigObject` is what the pointer to `Config` points at: an
object of the class that was made. Every option is read with `ArgsGetValue` and keeps the default of
its class when it is missing or is no value of its type.
-/

namespace IptvCloud.Streams

open JsonC Server

/-! ## Classes -/

structure Config where
  type : StreamType
  maxRestartAttempts : UInt64
  ttlSec : Option Int64
  input : List InputUri
  output : List OutputUri

structure AudioVideoConfig extends Config where
  haveVideo : Bool
  haveAudio : Bool
  audioSelect : Option Int32
  avformat : Bool
  loop : Bool

/-- `AudioVideoConfig::IsVod`. -/
def AudioVideoConfig.isVod (config : AudioVideoConfig) : Bool :=
  if config.loop then false
  else
    match config.input with
    | [uri] => uri.input.scheme = .file
    | _ => false

/-- Also `PlaylistRelayConfig`. -/
structure RelayConfig extends AudioVideoConfig where
  videoParser : String
  audioParser : String

structure VodRelayConfig extends RelayConfig where
  cleanupTs : Bool

structure TimeshiftConfig extends RelayConfig where
  timeshiftChunkDuration : Int64

/-- `Logo` (`base/logo.h`); `alpha` is given by its bits. -/
structure Logo where
  path : Url := {}
  position : Int × Int := (0, 0)
  alpha : BitVec 64 := 0

/-- `video_encoders_args_t`. -/
abbrev VideoEncodersArgs := AList fun _ : String => UInt32

/-- Also `PlaylistEncodingConfig`. -/
structure EncodingConfig extends AudioVideoConfig where
  deinterlace : Option Bool
  frameRate : Option Int32
  volume : Option (BitVec 64)
  videoEncoder : String
  audioEncoder : String
  audioChannelsCount : Option Int32
  videoEncoderArgs : VideoEncodersArgs
  videoEncoderStrArgs : ArgsMap
  size : Int × Int
  videoBitRate : Option Int32
  audioBitRate : Option Int32
  logo : Logo
  decklinkVideoMode : UInt8
  aspectRatio : Option (Int × Int)
  relayVideo : Bool
  relayAudio : Bool

structure VodEncodeConfig extends EncodingConfig where
  cleanupTs : Bool

/-- The object behind a `Config *`. -/
inductive ConfigObject
  | audioVideo (config : AudioVideoConfig)
  | relay (config : RelayConfig)
  | vodRelay (config : VodRelayConfig)
  | timeshift (config : TimeshiftConfig)
  | encoding (config : EncodingConfig)
  | vodEncode (config : VodEncodeConfig)

/-- The part of an object that every class has. -/
def ConfigObject.base : ConfigObject → AudioVideoConfig
  | .audioVideo config => config
  | .relay config => config.toAudioVideoConfig
  | .vodRelay config => config.toAudioVideoConfig
  | .timeshift config => config.toAudioVideoConfig
  | .encoding config => config.toAudioVideoConfig
  | .vodEncode config => config.toAudioVideoConfig

/-! ## Options -/

/-- `ConvertFromString` to a `Logo`; a position that is none is left out. -/
def Logo.convertFromString (cm : Common) (text : String) : Decoded Logo :=
  match cm.tokenerParse text with
  | .null => .error (.refused .inval)
  | obj => do
    let path ← optionalField obj "path" {} fun v => (v.toStdString cm.co).map cm.parseUrl
    let position ← optionalField obj "position" (0, 0) fun v =>
      (v.toStdString cm.co).map fun text => (cm.toPoint text).getD (0, 0)
    let alpha ← optionalField obj "alpha" 0 fun v => .ok (v.getDouble cm.co)
    return ⟨path, position, alpha⟩

/-- `ArgsGetValue` of the logo. -/
def argsGetLogo (cm : Common) (args : ArgsMap) : Decoded Logo :=
  match args.lookup "logo" with
  | none => .ok {}
  | some text =>
    match Logo.convertFromString cm text with
    | .error (.refused _) => .ok {}
    | logo => logo

/-- `CheckAndSetValue`; `std::map::insert` keeps an element that is there. -/
def checkAndSetValue {α : Type} (args : ArgsMap) (convertFromString : String → Option α)
    (map : AList fun _ : String => α) (name : String) : AList fun _ : String => α :=
  match argsGetValue args name convertFromString with
  | some result => if name ∈ map then map else map.insert name result
  | none => map

/-- A flag that is entered as 1 when it is set. -/
def setFlag (cm : Common) (args : ArgsMap) (map : VideoEncodersArgs) (name : String) :
    VideoEncodersArgs :=
  if argsGetValue args name cm.toBool = some true then map.insert name 1 else map

/-- The numbers of `nvh264enc`, `mfxh264enc` and `x264enc`. -/
def x264Args : List String :=
  ["nvh264enc.preset", "mfxh264enc.preset", "mfxh264enc.gop-size", "x264enc.speed-preset",
    "x264enc.threads", "x264enc.tune", "x264enc.key-int-max", "x264enc.vbv-buf-capacity",
    "x264enc.rc-lookahead", "x264enc.qp-max", "x264enc.pass", "x264enc.me",
    "x264enc.sliced-threads", "x264enc.b-adapt", "x264enc.byte-stream", "x264enc.quantizer"]

def x264Flags : List String := ["x264enc.interlaced", "x264enc.dct8x8"]

/-- The numbers of `vaapih264enc`, `openh264enc` and `eavcenc`. -/
def hardwareArgs : List String :=
  ["vaapih264enc.keyframe-period", "vaapih264enc.tune", "vaapih264enc.max-bframes",
    "vaapih264enc.num-slices", "vaapih264enc.init-qp", "vaapih264enc.min-qp",
    "vaapih264enc.rate-control", "vaapih264enc.cabac", "vaapih264enc.dct8x8",
    "vaapih264enc.cpb-length", "openh264enc.multi-thread", "openh264enc.complexity",
    "openh264enc.rate-control", "openh264enc.gop-size", "eavcenc.preset", "eavcenc.profile",
    "eavcenc.performance", "eavcenc.bitrate-mode", "eavcenc.bitrate-pass", "eavcenc.bitrate-max",
    "eavcenc.vbv-size", "eavcenc.picture-mode", "eavcenc.entropy-mode", "eavcenc.gop-max-bcount",
    "eavcenc.gop-max-length", "eavcenc.gop-min-length", "eavcenc.level", "eavcenc.deblock-mode",
    "eavcenc.deblock-alpha", "eavcenc.deblock-beta", "eavcenc.initial-param",
    "eavcenc.field-order"]

def x264StrArgs : List String :=
  ["x264enc.profile", "x264enc.stream-format", "x264enc.option-string"]

/-- `InitVideoEncodersWithArgs`: the numbers. -/
def initVideoEncoderArgs (cm : Common) (args : ArgsMap) : VideoEncodersArgs :=
  let map := x264Args.foldl (checkAndSetValue args cm.toUInt32) ∅
  let map := x264Flags.foldl (setFlag cm args) map
  let map := hardwareArgs.foldl (checkAndSetValue args cm.toUInt32) map
  setFlag cm args map "eavcenc.gop-adaptive"

/-- `InitVideoEncodersWithArgs`: the texts. -/
def initVideoEncoderStrArgs (args : ArgsMap) : ArgsMap :=
  x264StrArgs.foldl (checkAndSetValue args some) ∅

/-! ## `make_config` -/

/-- Why there is no configuration: a decoder failed, or a `CHECK` stopped the process. -/
inductive Unmade
  | failed (failure : Failure Error)
  | checkFailed (text : String)

/-- `common::make_error`. -/
def makeError {α : Type} (text : String) : Except Unmade α :=
  .error (.failed (.refused (.message text)))

/-- `"Define " <field> " variable and make it valid"`. -/
def defineVariable {α : Type} (field : String) : Except Unmade α :=
  makeError ("Define " ++ field ++ " variable and make it valid")

/-- `read_input` or `read_output`, whose failure is the error of `field`. -/
def readUrls {α : Type} (field : String) : Decoded (List α) → Except Unmade (List α)
  | .ok urls => .ok urls
  | .error (.refused _) => defineVariable field
  | .error failure => .error (.failed failure)

/-- `kDefaultRestartAttempts`. -/
def defaultRestartAttempts : UInt64 := 10

/-- The outputs; a recorder of a single input needs none. -/
def makeOutput (cm : Common) (args : ArgsMap) (type : StreamType) (input : List InputUri) :
    Except Unmade (List OutputUri) :=
  let isMultiInput := input.length > 1
  let isTimeshiftAndRec :=
    (type = .timeshiftRecorder ∧ ¬ isMultiInput) ∨ (type = .catchup ∧ ¬ isMultiInput)
  if isTimeshiftAndRec then .ok [] else readUrls "output" (readOutput cm args)

def makeRestartAttempts (cm : Common) (args : ArgsMap) : Except Unmade UInt64 :=
  let attempts := (argsGetValue args "restart_attempts" cm.toSize).getD defaultRestartAttempts
  if attempts > 0 then .ok attempts
  else .error (.checkFailed "restart attempts must be grether than 0")

/-- `make_config` up to the class: the type, the urls, the restarts and the time to live. -/
def makeBase (cm : Common) (args : ArgsMap) : Except Unmade Config :=
  match argsGetValue args "type" cm.toUInt8 with
  | none => defineVariable "type"
  | some streamType =>
    let type := StreamType.ofUInt8 streamType
    if type = .proxy then makeError "Proxy streams not handled for now"
    else do
      let input ← readUrls "input" (readInput cm args)
      let output ← makeOutput cm args type input
      let attempts ← makeRestartAttempts cm args
      return ⟨type, attempts, argsGetValue args "auto_exit_time" cm.toTime, input, output⟩

/-- The options of every class. -/
def makeAudioVideo (cm : Common) (args : ArgsMap) (conf : Config) : AudioVideoConfig where
  toConfig := conf
  haveVideo := (argsGetValue args "have_video" cm.toBool).getD true
  haveAudio := (argsGetValue args "have_audio" cm.toBool).getD true
  audioSelect := argsGetValue args "audio_select" cm.toInt
  avformat := (argsGetValue args "avformat" cm.toBool).getD false
  loop := (argsGetValue args "loop" cm.toBool).getD false

def makeRelay (args : ArgsMap) (aconf : AudioVideoConfig) : RelayConfig where
  toAudioVideoConfig := aconf
  videoParser := (argsGetValue args "video_parser" some).getD "h264parse"
  audioParser := (argsGetValue args "audio_parser" some).getD "aacparse"

def makeEncoding (cm : Common) (args : ArgsMap) (aconf : AudioVideoConfig) :
    Decoded EncodingConfig := do
  let logo ← argsGetLogo cm args
  return {
    toAudioVideoConfig := aconf
    deinterlace := argsGetValue args "deinterlace" cm.toBool
    frameRate := argsGetValue args "framerate" cm.toInt
    volume := argsGetValue args "volume" cm.toDouble
    videoEncoder := (argsGetValue args "video_codec" some).getD "x264enc"
    audioEncoder := (argsGetValue args "audio_codec" some).getD "faac"
    audioChannelsCount := argsGetValue args "audio_channels" cm.toInt
    videoEncoderArgs := initVideoEncoderArgs cm args
    videoEncoderStrArgs := initVideoEncoderStrArgs args
    size := (argsGetValue args "size" cm.toDrawSize).getD (0, 0)
    videoBitRate := argsGetValue args "video_bitrate" cm.toInt
    audioBitRate := argsGetValue args "audio_bitrate" cm.toInt
    logo
    decklinkVideoMode := (argsGetValue args "decklink_video_mode" cm.toUInt8).getD 1
    aspectRatio := argsGetValue args "aspect_ratio" cm.toRational
    relayVideo := (argsGetValue args "relay_video" cm.toBool).getD false
    relayAudio := (argsGetValue args "relay_audio" cm.toBool).getD false }

/-- `CLEANUP_TS_FIELD`. -/
def cleanupTsArg (cm : Common) (args : ArgsMap) : Bool :=
  (argsGetValue args "cleanup_ts" cm.toBool).getD false

/-- The object of the class that belongs to the type. -/
def makeObject (cm : Common) (args : ArgsMap) (aconf : AudioVideoConfig) :
    Except Unmade ConfigObject :=
  match aconf.type with
  | .screen => .ok (.audioVideo aconf)
  | .relay | .timeshiftPlayer | .testLife => .ok (.relay (makeRelay args aconf))
  | .vodRelay => .ok (.vodRelay { makeRelay args aconf with cleanupTs := cleanupTsArg cm args })
  | .encode =>
    match makeEncoding cm args aconf with
    | .ok econfig => .ok (.encoding econfig)
    | .error failure => .error (.failed failure)
  | .vodEncode =>
    match makeEncoding cm args aconf with
    | .ok econfig => .ok (.vodEncode { econfig with cleanupTs := cleanupTsArg cm args })
    | .error failure => .error (.failed failure)
  | .timeshiftRecorder | .catchup =>
    -- `DEFAULT_TIMESHIFT_CHUNK_DURATION`
    let duration := (argsGetValue args "timeshift_chunk_duration" cm.toTime).getD 120
    if duration = 0 then .error (.checkFailed "Avoid division by zero")
    else .ok (.timeshift { makeRelay args aconf with timeshiftChunkDuration := duration })
  | .other code => makeError ("Unknown stream type: " ++ toString code.toNat)
  | .proxy => makeError "Unknown stream type: 0"

/-- `make_config`. -/
def makeConfig (cm : Common) (args : ArgsMap) : Except Unmade ConfigObject := do
  let conf ← makeBase cm args
  makeObject cm args (makeAudioVideo cm args conf)

end IptvCloud.Streams
