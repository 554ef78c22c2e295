import IptvCloud.Stream.Configs

/-!
# Options of a configuration (`server/options/options.cpp`)

The validators of the options, the table of the options that a configuration may have, and
`ValidateConfig`, which reads the text of a configuration into the argument map. An option that is
unknown or invalid is left out. `CRITICAL_LOG` is code of the library `common`; it stops the process
or it returns (`Library.criticalStops`).
-/

namespace IptvCloud.Server.Options

open JsonC Streams

/-- The library code that the validators call next to that of `Common`. -/
structure Library extends Common where
  toUInt16 : String → Option UInt16
  isValidPath : String → Bool
  logLevelEmerg : Int32
  logLevelDebug : Int32
  criticalStops : Bool

inductive Validity
  | valid
  | invalid
  | fatal
  deriving DecidableEq, Repr

/-- `validator_t`; a failure is a misuse of json-c. -/
abbrev Validator := String → Decoded Validity

/-! ## Validators -/

/-- The validity of a value that is checked by a condition. -/
def validityOf (holds : Bool) (isFatal : Bool) : Validity :=
  if holds then .valid else if isFatal then .fatal else .invalid

/-- A validator that only looks whether a condition holds. -/
def validateIf (holds : String → Bool) (isFatal : Bool) : Validator :=
  fun value => .ok (validityOf (holds value) isFatal)

def dontValidate : Validator := fun _ => .ok .valid

def validateRange {α : Type} [LE α] [DecidableLE α] (convertFromString : String → Option α)
    (min max : α) (isFatal : Bool) : Validator :=
  validateIf (fun value => (convertFromString value).any fun i => min ≤ i && i ≤ max) isFatal

def validateIsPositive (lib : Library) (isFatal : Bool) : Validator :=
  validateIf (fun value => (lib.toTime value).any fun i => 0 ≤ i) isFatal

/-- A text of a table. -/
def validateText (supported : List String) : Validator :=
  validateIf (fun value => supported.any fun text => value == text) false

/-- An `int` of a table. -/
def validateAllowed (lib : Library) (allowedValues : List Int32) : Validator :=
  validateIf (fun value => (lib.toInt value).any fun i => allowedValues.any fun v => v == i) false

/-- A value that converts. -/
def validateConverts {α : Type} (convertFromString : String → Option α) : Validator :=
  validateIf (fun value => (convertFromString value).isSome) false

/-- A value that a decoder reads. -/
def validateDecodes {α : Type} (convertFromString : String → Decoded α) : Validator := fun value =>
  match convertFromString value with
  | .ok _ => .ok .valid
  | .error (.refused _) => .ok .invalid
  | .error failure => .error failure

def validateId : Validator := validateIf (fun value => !value.isEmpty) false

def validateInput : Validator := dontValidate

def validateOutput (lib : Library) : Validator :=
  validateDecodes (convertUrls lib.toCommon (OutputUri.doDeSerialize lib.toCommon))

def validateRestartAttempts (lib : Library) : Validator :=
  validateRange lib.toSize 1 18446744073709551615 false

def validateFeedbackDir (lib : Library) : Validator := validateIf lib.isValidPath false

def validateTimeshiftDir (lib : Library) : Validator := validateIf lib.isValidPath true

def validateTimeshiftChunkLifeTime (lib : Library) : Validator :=
  validateRange lib.toInt 0 (12 * 24 * 3600) false

def validateTimeshiftDelay (lib : Library) : Validator :=
  validateRange lib.toInt 0 (12 * 24 * 3600) false

/-- `kSupportedVideoParsers`. -/
def supportedVideoParsers : List String := ["tsparse", "h264parse", "h265parse"]

/-- `kSupportedAudioParsers`. -/
def supportedAudioParsers : List String := ["mpegaudioparse", "aacparse", "ac3parse"]

/-- `kSupportedVideoEncoders`. -/
def supportedVideoEncoders : List String :=
  ["eavcenc", "openh264enc", "x264enc", "nvh264enc", "vaapih264enc", "vaapimpeg2enc", "mfxh264enc",
    "x265enc", "msdkh264enc"]

/-- `kSupportedAudioEncoders`. -/
def supportedAudioEncoders : List String := ["lamemp3enc", "faac", "voaacenc"]

def validateVideoParser : Validator := validateText supportedVideoParsers

def validateAudioParser : Validator := validateText supportedAudioParsers

def validateVideoCodec : Validator := validateText supportedVideoEncoders

def validateAudioCodec : Validator := validateText supportedAudioEncoders

/-- From `PROXY` to `SCREEN`. -/
def validateType (lib : Library) : Validator := validateRange lib.toUInt8 0 9 false

def validateLogLevel (lib : Library) : Validator :=
  validateRange lib.toInt lib.logLevelEmerg lib.logLevelDebug false

/-- `0.0 ≤ x ≤ 10.0` of a double: the bits of the non-negative doubles are in their order, and the
negative zero is not below 0. -/
def isVolume (bits : BitVec 64) : Bool := bits ≤ 0x4024000000000000 || bits == 0x8000000000000000

def validateVolume (lib : Library) : Validator :=
  validateIf (fun value => (lib.toDouble value).any isVolume) false

def validateDelayTime (lib : Library) : Validator := validateIsPositive lib false

def validateTimeshiftChunkDuration (lib : Library) : Validator := validateIsPositive lib false

def validateAutoExitTime (lib : Library) : Validator := validateIsPositive lib false

def validateSize (lib : Library) : Validator := validateConverts lib.toDrawSize

def validateCleanupts (lib : Library) : Validator := validateConverts lib.toBool

def validateLogo (lib : Library) : Validator :=
  validateDecodes (Logo.convertFromString lib.toCommon)

def validateFramerate (lib : Library) : Validator := validateIsPositive lib false

def validateAspectRatio (lib : Library) : Validator := validateConverts lib.toRational

def validateDecklinkVideoMode (lib : Library) : Validator := validateRange lib.toInt 0 30 false

def validateVideoBitrate (lib : Library) : Validator := validateIsPositive lib false

def validateAudioBitrate (lib : Library) : Validator := validateIsPositive lib false

def validateAudioChannels (lib : Library) : Validator := validateIsPositive lib false

def validateAudioSelect (lib : Library) : Validator := validateConverts lib.toInt

def validateMfxh264Preset (lib : Library) : Validator := validateRange lib.toInt 0 7 false

def validateMfxh264Gopsize (lib : Library) : Validator := validateRange lib.toInt 0 65535 false

def validateNvh264Preset (lib : Library) : Validator := validateRange lib.toUInt16 0 65535 false

def validateX264SpeedPreset (lib : Library) : Validator := validateRange lib.toInt 0 10 false

def validateX264Threads (lib : Library) : Validator := validateRange lib.toInt 0 2147483647 false

def validateX264Tune (lib : Library) : Validator := validateAllowed lib [0x0, 0x1, 0x2, 0x4]

def validateX264KeyIntMax (lib : Library) : Validator := validateRange lib.toInt 0 2147483647 false

def validateX264VbvBufCapacity (lib : Library) : Validator := validateRange lib.toInt 0 10000 false

def validateX264RcLookahead (lib : Library) : Validator := validateRange lib.toInt 0 250 false

def validateX264QpMax (lib : Library) : Validator := validateRange lib.toInt 0 51 false

def validateX264Pass (lib : Library) : Validator := validateAllowed lib [0, 4, 5, 17, 18, 19]

def validateX264Me (lib : Library) : Validator := validateRange lib.toInt 0 4 false

def validateVaapih264KeyframePeriod (lib : Library) : Validator :=
  validateRange lib.toInt 0 300 false

def validateVaapih264Tune (lib : Library) : Validator := validateAllowed lib [0, 1, 3]

def validateVaapih264MaxBframes (lib : Library) : Validator := validateRange lib.toInt 0 10 false

def validateVaapih264NumSlices (lib : Library) : Validator := validateRange lib.toInt 1 200 false

def validateVaapih264InitQp (lib : Library) : Validator := validateRange lib.toInt 1 51 false

def validateVaapih264MinQp (lib : Library) : Validator := validateRange lib.toInt 1 51 false

def validateVaapih264RateControl (lib : Library) : Validator := validateAllowed lib [1, 2, 4, 5]

def validateVaapih264CpbLength (lib : Library) : Validator := validateRange lib.toInt 0 10000 false

def dummyValidatorInteger (lib : Library) : Validator :=
  validateRange lib.toInt (-2147483648) 2147483647 false

def dummyValidatorString : Validator := validateIf (fun value => !value.isEmpty) false

/-! ## The table -/

/-- `ALLOWED_OPTIONS`: the keys and their validators. -/
def allowedOptions (lib : Library) : List (String × Validator) :=
  [("id", validateId),
    ("type", validateType lib),
    ("feedback_directory", validateFeedbackDir lib),
    ("log_level", validateLogLevel lib),
    ("input", validateInput),
    ("output", validateOutput lib),
    ("restart_attempts", validateRestartAttempts lib),
    ("auto_exit_time", validateAutoExitTime lib),
    ("timeshift_dir", validateTimeshiftDir lib),
    ("timeshift_chunk_life_time", validateTimeshiftChunkLifeTime lib),
    ("timeshift_delay", validateTimeshiftDelay lib),
    ("mainprofile", dontValidate),
    ("mainprofile_external", dontValidate),
    ("volume", validateVolume lib),
    ("delay_time", validateDelayTime lib),
    ("timeshift_chunk_duration", validateTimeshiftChunkDuration lib),
    ("video_parser", validateVideoParser),
    ("audio_parser", validateAudioParser),
    ("audio_codec", validateAudioCodec),
    ("video_codec", validateVideoCodec),
    ("have_video", dontValidate),
    ("have_audio", dontValidate),
    ("deinterlace", dontValidate),
    ("relay_audio", dontValidate),
    ("relay_video", dontValidate),
    ("loop", dontValidate),
    ("avformat", dontValidate),
    ("size", validateSize lib),
    ("cleanup_ts", validateCleanupts lib),
    ("logo", validateLogo lib),
    ("framerate", validateFramerate lib),
    ("aspect_ratio", validateAspectRatio lib),
    ("video_bitrate", validateVideoBitrate lib),
    ("audio_bitrate", validateAudioBitrate lib),
    ("audio_channels", validateAudioChannels lib),
    ("audio_select", validateAudioSelect lib),
    ("decklink_video_mode", validateDecklinkVideoMode lib),
    ("nvh264enc.preset", validateNvh264Preset lib),
    ("mfxh264enc.preset", validateMfxh264Preset lib),
    ("mfxh264enc.gop-size", validateMfxh264Gopsize lib),
    ("x264enc.speed-preset", validateX264SpeedPreset lib),
    ("x264enc.threads", validateX264Threads lib),
    ("x264enc.tune", validateX264Tune lib),
    ("x264enc.key-int-max", validateX264KeyIntMax lib),
    ("x264enc.vbv-buf-capacity", validateX264VbvBufCapacity lib),
    ("x264enc.rc-lookahead", validateX264RcLookahead lib),
    ("x264enc.qp-max", validateX264QpMax lib),
    ("x264enc.pass", validateX264Pass lib),
    ("x264enc.me", validateX264Me lib),
    ("x264enc.profile", dummyValidatorString),
    ("x264enc.stream-format", dummyValidatorString),
    ("x264enc.option-string", dontValidate),
    ("x264enc.interlaced", dontValidate),
    ("x264enc.dct8x8", dontValidate),
    ("x264enc.b-adapt", dontValidate),
    ("x264enc.byte-stream", dontValidate),
    ("x264enc.cabac", dontValidate),
    ("x264enc.sliced-threads", dontValidate),
    ("x264enc.quantizer", dontValidate),
    ("vaapih264enc.keyframe-period", validateVaapih264KeyframePeriod lib),
    ("vaapih264enc.tune", validateVaapih264Tune lib),
    ("vaapih264enc.max-bframes", validateVaapih264MaxBframes lib),
    ("vaapih264enc.num-slices", validateVaapih264NumSlices lib),
    ("vaapih264enc.init-qp", validateVaapih264InitQp lib),
    ("vaapih264enc.min-qp", validateVaapih264MinQp lib),
    ("vaapih264enc.rate-control", validateVaapih264RateControl lib),
    ("vaapih264enc.cabac", dontValidate),
    ("vaapih264enc.dct8x8", dontValidate),
    ("vaapih264enc.cpb-length", validateVaapih264CpbLength lib),
    ("openh264enc.multi-thread", dontValidate),
    ("openh264enc.complexity", dummyValidatorInteger lib),
    ("openh264enc.rate-control", dummyValidatorInteger lib),
    ("openh264enc.gop-size", dummyValidatorInteger lib),
    ("eavcenc.preset", dummyValidatorInteger lib),
    ("eavcenc.profile", dummyValidatorInteger lib),
    ("eavcenc.performance", dummyValidatorInteger lib),
    ("eavcenc.bitrate-mode", dummyValidatorInteger lib),
    ("eavcenc.bitrate-pass", dummyValidatorInteger lib),
    ("eavcenc.bitrate-max", dummyValidatorInteger lib),
    ("eavcenc.vbv-size", dummyValidatorInteger lib),
    ("eavcenc.picture-mode", dummyValidatorInteger lib),
    ("eavcenc.entropy-mode", dummyValidatorInteger lib),
    ("eavcenc.gop-max-bcount", dummyValidatorInteger lib),
    ("eavcenc.gop-max-length", dummyValidatorInteger lib),
    ("eavcenc.gop-min-length", dummyValidatorInteger lib),
    ("eavcenc.level", dummyValidatorInteger lib),
    ("eavcenc.deblock-mode", dummyValidatorInteger lib),
    ("eavcenc.deblock-alpha", dummyValidatorInteger lib),
    ("eavcenc.deblock-beta", dummyValidatorInteger lib),
    ("eavcenc.initial-param", dummyValidatorInteger lib),
    ("eavcenc.field-order", dummyValidatorInteger lib),
    ("eavcenc.gop-adaptive", dontValidate)]

def findOption (lib : Library) (key : String) : Option Validator := (allowedOptions lib).lookup key

/-! ## `ValidateConfig` -/

/-- Why `ValidateConfig` does not return: `CRITICAL_LOG` stopped the process, the loop ran over the
fields of something that is no object, or a validator misused json-c. -/
inductive Crash
  | critical (text : String)
  | notObject
  | misuse (failure : Failure Error)

/-- `CRITICAL_LOG`. -/
def criticalLog (lib : Library) (text : String) : Except Crash Unit :=
  if lib.criticalStops then .error (.critical text) else .ok ()

/-- The text of a value; that of a null is `"null"`. -/
def valueStr (lib : Library) (val : Json) : String := (val.getString lib.co).getD "null"

/-- The step of the loop over the fields. -/
def acceptField (lib : Library) (options : ArgsMap) (field : String × Json) :
    Except Crash ArgsMap :=
  match findOption lib field.1 with
  | none => .ok options
  | some validator =>
    match validator (valueStr lib field.2) with
    | .ok .valid => .ok (options.insert field.1 (valueStr lib field.2))
    | .ok .invalid => .ok options
    | .ok .fatal => do
      criticalLog lib ("Invalid value \"" ++ valueStr lib field.2 ++ "\" of option " ++ field.1)
      return options
    | .error failure => .error (.misuse failure)

/-- The loop over the fields of what the text parses to; a null is reported first. -/
def acceptFields (lib : Library) : Json → Except Crash ArgsMap
  | .null => do
    criticalLog lib "Invalid config data!"
    .error .notObject
  | .object fields => fields.foldlM (acceptField lib) ∅
  | _ => .error .notObject

/-- `ValidateConfig`. -/
def validateConfig (lib : Library) (fullConfig : String) : Except Crash ArgsMap := do
  if fullConfig.isEmpty then criticalLog lib "Invalid config data!"
  acceptFields lib (lib.tokenerParse fullConfig)

end IptvCloud.Server.Options
