import Mathlib.Data.List.AList
import IptvCloud.Lib.Json
import IptvCloud.Server.Request

/-!
# Inputs and outputs of a stream (`base/inputs_outputs.cpp`)

The argument map of a stream configuration (`utils/arg_converter.h`), the type of a stream
(`base/types.h`) and the lists of inputs and outputs that the map holds as JSON texts
(`base/input_uri.cpp`, `base/output_uri.cpp`). What the code takes from the libraries `common` and
json-c is the structure `Common`: their parsers and conversions.
-/

namespace IptvCloud

open JsonC Server

/-- The outcome of a decoder or of a conversion of `common`. -/
abbrev Decoded (α : Type) := Except (Failure Error) α

/-- `common::uri::Url::scheme`, as far as the code tells schemes apart. -/
inductive Scheme
  | unknown
  | http
  | https
  | file
  | udp
  | rtmp
  | tcp
  | dev
  | other (name : String)
  deriving DecidableEq, Repr

/-- `common::uri::Url`. -/
structure Url where
  scheme : Scheme := .unknown
  host : String := ""
  path : String := ""
  query : String := ""
  deriving DecidableEq, Repr

/-- `StreamType` (`base/types.h`); any `uint8_t` is cast to it. -/
inductive StreamType
  | proxy
  | relay
  | encode
  | timeshiftPlayer
  | timeshiftRecorder
  | catchup
  | testLife
  | vodRelay
  | vodEncode
  | screen
  | other (code : UInt8)
  deriving DecidableEq, Repr

def StreamType.ofUInt8 (n : UInt8) : StreamType :=
  match n.toNat with
  | 0 => .proxy
  | 1 => .relay
  | 2 => .encode
  | 3 => .timeshiftPlayer
  | 4 => .timeshiftRecorder
  | 5 => .catchup
  | 6 => .testLife
  | 7 => .vodRelay
  | 8 => .vodEncode
  | 9 => .screen
  | _ => .other n

/-- The library code that reads configurations: the parser and the conversions of json-c; the parser
of a `Url`; a directory path; `ConvertFromString` to the types of the options; and whether
`DeSerialize` of the serializer base class refuses a null object before `DoDeSerialize` sees it. -/
structure Common where
  co : Coercions
  tokenerParse : String → Json
  parseUrl : String → Url
  directoryPath : String → String
  toUInt8 : String → Option UInt8
  toUInt32 : String → Option UInt32
  toSize : String → Option UInt64
  toTime : String → Option Int64
  toInt : String → Option Int32
  toBool : String → Option Bool
  toDouble : String → Option (BitVec 64)
  toPoint : String → Option (Int × Int)
  toDrawSize : String → Option (Int × Int)
  toRational : String → Option (Int × Int)
  toHostAndPort : String → Option (String × UInt16)
  refusesNull : Bool

/-- Conversions that give zero and parsers that refuse every text. -/
def Common.blank : Common where
  co := ⟨fun _ => "", fun _ => 0, fun _ => 0, fun _ => 0, fun _ => 0⟩
  tokenerParse _ := .null
  parseUrl _ := {}
  directoryPath := id
  toUInt8 _ := none
  toUInt32 _ := none
  toSize _ := none
  toTime _ := none
  toInt _ := none
  toBool _ := none
  toDouble _ := none
  toPoint _ := none
  toDrawSize _ := none
  toRational _ := none
  toHostAndPort _ := none
  refusesNull := true

/-! ## Fields of a JSON object -/

/-- A field that keeps its default when it is missing. -/
def optionalField {α : Type} (j : Json) (key : String) (default : α) (read : Json → Decoded α) :
    Decoded α :=
  match j.getEx key with
  | some v => read v
  | none => .ok default

/-- A field whose absence is an error. -/
def requiredField {α : Type} (j : Json) (key : String) (read : Json → Decoded α) : Decoded α :=
  match j.getEx key with
  | some v => read v
  | none => .error (.refused .inval)

/-- `DeSerialize` of the serializer base class. -/
def Common.deSerialize {α : Type} (cm : Common) (doDeSerialize : Json → Decoded α) (j : Json) :
    Decoded α :=
  match j with
  | .null => if cm.refusesNull then .error (.refused .inval) else doDeSerialize .null
  | j => doDeSerialize j

/-! ## Uris -/

/-- `InputUri`; the user agent is any integer that was cast to the enumeration. -/
structure InputUri where
  id : UInt64 := 0
  input : Url := {}
  userAgent : Int64 := 0
  deriving DecidableEq

/-- `InputUri::DoDeSerialize`. -/
def InputUri.doDeSerialize (cm : Common) (j : Json) : Decoded InputUri := do
  let id ← optionalField j "id" 0 fun v => .ok (v.getInt64 cm.co).toUInt64
  let input ← optionalField j "uri" {} fun v => (v.toStdString cm.co).map cm.parseUrl
  let userAgent ← optionalField j "user_agent" 0 fun v => .ok (v.getInt cm.co)
  return ⟨id, input, userAgent⟩

structure OutputUri where
  id : UInt64 := 0
  output : Url := {}
  httpRoot : String := ""
  deriving DecidableEq

/-- `OutputUri::DoDeSerialize`. -/
def OutputUri.doDeSerialize (cm : Common) (j : Json) : Decoded OutputUri := do
  let id ← optionalField j "id" 0 fun v => .ok (v.getInt64 cm.co).toUInt64
  let output ← optionalField j "uri" {} fun v => (v.toStdString cm.co).map cm.parseUrl
  let httpRoot ← optionalField j "http_root" "" fun v => (v.toStdString cm.co).map cm.directoryPath
  return ⟨id, output, httpRoot⟩

/-- `IsTestInputUrl`: the url is `TEST_URL`. -/
def isTestInputUrl (cm : Common) (uri : InputUri) : Bool := uri.input == cm.parseUrl "test"

/-! ## Arguments -/

/-- `utils::ArgsMap`. -/
abbrev ArgsMap := AList fun _ : String => String

/-- `ArgsGetValue`. -/
def argsGetValue {α : Type} (args : ArgsMap) (key : String)
    (convertFromString : String → Option α) :
    Option α :=
  (args.lookup key).bind convertFromString

/-- `ConvertFromString` to the list of inputs or of outputs: the elements of `urls` that
deserialize. `false` is an error. -/
def convertUrls {α : Type} (cm : Common) (doDeSerialize : Json → Decoded α) (text : String) :
    Decoded (List α) :=
  match cm.tokenerParse text with
  | .null => .error (.refused .inval)
  | obj => do
    let urls ← requiredField obj "urls" fun v => v.elements
    collect (cm.deSerialize doDeSerialize) urls

/-- `read_input`. -/
def readInput (cm : Common) (args : ArgsMap) : Decoded (List InputUri) :=
  match args.lookup "input" with
  | some text => convertUrls cm (InputUri.doDeSerialize cm) text
  | none => .error (.refused .inval)

/-- `read_output`. -/
def readOutput (cm : Common) (args : ArgsMap) : Decoded (List OutputUri) :=
  match args.lookup "output" with
  | some text => convertUrls cm (OutputUri.doDeSerialize cm) text
  | none => .error (.refused .inval)

/-! ## Rules -/

section
variable {α : Type} {j : Json} {key : String} {read : Json → Decoded α}

theorem optionalField_of_getEx {default : α} {v : Json} (h : j.getEx key = some v) :
    optionalField j key default read = read v := by
  simp only [optionalField, h]

theorem requiredField_of_getEx {v : Json} (h : j.getEx key = some v) :
    requiredField j key read = read v := by
  simp only [requiredField, h]

theorem isDefined_optionalField {default : α} :
    isDefined (optionalField j key default read) = true ↔
      ∀ v, j.getEx key = some v → isDefined (read v) = true := by
  unfold optionalField
  split
  · rename_i v h
    simp [h]
  · rename_i h
    simp [h]

theorem isDefined_requiredField :
    isDefined (requiredField j key read) = true ↔
      ∀ v, j.getEx key = some v → isDefined (read v) = true := by
  unfold requiredField
  split
  · rename_i v h
    simp [h]
  · rename_i h
    simp [h]

theorem requiredField_eq_ok {a : α} :
    requiredField j key read = .ok a ↔ ∃ v, j.getEx key = some v ∧ read v = .ok a := by
  unfold requiredField
  split
  · rename_i v h
    simp [h]
  · rename_i h
    simp [h]

end

end IptvCloud
