import IptvCloud.Stream.Factory
import IptvCloud.Stream.Proof.Configs

/-!
# Classes and streams

The casts of `StreamController::Exec` and of `CreateStream` against the classes that `make_config`
gives its objects. `CreateStream` returns a stream for what `Creatable` says of the type, the inputs
and the loop; the controller casts the configuration of a timeshift player to a class that it is not
of, so these two agree with `make_config` on the other types only (`classesMatch_iff`).
-/

namespace IptvCloud.Streams

open Checked JsonC

variable {cm : Common} {args : ArgsMap} {object : ConfigObject} {type : StreamType}

/-- The configurations that `CreateStream` has a stream for. -/
def Creatable (type : StreamType) (input : List InputUri) (loop : Bool) : Prop :=
  match type with
  | .relay => input.length ≤ 1 ∨ isPlaylist input = true
  | .encode => input ≠ []
  | .timeshiftPlayer | .timeshiftRecorder | .catchup | .testLife => True
  | .vodRelay | .vodEncode => loop = false ∧ ∃ uri, input = [uri] ∧ uri.input.scheme = .file
  | .proxy | .screen | .other _ => False

/-- Every cast is to a class of the object, and `CreateStream` returns a stream. -/
def ClassesMatch (cm : Common) (object : ConfigObject) : Prop :=
  (∀ search, ∃ origin, execTurn cm search object = .ok origin) ∧
    ∀ startChunkIndex, ∃ stream, createStream cm object startChunkIndex = .ok stream

/-- The same of the argument map. -/
def ArgsMatch (cm : Common) (args : ArgsMap) : Prop :=
  ∃ code input, argsGetValue args "type" cm.toUInt8 = some code ∧ readInput cm args = .ok input ∧
    StreamType.ofUInt8 code ≠ .timeshiftPlayer ∧
    Creatable (.ofUInt8 code) input ((argsGetValue args "loop" cm.toBool).getD false)

theorem isVod_iff (config : AudioVideoConfig) :
    config.isVod = true ↔
      config.loop = false ∧ ∃ uri, config.input = [uri] ∧ uri.input.scheme = .file := by
  simp only [AudioVideoConfig.isVod]
  cases config.loop with
  | true => simp
  | false =>
    match config.input with
    | [] => simp
    | [uri] => simp
    | _ :: _ :: _ => simp

/-! ## `CreateStream` -/

section
variable {startChunkIndex : Nat}

theorem createStream_relay {config : RelayConfig} (htype : config.type = .relay) :
    createStream cm (.relay config) startChunkIndex =
      if config.input.length > 1 then
        if isPlaylist config.input then .ok (.playlistRelay config) else notReached
      else .ok (.relay config) := by
  unfold createStream
  simp only [ConfigObject.base, htype]
  rfl

theorem createStream_encode {config : EncodingConfig} (htype : config.type = .encode) :
    createStream cm (.encoding config) startChunkIndex =
      if config.input.length > 1 then
        if isPlaylist config.input then .ok (.playlistEncoding config) else .ok (.mosaic config)
      else (elemAt .createStream config.input 0).map (createEncodingStream cm config) := by
  unfold createStream
  simp only [ConfigObject.base, htype]
  rfl

theorem createStream_vodRelay {config : VodRelayConfig} (htype : config.type = .vodRelay) :
    createStream cm (.vodRelay config) startChunkIndex =
      if config.isVod then .ok (.vodRelay config) else notReached := by
  unfold createStream
  simp only [ConfigObject.base, htype]
  rfl

theorem createStream_vodEncode {config : VodEncodeConfig} (htype : config.type = .vodEncode) :
    createStream cm (.vodEncode config) startChunkIndex =
      if config.isVod then .ok (.vodEncode config) else notReached := by
  unfold createStream
  simp only [ConfigObject.base, htype]
  rfl

theorem createStream_timeshiftPlayer {config : RelayConfig}
    (htype : config.type = .timeshiftPlayer) :
    createStream cm (.relay config) startChunkIndex =
      .ok (.timeShiftPlayer config startChunkIndex) := by
  unfold createStream
  simp only [ConfigObject.base, htype]
  rfl

theorem createStream_testLife {config : RelayConfig} (htype : config.type = .testLife) :
    createStream cm (.relay config) startChunkIndex = .ok (.testLife config) := by
  unfold createStream
  simp only [ConfigObject.base, htype]
  rfl

theorem createStream_timeshiftRecorder {config : TimeshiftConfig}
    (htype : config.type = .timeshiftRecorder) :
    createStream cm (.timeshift config) startChunkIndex = .ok (.timeShiftRecorder config) := by
  unfold createStream
  simp only [ConfigObject.base, htype]
  rfl

theorem createStream_catchup {config : TimeshiftConfig} (htype : config.type = .catchup) :
    createStream cm (.timeshift config) startChunkIndex = .ok (.catchup config) := by
  unfold createStream
  simp only [ConfigObject.base, htype]
  rfl

theorem createStream_screen (config : AudioVideoConfig) (htype : config.type = .screen) :
    createStream cm (.audioVideo config) startChunkIndex = notReached := by
  unfold createStream
  simp only [ConfigObject.base, htype]

@[simp] theorem notReached_ne_ok {α : Type} (a : α) : notReached ≠ .ok a := by
  intro h
  cases h

theorem exists_ok_ite_iff {α : Type} {p : Prop} [Decidable p] {a : α} :
    (∃ b, (if p then .ok a else notReached : Outcome α) = .ok b) ↔ p := by
  by_cases hp : p <;> simp [hp]

theorem exists_createStream_iff (hclass : ClassOf type object) (htype : object.base.type = type) :
    (∃ stream, createStream cm object startChunkIndex = .ok stream) ↔
      Creatable type object.base.input object.base.loop := by
  cases hclass with
  | screen config =>
    rw [createStream_screen config htype]
    simp [Creatable]
  | timeshiftPlayer config => simp [createStream_timeshiftPlayer htype, Creatable]
  | testLife config => simp [createStream_testLife htype, Creatable]
  | timeshiftRecorder config => simp [createStream_timeshiftRecorder htype, Creatable]
  | catchup config => simp [createStream_catchup htype, Creatable]
  | relay config =>
    rw [createStream_relay htype]
    simp only [Creatable, ConfigObject.base]
    split
    · rename_i hlen
      rw [exists_ok_ite_iff]
      exact ⟨.inr, fun h => h.resolve_left (Nat.not_le_of_lt hlen)⟩
    · rename_i hlen
      simp [Nat.le_of_not_lt hlen]
  | encode config =>
    rw [createStream_encode htype]
    simp only [Creatable, ConfigObject.base]
    split
    · rename_i hlen
      have hne : config.input ≠ [] := List.ne_nil_of_length_pos (by omega)
      split <;> simp [hne]
    · cases config.input with
      | nil => simp [elemAt, Except.map]
      | cons uri rest => simp [elemAt, Except.map]
  | vodRelay config =>
    rw [createStream_vodRelay htype, exists_ok_ite_iff]
    exact isVod_iff _
  | vodEncode config =>
    rw [createStream_vodEncode htype, exists_ok_ite_iff]
    exact isVod_iff _

end

/-! ## The controller -/

/-- The configuration of a timeshift player is no `TimeshiftConfig`. -/
theorem execTurn_timeshiftPlayer (hclass : ClassOf .timeshiftPlayer object)
    (htype : object.base.type = .timeshiftPlayer) (search : Int64 → Nat) :
    execTurn cm search object = badCast .timeshift := by
  cases hclass with
  | timeshiftPlayer config =>
    unfold execTurn
    rw [if_pos htype]
    rfl

theorem execTurn_of_ne (htype : object.base.type ≠ .timeshiftPlayer) (search : Int64 → Nat) :
    execTurn cm search object = (createStream cm object invalidChunkIndex).map some := by
  unfold execTurn
  rw [if_neg htype]
  rfl

theorem classesMatch_iff_creatable (hclass : ClassOf object.base.type object) :
    ClassesMatch cm object ↔
      object.base.type ≠ .timeshiftPlayer ∧
        Creatable object.base.type object.base.input object.base.loop := by
  refine ⟨fun ⟨hexec, hcreate⟩ => ?_, fun ⟨hne, hcreatable⟩ => ?_⟩
  · refine ⟨fun htype => ?_, (exists_createStream_iff hclass rfl).1 (hcreate 0)⟩
    obtain ⟨origin, h⟩ := hexec fun _ => 0
    rw [execTurn_timeshiftPlayer (htype ▸ hclass) htype] at h
    cases h
  · have hcreate : ∀ i, ∃ stream, createStream cm object i = .ok stream := fun _ =>
      (exists_createStream_iff hclass rfl).2 hcreatable
    refine ⟨fun search => ?_, hcreate⟩
    obtain ⟨stream, h⟩ := hcreate invalidChunkIndex
    exact ⟨some stream, by rw [execTurn_of_ne hne, h]; rfl⟩

theorem classesMatch_iff (h : makeConfig cm args = .ok object) :
    ClassesMatch cm object ↔ ArgsMatch cm args := by
  have haccepted := accepted_of_makeConfig h
  rw [classesMatch_iff_creatable haccepted.classOf, haccepted.loop]
  exact (haccepted.exists_args_iff (P := fun type input => type ≠ .timeshiftPlayer ∧
    Creatable type input ((argsGetValue args "loop" cm.toBool).getD false))).symm

/-- Lists of urls and what json-c reads. -/
def noUrls : String := "\x7b\"urls\":[]\x7d"

def httpUrls : String := "\x7b\"urls\":[\x7b\"id\":1,\"uri\":\"http://host/1\"\x7d]\x7d"

/-- A file and a url. -/
def mixedUrls : String :=
  "\x7b\"urls\":[\x7b\"id\":1,\"uri\":\"file:///1.ts\"\x7d," ++
    "\x7b\"id\":2,\"uri\":\"http://host/2\"\x7d]\x7d"

def sampleTexts : List (String × Json) :=
  [(noUrls, .object [("urls", .array [])]),
    (httpUrls, .object [("urls", .array [
      .object [("id", .int 1), ("uri", .string "http://host/1")]])]),
    (mixedUrls, .object [("urls", .array [
      .object [("id", .int 1), ("uri", .string "file:///1.ts")],
      .object [("id", .int 2), ("uri", .string "http://host/2")]])])]

def sampleSchemes : List (String × Url) :=
  [("http://host/1", { scheme := .http, host := "host", path := "/1" }),
    ("http://host/2", { scheme := .http, host := "host", path := "/2" }),
    ("file:///1.ts", { scheme := .file, path := "/1.ts" })]

/-- The libraries on these texts and on the numbers of the types. -/
def sampleCommon : Common :=
  { Common.blank with
    tokenerParse := fun text => (sampleTexts.lookup text).getD .null
    parseUrl := fun text => (sampleSchemes.lookup text).getD { path := text }
    toUInt8 := fun text => [("1", 1), ("3", 3), ("4", 4)].lookup text }

def sampleArgs (type input : String) : ArgsMap :=
  List.toAList [⟨"id", "stream"⟩, ⟨"type", type⟩, ⟨"input", input⟩, ⟨"output", noUrls⟩]

theorem classesMatch_relay :
    ∃ object, makeConfig sampleCommon (sampleArgs "1" httpUrls) = .ok object ∧
      ClassesMatch sampleCommon object := by
  obtain ⟨object, h⟩ : ∃ object, makeConfig sampleCommon (sampleArgs "1" httpUrls) = .ok object :=
    ⟨_, rfl⟩
  refine ⟨object, h, (classesMatch_iff h).2 ?_⟩
  exact ⟨1, _, rfl, rfl, by decide, .inl (by decide)⟩

/-- A timeshift player: the controller casts its configuration to a `TimeshiftConfig`. -/
theorem classesMatch_timeshiftPlayer_fails :
    ∃ object, makeConfig sampleCommon (sampleArgs "3" httpUrls) = .ok object ∧
      ¬ ClassesMatch sampleCommon object := by
  refine ⟨_, rfl, fun h => ?_⟩
  obtain ⟨origin, hexec⟩ := h.1 fun _ => 0
  cases hexec

end IptvCloud.Streams
