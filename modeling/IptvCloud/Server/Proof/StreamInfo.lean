import IptvCloud.Server.StreamInfo
import IptvCloud.Server.Proof.Options

/-!
# The daemon and the stream read a configuration

The daemon reads the argument map with `MakeStreamInfo` before the stream reads it with
`make_config`. What the daemon has read of the map is `InfoOf`. Of a map that `ValidateConfig`
returned, the stream reads the same type and as many urls, unless the stream is a recorder that gets
chunks of duration 0, or outputs besides several inputs (`readAlike_iff`).
-/

namespace IptvCloud.Server.Daemon

open Checked JsonC Streams Options

variable {lib : Library} {cm : Common} {createAndCheckDir : String → Option Error} {args : ArgsMap}
  {info : StreamInfo} {text : String}

/-! ## The daemon -/

/-- What a stream info with the folders checked says about the map. -/
structure InfoOf (cm : Common) (args : ArgsMap) (info : StreamInfo) : Prop where
  type : argsType cm args = some info.type
  not_proxy : info.type ≠ .proxy
  input : ∃ input, readInput cm args = .ok input ∧ info.input.length = input.length
  recorder : IsRecorder info.type → info.output = []
  output : ¬ IsRecorder info.type →
    ∃ output, readOutput cm args = .ok output ∧ info.output.length = output.length

theorem requiredArg_eq_ok {α : Type} {field : String} {value : Option α} {a : α} :
    requiredArg field value = .ok a ↔ value = some a := by
  cases value <;> simp [requiredArg]

theorem requiredUrls_eq_ok {α : Type} {field : String} {urls : Decoded (List α)} {l : List α} :
    requiredUrls field urls = .ok l ↔ urls = .ok l := by
  cases urls with
  | ok urls => simp [requiredUrls]
  | error failure => cases failure <;> simp [requiredUrls]

theorem length_of_mapM {ε α β : Type} {f : α → Except ε β} {l : List α} {l' : List β}
    (h : l.mapM f = .ok l') : l'.length = l.length := by
  induction l generalizing l' with
  | nil =>
    cases h
    rfl
  | cons a l ih =>
    rw [List.mapM_cons] at h
    obtain ⟨b, -, h⟩ := bind_eq_ok_iff.1 h
    obtain ⟨bs, hbs, h⟩ := bind_eq_ok_iff.1 h
    cases h
    rw [List.length_cons, List.length_cons, ih hbs]

theorem infoOf_makeStreamInfo (h : makeStreamInfo cm createAndCheckDir args true = .ok info) :
    InfoOf cm args info := by
  obtain ⟨id, -, h⟩ := bind_eq_ok_iff.1 h
  obtain ⟨code, hcode, h⟩ := bind_eq_ok_iff.1 h
  have htype : argsType cm args = some (.ofUInt8 code) := by
    rw [argsType, requiredArg_eq_ok.1 hcode]
    rfl
  generalize StreamType.ofUInt8 code = type at htype h
  dsimp only at h
  split at h
  · cases h
  rename_i hproxy
  obtain ⟨feedbackDir, -, h⟩ := bind_eq_ok_iff.1 h
  obtain ⟨_, -, h⟩ := bind_eq_ok_iff.1 h
  obtain ⟨input, hinput, h⟩ := bind_eq_ok_iff.1 h
  have hinput := requiredUrls_eq_ok.1 hinput
  rw [if_neg (by simp)] at h
  split at h
  · rename_i hrecorder
    obtain ⟨timeshiftDir, -, h⟩ := bind_eq_ok_iff.1 h
    obtain ⟨_, -, h⟩ := bind_eq_ok_iff.1 h
    cases h
    exact ⟨htype, hproxy, ⟨input, hinput, List.length_map _⟩, fun _ => rfl,
      fun hnot => absurd (by simpa [IsRecorder] using hrecorder) hnot⟩
  · rename_i hrecorder
    obtain ⟨ids, hids, h⟩ := bind_eq_ok_iff.1 h
    cases h
    obtain ⟨output, houtput, hids⟩ := bind_eq_ok_iff.1 hids
    refine ⟨htype, hproxy, ⟨input, hinput, List.length_map _⟩, ?_, fun _ => ?_⟩
    · exact fun h => absurd (by simpa [IsRecorder] using h) hrecorder
    · exact ⟨output, requiredUrls_eq_ok.1 houtput, length_of_mapM hids⟩

/-! ## The stream -/

theorem ofUInt8_ne_other {n code : UInt8} (h : n ≤ 9) : StreamType.ofUInt8 n ≠ .other code := by
  have hn : n.toNat ≤ 9 := h
  intro heq
  unfold StreamType.ofUInt8 at heq
  split at heq <;> cases heq
  grind

/-- A type that passed its validator is one of the enumeration. -/
theorem known_of_validated {type : StreamType} (h : Validated lib args)
    (htype : argsType lib.toCommon args = some type) (code : UInt8) : type ≠ .other code := by
  obtain ⟨n, hn, rfl⟩ := Option.map_eq_some_iff.1 htype
  obtain ⟨value, hvalue, hread⟩ := Option.bind_eq_some_iff.1 hn
  have hvalid : validateType lib value = .ok .valid := h.eq_valid rfl hvalue
  obtain ⟨i, hi, -, hmax⟩ := validateRange_eq_valid.1 hvalid
  cases hread.symm.trans hi
  exact ofUInt8_ne_other hmax

/-- The stream is made, with the type and as many urls as the daemon read. -/
def ReadAlike (cm : Common) (args : ArgsMap) (info : StreamInfo) : Prop :=
  ∃ object, makeConfig cm args = .ok object ∧ object.base.type = info.type ∧
    object.base.input.length = info.input.length ∧ object.base.output.length = info.output.length

/-- A recorder of the map gets chunks that are not empty, and no outputs besides several inputs. -/
def RecordsAlone (cm : Common) (args : ArgsMap) : Prop :=
  ∀ type input, argsType cm args = some type → IsRecorder type → readInput cm args = .ok input →
    ¬ HasZeroDuration cm args ∧ (input.length ≤ 1 ∨ readOutput cm args = .ok [])

theorem InfoOf.recordsAlone (hinfo : InfoOf cm args info) (h : Readable cm args)
    (hread : ReadAlike cm args info) : RecordsAlone cm args := by
  obtain ⟨object, hobject, -, -, hlength⟩ := hread
  obtain ⟨conf, hconf, hobject⟩ := bind_eq_ok_iff.1 hobject
  obtain ⟨logo, hlogo⟩ := h.logo
  intro type input htype hrecorder hinput
  obtain ⟨hctype, -, hcinput, houtput, -⟩ := makeBase_eq_ok_iff.1 hconf
  cases htype.symm.trans hctype
  cases hinput.symm.trans hcinput
  obtain ⟨hbase, -⟩ := makeObject_eq_ok hobject
  obtain ⟨-, -, hduration⟩ := (exists_makeObject hlogo).1 ⟨object, hobject⟩
  refine ⟨hduration hrecorder, ?_⟩
  rw [makeOutput_eq] at houtput
  split at houtput
  · rename_i hsingle
    exact .inl hsingle.2
  · -- the outputs are read, and the daemon has none
    have htype : conf.type = info.type := Option.some.inj (hctype.symm.trans hinfo.type)
    have hnone : conf.output.length = 0 := by
      rw [hinfo.recorder (htype ▸ hrecorder), hbase] at hlength
      exact hlength
    rw [← List.eq_nil_of_length_eq_zero hnone]
    exact .inr (readUrls_eq_ok_iff.1 houtput)

theorem InfoOf.exists_makeOutput {input : List InputUri} (hinfo : InfoOf cm args info)
    (halone : RecordsAlone cm args) (hinput : readInput cm args = .ok input) :
    ∃ output, makeOutput cm args info.type input = .ok output ∧
      output.length = info.output.length := by
  rw [makeOutput_eq]
  by_cases hrecorder : IsRecorder info.type
  · rw [hinfo.recorder hrecorder]
    refine ⟨[], ?_, rfl⟩
    obtain ⟨-, hlength | houtput⟩ := halone _ _ hinfo.type hrecorder hinput
    · rw [if_pos ⟨hrecorder, hlength⟩]
    · rw [houtput]
      split <;> rfl
  · obtain ⟨output, houtput, hlength⟩ := hinfo.output hrecorder
    exact ⟨output, by rw [if_neg (fun hand => hrecorder hand.1), houtput]; rfl, hlength.symm⟩

theorem InfoOf.readAlike (hinfo : InfoOf cm args info) (h : Readable cm args)
    (hknown : ∀ code, info.type ≠ .other code) (halone : RecordsAlone cm args) :
    ReadAlike cm args info := by
  obtain ⟨logo, hlogo⟩ := h.logo
  obtain ⟨attempts, hattempts⟩ := makeRestartAttempts_of_pos h.attempts
  obtain ⟨input, hinput, hlength⟩ := hinfo.input
  obtain ⟨output, houtput, hlength'⟩ := hinfo.exists_makeOutput halone hinput
  have hbase : makeBase cm args = .ok ⟨info.type, attempts, _, input, output⟩ :=
    makeBase_eq_ok_iff.2 ⟨hinfo.type, hinfo.not_proxy, hinput, houtput, hattempts, rfl⟩
  obtain ⟨object, hobject⟩ : ∃ object, makeObject cm args (makeAudioVideo cm args
      ⟨info.type, attempts, _, input, output⟩) = .ok object :=
    (exists_makeObject hlogo).2 ⟨hinfo.not_proxy, hknown,
      fun hrecorder => (halone _ _ hinfo.type hrecorder hinput).1⟩
  refine ⟨object, bind_eq_ok_iff.2 ⟨_, hbase, hobject⟩, ?_⟩
  rw [(makeObject_eq_ok hobject).1]
  exact ⟨rfl, hlength.symm, hlength'⟩

/-- **The daemon and the stream read the configuration alike**, but for recorders. -/
theorem readAlike_iff (hargs : validateConfig lib text = .ok args)
    (hinfo : makeStreamInfo lib.toCommon createAndCheckDir args true = .ok info) :
    ReadAlike lib.toCommon args info ↔ RecordsAlone lib.toCommon args := by
  have hvalidated := validated_of_validateConfig hargs
  have hinfo := infoOf_makeStreamInfo hinfo
  exact ⟨hinfo.recordsAlone hvalidated.readable,
    hinfo.readAlike hvalidated.readable (known_of_validated hvalidated hinfo.type)⟩

/-! ### Two recorders -/

/-- The text that json-c writes for one input, or for two. -/
def urlsText (two : Bool) : String :=
  if two then "\x7b \"urls\": [ \x7b \x7d, \x7b \x7d ] \x7d"
  else "\x7b \"urls\": [ \x7b \x7d ] \x7d"

def urlsJson (two : Bool) : Json :=
  .object [("urls", .array (if two then [.object [], .object []] else [.object []]))]

/-- The text of a recorder of one input, or of two, without outputs. -/
def recorderText (two : Bool) : String :=
  "\x7b\"id\":\"1\",\"type\":4,\"feedback_directory\":\"~\",\"timeshift_dir\":\"~\",\"input\":" ++
    urlsText two ++ "\x7d"

def recorderJson (two : Bool) : Json :=
  .object [("id", .string "1"), ("type", .int 4), ("feedback_directory", .string "~"),
    ("timeshift_dir", .string "~"), ("input", urlsJson two)]

/-- The libraries on these texts. -/
def recorderLibrary : Library where
  toCommon := { Common.blank with
    co := { Common.blank.co with
      text
        | .int n => toString n.toInt
        | .object [("urls", .array [_])] => urlsText false
        | _ => urlsText true }
    tokenerParse text :=
      if text = recorderText false then recorderJson false
      else if text = recorderText true then recorderJson true
      else if text = urlsText false then urlsJson false
      else if text = urlsText true then urlsJson true
      else .null
    toUInt8 text := if text = "4" then some 4 else none }
  toUInt16 _ := none
  isValidPath _ := true
  logLevelEmerg := 0
  logLevelDebug := 7
  criticalStops := true

theorem exists_recorderInfo (two : Bool) : ∃ args info,
    validateConfig recorderLibrary (recorderText two) = .ok args ∧
      makeStreamInfo recorderLibrary.toCommon (fun _ => none) args true = .ok info := by
  cases two with
  | false =>
    obtain ⟨args, hargs⟩ :
        ∃ args, validateConfig recorderLibrary (recorderText false) = .ok args := ⟨_, rfl⟩
    cases hargs
    exact ⟨_, _, rfl, rfl⟩
  | true =>
    obtain ⟨args, hargs⟩ :
        ∃ args, validateConfig recorderLibrary (recorderText true) = .ok args := ⟨_, rfl⟩
    cases hargs
    exact ⟨_, _, rfl, rfl⟩

theorem readAlike_oneInput : ∃ args info,
    validateConfig recorderLibrary (recorderText false) = .ok args ∧
      makeStreamInfo recorderLibrary.toCommon (fun _ => none) args true = .ok info ∧
      ReadAlike recorderLibrary.toCommon args info := by
  obtain ⟨args, info, hargs, hinfo⟩ := exists_recorderInfo false
  refine ⟨args, info, hargs, hinfo, (readAlike_iff hargs hinfo).2 ?_⟩
  cases hargs
  intro type input htype hrecorder hinput
  cases hinput
  refine ⟨?_, .inl (by decide)⟩
  intro hzero
  cases hzero

/-- A recorder of two inputs is started, and its stream ends for want of outputs. -/
theorem readAlike_twoInputs_fails : ∃ args info,
    validateConfig recorderLibrary (recorderText true) = .ok args ∧
      makeStreamInfo recorderLibrary.toCommon (fun _ => none) args true = .ok info ∧
      ¬ ReadAlike recorderLibrary.toCommon args info := by
  obtain ⟨args, info, hargs, hinfo⟩ := exists_recorderInfo true
  refine ⟨args, info, hargs, hinfo, ?_⟩
  cases hargs
  rintro ⟨object, hobject, -⟩
  cases hobject

end IptvCloud.Server.Daemon
