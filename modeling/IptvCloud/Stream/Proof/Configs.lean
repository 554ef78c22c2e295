import IptvCloud.Lib.Checked
import IptvCloud.Stream.Configs

/-!
# The configurations that `make_config` accepts

What an accepted argument map says about the object: its type and its inputs are those of the map
(`Accepted`), and its class is the one of the type (`ClassOf`). `Returns` says that no `CHECK`
fails; for a map whose restarts, outputs and logo pass, it is decided by the inputs and the duration
of the chunks (`Readable.returns_makeConfig`).
-/

namespace IptvCloud.Streams

open Checked JsonC

variable {cm : Common} {args : ArgsMap} {conf : Config} {aconf : AudioVideoConfig}
  {object : ConfigObject}

/-- The class of the objects of a type. -/
inductive ClassOf : StreamType → ConfigObject → Prop
  | screen (config : AudioVideoConfig) : ClassOf .screen (.audioVideo config)
  | relay (config : RelayConfig) : ClassOf .relay (.relay config)
  | timeshiftPlayer (config : RelayConfig) : ClassOf .timeshiftPlayer (.relay config)
  | testLife (config : RelayConfig) : ClassOf .testLife (.relay config)
  | vodRelay (config : VodRelayConfig) : ClassOf .vodRelay (.vodRelay config)
  | encode (config : EncodingConfig) : ClassOf .encode (.encoding config)
  | vodEncode (config : VodEncodeConfig) : ClassOf .vodEncode (.vodEncode config)
  | timeshiftRecorder (config : TimeshiftConfig) : ClassOf .timeshiftRecorder (.timeshift config)
  | catchup (config : TimeshiftConfig) : ClassOf .catchup (.timeshift config)

/-- What is known of a configuration that is accepted. -/
structure Accepted (cm : Common) (args : ArgsMap) (object : ConfigObject) : Prop where
  type : (argsGetValue args "type" cm.toUInt8).map StreamType.ofUInt8 = some object.base.type
  input : readInput cm args = .ok object.base.input
  loop : object.base.loop = (argsGetValue args "loop" cm.toBool).getD false
  classOf : ClassOf object.base.type object

theorem readUrls_eq_ok_iff {α : Type} {field : String} {read : Decoded (List α)} {urls : List α} :
    readUrls field read = .ok urls ↔ read = .ok urls := by
  unfold readUrls
  cases read with
  | ok urls' => simp
  | error failure => cases failure <;> simp [defineVariable, makeError]

/-- The type that `make_config` reads. -/
def argsType (cm : Common) (args : ArgsMap) : Option StreamType :=
  (argsGetValue args "type" cm.toUInt8).map StreamType.ofUInt8

theorem makeBase_of_none (h : argsType cm args = none) :
    makeBase cm args = defineVariable "type" := by
  unfold makeBase
  rw [Option.map_eq_none_iff.1 h]

theorem makeBase_of_type {type : StreamType} (h : argsType cm args = some type) :
    makeBase cm args =
      if type = .proxy then makeError "Proxy streams not handled for now"
      else do
        let input ← readUrls "input" (readInput cm args)
        let output ← makeOutput cm args type input
        let attempts ← makeRestartAttempts cm args
        return ⟨type, attempts, argsGetValue args "auto_exit_time" cm.toTime, input, output⟩ := by
  obtain ⟨code, hcode, rfl⟩ := Option.map_eq_some_iff.1 h
  unfold makeBase
  rw [hcode]

theorem makeBase_eq_ok_iff : makeBase cm args = .ok conf ↔
    argsType cm args = some conf.type ∧ conf.type ≠ .proxy ∧ readInput cm args = .ok conf.input ∧
      makeOutput cm args conf.type conf.input = .ok conf.output ∧
      makeRestartAttempts cm args = .ok conf.maxRestartAttempts ∧
      argsGetValue args "auto_exit_time" cm.toTime = conf.ttlSec := by
  cases htype : argsType cm args with
  | none => simp [makeBase_of_none htype, defineVariable, makeError]
  | some type =>
    rw [makeBase_of_type htype]
    split
    · simp_all [makeError]
    · rename_i hproxy
      simp only [bind_eq_ok_iff, readUrls_eq_ok_iff]
      constructor
      · rintro ⟨input, hinput, output, houtput, attempts, hattempts, h⟩
        cases h
        exact ⟨rfl, hproxy, hinput, houtput, hattempts, rfl⟩
      · rintro ⟨h, -, hinput, houtput, hattempts, httl⟩
        cases h
        exact ⟨_, hinput, _, houtput, _, hattempts, by rw [httl]; rfl⟩

theorem makeEncoding_base {econfig : EncodingConfig}
    (h : makeEncoding cm args aconf = .ok econfig) :
    econfig.toAudioVideoConfig = aconf := by
  obtain ⟨logo, -, h⟩ := bind_eq_ok_iff.1 h
  cases h
  rfl

theorem makeObject_eq_ok (h : makeObject cm args aconf = .ok object) :
    object.base = aconf ∧ ClassOf aconf.type object := by
  cases htype : aconf.type with
  | screen =>
    simp only [makeObject, htype] at h
    cases h
    exact ⟨rfl, .screen _⟩
  | relay =>
    simp only [makeObject, htype] at h
    cases h
    exact ⟨rfl, .relay _⟩
  | timeshiftPlayer =>
    simp only [makeObject, htype] at h
    cases h
    exact ⟨rfl, .timeshiftPlayer _⟩
  | testLife =>
    simp only [makeObject, htype] at h
    cases h
    exact ⟨rfl, .testLife _⟩
  | vodRelay =>
    simp only [makeObject, htype] at h
    cases h
    exact ⟨rfl, .vodRelay _⟩
  | encode =>
    simp only [makeObject, htype] at h
    split at h
    · rename_i econfig he
      cases h
      exact ⟨makeEncoding_base he, .encode _⟩
    · cases h
  | vodEncode =>
    simp only [makeObject, htype] at h
    split at h
    · rename_i econfig he
      cases h
      exact ⟨makeEncoding_base he, .vodEncode _⟩
    · cases h
  | timeshiftRecorder =>
    simp only [makeObject, htype] at h
    split at h
    · cases h
    · cases h
      exact ⟨rfl, .timeshiftRecorder _⟩
  | catchup =>
    simp only [makeObject, htype] at h
    split at h
    · cases h
    · cases h
      exact ⟨rfl, .catchup _⟩
  | proxy =>
    simp only [makeObject, htype, makeError] at h
    cases h
  | other code =>
    simp only [makeObject, htype, makeError] at h
    cases h

theorem accepted_of_makeConfig (h : makeConfig cm args = .ok object) : Accepted cm args object := by
  obtain ⟨conf, hconf, hobject⟩ := bind_eq_ok_iff.1 h
  obtain ⟨htype, -, hinput, -⟩ := makeBase_eq_ok_iff.1 hconf
  obtain ⟨hbase, hclass⟩ := makeObject_eq_ok hobject
  rw [← hbase] at hclass
  exact ⟨by rw [hbase]; exact htype, by rw [hbase]; exact hinput, by rw [hbase]; rfl, hclass⟩

/-- A condition on the type and the inputs of the map is one on those of the object. -/
theorem Accepted.exists_args_iff (h : Accepted cm args object)
    {P : StreamType → List InputUri → Prop} :
    (∃ code input, argsGetValue args "type" cm.toUInt8 = some code ∧ readInput cm args = .ok input ∧
      P (.ofUInt8 code) input) ↔ P object.base.type object.base.input := by
  obtain ⟨code, hcode, htype⟩ := Option.map_eq_some_iff.1 h.type
  refine ⟨fun ⟨code', input, hcode', hinput, hP⟩ => ?_, fun hP => ?_⟩
  · cases hcode.symm.trans hcode'
    cases h.input.symm.trans hinput
    exact htype ▸ hP
  · exact ⟨code, _, hcode, h.input, htype ▸ hP⟩

/-! ## Errors and checks -/

/-- A value or an error is returned: no `CHECK` fails and json-c is not misused. -/
def Returns {α : Type} : Except Unmade α → Prop
  | .ok _ | .error (.failed (.refused _)) => True
  | .error (.failed .nullString) | .error (.failed .notArray) | .error (.checkFailed _) => False

@[simp] theorem returns_ok {α : Type} (a : α) : Returns (.ok a : Except Unmade α) := trivial

@[simp] theorem returns_makeError {α : Type} (text : String) :
    Returns (makeError text : Except Unmade α) := trivial

@[simp] theorem returns_defineVariable {α : Type} (field : String) :
    Returns (defineVariable field : Except Unmade α) := trivial

theorem returns_bind {α β : Type} (x : Except Unmade α) (f : α → Except Unmade β) :
    Returns (x >>= f) ↔ Returns x ∧ ∀ a, x = .ok a → Returns (f a) := by
  cases x with
  | ok a => simp [bind, Except.bind]
  | error unmade =>
    cases unmade with
    | failed failure => cases failure <;> simp [bind, Except.bind, Returns]
    | checkFailed text => simp [bind, Except.bind, Returns]

theorem returns_readUrls {α : Type} {field : String} {read : Decoded (List α)} :
    Returns (readUrls field read) ↔ isDefined read = true := by
  cases read with
  | ok urls => simp [readUrls]
  | error failure =>
    cases failure with
    | refused err => simp [readUrls]
    | nullString | notArray => simp [readUrls, Returns, isDefined]

theorem makeRestartAttempts_of_pos
    (h : argsGetValue args "restart_attempts" cm.toSize ≠ some 0) :
    ∃ attempts, makeRestartAttempts cm args = .ok attempts := by
  unfold makeRestartAttempts
  cases hget : argsGetValue args "restart_attempts" cm.toSize with
  | none => exact ⟨_, rfl⟩
  | some attempts =>
    have hpos : attempts > 0 := by
      have hne : attempts ≠ 0 := fun h0 => h (by rw [hget, h0])
      exact UInt64.pos_iff_ne_zero.2 hne
    exact ⟨attempts, if_pos hpos⟩

/-- A recorder, which writes chunks. -/
def IsRecorder (type : StreamType) : Prop := type = .timeshiftRecorder ∨ type = .catchup

instance (type : StreamType) : Decidable (IsRecorder type) := inferInstanceAs (Decidable (_ ∨ _))

theorem makeOutput_eq {type : StreamType} {input : List InputUri} :
    makeOutput cm args type input =
      if IsRecorder type ∧ input.length ≤ 1 then .ok []
      else readUrls "output" (readOutput cm args) := by
  refine if_congr ?_ rfl rfl
  simp only [IsRecorder, gt_iff_lt, not_lt, ← or_and_right]

/-- The duration that a recorder must not get. -/
def HasZeroDuration (cm : Common) (args : ArgsMap) : Prop :=
  argsGetValue args "timeshift_chunk_duration" cm.toTime = some 0

theorem getD_duration_eq_zero :
    (argsGetValue args "timeshift_chunk_duration" cm.toTime).getD 120 = 0 ↔
      HasZeroDuration cm args := by
  unfold HasZeroDuration
  cases argsGetValue args "timeshift_chunk_duration" cm.toTime <;> simp

theorem makeEncoding_of_logo {logo : Logo} (h : argsGetLogo cm args = .ok logo) :
    ∃ econfig, makeEncoding cm args aconf = .ok econfig := by
  unfold makeEncoding
  rw [h]
  exact ⟨_, rfl⟩

section
variable {logo : Logo} (hlogo : argsGetLogo cm args = .ok logo)
include hlogo

theorem returns_makeObject :
    Returns (makeObject cm args aconf) ↔ (IsRecorder aconf.type → ¬ HasZeroDuration cm args) := by
  obtain ⟨econfig, hencoding⟩ : ∃ econfig, makeEncoding cm args aconf = .ok econfig :=
    makeEncoding_of_logo hlogo
  cases htype : aconf.type with
  | timeshiftRecorder | catchup =>
    rw [← getD_duration_eq_zero]
    simp only [makeObject, htype, IsRecorder]
    split <;> simp_all [Returns]
  | _ => simp [makeObject, htype, hencoding, IsRecorder]

theorem exists_makeObject :
    (∃ object, makeObject cm args aconf = .ok object) ↔
      aconf.type ≠ .proxy ∧ (∀ code, aconf.type ≠ .other code) ∧
        (IsRecorder aconf.type → ¬ HasZeroDuration cm args) := by
  obtain ⟨econfig, hencoding⟩ : ∃ econfig, makeEncoding cm args aconf = .ok econfig :=
    makeEncoding_of_logo hlogo
  cases htype : aconf.type with
  | timeshiftRecorder | catchup =>
    rw [← getD_duration_eq_zero]
    simp only [makeObject, htype, IsRecorder]
    split <;> simp_all
  | _ => simp [makeObject, htype, hencoding, IsRecorder, makeError]

end

/-- The restarts, the outputs and the logo of the map pass. -/
structure Readable (cm : Common) (args : ArgsMap) : Prop where
  attempts : argsGetValue args "restart_attempts" cm.toSize ≠ some 0
  output : ∀ text, args.lookup "output" = some text → ∃ output, readOutput cm args = .ok output
  logo : ∃ logo, argsGetLogo cm args = .ok logo

theorem Readable.isDefined_readOutput (h : Readable cm args) :
    isDefined (readOutput cm args) = true := by
  cases htext : args.lookup "output" with
  | none => simp [readOutput, htext]
  | some text =>
    obtain ⟨output, houtput⟩ := h.output text htext
    simp [houtput]

theorem Readable.exists_readOutput_iff (h : Readable cm args) :
    (∃ output, readOutput cm args = .ok output) ↔ args.lookup "output" ≠ none := by
  cases htext : args.lookup "output" with
  | none => simp [readOutput, htext]
  | some text => simpa using h.output text htext

theorem Readable.returns_makeOutput (h : Readable cm args) (type : StreamType)
    (input : List InputUri) : Returns (makeOutput cm args type input) := by
  rw [makeOutput_eq]
  split
  · exact returns_ok _
  · exact returns_readUrls.2 h.isDefined_readOutput

/-- The outputs are there to be read, or they are not needed. -/
theorem Readable.exists_makeOutput_iff (h : Readable cm args) {type : StreamType}
    {input : List InputUri} :
    (∃ output, makeOutput cm args type input = .ok output) ↔
      (IsRecorder type ∧ input.length ≤ 1) ∨ args.lookup "output" ≠ none := by
  rw [makeOutput_eq, ← h.exists_readOutput_iff]
  split
  · rename_i hrecorder
    simp [hrecorder]
  · rename_i hrecorder
    simp [hrecorder, readUrls_eq_ok_iff]

theorem Readable.returns_makeBase (h : Readable cm args) : Returns (makeBase cm args) ↔
    ∀ type, argsType cm args = some type → type ≠ .proxy →
      isDefined (readInput cm args) = true := by
  obtain ⟨attempts, hattempts⟩ := makeRestartAttempts_of_pos h.attempts
  cases htype : argsType cm args with
  | none => simp [makeBase_of_none htype]
  | some type =>
    rw [makeBase_of_type htype]
    split
    · simp_all
    · rename_i hproxy
      simp [returns_bind, returns_readUrls, h.returns_makeOutput, hattempts, hproxy, pure,
        Except.pure]

/-- When `make_config` returns. -/
theorem Readable.returns_makeConfig (h : Readable cm args) : Returns (makeConfig cm args) ↔
    ∀ type, argsType cm args = some type → type ≠ .proxy →
      isDefined (readInput cm args) = true ∧
        ∀ input, readInput cm args = .ok input → IsRecorder type →
          input.length ≤ 1 ∨ args.lookup "output" ≠ none → ¬ HasZeroDuration cm args := by
  obtain ⟨logo, hlogo⟩ := h.logo
  obtain ⟨attempts, hattempts⟩ := makeRestartAttempts_of_pos h.attempts
  rw [makeConfig, returns_bind, h.returns_makeBase]
  refine ⟨fun ⟨hdefined, hobject⟩ type htype hproxy => ⟨hdefined type htype hproxy, ?_⟩,
    fun hall => ⟨fun type htype hproxy => (hall type htype hproxy).1, ?_⟩⟩
  · intro input hinput hrecorder hneeded
    obtain ⟨output, houtput⟩ := h.exists_makeOutput_iff.2
      (hneeded.imp (fun hlength => ⟨hrecorder, hlength⟩) id)
    have hbase : makeBase cm args = .ok ⟨type, attempts, _, input, output⟩ :=
      makeBase_eq_ok_iff.2 ⟨htype, hproxy, hinput, houtput, hattempts, rfl⟩
    exact (returns_makeObject hlogo).1 (hobject _ hbase) hrecorder
  · intro conf hbase
    obtain ⟨htype, hproxy, hinput, houtput, -⟩ := makeBase_eq_ok_iff.1 hbase
    refine (returns_makeObject hlogo).2 fun hrecorder => ?_
    have hneeded := h.exists_makeOutput_iff.1 ⟨_, houtput⟩
    exact (hall _ htype hproxy).2 _ hinput hrecorder (hneeded.imp And.right id)

/-! ## Arguments of the encoders -/

section
variable {α : Type} {key : String} {convertFromString : String → Option α}
  {map : AList fun _ : String => α}

theorem lookup_checkAndSetValue {name : String} :
    (checkAndSetValue args convertFromString map name).lookup key =
      (map.lookup key).or
        (if name = key then argsGetValue args name convertFromString else none) := by
  unfold checkAndSetValue
  cases hvalue : argsGetValue args name convertFromString with
  | none => simp
  | some result =>
    dsimp only
    by_cases hkey : name = key
    · subst hkey
      cases hmap : map.lookup name with
      | none => simp [AList.lookup_eq_none.1 hmap]
      | some value =>
        have hmem : name ∈ map := AList.lookup_isSome.1 (by rw [hmap]; rfl)
        simp [hmem, hmap]
    · rw [if_neg hkey, Option.or_none]
      split
      · rfl
      · rw [AList.lookup_insert_ne (Ne.symm hkey)]

theorem lookup_foldl_checkAndSetValue {names : List String} :
    (names.foldl (checkAndSetValue args convertFromString) map).lookup key =
      (map.lookup key).or
        (if key ∈ names then argsGetValue args key convertFromString else none) := by
  induction names generalizing map with
  | nil => simp
  | cons name names ih =>
    rw [List.foldl_cons, ih, lookup_checkAndSetValue]
    by_cases hkey : name = key
    · subst hkey
      cases map.lookup name <;> cases argsGetValue args name convertFromString <;> simp
    · simp [hkey, Ne.symm hkey]

end

theorem lookup_setFlag {map : VideoEncodersArgs} {key name : String} (h : key ≠ name) :
    (setFlag cm args map name).lookup key = map.lookup key := by
  unfold setFlag
  split
  · exact AList.lookup_insert_ne h
  · rfl

theorem lookup_foldl_setFlag {map : VideoEncodersArgs} {key : String} {names : List String}
    (h : key ∉ names) : (names.foldl (setFlag cm args) map).lookup key = map.lookup key := by
  induction names generalizing map with
  | nil => rfl
  | cons name names ih =>
    rw [List.mem_cons, not_or] at h
    rw [List.foldl_cons, ih h.2, lookup_setFlag h.1]

/-- A number of an encoder is the one of the map. -/
theorem lookup_initVideoEncoderArgs {key : String} (h : key ∈ x264Args ++ hardwareArgs) :
    (initVideoEncoderArgs cm args).lookup key = argsGetValue args key cm.toUInt32 := by
  have hflags : ∀ key ∈ x264Args ++ hardwareArgs,
      key ∉ x264Flags ∧ key ≠ "eavcenc.gop-adaptive" := by
    decide +kernel
  obtain ⟨hx264, hgop⟩ := hflags key h
  simp only [initVideoEncoderArgs]
  rw [lookup_setFlag hgop, lookup_foldl_checkAndSetValue, lookup_foldl_setFlag hx264,
    lookup_foldl_checkAndSetValue, AList.lookup_empty, Option.none_or]
  rcases List.mem_append.1 h with hmem | hmem
  · rw [if_pos hmem]
    cases argsGetValue args key cm.toUInt32 <;> simp
  · rw [if_pos hmem]
    split
    · cases argsGetValue args key cm.toUInt32 <;> rfl
    · rfl

end IptvCloud.Streams
