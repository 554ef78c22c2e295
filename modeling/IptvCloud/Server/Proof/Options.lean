import IptvCloud.Server.Options
import IptvCloud.Stream.Proof.Configs

/-!
# What `ValidateConfig` accepts

Apart from those of `output`, `logo` and `timeshift_dir`, every validator looks at one condition and
answers valid or invalid (`plain_of_findOption`). The loop over the fields returns when none of
these three stops it, and an option of its map is the last accepted value of the key (`optionText`,
`foldlM_acceptField`).
-/

namespace IptvCloud.Server.Options

open Checked JsonC Streams

variable {lib : Library} {args args' : ArgsMap} {key value : String} {validator : Validator}
  {field : String × Json} {fields : List (String × Json)}

/-! ## Validators -/

@[simp] theorem validateIf_eq_valid {holds : String → Bool} {isFatal : Bool} :
    validateIf holds isFatal value = .ok .valid ↔ holds value = true := by
  unfold validateIf validityOf
  cases holds value <;> cases isFatal <;> simp

theorem validateRange_eq_valid {α : Type} [LE α] [DecidableLE α]
    {convertFromString : String → Option α} {min max : α} {isFatal : Bool} :
    validateRange convertFromString min max isFatal value = .ok .valid ↔
      ∃ i, convertFromString value = some i ∧ min ≤ i ∧ i ≤ max := by
  simp [validateRange, Option.any_eq_true]

theorem validateDecodes_eq_valid {α : Type} {convertFromString : String → Decoded α} :
    validateDecodes convertFromString value = .ok .valid ↔
      ∃ a, convertFromString value = .ok a := by
  unfold validateDecodes
  split
  · simp_all
  · simp_all
  · simp_all

theorem validateDecodes_eq_ok {α : Type} {convertFromString : String → Decoded α} :
    (∃ validity, validateDecodes convertFromString value = .ok validity) ↔
      isDefined (convertFromString value) = true := by
  unfold validateDecodes
  cases convertFromString value with
  | ok a => simp
  | error failure => cases failure <;> simp [isDefined]

theorem validateDecodes_ne_fatal {α : Type} {convertFromString : String → Decoded α} :
    validateDecodes convertFromString value ≠ .ok .fatal := by
  unfold validateDecodes
  split <;> simp

/-- A validator that answers valid or invalid by a condition. -/
def Plain (validator : Validator) : Prop := ∃ holds, validator = validateIf holds false

theorem plain_dontValidate : Plain dontValidate := ⟨fun _ => true, rfl⟩

theorem plain_allowedOptions (lib : Library) : (allowedOptions lib).Forall fun option =>
    option.1 ∉ ["output", "logo", "timeshift_dir"] → Plain option.2 := by
  repeat' apply And.intro
  all_goals first
    | exact fun _ => plain_dontValidate
    | exact fun _ => ⟨_, rfl⟩
    | exact fun h => absurd (by simp) h

theorem mem_of_lookup {α β : Type} [BEq α] [LawfulBEq α] {l : List (α × β)} {a : α} {b : β}
    (h : l.lookup a = some b) : (a, b) ∈ l := by
  obtain ⟨l₁, l₂, rfl, -⟩ := List.lookup_eq_some_iff.1 h
  simp

theorem plain_of_findOption (h : findOption lib key = some validator)
    (hkey : key ∉ ["output", "logo", "timeshift_dir"]) : Plain validator :=
  List.forall_iff_forall_mem.1 (plain_allowedOptions lib) _ (mem_of_lookup h) hkey

/-! ## The loop -/

/-- The validator of the key declares the value valid. -/
def isValid (lib : Library) (key value : String) : Bool :=
  match findOption lib key with
  | none => false
  | some validator =>
    match validator value with
    | .ok .valid => true
    | _ => false

theorem isValid_iff : isValid lib key value = true ↔
    ∃ validator, findOption lib key = some validator ∧ validator value = .ok .valid := by
  unfold isValid
  cases findOption lib key with
  | none => simp
  | some validator =>
    simp only [Option.some.injEq, exists_eq_left']
    split <;> simp_all

/-- No validator stops the process at the field. -/
structure FieldReturns (lib : Library) (field : String × Json) : Prop where
  output : field.1 = "output" → isDefined (convertUrls lib.toCommon
    (OutputUri.doDeSerialize lib.toCommon) (valueStr lib field.2)) = true
  logo : field.1 = "logo" →
    isDefined (Logo.convertFromString lib.toCommon (valueStr lib field.2)) = true
  timeshiftDir : field.1 = "timeshift_dir" → lib.criticalStops = true →
    lib.isValidPath (valueStr lib field.2) = true

/-- The options after a field that does not stop the process. -/
def storeField (lib : Library) (options : ArgsMap) (field : String × Json) : ArgsMap :=
  if isValid lib field.1 (valueStr lib field.2) then options.insert field.1 (valueStr lib field.2)
  else options

/-- The validator returns and does not stop the process. -/
def ValidatorReturns (lib : Library) (validator : Validator) (value : String) : Prop :=
  ∃ validity, validator value = .ok validity ∧ (validity = .fatal → lib.criticalStops = false)

theorem validatorReturns_decodes {α : Type} {convertFromString : String → Decoded α} :
    ValidatorReturns lib (validateDecodes convertFromString) value ↔
      isDefined (convertFromString value) = true := by
  rw [← validateDecodes_eq_ok]
  refine ⟨fun ⟨validity, h, _⟩ => ⟨validity, h⟩, fun ⟨validity, h⟩ => ⟨validity, h, ?_⟩⟩
  intro hfatal
  exact absurd (hfatal ▸ h) validateDecodes_ne_fatal

theorem validatorReturns_if {holds : String → Bool} {isFatal : Bool} :
    ValidatorReturns lib (validateIf holds isFatal) value ↔
      (isFatal = true → lib.criticalStops = true → holds value = true) := by
  unfold ValidatorReturns validateIf validityOf
  cases holds value <;> cases isFatal <;> simp

theorem validatorReturns_iff (h : findOption lib field.1 = some validator) :
    ValidatorReturns lib validator (valueStr lib field.2) ↔ FieldReturns lib field := by
  obtain ⟨key, val⟩ := field
  by_cases houtput : key = "output"
  · subst houtput
    obtain rfl : validateOutput lib = validator := Option.some.inj h
    rw [validateOutput, validatorReturns_decodes]
    exact ⟨fun h => ⟨fun _ => h, by simp, by simp⟩, fun h => h.output rfl⟩
  by_cases hlogo : key = "logo"
  · subst hlogo
    obtain rfl : validateLogo lib = validator := Option.some.inj h
    rw [validateLogo, validatorReturns_decodes]
    exact ⟨fun h => ⟨by simp, fun _ => h, by simp⟩, fun h => h.logo rfl⟩
  by_cases hdir : key = "timeshift_dir"
  · subst hdir
    obtain rfl : validateTimeshiftDir lib = validator := Option.some.inj h
    rw [validateTimeshiftDir, validatorReturns_if]
    exact ⟨fun h => ⟨by simp, by simp, fun _ => h rfl⟩, fun h _ => h.timeshiftDir rfl⟩
  · obtain ⟨holds, rfl⟩ := plain_of_findOption h (by simp [houtput, hlogo, hdir])
    rw [validatorReturns_if]
    exact ⟨fun _ => ⟨fun h => absurd h houtput, fun h => absurd h hlogo, fun h => absurd h hdir⟩,
      by simp⟩

/-- An unknown key is none of the three. -/
theorem fieldReturns_of_none (h : findOption lib field.1 = none) : FieldReturns lib field := by
  obtain ⟨key, val⟩ := field
  refine ⟨?_, ?_, ?_⟩
  · rintro rfl
    cases h
  · rintro rfl
    cases h
  · rintro rfl
    cases h

theorem acceptField_eq_ok : acceptField lib args field = .ok args' ↔
    FieldReturns lib field ∧ storeField lib args field = args' := by
  cases hopt : findOption lib field.1 with
  | none =>
    have hreturns := fieldReturns_of_none hopt
    have hvalid : isValid lib field.1 (valueStr lib field.2) = false := by
      simp only [isValid, hopt]
    simp [acceptField, storeField, hopt, hreturns, hvalid]
  | some validator =>
    rw [← validatorReturns_iff hopt]
    cases hv : validator (valueStr lib field.2) with
    | error failure => simp [acceptField, ValidatorReturns, hopt, hv]
    | ok validity =>
      cases validity with
      | valid | invalid =>
        simp [acceptField, storeField, isValid, ValidatorReturns, hopt, hv]
      | fatal =>
        cases hstops : lib.criticalStops with
        | false =>
          simp [acceptField, storeField, isValid, ValidatorReturns, criticalLog, hopt, hv, hstops,
            bind, Except.bind, pure, Except.pure]
        | true =>
          simp [acceptField, ValidatorReturns, criticalLog, hopt, hv, hstops, bind, Except.bind]

/-- The loop returns when no field stops it. -/
theorem foldlM_acceptField : fields.foldlM (acceptField lib) args = .ok args' ↔
    (∀ field ∈ fields, FieldReturns lib field) ∧ fields.foldl (storeField lib) args = args' := by
  induction fields generalizing args with
  | nil => simp [pure, Except.pure]
  | cons field fields ih =>
    rw [List.foldlM_cons, bind_eq_ok_iff, List.forall_mem_cons, List.foldl_cons]
    constructor
    · rintro ⟨args₁, hfield, hrest⟩
      obtain ⟨hreturns, rfl⟩ := acceptField_eq_ok.1 hfield
      obtain ⟨hall, rfl⟩ := ih.1 hrest
      exact ⟨⟨hreturns, hall⟩, rfl⟩
    · rintro ⟨⟨hreturns, hall⟩, rfl⟩
      exact ⟨_, acceptField_eq_ok.2 ⟨hreturns, rfl⟩, ih.2 ⟨hall, rfl⟩⟩

/-- The last value of the key that its validator accepts. -/
def optionText (lib : Library) (fields : List (String × Json)) (key : String) : Option String :=
  ((fields.filter fun field =>
      field.1 == key && isValid lib key (valueStr lib field.2)).getLast?).map
    fun field => valueStr lib field.2

theorem lookup_storeField : (storeField lib args field).lookup key =
    if field.1 = key ∧ isValid lib key (valueStr lib field.2) = true then
      some (valueStr lib field.2) else args.lookup key := by
  unfold storeField
  by_cases hkey : field.1 = key
  · subst hkey
    cases hvalid : isValid lib field.1 (valueStr lib field.2) <;> simp
  · split
    · rw [AList.lookup_insert_ne (Ne.symm hkey)]
      simp [hkey]
    · simp [hkey]

/-- What the loop stores under a key. -/
theorem lookup_foldl_storeField : (fields.foldl (storeField lib) args).lookup key =
    (optionText lib fields key).or (args.lookup key) := by
  induction fields generalizing args with
  | nil => rfl
  | cons field fields ih =>
    rw [List.foldl_cons, ih, lookup_storeField, optionText, optionText, List.filter_cons]
    by_cases h : field.1 = key ∧ isValid lib key (valueStr lib field.2) = true
    · rw [if_pos h, if_pos (by simp [h.1, h.2]), List.getLast?_cons]
      cases (fields.filter fun field =>
        field.1 == key && isValid lib key (valueStr lib field.2)).getLast? <;> simp
    · rw [if_neg h, if_neg (by simpa using h)]

theorem isValid_of_optionText (h : optionText lib fields key = some value) :
    isValid lib key value = true := by
  obtain ⟨field, hfield, rfl⟩ := Option.map_eq_some_iff.1 h
  have hmem := List.mem_of_getLast? hfield
  simp only [List.mem_filter, Bool.and_eq_true, beq_iff_eq] at hmem
  exact hmem.2.2

theorem criticalLog_eq_ok {text : String} {u : Unit} :
    criticalLog lib text = .ok u ↔ lib.criticalStops = false := by
  unfold criticalLog
  cases lib.criticalStops <;> simp

theorem acceptFields_eq_ok {obj : Json} : acceptFields lib obj = .ok args ↔
    ∃ fields, obj = .object fields ∧ (∀ field ∈ fields, FieldReturns lib field) ∧
      fields.foldl (storeField lib) ∅ = args := by
  cases obj with
  | object fields => simp [acceptFields, foldlM_acceptField]
  | null => simp [acceptFields, bind_eq_ok_iff]
  | _ => simp [acceptFields]

/-- The result of `ValidateConfig`. -/
theorem validateConfig_eq_ok {text : String} : validateConfig lib text = .ok args ↔
    (lib.criticalStops = true → text ≠ "") ∧
      ∃ fields, lib.tokenerParse text = .object fields ∧
        (∀ field ∈ fields, FieldReturns lib field) ∧ fields.foldl (storeField lib) ∅ = args := by
  rw [← acceptFields_eq_ok]
  unfold validateConfig
  by_cases hempty : text = ""
  · simp [hempty, criticalLog_eq_ok, bind_eq_ok_iff]
  · simp [hempty]

/-- The map has only options that their validators accept. -/
def Validated (lib : Library) (args : ArgsMap) : Prop :=
  ∀ key value, args.lookup key = some value → isValid lib key value = true

theorem validated_foldl_storeField : Validated lib (fields.foldl (storeField lib) ∅) := by
  intro key value h
  rw [lookup_foldl_storeField, AList.lookup_empty, Option.or_none] at h
  exact isValid_of_optionText h

theorem validated_of_validateConfig {text : String} (h : validateConfig lib text = .ok args) :
    Validated lib args := by
  obtain ⟨-, fields, -, -, rfl⟩ := validateConfig_eq_ok.1 h
  exact validated_foldl_storeField

theorem Validated.eq_valid (h : Validated lib args) (hkey : findOption lib key = some validator)
    (hvalue : args.lookup key = some value) : validator value = .ok .valid := by
  obtain ⟨validator', hkey', hvalid⟩ := isValid_iff.1 (h key value hvalue)
  cases hkey.symm.trans hkey'
  exact hvalid

/-- What `make_config` takes from the validators. -/
theorem Validated.readable (h : Validated lib args) : Readable lib.toCommon args where
  attempts := by
    intro hzero
    obtain ⟨text, htext, hsize⟩ := Option.bind_eq_some_iff.1 hzero
    have hvalid : validateRestartAttempts lib text = .ok .valid := h.eq_valid rfl htext
    obtain ⟨i, hi, hpos, -⟩ := validateRange_eq_valid.1 hvalid
    cases hsize.symm.trans hi
    exact absurd hpos (by decide)
  output text htext := by
    have hvalid : validateOutput lib text = .ok .valid := h.eq_valid rfl htext
    obtain ⟨output, houtput⟩ := validateDecodes_eq_valid.1 hvalid
    exact ⟨output, by rw [readOutput, htext]; exact houtput⟩
  logo := by
    unfold argsGetLogo
    cases htext : args.lookup "logo" with
    | none => exact ⟨_, rfl⟩
    | some text =>
      have hvalid : validateLogo lib text = .ok .valid := h.eq_valid rfl htext
      obtain ⟨logo, hlogo⟩ := validateDecodes_eq_valid.1 hvalid
      exact ⟨logo, by simp only [hlogo]⟩

/-! ## Configurations that stop nothing -/

/-- `ValidateConfig` returns a map, and `make_config` of it an error or a configuration. -/
def Survives (lib : Library) (text : String) : Prop :=
  ∃ args, validateConfig lib text = .ok args ∧ Returns (makeConfig lib.toCommon args)

/-- The type that an object gives to the stream. -/
def optionType (lib : Library) (fields : List (String × Json)) : Option StreamType :=
  ((optionText lib fields "type").bind lib.toUInt8).map StreamType.ofUInt8

/-- The inputs that an object gives to the stream. -/
def optionInput (lib : Library) (fields : List (String × Json)) :
    Option (Decoded (List InputUri)) :=
  (optionText lib fields "input").map
    (convertUrls lib.toCommon (InputUri.doDeSerialize lib.toCommon))

/-- The fields of a configuration that stops nothing: the validators return; the inputs of a stream
do not misuse json-c; a recorder whose urls are read is not given chunks of duration 0. -/
structure Harmless (lib : Library) (fields : List (String × Json)) : Prop where
  returns : ∀ field ∈ fields, FieldReturns lib field
  input : ∀ type urls, optionType lib fields = some type → type ≠ .proxy →
    optionInput lib fields = some urls → isDefined urls = true
  duration : ∀ type input, optionType lib fields = some type → IsRecorder type →
    optionInput lib fields = some (.ok input) →
    input.length ≤ 1 ∨ optionText lib fields "output" ≠ none →
    (optionText lib fields "timeshift_chunk_duration").bind lib.toTime ≠ some 0

theorem readInput_eq_option (h : args.lookup "input" = optionText lib fields "input") :
    readInput lib.toCommon args =
      (optionInput lib fields).getD (.error (.refused .inval)) := by
  rw [readInput, h, optionInput]
  cases optionText lib fields "input" <;> rfl

theorem returns_makeConfig_iff (hreturns : ∀ field ∈ fields, FieldReturns lib field) :
    Returns (makeConfig lib.toCommon (fields.foldl (storeField lib) ∅)) ↔ Harmless lib fields := by
  have hlookup key : (fields.foldl (storeField lib) ∅).lookup key = optionText lib fields key := by
    rw [lookup_foldl_storeField, AList.lookup_empty, Option.or_none]
  rw [validated_foldl_storeField.readable.returns_makeConfig, readInput_eq_option (hlookup _)]
  simp only [argsType, HasZeroDuration, argsGetValue, hlookup]
  constructor
  · intro h
    refine ⟨hreturns, fun type urls htype hproxy hurls => ?_,
      fun type input htype hrecorder hinput hneeded => ?_⟩
    · have hdefined := (h type htype hproxy).1
      rw [hurls] at hdefined
      exact hdefined
    · have hproxy : type ≠ .proxy := by
        rcases hrecorder with rfl | rfl <;> simp
      exact (h type htype hproxy).2 input (by rw [hinput]; rfl) hrecorder hneeded
  · intro h type htype hproxy
    cases hurls : optionInput lib fields with
    | none => simp
    | some urls =>
      refine ⟨h.input type urls htype hproxy hurls, fun input hinput hrecorder hneeded => ?_⟩
      obtain rfl : urls = .ok input := hinput
      exact h.duration type input htype hrecorder hurls hneeded

/-- **No configuration text stops the process** but the texts that are no JSON object and the
objects that are not harmless. -/
theorem survives_iff_harmless (lib : Library) (text : String) : Survives lib text ↔
    (lib.criticalStops = true → text ≠ "") ∧
      ∃ fields, lib.tokenerParse text = .object fields ∧ Harmless lib fields := by
  constructor
  · rintro ⟨args, hargs, hreturns⟩
    obtain ⟨hempty, fields, hfields, hall, rfl⟩ := validateConfig_eq_ok.1 hargs
    exact ⟨hempty, fields, hfields, (returns_makeConfig_iff hall).1 hreturns⟩
  · rintro ⟨hempty, fields, hfields, h⟩
    exact ⟨_, validateConfig_eq_ok.2 ⟨hempty, fields, hfields, h.returns, rfl⟩,
      (returns_makeConfig_iff h.returns).2 h⟩

/-! ### Two texts that stop it -/

/-- The text of a recorder of one input with chunks of duration 0. -/
def zeroDurationText : String :=
  "\x7b\"type\":4,\"input\":\x7b\"urls\":[\x7b\"id\":1\x7d]\x7d,\"timeshift_chunk_duration\":0\x7d"

def sampleInput : Json := .object [("urls", .array [.object [("id", .int 1)]])]

/-- The text that json-c writes for the inputs. -/
def sampleInputText : String := "\x7b \"urls\": [ \x7b \"id\": 1 \x7d ] \x7d"

/-- The libraries on these texts. -/
def sampleLibrary : Library where
  toCommon := { Common.blank with
    co := { Common.blank.co with
      text
        | .int n => toString n.toInt
        | _ => sampleInputText }
    tokenerParse text :=
      if text = "[]" then .array []
      else if text = sampleInputText then sampleInput
      else if text = zeroDurationText then .object [("type", .int 4), ("input", sampleInput),
        ("timeshift_chunk_duration", .int 0)]
      else .null
    toUInt8 text := if text = "4" then some 4 else none
    toTime text := if text = "0" then some 0 else none }
  toUInt16 _ := none
  isValidPath _ := true
  logLevelEmerg := 0
  logLevelDebug := 7
  criticalStops := true

theorem survives_fails :
    ¬ Survives sampleLibrary "[]" ∧ ¬ Survives sampleLibrary zeroDurationText := by
  constructor
  · rintro ⟨args, h, -⟩
    cases h
  · rintro ⟨args, hargs, hreturns⟩
    cases hargs
    exact hreturns

end IptvCloud.Server.Options
