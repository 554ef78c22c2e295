import Mathlib.Data.List.Forall2
import Mathlib.Algebra.Ring.Int.Defs
import IptvCloud.Server.Proof.Options

/-!
# The integers of the options

An option is validated as one integer type and read by `make_config` as another. `optionRanges`
lists the integers that each validator lets through; it is related to the table of the options row
by row (`ranged_allowedOptions`) and compared with the types that `make_config` reads
(`admits_integerOptions`). A valid value is read as the integer it denotes but for three groups of
options: those validated as 64 bits and read as an `int`, those validated as an `int` and read as a
`uint32_t`, and those that are not validated (`readOption_iff_fits`).
-/

namespace IptvCloud.Server.Options

open JsonC Streams

/-! ## Conversions -/

/-- The conversion reads the integers between two bounds: the texts that denote one of them, with
the value they denote. -/
def Reads {α : Type} (convertFromString : String → Option α) (toInt : α → Int) (lo hi : Int)
    (denotes : String → Option Int) : Prop :=
  ∀ text, (convertFromString text).map toInt =
    (denotes text).filter fun n => decide (lo ≤ n) && decide (n ≤ hi)

/-- `ConvertFromString` to an integer type succeeds on the decimal integers of the type. -/
structure Decimal (lib : Library) (denotes : String → Option Int) : Prop where
  uint8 : Reads lib.toUInt8 (fun n => n.toNat) 0 255 denotes
  uint16 : Reads lib.toUInt16 (fun n => n.toNat) 0 65535 denotes
  uint32 : Reads lib.toUInt32 (fun n => n.toNat) 0 4294967295 denotes
  size : Reads lib.toSize (fun n => n.toNat) 0 18446744073709551615 denotes
  time : Reads lib.toTime Int64.toInt (-9223372036854775808) 9223372036854775807 denotes
  int : Reads lib.toInt Int32.toInt (-2147483648) 2147483647 denotes

variable {lib : Library} {denotes : String → Option Int} {args : ArgsMap} {key value : String}
  {validator : Validator}

theorem Reads.denotes_eq {α : Type} {convertFromString : String → Option α} {toInt : α → Int}
    {lo hi : Int} (h : Reads convertFromString toInt lo hi denotes) {a : α}
    (ha : convertFromString value = some a) :
    denotes value = some (toInt a) ∧ lo ≤ toInt a ∧ toInt a ≤ hi := by
  have hvalue := h value
  rw [ha, Option.map_some, eq_comm, Option.filter_eq_some_iff] at hvalue
  simpa using hvalue

/-! ## What the validators let through -/

/-- A valid value denotes an integer of the range. -/
def Within (denotes : String → Option Int) (range : Int × Int) (validator : Validator) : Prop :=
  ∀ value, validator value = .ok .valid →
    ∃ n, denotes value = some n ∧ range.1 ≤ n ∧ n ≤ range.2

theorem within_range {α : Type} [LE α] [DecidableLE α] {convertFromString : String → Option α}
    {toInt : α → Int} {lo hi : Int} (h : Reads convertFromString toInt lo hi denotes)
    (hmono : ∀ a b : α, a ≤ b → toInt a ≤ toInt b) (min max : α) (isFatal : Bool) :
    Within denotes (toInt min, toInt max) (validateRange convertFromString min max isFatal) := by
  intro value hvalid
  obtain ⟨i, hi, hmin, hmax⟩ := validateRange_eq_valid.1 hvalid
  exact ⟨toInt i, (h.denotes_eq hi).1, hmono _ _ hmin, hmono _ _ hmax⟩

theorem within_isPositive (h : Decimal lib denotes) :
    Within denotes (0, 9223372036854775807) (validateIsPositive lib false) := by
  intro value hvalid
  obtain ⟨i, hi, hpos⟩ := (Option.any_eq_true _ _).1 (validateIf_eq_valid.1 hvalid)
  obtain ⟨hdenotes, -, hmax⟩ := h.time.denotes_eq hi
  exact ⟨i.toInt, hdenotes, Int64.le_iff_toInt_le.1 (of_decide_eq_true hpos), hmax⟩

theorem within_allowed (h : Decimal lib denotes) {allowedValues : List Int32} {lo hi : Int}
    (hvalues : allowedValues.all fun v => decide (lo ≤ v.toInt) && decide (v.toInt ≤ hi)) :
    Within denotes (lo, hi) (validateAllowed lib allowedValues) := by
  intro value hvalid
  obtain ⟨i, hi, hany⟩ := (Option.any_eq_true _ _).1 (validateIf_eq_valid.1 hvalid)
  obtain ⟨v, hv, heq⟩ := List.any_eq_true.1 hany
  obtain rfl : v = i := eq_of_beq heq
  have hbounds := List.all_eq_true.1 hvalues v hv
  exact ⟨v.toInt, (h.int.denotes_eq hi).1, by simpa using hbounds⟩

theorem within_converts (h : Decimal lib denotes) :
    Within denotes (-2147483648, 2147483647) (validateConverts lib.toInt) := by
  intro value hvalid
  obtain ⟨i, hi⟩ := Option.isSome_iff_exists.1 (validateIf_eq_valid.1 hvalid)
  exact ⟨i.toInt, h.int.denotes_eq hi⟩

/-- A row of the options and the integers its validator lets through. -/
inductive Ranged (lib : Library) : String × Validator → String × Option (Int × Int) → Prop
  | unchecked (key : String) (validator : Validator) : Ranged lib (key, validator) (key, none)
  | uint8 (key : String) (min max : UInt8) :
    Ranged lib (key, validateRange lib.toUInt8 min max false) (key, some (min.toNat, max.toNat))
  | uint16 (key : String) (min max : UInt16) :
    Ranged lib (key, validateRange lib.toUInt16 min max false) (key, some (min.toNat, max.toNat))
  | size (key : String) (min max : UInt64) :
    Ranged lib (key, validateRange lib.toSize min max false) (key, some (min.toNat, max.toNat))
  | int (key : String) (min max : Int32) :
    Ranged lib (key, validateRange lib.toInt min max false) (key, some (min.toInt, max.toInt))
  | isPositive (key : String) :
    Ranged lib (key, validateIsPositive lib false) (key, some (0, 9223372036854775807))
  | allowed (key : String) (allowedValues : List Int32) (lo hi : Int)
    (h : allowedValues.all fun v => decide (lo ≤ v.toInt) && decide (v.toInt ≤ hi)) :
    Ranged lib (key, validateAllowed lib allowedValues) (key, some (lo, hi))
  | converts (key : String) :
    Ranged lib (key, validateConverts lib.toInt) (key, some (-2147483648, 2147483647))

theorem Ranged.within {option : String × Validator} {row : String × Option (Int × Int)}
    {range : Int × Int} (h : Decimal lib denotes) (hrow : Ranged lib option row)
    (hrange : row.2 = some range) : Within denotes range option.2 := by
  cases hrow with
  | unchecked => cases hrange
  | uint8 key min max =>
    cases hrange
    exact within_range h.uint8 (fun a b hab => Int.ofNat_le.2 hab) min max false
  | uint16 key min max =>
    cases hrange
    exact within_range h.uint16 (fun a b hab => Int.ofNat_le.2 hab) min max false
  | size key min max =>
    cases hrange
    exact within_range h.size (fun a b hab => Int.ofNat_le.2 hab) min max false
  | int key min max =>
    cases hrange
    exact within_range h.int (fun a b => Int32.le_iff_toInt_le.1) min max false
  | isPositive key =>
    cases hrange
    exact within_isPositive h
  | allowed key allowedValues lo hi hvalues =>
    cases hrange
    exact within_allowed h hvalues
  | converts key =>
    cases hrange
    exact within_converts h

/-- All integers of an `int`. -/
def intRange : Option (Int × Int) := some (-2147483648, 2147483647)

/-- The integers of 64 bits that are not negative. -/
def positiveRange : Option (Int × Int) := some (0, 9223372036854775807)

/-- The integers that the validators of the options let through; without a range the option is no
integer or is not checked. -/
def optionRanges : List (String × Option (Int × Int)) :=
  [("id", none), ("type", some (0, 9)), ("feedback_directory", none), ("log_level", none),
    ("input", none), ("output", none), ("restart_attempts", some (1, 18446744073709551615)),
    ("auto_exit_time", positiveRange), ("timeshift_dir", none),
    ("timeshift_chunk_life_time", some (0, 1036800)), ("timeshift_delay", some (0, 1036800)),
    ("mainprofile", none), ("mainprofile_external", none), ("volume", none),
    ("delay_time", positiveRange), ("timeshift_chunk_duration", positiveRange),
    ("video_parser", none), ("audio_parser", none), ("audio_codec", none), ("video_codec", none),
    ("have_video", none), ("have_audio", none), ("deinterlace", none), ("relay_audio", none),
    ("relay_video", none), ("loop", none), ("avformat", none), ("size", none),
    ("cleanup_ts", none), ("logo", none), ("framerate", positiveRange), ("aspect_ratio", none),
    ("video_bitrate", positiveRange), ("audio_bitrate", positiveRange),
    ("audio_channels", positiveRange), ("audio_select", intRange),
    ("decklink_video_mode", some (0, 30)), ("nvh264enc.preset", some (0, 65535)),
    ("mfxh264enc.preset", some (0, 7)), ("mfxh264enc.gop-size", some (0, 65535)),
    ("x264enc.speed-preset", some (0, 10)), ("x264enc.threads", some (0, 2147483647)),
    ("x264enc.tune", some (0, 4)), ("x264enc.key-int-max", some (0, 2147483647)),
    ("x264enc.vbv-buf-capacity", some (0, 10000)), ("x264enc.rc-lookahead", some (0, 250)),
    ("x264enc.qp-max", some (0, 51)), ("x264enc.pass", some (0, 19)), ("x264enc.me", some (0, 4)),
    ("x264enc.profile", none), ("x264enc.stream-format", none), ("x264enc.option-string", none),
    ("x264enc.interlaced", none), ("x264enc.dct8x8", none), ("x264enc.b-adapt", none),
    ("x264enc.byte-stream", none), ("x264enc.cabac", none), ("x264enc.sliced-threads", none),
    ("x264enc.quantizer", none), ("vaapih264enc.keyframe-period", some (0, 300)),
    ("vaapih264enc.tune", some (0, 3)), ("vaapih264enc.max-bframes", some (0, 10)),
    ("vaapih264enc.num-slices", some (1, 200)), ("vaapih264enc.init-qp", some (1, 51)),
    ("vaapih264enc.min-qp", some (1, 51)), ("vaapih264enc.rate-control", some (1, 5)),
    ("vaapih264enc.cabac", none), ("vaapih264enc.dct8x8", none),
    ("vaapih264enc.cpb-length", some (0, 10000)), ("openh264enc.multi-thread", none),
    ("openh264enc.complexity", intRange), ("openh264enc.rate-control", intRange),
    ("openh264enc.gop-size", intRange), ("eavcenc.preset", intRange),
    ("eavcenc.profile", intRange), ("eavcenc.performance", intRange),
    ("eavcenc.bitrate-mode", intRange), ("eavcenc.bitrate-pass", intRange),
    ("eavcenc.bitrate-max", intRange), ("eavcenc.vbv-size", intRange),
    ("eavcenc.picture-mode", intRange), ("eavcenc.entropy-mode", intRange),
    ("eavcenc.gop-max-bcount", intRange), ("eavcenc.gop-max-length", intRange),
    ("eavcenc.gop-min-length", intRange), ("eavcenc.level", intRange),
    ("eavcenc.deblock-mode", intRange), ("eavcenc.deblock-alpha", intRange),
    ("eavcenc.deblock-beta", intRange), ("eavcenc.initial-param", intRange),
    ("eavcenc.field-order", intRange), ("eavcenc.gop-adaptive", none)]

theorem ranged_allowedOptions (lib : Library) :
    List.Forall₂ (Ranged lib) (allowedOptions lib) optionRanges := by
  repeat' apply List.Forall₂.cons
  all_goals first
    | exact .nil
    | exact .unchecked _ _
    | exact .isPositive _
    | exact .int _ _ _
    | exact .allowed _ _ _ _ rfl
    | exact .uint8 _ _ _
    | exact .uint16 _ _ _
    | exact .size _ _ _
    | exact .converts _

theorem Ranged.key_eq {option : String × Validator} {row : String × Option (Int × Int)}
    (h : Ranged lib option row) : option.1 = row.1 := by
  cases h <;> rfl

/-- The row of an option that is found. -/
theorem lookup_of_forall₂ {options : List (String × Validator)}
    {rows : List (String × Option (Int × Int))} (h : List.Forall₂ (Ranged lib) options rows)
    (hkey : options.lookup key = some validator) :
    ∃ range, rows.lookup key = some range ∧ Ranged lib (key, validator) (key, range) := by
  induction h with
  | nil => cases hkey
  | @cons option row options rows hrow _ ih =>
    obtain ⟨optionKey, optionValidator⟩ := option
    obtain ⟨rowKey, range⟩ := row
    obtain rfl : optionKey = rowKey := hrow.key_eq
    rw [List.lookup_cons] at hkey ⊢
    cases heq : key == optionKey with
    | true =>
      simp only [heq, Option.some.injEq] at hkey
      subst hkey
      obtain rfl : key = optionKey := eq_of_beq heq
      exact ⟨range, rfl, hrow⟩
    | false =>
      simp only [heq] at hkey
      exact ih hkey

/-! ## What `make_config` reads -/

/-- The integer types of `make_config`. -/
inductive IntType
  | uint8
  | uint32
  | size
  | time
  | int
  deriving DecidableEq, Repr

def IntType.min : IntType → Int
  | .uint8 | .uint32 | .size => 0
  | .time => -9223372036854775808
  | .int => -2147483648

def IntType.max : IntType → Int
  | .uint8 => 255
  | .uint32 => 4294967295
  | .size => 18446744073709551615
  | .time => 9223372036854775807
  | .int => 2147483647

/-- The options that `make_config` reads as integers, with their types. -/
def integerOptions : List (String × IntType) :=
  [("type", .uint8), ("restart_attempts", .size), ("auto_exit_time", .time), ("audio_select", .int),
    ("framerate", .int), ("audio_channels", .int), ("video_bitrate", .int), ("audio_bitrate", .int),
    ("decklink_video_mode", .uint8), ("timeshift_chunk_duration", .time)] ++
  (x264Args ++ hardwareArgs).map fun name => (name, .uint32)

/-- The integer that `make_config` reads from an option. A `uint32_t` is a number of an encoder. -/
def readOption (lib : Library) (args : ArgsMap) (key : String) : IntType → Option Int
  | .uint8 => (argsGetValue args key lib.toUInt8).map fun n => n.toNat
  | .uint32 => ((initVideoEncoderArgs lib.toCommon args).lookup key).map fun n => n.toNat
  | .size => (argsGetValue args key lib.toSize).map fun n => n.toNat
  | .time => (argsGetValue args key lib.toTime).map Int64.toInt
  | .int => (argsGetValue args key lib.toInt).map Int32.toInt

/-- Validated as 64 bits, read as an `int`. -/
def narrowedKeys : List String := ["framerate", "audio_channels", "video_bitrate", "audio_bitrate"]

/-- Validated as an `int`, read as a `uint32_t`. -/
def signedKeys : List String :=
  ["openh264enc.complexity", "openh264enc.rate-control", "openh264enc.gop-size", "eavcenc.preset",
    "eavcenc.profile", "eavcenc.performance", "eavcenc.bitrate-mode", "eavcenc.bitrate-pass",
    "eavcenc.bitrate-max", "eavcenc.vbv-size", "eavcenc.picture-mode", "eavcenc.entropy-mode",
    "eavcenc.gop-max-bcount", "eavcenc.gop-max-length", "eavcenc.gop-min-length", "eavcenc.level",
    "eavcenc.deblock-mode", "eavcenc.deblock-alpha", "eavcenc.deblock-beta",
    "eavcenc.initial-param", "eavcenc.field-order"]

/-- Not validated, read as a `uint32_t`. -/
def uncheckedKeys : List String :=
  ["x264enc.sliced-threads", "x264enc.b-adapt", "x264enc.byte-stream", "x264enc.quantizer",
    "vaapih264enc.cabac", "vaapih264enc.dct8x8", "openh264enc.multi-thread"]

/-- The values of an option that are read as they are validated. -/
structure Fits (denotes : String → Option Int) (key value : String) : Prop where
  narrowed : key ∈ narrowedKeys → ∀ n, denotes value = some n → n < 2 ^ 31
  signed : key ∈ signedKeys → ∀ n, denotes value = some n → 0 ≤ n
  unchecked : key ∈ uncheckedKeys → ∃ n, denotes value = some n ∧ 0 ≤ n ∧ n < 2 ^ 32

/-- The type of an option takes the integers that its validator lets through, up to the bound that
its group is about. -/
def admits (key : String) (type : IntType) : Option (Int × Int) → Bool
  | none => key ∈ uncheckedKeys && key ∉ narrowedKeys && key ∉ signedKeys && type = .uint32
  | some (lo, hi) =>
    key ∉ uncheckedKeys && (if key ∈ signedKeys then type.min = 0 else type.min ≤ lo) &&
      (if key ∈ narrowedKeys then type.max = 2 ^ 31 - 1 else hi ≤ type.max)

theorem admits_integerOptions : ∀ option ∈ integerOptions,
    (optionRanges.lookup option.1).any (admits option.1 option.2) = true := by
  decide +kernel

theorem mem_args_of_uint32 (h : (key, IntType.uint32) ∈ integerOptions) :
    key ∈ x264Args ++ hardwareArgs := by
  rcases List.mem_append.1 h with h | h
  · simp at h
  · obtain ⟨name, hname, heq⟩ := List.mem_map.1 h
    cases heq
    exact hname

theorem Reads.argsGetValue {α : Type} {convertFromString : String → Option α} {toInt : α → Int}
    {lo hi : Int} (h : Reads convertFromString toInt lo hi denotes)
    (hvalue : args.lookup key = some value) :
    (IptvCloud.argsGetValue args key convertFromString).map toInt =
      (denotes value).filter fun n => decide (lo ≤ n) && decide (n ≤ hi) := by
  rw [IptvCloud.argsGetValue, hvalue, Option.bind_some, h value]

/-- An option is read as the integer it denotes when that is one of the type. -/
theorem readOption_eq {type : IntType} (h : Decimal lib denotes)
    (hkey : (key, type) ∈ integerOptions) (hvalue : args.lookup key = some value) :
    readOption lib args key type =
      (denotes value).filter fun n => decide (type.min ≤ n) && decide (n ≤ type.max) := by
  cases type with
  | uint8 => exact h.uint8.argsGetValue hvalue
  | uint32 =>
    rw [readOption, lookup_initVideoEncoderArgs (mem_args_of_uint32 hkey)]
    exact h.uint32.argsGetValue hvalue
  | size => exact h.size.argsGetValue hvalue
  | time => exact h.time.argsGetValue hvalue
  | int => exact h.int.argsGetValue hvalue

theorem readOption_iff_range {type : IntType} (h : Decimal lib denotes)
    (hkey : (key, type) ∈ integerOptions) (hvalue : args.lookup key = some value) :
    (∃ n, denotes value = some n ∧ readOption lib args key type = some n) ↔
      ∃ n, denotes value = some n ∧ type.min ≤ n ∧ n ≤ type.max := by
  refine exists_congr fun n => and_congr_right fun hn => ?_
  rw [readOption_eq h hkey hvalue, hn]
  simp

theorem fits_iff {n : Int} (hn : denotes value = some n) (hunchecked : key ∉ uncheckedKeys) :
    Fits denotes key value ↔ (key ∈ narrowedKeys → n < 2 ^ 31) ∧ (key ∈ signedKeys → 0 ≤ n) := by
  constructor
  · intro h
    exact ⟨fun hkey => h.narrowed hkey n hn, fun hkey => h.signed hkey n hn⟩
  · rintro ⟨hnarrowed, hsigned⟩
    refine ⟨fun hkey m hm => ?_, fun hkey m hm => ?_, fun hkey => absurd hkey hunchecked⟩
    · cases hn.symm.trans hm
      exact hnarrowed hkey
    · cases hn.symm.trans hm
      exact hsigned hkey

/-- An option that is checked: only the bound of its group is left. -/
theorem inRange_iff_fits {type : IntType} {lo hi n : Int}
    (hadmits : admits key type (some (lo, hi)))
    (hn : denotes value = some n) (hlo : lo ≤ n) (hhi : n ≤ hi) :
    (type.min ≤ n ∧ n ≤ type.max) ↔ Fits denotes key value := by
  simp only [admits, Bool.and_eq_true, decide_eq_true_eq] at hadmits
  obtain ⟨⟨hunchecked, hmin⟩, hmax⟩ := hadmits
  rw [fits_iff hn hunchecked, and_comm]
  refine and_congr ?_ ?_
  · by_cases hkey : key ∈ narrowedKeys
    · simp only [hkey, if_true, decide_eq_true_eq] at hmax
      simp only [hkey, forall_const]
      omega
    · simp only [hkey, if_false, decide_eq_true_eq] at hmax
      simp only [hkey, false_imp_iff, iff_true]
      omega
  · by_cases hkey : key ∈ signedKeys
    · simp only [hkey, if_true, decide_eq_true_eq] at hmin
      simp only [hkey, forall_const]
      omega
    · simp only [hkey, if_false, decide_eq_true_eq] at hmin
      simp only [hkey, false_imp_iff, iff_true]
      omega

/-- **Validator and consumer agree** on an option: a valid value is read as the integer it denotes
exactly when it fits. -/
theorem readOption_iff_fits {type : IntType} (h : Decimal lib denotes)
    (hkey : (key, type) ∈ integerOptions) (hoption : findOption lib key = some validator)
    (hvalid : validator value = .ok .valid) (hvalue : args.lookup key = some value) :
    (∃ n, denotes value = some n ∧ readOption lib args key type = some n) ↔
      Fits denotes key value := by
  rw [readOption_iff_range h hkey hvalue]
  obtain ⟨range, hrange, hrow⟩ := lookup_of_forall₂ (ranged_allowedOptions lib) hoption
  have hadmits := admits_integerOptions _ hkey
  simp only [hrange, Option.any_some] at hadmits
  cases range with
  | none =>
    simp only [admits, Bool.and_eq_true, decide_eq_true_eq] at hadmits
    obtain ⟨⟨⟨hunchecked, hnarrowed⟩, hsigned⟩, rfl⟩ := hadmits
    constructor
    · rintro ⟨n, hn, hmin, hmax⟩
      exact ⟨fun hkey => absurd hkey hnarrowed, fun hkey => absurd hkey hsigned,
        fun _ => ⟨n, hn, hmin, Int.lt_of_le_of_lt hmax (by decide)⟩⟩
    · intro hfits
      obtain ⟨n, hn, hmin, hmax⟩ := hfits.unchecked hunchecked
      exact ⟨n, hn, hmin, Int.le_of_lt_add_one hmax⟩
  | some range =>
    obtain ⟨n, hn, hlo, hhi⟩ := hrow.within h rfl value hvalid
    rw [← inRange_iff_fits hadmits hn hlo hhi]
    refine ⟨fun ⟨m, hm, hmin, hmax⟩ => ?_, fun hrange => ⟨n, hn, hrange⟩⟩
    cases hn.symm.trans hm
    exact ⟨hmin, hmax⟩

/-! ### Conversions of decimal texts -/

/-- The number of a text of digits. -/
def digitsValue (digits : List Char) : Option Int :=
  if !digits.isEmpty && digits.all Char.isDigit then some (Nat.ofDigitChars 10 digits 0) else none

/-- The integer that a decimal text denotes. -/
def decimalValue (text : String) : Option Int :=
  match text.toList with
  | '-' :: digits => (digitsValue digits).map fun n => -n
  | digits => digitsValue digits

/-- A conversion of the integers between two bounds. -/
def convertWithin {α : Type} (ofInt : Int → α) (lo hi : Int) (text : String) : Option α :=
  ((decimalValue text).filter fun n => decide (lo ≤ n) && decide (n ≤ hi)).map ofInt

/-- Conversions of decimal texts. -/
def decimalLibrary : Library where
  toCommon := { Common.blank with
    toUInt8 := convertWithin (fun n => UInt8.ofNat n.toNat) 0 255
    toUInt32 := convertWithin (fun n => UInt32.ofNat n.toNat) 0 4294967295
    toSize := convertWithin (fun n => UInt64.ofNat n.toNat) 0 18446744073709551615
    toTime := convertWithin Int64.ofInt (-9223372036854775808) 9223372036854775807
    toInt := convertWithin Int32.ofInt (-2147483648) 2147483647 }
  toUInt16 := convertWithin (fun n => UInt16.ofNat n.toNat) 0 65535
  isValidPath _ := true
  logLevelEmerg := 0
  logLevelDebug := 7
  criticalStops := true

theorem reads_convertWithin {α : Type} {ofInt : Int → α} {toInt : α → Int} {lo hi : Int}
    (h : ∀ n, lo ≤ n → n ≤ hi → toInt (ofInt n) = n) :
    Reads (convertWithin ofInt lo hi) toInt lo hi decimalValue := by
  intro text
  rw [convertWithin, Option.map_map]
  cases decimalValue text with
  | none => rfl
  | some n =>
    by_cases hn : lo ≤ n ∧ n ≤ hi
    · simp [Option.filter, hn.1, hn.2, h n hn.1 hn.2]
    · simp [Option.filter, hn]

theorem decimal_decimalLibrary : Decimal decimalLibrary decimalValue where
  uint8 := reads_convertWithin fun n hlo hhi => by
    simp only [UInt8.toNat_ofNat']
    omega
  uint16 := reads_convertWithin fun n hlo hhi => by
    simp only [UInt16.toNat_ofNat']
    omega
  uint32 := reads_convertWithin fun n hlo hhi => by
    simp only [UInt32.toNat_ofNat']
    omega
  size := reads_convertWithin fun n hlo hhi => by
    simp only [UInt64.toNat_ofNat']
    omega
  time := reads_convertWithin fun n hlo hhi =>
    Int64.toInt_ofInt_of_le hlo (Int.lt_add_one_of_le hhi)
  int := reads_convertWithin fun n hlo hhi =>
    Int32.toInt_ofInt_of_le hlo (Int.lt_add_one_of_le hhi)

/-- Every valid value of an integer option is read as the integer it denotes. -/
def Agrees (lib : Library) (denotes : String → Option Int) : Prop :=
  ∀ key type validator value, ∀ args : ArgsMap, (key, type) ∈ integerOptions →
    findOption lib key = some validator → validator value = .ok .valid →
    args.lookup key = some value →
    ∃ n, denotes value = some n ∧ readOption lib args key type = some n

/-- A frame rate that fits. -/
theorem readOption_framerate_25 : readOption decimalLibrary (AList.singleton "framerate" "25")
    "framerate" .int = some 25 := by
  have hfits : Fits decimalValue "framerate" "25" :=
    ⟨fun _ n hn => by cases hn; decide, by decide, by decide⟩
  have hvalid : validateFramerate decimalLibrary "25" = .ok .valid := rfl
  have hagree : (∃ n, decimalValue "25" = some n ∧ readOption decimalLibrary
      (AList.singleton "framerate" "25") "framerate" .int = some n) ↔
      Fits decimalValue "framerate" "25" :=
    readOption_iff_fits decimal_decimalLibrary (by decide) rfl hvalid rfl
  obtain ⟨n, hn, hread⟩ := hagree.2 hfits
  cases hn
  exact hread

/-- A bit rate above the `int`s is valid, and the stream is made without it. -/
theorem agrees_fails : ¬ Agrees decimalLibrary decimalValue := by
  intro h
  obtain ⟨n, -, hread⟩ := h "video_bitrate" .int (validateVideoBitrate decimalLibrary) "3000000000"
    (AList.singleton "video_bitrate" "3000000000") (by decide) rfl rfl rfl
  cases hread

end IptvCloud.Server.Options
