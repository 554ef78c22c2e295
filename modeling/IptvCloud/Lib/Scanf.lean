import Mathlib.Algebra.Ring.Nat
import IptvCloud.Lib.Printf
import IptvCloud.Lib.Stdio

/-!
# Scanning formatted text

`scan fmt s` are the values that `sscanf` assigns, in the order of the conversions: it stops at the
first directive that fails. White space in a format is one directive; a number is converted as
`strtoull` does, from at most `width` characters with the sign. Numbers that blanks separate are
read back (`scan_numbers`).
-/

namespace Scanf

open Stdio Printf

/-- White space, an ordinary character, `%s` and `%<width>llu`. -/
inductive Directive
  | blank
  | lit (c : Char)
  | word
  | ull (width : Nat)

inductive Value
  | word (w : List Char)
  | number (n : Nat)
  deriving DecidableEq, Repr

/-- The sign of a number: whether it is negative, its length, and what follows it. -/
def sign : List Char → Bool × Nat × List Char
  | '-' :: s => (true, 1, s)
  | '+' :: s => (false, 1, s)
  | s => (false, 0, s)

/-- The value of a number of type `unsigned long long`. -/
def unsigned (neg : Bool) (n : Nat) : Nat :=
  if 2 ^ 64 ≤ n then 2 ^ 64 - 1 else if neg then (2 ^ 64 - n) % 2 ^ 64 else n

/-- `%<width>llu`: the number and the text behind it. -/
def ull (width : Nat) (s : List Char) : Option (Nat × List Char) :=
  let signed := sign (s.dropWhile isspace)
  let text := signed.2.2
  let ds := (text.take (width - signed.2.1)).takeWhile Char.isDigit
  if ds.isEmpty then none
  else some (unsigned signed.1 (Nat.ofDigitChars 10 ds 0), text.drop ds.length)

/-- The values that are assigned. -/
def scan : List Directive → List Char → List Value
  | [], _ => []
  | .blank :: fmt, s => scan fmt (s.dropWhile isspace)
  | .lit c :: fmt, s =>
    match s with
    | [] => []
    | d :: s => if d = c then scan fmt s else []
  | .word :: fmt, s =>
    let text := s.dropWhile isspace
    if text.isEmpty then []
    else .word (text.takeWhile fun c => !isspace c) :: scan fmt (text.dropWhile fun c => !isspace c)
  | .ull width :: fmt, s =>
    match ull width s with
    | none => []
    | some (n, s) => .number n :: scan fmt s

/-- A variable that is assigned the number of a conversion, or keeps its value. -/
def number (vs : List Value) (i : Nat) (old : UInt64) : UInt64 :=
  match vs[i]? with
  | some (.number n) => .ofNat n
  | _ => old

/-- A buffer that is assigned the text of a conversion, or keeps its text. -/
def word (vs : List Value) (i : Nat) (old : List Char) : List Char :=
  match vs[i]? with
  | some (.word w) => w
  | _ => old

/-- `%<width>llu`, `k` times with a blank between. -/
def numbers (width k : Nat) : List Directive := (List.replicate k (.ull width)).intersperse .blank

variable {s rest b : List Char} {width n k : Nat} {fmt : List Directive}

/-! ## One number -/

theorem dropWhile_blanks (hb : ∀ c ∈ b, isspace c = true) :
    (b ++ s).dropWhile isspace = s.dropWhile isspace :=
  List.dropWhile_append_of_pos hb

theorem ull_dropWhile : ull width (s.dropWhile isspace) = ull width s := by
  rw [ull, ull, List.dropWhile_idempotent]

/-- White space before a number changes nothing. -/
theorem scan_blank_ull :
    scan (.blank :: .ull width :: fmt) s = scan (.ull width :: fmt) s := by
  rw [scan, scan, scan, ull_dropWhile]

/-- The text behind a number does not go on with a digit. -/
def EndsNumber (rest : List Char) : Prop := ∀ c, rest.head? = some c → c.isDigit = false

theorem takeWhile_take_of_endsNumber (h : EndsNumber rest) (k : Nat) :
    (rest.take k).takeWhile Char.isDigit = [] := by
  cases rest with
  | nil => simp
  | cons c rest =>
    cases k with
    | zero => simp
    | succ k => rw [List.take_succ_cons, List.takeWhile_cons_of_neg (by simp [h c rfl])]

/-- Digits that fit the width and the type are read as their number. -/
theorem ull_digits (hb : ∀ c ∈ b, isspace c = true) (hw : (digits n).length ≤ width)
    (hn : n < 2 ^ 64) (hr : EndsNumber rest) :
    ull width (b ++ (digits n ++ rest)) = some (n, rest) := by
  obtain ⟨d, ds, hd⟩ := List.exists_cons_of_ne_nil (digits_ne_nil n)
  have hdigit : d.isDigit = true := isDigit_of_mem_digits (hd ▸ List.mem_cons_self)
  have hdrop : (b ++ (digits n ++ rest)).dropWhile isspace = digits n ++ rest := by
    rw [dropWhile_blanks hb, hd, List.cons_append,
      List.dropWhile_cons_of_neg (by simp [isspace_of_isDigit hdigit])]
  have hsign : sign (digits n ++ rest) = (false, 0, digits n ++ rest) := by
    have hminus : d ≠ '-' := by
      rintro rfl
      exact absurd hdigit (by decide)
    have hplus : d ≠ '+' := by
      rintro rfl
      exact absurd hdigit (by decide)
    rw [hd, List.cons_append, sign]
    · intro s he
      exact hminus (List.cons.inj he).1
    · intro s he
      exact hplus (List.cons.inj he).1
  have hds : ((digits n ++ rest).take width).takeWhile Char.isDigit = digits n := by
    rw [List.take_append, List.take_of_length_le hw,
      List.takeWhile_append_of_pos fun c hc => isDigit_of_mem_digits hc,
      takeWhile_take_of_endsNumber hr, List.append_nil]
  simp only [ull, hdrop, hsign, Nat.sub_zero, hds]
  rw [if_neg (by simpa using digits_ne_nil n), value_digits, unsigned, if_neg (by omega),
    if_neg (by decide), List.drop_left]

/-- No number stands at the end of a text. -/
theorem ull_blanks (hb : ∀ c ∈ b, isspace c = true) : ull width b = none := by
  have hdrop : b.dropWhile isspace = [] := by
    simpa using hb
  simp [ull, hdrop, sign]

/-! ## Several numbers -/

theorem scan_numbers_succ (k : Nat) : scan (numbers width (k + 1)) s =
    match ull width s with
    | none => []
    | some (n, s) => .number n :: scan (numbers width k) s := by
  cases k with
  | zero => rfl
  | succ k =>
    have hcons : ∀ j, ∃ fmt, numbers width (j + 1) = .ull width :: fmt := by
      intro j
      cases j with
      | zero => exact ⟨_, rfl⟩
      | succ j => exact ⟨_, rfl⟩
    have hnumbers : numbers width (k + 2) = .ull width :: .blank :: numbers width (k + 1) := rfl
    obtain ⟨fmt, hfmt⟩ := hcons k
    rw [hnumbers, scan, hfmt]
    simp only [scan_blank_ull]

theorem scan_numbers_dropWhile (k : Nat) :
    scan (numbers width k) (s.dropWhile isspace) = scan (numbers width k) s := by
  cases k with
  | zero => rfl
  | succ k => rw [scan_numbers_succ, scan_numbers_succ, ull_dropWhile]

theorem scan_blank_numbers (k : Nat) :
    scan (.blank :: numbers width k) s = scan (numbers width k) s := by
  rw [scan, scan_numbers_dropWhile]

/-- White space before several numbers changes nothing. -/
theorem scan_numbers_blanks_append (hb : ∀ c ∈ b, isspace c = true) (k : Nat) :
    scan (numbers width k) (b ++ s) = scan (numbers width k) s := by
  rw [← scan_numbers_dropWhile, dropWhile_blanks hb, scan_numbers_dropWhile]

/-- Numbers, each behind blanks, as they are written. -/
def fieldsText (fields : List (List Char × Nat)) : List Char :=
  fields.flatMap fun f => f.1 ++ digits f.2

theorem mem_fieldsText {fields : List (List Char × Nat)} {c : Char} (h : c ∈ fieldsText fields) :
    (∃ f ∈ fields, c ∈ f.1) ∨ c.isDigit = true := by
  obtain ⟨f, hf, hc⟩ := List.mem_flatMap.1 h
  rcases List.mem_append.1 hc with hc | hc
  · exact .inl ⟨f, hf, hc⟩
  · exact .inr (isDigit_of_mem_digits hc)

/-- Blanks and a number that a conversion of `width` characters takes whole. -/
structure IsField (width : Nat) (f : List Char × Nat) : Prop where
  ne_nil : f.1 ≠ []
  blank : ∀ c ∈ f.1, isspace c = true
  width : (digits f.2).length ≤ width
  lt : f.2 < 2 ^ 64

theorem endsNumber_of_isspace {c : Char} (h : isspace c = true) : EndsNumber (c :: s) := by
  intro d hd
  cases hd
  by_contra hdigit
  rw [isspace_of_isDigit (by simpa using hdigit)] at h
  cases h

theorem endsNumber_fields {fields : List (List Char × Nat)} (hf : ∀ f ∈ fields, IsField width f)
    (hr : EndsNumber rest) : EndsNumber (fieldsText fields ++ rest) := by
  cases fields with
  | nil => exact hr
  | cons f fields =>
    have h := hf f List.mem_cons_self
    obtain ⟨c, b, hb⟩ := List.exists_cons_of_ne_nil h.ne_nil
    have hc : isspace c = true := h.blank c (hb ▸ List.mem_cons_self)
    rw [fieldsText, List.flatMap_cons, hb]
    exact endsNumber_of_isspace hc

/-- The conversions read the numbers and go on behind them. -/
theorem scan_numbers {fields : List (List Char × Nat)} (hf : ∀ f ∈ fields, IsField width f)
    (hr : EndsNumber rest) (k : Nat) :
    scan (numbers width (fields.length + k)) (fieldsText fields ++ rest) =
      fields.map (fun f => .number f.2) ++ scan (numbers width k) rest := by
  induction fields with
  | nil => simp [fieldsText]
  | cons f fields ih =>
    obtain ⟨h, hf⟩ := List.forall_mem_cons.1 hf
    have htext : fieldsText (f :: fields) ++ rest =
        f.1 ++ (digits f.2 ++ (fieldsText fields ++ rest)) := by
      simp [fieldsText]
    have hlength : (f :: fields).length + k = fields.length + k + 1 := by
      rw [List.length_cons]
      omega
    rw [htext, hlength, scan_numbers_succ,
      ull_digits h.blank h.width h.lt (endsNumber_fields hf hr)]
    simp only [ih hf, List.map_cons, List.cons_append]

/-- The conversions that are left fail at the end of the text. -/
theorem scan_numbers_blanks (hb : ∀ c ∈ b, isspace c = true) (k : Nat) :
    scan (numbers width k) b = [] := by
  cases k with
  | zero => rfl
  | succ k => rw [scan_numbers_succ, ull_blanks hb]

/-! ## A word -/

/-- `%s` skips blanks and takes what stands before the next white space. -/
theorem scan_word {w : List Char} {c : Char} (hb : ∀ c ∈ b, isspace c = true) (hw : w ≠ [])
    (hs : ∀ c ∈ w, isspace c = false) (hc : isspace c = true) :
    scan (.word :: fmt) (b ++ (w ++ c :: rest)) = .word w :: scan fmt (c :: rest) := by
  have hdrop : (b ++ (w ++ c :: rest)).dropWhile isspace = w ++ c :: rest := by
    obtain ⟨d, w, rfl⟩ := List.exists_cons_of_ne_nil hw
    rw [dropWhile_blanks hb, List.cons_append,
      List.dropWhile_cons_of_neg (by simp [hs d List.mem_cons_self])]
  have hall : ∀ c ∈ w, (!isspace c) = true := fun c hc => by simp [hs c hc]
  have htake : (w ++ c :: rest).takeWhile (fun c => !isspace c) = w := by
    rw [List.takeWhile_append_of_pos hall, List.takeWhile_cons_of_neg (by simp [hc]),
      List.append_nil]
  have hrest : (w ++ c :: rest).dropWhile (fun c => !isspace c) = c :: rest := by
    rw [List.dropWhile_append_of_pos hall, List.dropWhile_cons_of_neg (by simp [hc])]
  simp only [scan, hdrop, htake, hrest]
  rw [if_neg (by simp [hw])]

end Scanf
