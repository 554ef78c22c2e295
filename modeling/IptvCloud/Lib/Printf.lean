import Mathlib.Data.List.Basic

/-!
# Formatted text

`printf` with the conversions `%lu`, `%llu`, `%s`, `%%` and `%0<w>d`, a zero padded `int` of a width
below ten. What the C library leaves undefined (an argument that is missing or of another kind)
copies the format.
-/

namespace Printf

/-- An argument, with the conversion it is for. -/
inductive Arg
  | ulong (n : Nat)
  | int (n : Int)
  | str (s : List Char)

def digits (n : Nat) : List Char := Nat.toDigits 10 n

/-- A number padded with zeros, its sign first. -/
def padded (width : Nat) : Int → List Char
  | .ofNat n => (digits n).leftpad width '0'
  | .negSucc n => '-' :: (digits (n + 1)).leftpad (width - 1) '0'

def printf : List Char → List Arg → List Char
  | '%' :: 'l' :: 'u' :: f, .ulong n :: args => digits n ++ printf f args
  | '%' :: 'l' :: 'l' :: 'u' :: f, .ulong n :: args => digits n ++ printf f args
  | '%' :: 's' :: f, .str s :: args => s ++ printf f args
  | '%' :: '0' :: w :: 'd' :: f, .int n :: args => padded (w.toNat - '0'.toNat) n ++ printf f args
  | '%' :: '%' :: f, args => '%' :: printf f args
  | c :: f, args => c :: printf f args
  | [], _ => []

variable {f l : List Char} {args : List Arg} {n : Nat}

@[simp] theorem printf_nil : printf [] args = [] := rfl

@[simp] theorem printf_lu :
    printf ('%' :: 'l' :: 'u' :: f) (.ulong n :: args) = digits n ++ printf f args := rfl

@[simp] theorem printf_llu :
    printf ('%' :: 'l' :: 'l' :: 'u' :: f) (.ulong n :: args) = digits n ++ printf f args := rfl

@[simp] theorem printf_s (s : List Char) :
    printf ('%' :: 's' :: f) (.str s :: args) = s ++ printf f args := rfl

theorem printf_zero_d (w : Char) (k : Int) : printf ('%' :: '0' :: w :: 'd' :: f) (.int k :: args) =
    padded (w.toNat - '0'.toNat) k ++ printf f args := rfl

theorem printf_cons {c : Char} (h : c ≠ '%') : printf (c :: f) args = c :: printf f args := by
  rw [printf] <;> simp [h]

/-- What stands before the first `%` is copied. -/
theorem printf_append (h : '%' ∉ l) : printf (l ++ f) args = l ++ printf f args := by
  induction l with
  | nil => rfl
  | cons c l ih =>
    rw [List.mem_cons, not_or] at h
    rw [List.cons_append, printf_cons (Ne.symm h.1), ih h.2, List.cons_append]

theorem printf_literal (h : '%' ∉ l) : printf l args = l := by
  have happend : printf (l ++ []) args = l ++ printf [] args := printf_append h
  simpa using happend

/-! ## Numbers -/

theorem isDigit_of_mem_digits {c : Char} (h : c ∈ digits n) : c.isDigit = true :=
  Nat.isDigit_of_mem_toDigits (by decide) (by decide) h

theorem digits_ne_nil (n : Nat) : digits n ≠ [] := Nat.toDigits_ne_nil

theorem value_digits (n : Nat) : Nat.ofDigitChars 10 (digits n) 0 = n :=
  Nat.ofDigitChars_ten_toDigits

theorem notMem_digits {c : Char} (hc : c.isDigit = false) : c ∉ digits n := by
  intro h
  rw [isDigit_of_mem_digits h] at hc
  cases hc

theorem isDigit_of_mem_padded {width : Nat} {c : Char} (h : c ∈ padded width (n : Int)) :
    c.isDigit = true := by
  rcases List.mem_append.1 h with h | h
  · rw [(List.mem_replicate.1 h).2]
    decide
  · exact isDigit_of_mem_digits h

theorem padded_ne_nil (width n : Nat) : padded width (n : Int) ≠ [] := fun h =>
  digits_ne_nil n (List.append_eq_nil_iff.1 h).2

/-- The padding does not change the number. -/
theorem value_padded (width n : Nat) : Nat.ofDigitChars 10 (padded width (n : Int)) 0 = n := by
  have he : padded width (n : Int) = List.replicate (width - (digits n).length) '0' ++ digits n :=
    rfl
  rw [he, Nat.ofDigitChars_append, Nat.ofDigitChars_replicate_zero, Nat.mul_zero, value_digits]

end Printf
