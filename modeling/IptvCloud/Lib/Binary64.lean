import Mathlib.Data.Int.Log
import Mathlib.Data.Rat.Floor
import Mathlib.Tactic.Linarith

/-!
# Double arithmetic on non-negative numbers

A double is the rational number it stands for. `round` is the nearest double of a non-negative
rational, ties to even, for the magnitudes between the subnormal and the overflow range; `fixed2`
is what `printf` writes for `%.2f`.
-/

namespace Binary64

/-- The nearest integer, ties to even. -/
def roundEven (q : ℚ) : ℤ :=
  if q - ⌊q⌋ < 1 / 2 then ⌊q⌋
  else if 1 / 2 < q - ⌊q⌋ then ⌊q⌋ + 1
  else if ⌊q⌋ % 2 = 0 then ⌊q⌋ else ⌊q⌋ + 1

/-- The unit in the last place of a positive number with 53 significant bits. -/
def ulp (q : ℚ) : ℚ := (2 : ℚ) ^ (Int.log 2 q - 52)

/-- The nearest double. -/
def round (q : ℚ) : ℚ := roundEven (q / ulp q) * ulp q

/-- The hundredths `%.2f` writes. -/
def hundredths (q : ℚ) : Nat := (roundEven (q * 100)).toNat

/-- `%.2f` of a non-negative double: the integer part, the point and two digits. -/
def fixed2 (q : ℚ) : List Char :=
  Nat.toDigits 10 (hundredths q / 100) ++
    ['.', Nat.digitChar (hundredths q / 10 % 10), Nat.digitChar (hundredths q % 10)]

/-! ## Bounds -/

theorem roundEven_le (q : ℚ) : (roundEven q : ℚ) ≤ q + 1 := by
  have h := Int.floor_le q
  unfold roundEven
  split
  · linarith
  · split
    · push_cast; linarith
    · split
      · linarith
      · push_cast; linarith

theorem ulp_pos (q : ℚ) : 0 < ulp q := zpow_pos (by norm_num) _

theorem ulp_le {q : ℚ} (hq : 0 < q) : ulp q ≤ q := by
  have h := Int.zpow_log_le_self (b := 2) (by decide) hq
  have hexp : ulp q ≤ (2 : ℚ) ^ Int.log 2 q := zpow_le_zpow_right₀ (by norm_num) (by omega)
  push_cast at h
  linarith

theorem round_nonneg {q : ℚ} (hq : 0 ≤ q) : 0 ≤ round q := by
  have hu := ulp_pos q
  have hf : 0 ≤ ⌊q / ulp q⌋ := Int.floor_nonneg.2 (div_nonneg hq hu.le)
  have hr : 0 ≤ roundEven (q / ulp q) := by
    unfold roundEven
    split_ifs <;> omega
  exact mul_nonneg (by exact_mod_cast hr) hu.le

theorem round_le {q : ℚ} (hq : 0 ≤ q) : round q ≤ 2 * q := by
  rcases hq.eq_or_lt with rfl | hq
  · simp [round, roundEven]
  · have hu := ulp_pos q
    have h := mul_le_mul_of_nonneg_right (roundEven_le (q / ulp q)) hu.le
    rw [add_mul, div_mul_cancel₀ q hu.ne', one_mul] at h
    have := ulp_le hq
    unfold round
    linarith

theorem hundredths_le {q : ℚ} {n : Nat} (h : q ≤ n) : hundredths q ≤ n * 100 + 1 := by
  have hr := roundEven_le (q * 100)
  have hz : roundEven (q * 100) ≤ (n * 100 + 1 : ℤ) := by
    have : (roundEven (q * 100) : ℚ) ≤ ((n * 100 + 1 : ℤ) : ℚ) := by push_cast; linarith
    exact_mod_cast this
  unfold hundredths
  omega

end Binary64
