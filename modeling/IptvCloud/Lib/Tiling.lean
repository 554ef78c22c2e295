import Mathlib.Algebra.Order.Ring.Int
import Mathlib.Tactic.Ring

/-!
# Rectangles of a picture

Rectangles with whole coordinates, inside one another (`Inside`) or without a common point
(`Apart`). The cells of a grid are apart (`cell_apart`) and have the points of the grid
(`cell_covers`); what is inside two rectangles that are apart is apart (`Apart.inside`).
-/

namespace Tiling

/-- A rectangle by its upper left corner. -/
structure Rect where
  x : Int
  y : Int
  width : Int
  height : Int
  deriving DecidableEq, Repr

/-- The rectangle `r` lies in `s`. -/
structure Inside (r s : Rect) : Prop where
  left : s.x ≤ r.x
  right : r.x + r.width ≤ s.x + s.width
  top : s.y ≤ r.y
  bottom : r.y + r.height ≤ s.y + s.height

/-- The point lies in the rectangle; the right and the lower edge are not of it. -/
def Covers (r : Rect) (x y : Int) : Prop :=
  (r.x ≤ x ∧ x < r.x + r.width) ∧ r.y ≤ y ∧ y < r.y + r.height

/-- The rectangles are side by side, or one is above the other. -/
def Apart (r s : Rect) : Prop :=
  r.x + r.width ≤ s.x ∨ s.x + s.width ≤ r.x ∨ r.y + r.height ≤ s.y ∨ s.y + s.height ≤ r.y

variable {r s : Rect}

/-- What lies in two rectangles that are apart. -/
theorem Apart.inside {r' s' : Rect} (h : Apart r s) (hr : Inside r' r) (hs : Inside s' s) :
    Apart r' s' := by
  obtain ⟨hr₁, hr₂, hr₃, hr₄⟩ := hr
  obtain ⟨hs₁, hs₂, hs₃, hs₄⟩ := hs
  unfold Apart at h ⊢
  omega

/-! ## Grids -/

variable {width height : Int} {i j m n : Nat}

/-- The cell of a grid in a row and a column. -/
def cell (width height : Int) (row column : Nat) : Rect :=
  ⟨column * width, row * height, width, height⟩

theorem succ_mul_le (hwidth : 0 ≤ width) (h : i < j) : i * width + width ≤ j * width := by
  have hsucc : (i : Int) + 1 ≤ j := by omega
  calc i * width + width = (i + 1) * width := by ring
    _ ≤ j * width := mul_le_mul_of_nonneg_right hsucc hwidth

/-- The band of a length that a coordinate lies in. -/
theorem exists_band {length x : Int} (hlength : 0 < length) (hx : 0 ≤ x) (hx' : x < n * length) :
    ∃ i < n, i * length ≤ x ∧ x < i * length + length := by
  have hband : length * (x / length) + x % length = x := Int.mul_ediv_add_emod x length
  have hrest : x % length < length := Int.emod_lt_of_pos x hlength
  have hrest' : 0 ≤ x % length := Int.emod_nonneg x hlength.ne'
  have hcast : ((x / length).toNat : Int) = x / length :=
    Int.toNat_of_nonneg (Int.ediv_nonneg hx hlength.le)
  rw [mul_comm] at hband
  refine ⟨(x / length).toNat, ?_, ?_, ?_⟩
  · have hlt : x / length < n := Int.ediv_lt_of_lt_mul hlength hx'
    omega
  · rw [hcast]
    omega
  · rw [hcast]
    omega

theorem cell_apart (hwidth : 0 ≤ width) (hheight : 0 ≤ height) (h : (i, j) ≠ (m, n)) :
    Apart (cell width height i j) (cell width height m n) := by
  show j * width + width ≤ n * width ∨ n * width + width ≤ j * width ∨
    i * height + height ≤ m * height ∨ m * height + height ≤ i * height
  rcases Nat.lt_trichotomy j n with hj | rfl | hj
  · exact .inl (succ_mul_le hwidth hj)
  · rcases Nat.lt_trichotomy i m with hi | rfl | hi
    · exact .inr (.inr (.inl (succ_mul_le hheight hi)))
    · exact absurd rfl h
    · exact .inr (.inr (.inr (succ_mul_le hheight hi)))
  · exact .inr (.inl (succ_mul_le hwidth hj))

/-- The cells of a grid have the points of the whole grid. -/
theorem cell_covers {rows columns : Nat} {x y : Int} (hwidth : 0 < width) (hheight : 0 < height) :
    (∃ i < rows, ∃ j < columns, Covers (cell width height i j) x y) ↔
      Covers ⟨0, 0, columns * width, rows * height⟩ x y := by
  constructor
  · rintro ⟨i, hi, j, hj, ⟨hx, hx'⟩, hy, hy'⟩
    have hcolumn := succ_mul_le hwidth.le hj
    have hrow := succ_mul_le hheight.le hi
    refine ⟨⟨?_, ?_⟩, ?_, ?_⟩
    · exact (mul_nonneg (Int.natCast_nonneg j) hwidth.le).trans hx
    · exact (hx'.trans_le hcolumn).trans_eq (Int.zero_add _).symm
    · exact (mul_nonneg (Int.natCast_nonneg i) hheight.le).trans hy
    · exact (hy'.trans_le hrow).trans_eq (Int.zero_add _).symm
  · rintro ⟨⟨hx, hx'⟩, hy, hy'⟩
    rw [Int.zero_add] at hx' hy'
    obtain ⟨i, hi, hrow, hrow'⟩ := exists_band hheight hy hy'
    obtain ⟨j, hj, hcolumn, hcolumn'⟩ := exists_band hwidth hx hx'
    exact ⟨i, hi, j, hj, ⟨hcolumn, hcolumn'⟩, hrow, hrow'⟩

end Tiling
