import IptvCloud.Utils.ChunkText
import IptvCloud.Utils.M3u8Grammar
import IptvCloud.Utils.Proof.M3u8RoundTrip

/-!
# The text of a chunk

`decoded` is what `ConvertFromString` stores for a text: the path up to the first `:`, the index up
to the second, the duration behind it (`decoded_two`), and zero for what is missing or is no number
(`decoded_none`). So a path without `:` comes back and no other does, and only the empty text is
refused (`convert_chunk_iff`).
-/

namespace IptvCloud

open M3u8 Printf

/-- The chunk that is stored for a text. -/
def decoded (cv : Convert) (text : Text) : ChunkInfo := convertFromString.go cv text [] 0 .empty

/-- `path:index:duration` with numbers of `uint64_t`. -/
def IsChunkText (text : Text) : Prop :=
  ∃ path index duration : Text, IsDigits index ∧ digitsValue index < 2 ^ 64 ∧
    IsDigits duration ∧ digitsValue duration < 2 ^ 64 ∧
    text = path ++ ':' :: (index ++ ':' :: duration)

section
variable (cv : Convert)

theorem convertFromString_some (text : Text) (old : ChunkInfo) :
    convertFromString cv text (some old) =
      if text = [] then (false, some old) else (true, some (decoded cv text)) := by
  rw [convertFromString]
  simp only [List.isEmpty_iff, decoded]

/-! ## The loop -/

theorem go_append {l : Text} (hl : ':' ∉ l) (rest line : Text) (pos : Nat) (res : ChunkInfo) :
    convertFromString.go cv (l ++ rest) line pos res =
      convertFromString.go cv rest (line ++ l) pos res := by
  induction l generalizing line with
  | nil => simp
  | cons c l ih =>
    rw [List.mem_cons, not_or] at hl
    rw [List.cons_append, convertFromString.go, if_neg (Ne.symm hl.1), ih hl.2, List.append_assoc,
      List.singleton_append]

/-- Behind the first separator the path is not changed. -/
theorem go_path (text line : Text) (pos : Nat) (res : ChunkInfo) :
    (convertFromString.go cv text line (pos + 1) res).path = res.path := by
  induction text generalizing line with
  | nil => rfl
  | cons c text ih =>
    rw [convertFromString.go]
    split
    · rw [if_neg (Nat.succ_ne_zero pos)]
      cases cv.toUInt64 line <;> cases cv.toUInt64 text <;> rfl
    · exact ih _

/-! ## What is stored -/

theorem decoded_none {text : Text} (h : ':' ∉ text) : decoded cv text = .empty := by
  have := go_append cv h [] [] 0 .empty
  rw [List.append_nil] at this
  rw [decoded, this]
  rfl

theorem decoded_cons {path : Text} (h : ':' ∉ path) (rest : Text) :
    decoded cv (path ++ ':' :: rest) = convertFromString.go cv rest [] 1 ⟨path, 0, 0⟩ := by
  rw [decoded, go_append cv h, convertFromString.go, if_pos rfl, if_pos rfl]
  rfl

theorem decoded_two {path index : Text} (hp : ':' ∉ path) (hi : ':' ∉ index) (rest : Text) :
    decoded cv (path ++ ':' :: (index ++ ':' :: rest)) =
      ⟨path, (cv.toUInt64 rest).getD 0, (cv.toUInt64 index).getD 0⟩ := by
  rw [decoded_cons cv hp, go_append cv hi, convertFromString.go, if_pos rfl, if_neg (by decide),
    List.nil_append]
  cases cv.toUInt64 index <;> cases cv.toUInt64 rest <;> rfl

/-- No stored path has a separator. -/
theorem separator_notMem_path (text : Text) : ':' ∉ (decoded cv text).path := by
  by_cases hm : ':' ∈ text
  · obtain ⟨path, rest, rfl, hpath⟩ := List.eq_append_cons_of_mem hm
    rw [decoded_cons cv hpath, go_path]
    exact hpath
  · rw [decoded_none cv hm]
    exact List.not_mem_nil

end

/-! ## The round trip -/

theorem convertToString_eq (c : ChunkInfo) :
    convertToString c = c.path ++ ':' :: (digits c.index ++ ':' :: digits c.duration) := by
  simp [convertToString, printf_cons]

section
variable {cv : Convert} (hcv : cv.Lawful)
include hcv

theorem convert_roundTrip_iff {c : ChunkInfo} (hi : c.index < 2 ^ 64) (hd : c.duration < 2 ^ 64)
    (old : ChunkInfo) :
    convertFromString cv (convertToString c) (some old) = (true, some c) ↔ ':' ∉ c.path := by
  have hne : convertToString c ≠ [] := by simp [convertToString_eq]
  rw [convertFromString_some, if_neg hne]
  simp only [Prod.mk.injEq, true_and, Option.some.injEq]
  constructor
  · intro h
    rw [← h]
    exact separator_notMem_path cv _
  · intro hp
    have hindex : cv.toUInt64 (digits c.index) = some c.index := toUInt64_llu hcv hi
    have hduration : cv.toUInt64 (digits c.duration) = some c.duration := toUInt64_llu hcv hd
    rw [convertToString_eq, decoded_two cv hp (notMem_digits (by decide)), hindex, hduration]
    rfl

/-- A chunk comes back when its path has no separator; a text that is no chunk is refused when it is
empty. -/
theorem convert_chunk_iff :
    (∀ (c old : ChunkInfo), c.index < 2 ^ 64 → c.duration < 2 ^ 64 →
      (convertFromString cv (convertToString c) (some old) = (true, some c) ↔ ':' ∉ c.path)) ∧
    ∀ (text : Text) (old : ChunkInfo),
      (¬ IsChunkText text → (convertFromString cv text (some old)).1 = false) ↔
        IsChunkText text ∨ text = [] := by
  refine ⟨fun c old hi hd => convert_roundTrip_iff hcv hi hd old, fun text old => ?_⟩
  rw [convertFromString_some]
  by_cases he : text = []
  · simp [he]
  · simp [he]

end

theorem convert_chunk_decimal :
    (∀ (c old : ChunkInfo), c.index < 2 ^ 64 → c.duration < 2 ^ 64 →
      (convertFromString decimalConvert (convertToString c) (some old) = (true, some c) ↔
        ':' ∉ c.path)) ∧
    ∀ (text : Text) (old : ChunkInfo),
      (¬ IsChunkText text → (convertFromString decimalConvert text (some old)).1 = false) ↔
        IsChunkText text ∨ text = [] :=
  convert_chunk_iff decimalConvert_lawful

/-- A path with a separator is cut, and a text without one is accepted. -/
theorem convert_chunk_fails :
    convertFromString decimalConvert (convertToString ⟨"a:b".toList, 2, 1⟩) (some .empty) =
      (true, some ⟨"a".toList, 0, 0⟩) ∧
    ¬ IsChunkText "abc".toList ∧
    convertFromString decimalConvert "abc".toList (some .empty) = (true, some .empty) := by
  refine ⟨by decide +kernel, ?_, by decide +kernel⟩
  rintro ⟨path, index, duration, -, -, -, -, he⟩
  have hm : ':' ∈ "abc".toList := by
    rw [he]
    exact List.mem_append_right _ List.mem_cons_self
  revert hm
  decide

end IptvCloud
