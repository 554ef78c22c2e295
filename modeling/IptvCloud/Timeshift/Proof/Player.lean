import IptvCloud.Timeshift.Player

/-!
# What `FindChunkToPlay` finds

In a directory whose chunk times do not decrease with the index the loop stops at the first chunk
after the desired time, if it is less than two durations away (`go_eq_some`), and takes that chunk
or the one before it (`startIndex`). The bound of this choice is strict, and it asks for the
distance to the later chunk only:

* `findChunkToPlay_contains_iff`: on a contiguous recording the chunk found contains the desired
  time exactly when that time is not the time of a chunk.
* `findChunkToPlay_mono_iff`: seeking is monotone except between two times after the same chunk of
  which only the second is less than one duration before the next chunk.
-/

namespace IptvCloud.Timeshift

/-! ## The sorted files -/

theorem mem_chunkFiles {dir : Directory} {file : Σ _ : Nat, Int} :
    file ∈ chunkFiles dir ↔ file ∈ dir.entries ∧ file.1 < 2 ^ 64 := by
  simp [chunkFiles, sortFiles, filterFiles]

theorem chunkFiles_pairwise (dir : Directory) :
    (chunkFiles dir).Pairwise fun first second => first.1 < second.1 := by
  have hle : (chunkFiles dir).Pairwise fun first second => compareFiles second first = false := by
    have : Std.Total fun first second : Σ _ : Nat, Int => compareFiles second first = false :=
      ⟨fun first second => by simp only [compareFiles, decide_eq_false_iff_not]; omega⟩
    have : IsTrans (Σ _ : Nat, Int) fun first second => compareFiles second first = false :=
      ⟨fun a b c => by simp only [compareFiles, decide_eq_false_iff_not]; omega⟩
    exact List.pairwise_insertionSort _ _
  have hne : (chunkFiles dir).Pairwise fun first second => first.1 ≠ second.1 := by
    refine List.nodupKeys_iff_pairwise.1 ?_
    refine (List.perm_nodupKeys (List.perm_insertionSort _ _)).2 ?_
    exact dir.nodupKeys.sublist List.filter_sublist
  refine (hle.and hne).imp fun h => ?_
  simp only [compareFiles, decide_eq_false_iff_not] at h
  omega

/-! ## The loop -/

/-- `prev_index` after the files of a list. -/
def lastIndex (prev : Nat) (files : List (Σ _ : Nat, Int)) : Nat :=
  (files.getLast?.map (·.1)).getD prev

/-- The index the loop selects when it stops at a file. -/
def startIndex (chunkDuration desired : Int) (prev : Nat) (file : Σ _ : Nat, Int) : Nat :=
  if file.2 - chunkDuration < desired ∧ prev ≠ invalidChunkIndex then prev else file.1

@[simp] theorem lastIndex_nil (prev : Nat) : lastIndex prev [] = prev := rfl

@[simp] theorem lastIndex_cons (prev : Nat) (file : Σ _ : Nat, Int)
    (files : List (Σ _ : Nat, Int)) : lastIndex prev (file :: files) = lastIndex file.1 files := by
  cases files with
  | nil => rfl
  | cons next files =>
    simp only [lastIndex, List.getLast?_cons_cons]
    rw [List.getLast?_eq_some_getLast (List.cons_ne_nil next files)]
    rfl

theorem lastIndex_mem (prev : Nat) {files : List (Σ _ : Nat, Int)} (h : files ≠ []) :
    ∃ file ∈ files, lastIndex prev files = file.1 :=
  ⟨files.getLast h, List.getLast_mem h, by simp [lastIndex, List.getLast?_eq_some_getLast h]⟩

section Loop

variable {chunkDuration desired : Int} {prev : Nat} {file : Σ _ : Nat, Int}
  {files pre : List (Σ _ : Nat, Int)}

open findChunkToPlay

/-- A file that is not after the desired time is passed. -/
theorem go_before (h : file.2 ≤ desired) :
    go chunkDuration desired prev (file :: files) = go chunkDuration desired file.1 files := by
  simp only [go]
  rw [if_neg (by omega)]

/-- The loop stops at a file less than two durations after the desired time. -/
theorem go_stop (h : desired < file.2) (h' : file.2 < desired + 2 * chunkDuration) :
    go chunkDuration desired prev (file :: files) =
      some (startIndex chunkDuration desired prev file) := by
  have hpos : 0 < desired - file.2 + chunkDuration ↔ file.2 - chunkDuration < desired := by omega
  simp only [go, startIndex, hpos]
  rw [if_pos (by omega)]
  split <;> rfl

theorem go_past (h : ∀ file ∈ files, desired + 2 * chunkDuration ≤ file.2) :
    go chunkDuration desired prev files = none := by
  induction files generalizing prev with
  | nil => rfl
  | cons file files ih =>
    obtain ⟨hfile, hfiles⟩ := List.forall_mem_cons.1 h
    simp only [go]
    rw [if_neg (by omega)]
    exact ih hfiles

theorem go_append (h : ∀ file ∈ pre, file.2 ≤ desired) :
    go chunkDuration desired prev (pre ++ files) =
      go chunkDuration desired (lastIndex prev pre) files := by
  induction pre generalizing prev with
  | nil => rfl
  | cons file pre ih =>
    obtain ⟨hfile, hpre⟩ := List.forall_mem_cons.1 h
    rw [List.cons_append, go_before hfile, ih hpre, lastIndex_cons]

/-- **Where the loop stops** on files whose times do not decrease: at the first file after the
desired time, which is less than two durations away. -/
theorem go_eq_some {i : Nat} (htimes : files.Pairwise fun f g => f.2 ≤ g.2)
    (h : go chunkDuration desired prev files = some i) :
    ∃ pre file post, files = pre ++ file :: post ∧ (∀ f ∈ pre, f.2 ≤ desired) ∧
      desired < file.2 ∧ i = startIndex chunkDuration desired (lastIndex prev pre) file := by
  induction files generalizing prev with
  | nil => cases h
  | cons file files ih =>
    obtain ⟨hfile, hfiles⟩ := List.pairwise_cons.1 htimes
    by_cases hd : file.2 ≤ desired
    · rw [go_before hd] at h
      obtain ⟨pre, f, post, rfl, hpre, hf, rfl⟩ := ih hfiles h
      refine ⟨file :: pre, f, post, rfl, ?_, hf, by rw [lastIndex_cons]⟩
      exact List.forall_mem_cons.2 ⟨hd, hpre⟩
    · have hnear : file.2 < desired + 2 * chunkDuration := by
        by_contra hfar
        have hpast : ∀ f ∈ file :: files, desired + 2 * chunkDuration ≤ f.2 :=
          List.forall_mem_cons.2 ⟨by omega, fun f hf => by have := hfile f hf; omega⟩
        rw [go_past hpast] at h
        cases h
      rw [go_stop (by omega) hnear] at h
      cases h
      exact ⟨[], file, files, rfl, by simp, by omega, rfl⟩

end Loop

/-! ## A contiguous recording -/

/-- The chunks of the directory have the indices from `a` to `b`, and `time` are their times, one
duration apart. -/
structure Contiguous (dir : Directory) (a b : Nat) (chunkDuration : Int) (time : Nat → Int) :
    Prop where
  le : a ≤ b
  mem : ∀ i, i ∈ dir ↔ a ≤ i ∧ i ≤ b
  lookup : ∀ i ∈ dir, dir.lookup i = some (time i)
  next : ∀ i, a ≤ i → i < b → time (i + 1) = time i + chunkDuration
  isIndex : b < 2 ^ 64

/-- The index of the chunk that a non-decreasing sequence of times puts a time in. -/
theorem exists_chunk {time : Nat → Int} {a b : Nat} {desired : Int} (hab : a ≤ b)
    (ha : time a ≤ desired) (hb : desired < time b) :
    ∃ i, a ≤ i ∧ i < b ∧ time i ≤ desired ∧ desired < time (i + 1) := by
  induction b, hab using Nat.le_induction with
  | base => omega
  | succ b hab ih =>
    by_cases hd : desired < time b
    · obtain ⟨i, hai, hib, hi⟩ := ih hd
      exact ⟨i, hai, by omega, hi⟩
    · exact ⟨b, hab, by omega, by omega, hb⟩

section Contiguous

variable {dir : Directory} {a b : Nat} {chunkDuration : Int} {time : Nat → Int}
  (hc : Contiguous dir a b chunkDuration time) (hpos : 0 < chunkDuration)
include hc

theorem Contiguous.mem_chunkFiles (file : Σ _ : Nat, Int) :
    file ∈ chunkFiles dir ↔ file.1 ∈ dir ∧ file.2 = time file.1 := by
  obtain ⟨i, t⟩ := file
  rw [Timeshift.mem_chunkFiles, ← AList.mem_lookup_iff]
  constructor
  · rintro ⟨ht, -⟩
    have hi : i ∈ dir := AList.lookup_isSome.1 (by rw [ht]; rfl)
    rw [hc.lookup i hi, Option.mem_some_iff] at ht
    exact ⟨hi, ht.symm⟩
  · rintro ⟨hi, ht⟩
    have := ((hc.mem i).1 hi).2
    have := hc.isIndex
    exact ⟨by rw [show t = time i from ht]; exact hc.lookup i hi, by show i < 2 ^ 64; omega⟩

include hpos

theorem Contiguous.time_lt {i j : Nat} (hi : a ≤ i) (hij : i < j) (hj : j ≤ b) :
    time i < time j := by
  induction j, hij using Nat.le_induction with
  | base =>
    rw [hc.next i hi (by omega)]
    omega
  | succ j hij ih =>
    have := ih (by omega)
    rw [hc.next j (by omega) (by omega)]
    omega

theorem Contiguous.time_le {i j : Nat} (hi : a ≤ i) (hij : i ≤ j) (hj : j ≤ b) :
    time i ≤ time j := by
  rcases Nat.lt_or_eq_of_le hij with hlt | rfl
  · exact (hc.time_lt hpos hi hlt hj).le
  · exact le_refl _

/-- The chunk found for a time in the chunk `i`: the next one at the very time of the chunk. -/
theorem Contiguous.findChunkToPlay_eq {now delay : Int} {i : Nat} (hi : a ≤ i) (hib : i < b)
    (hlo : time i ≤ desiredTime now delay) (hhi : desiredTime now delay < time (i + 1)) :
    findChunkToPlay dir now delay chunkDuration =
      some (if time i = desiredTime now delay then i + 1 else i) := by
  have hnext := hc.next i hi hib
  have hsucc : (⟨i + 1, time (i + 1)⟩ : Σ _ : Nat, Int) ∈ chunkFiles dir :=
    (hc.mem_chunkFiles _).2 ⟨(hc.mem _).2 (by show a ≤ i + 1 ∧ i + 1 ≤ b; omega), rfl⟩
  have hmem : (⟨i, time i⟩ : Σ _ : Nat, Int) ∈ chunkFiles dir :=
    (hc.mem_chunkFiles _).2 ⟨(hc.mem _).2 (by show a ≤ i ∧ i ≤ b; omega), rfl⟩
  obtain ⟨pre, post, hfiles⟩ := List.append_of_mem hsucc
  have hsorted := chunkFiles_pairwise dir
  rw [hfiles] at hsorted hmem
  obtain ⟨-, hpost, hcross⟩ := List.pairwise_append.1 hsorted
  have hpre : ∀ f ∈ pre, f.1 ≤ i ∧ f.2 ≤ desiredTime now delay := by
    intro f hf
    have hlt : f.1 < i + 1 := hcross f hf _ (List.mem_cons_self ..)
    obtain ⟨hdir, htime⟩ := (hc.mem_chunkFiles f).1 (by rw [hfiles]; simp [hf])
    have hle := hc.time_le hpos ((hc.mem f.1).1 hdir).1 (show f.1 ≤ i by omega) (by omega)
    exact ⟨by omega, by omega⟩
  -- the chunk `i` is the last one before the file the loop stops at
  have hipre : (⟨i, time i⟩ : Σ _ : Nat, Int) ∈ pre := by
    rcases List.mem_append.1 hmem with h | h
    · exact h
    · rcases List.mem_cons.1 h with h | h
      · have := congrArg Sigma.fst h
        simp at this
      · have : i + 1 < i := (List.pairwise_cons.1 hpost).1 _ h
        omega
  have hlast : lastIndex invalidChunkIndex pre = i := by
    obtain ⟨init, last, rfl⟩ := List.eq_nil_or_concat pre |>.resolve_left
      (List.ne_nil_of_mem hipre)
    have hlt : lastIndex invalidChunkIndex (init.concat last) = last.1 := by
      simp [lastIndex]
    rw [hlt]
    have hle := (hpre last (by simp)).1
    rw [List.concat_eq_append] at hipre
    rcases List.mem_append.1 hipre with h | h
    · have : i < last.1 := by
        have := (List.pairwise_append.1 hsorted).1
        rw [List.concat_eq_append] at this
        exact (List.pairwise_append.1 this).2.2 _ h last (by simp)
      omega
    · rw [← List.mem_singleton.1 h]
  have hvalid : i ≠ invalidChunkIndex := by
    have := hc.isIndex
    unfold invalidChunkIndex
    omega
  rw [findChunkToPlay, hfiles, go_append fun f hf => (hpre f hf).2,
    go_stop (by exact hhi) (by show time (i + 1) < _; omega), hlast, startIndex]
  split
  · rename_i h
    rw [if_neg (by have := h.1; dsimp only at this; omega)]
  · rename_i h
    rw [if_pos (by dsimp only at h; omega)]

end Contiguous

/-- **The chunk found contains the desired time** on a contiguous recording exactly when that time
is not the time of one of its chunks. -/
theorem findChunkToPlay_contains_iff {dir : Directory} {a b : Nat} {chunkDuration : Int}
    {time : Nat → Int} (hc : Contiguous dir a b chunkDuration time) (hpos : 0 < chunkDuration)
    {now delay : Int} (hlo : time a ≤ desiredTime now delay)
    (hhi : desiredTime now delay < time b) :
    (∃ i ∈ dir, findChunkToPlay dir now delay chunkDuration = some i ∧
      time i ≤ desiredTime now delay ∧ desiredTime now delay < time i + chunkDuration) ↔
    ∀ i ∈ dir, time i ≠ desiredTime now delay := by
  obtain ⟨i, hai, hib, hi, hi'⟩ := exists_chunk hc.le hlo hhi
  have hnext := hc.next i hai hib
  have hdir : i ∈ dir := (hc.mem i).2 (by omega)
  rw [hc.findChunkToPlay_eq hpos hai hib hi hi']
  refine ⟨fun ⟨j, hj, hfound, hlo, hhi⟩ k hk hkd => ?_, fun h => ?_⟩
  · -- a chunk at the desired time is the chunk `i`, and `i + 1` is found
    obtain ⟨hak, hkb⟩ := (hc.mem k).1 hk
    have hki : k = i := by
      rcases Nat.lt_trichotomy k i with hlt | heq | hgt
      · have := hc.time_lt hpos hak hlt hib.le
        omega
      · exact heq
      · have := hc.time_le hpos (show a ≤ i + 1 by omega) hgt hkb
        omega
    subst hki
    rw [if_pos hkd, Option.some.injEq] at hfound
    subst hfound
    omega
  · exact ⟨i, hdir, by rw [if_neg (h i hdir)], hi, by omega⟩

/-- Three chunks of a minute, listed in another order. -/
def threeMinutes : Directory := ((AList.insert 5 60 ∅).insert 6 120).insert 4 0

theorem threeMinutes_contiguous :
    Contiguous threeMinutes 4 6 60 fun i => ((i : Int) - 4) * 60 where
  le := by decide
  mem i := by
    simp only [threeMinutes, AList.mem_insert, AList.notMem_empty, or_false]
    omega
  lookup i hi := by
    simp only [threeMinutes, AList.mem_insert, AList.notMem_empty, or_false] at hi
    rcases hi with rfl | rfl | rfl <;> rfl
  next i _ _ := by omega
  isIndex := by decide

/-- At the very time of the chunk `5` the chunk `6` is played. -/
theorem findChunkToPlay_at_chunk_time_fails :
    findChunkToPlay threeMinutes 60000 0 60 = some 6 ∧
    ¬ ∃ i ∈ threeMinutes, findChunkToPlay threeMinutes 60000 0 60 = some i ∧
      ((i : Int) - 4) * 60 ≤ desiredTime 60000 0 ∧
      desiredTime 60000 0 < ((i : Int) - 4) * 60 + 60 := by
  have hfound : findChunkToPlay threeMinutes 60000 0 60 = some 6 := by decide
  refine ⟨hfound, ?_⟩
  rintro ⟨i, -, hi, hlo, -⟩
  rw [hfound] at hi
  cases hi
  exact absurd hlo (by decide)

theorem findChunkToPlay_contains_threeMinutes :
    ∃ i ∈ threeMinutes, findChunkToPlay threeMinutes 90000 0 60 = some i ∧
      ((i : Int) - 4) * 60 ≤ desiredTime 90000 0 ∧
      desiredTime 90000 0 < ((i : Int) - 4) * 60 + 60 := by
  refine (findChunkToPlay_contains_iff threeMinutes_contiguous (by decide) (by decide)
    (by decide)).2 fun i _ h => ?_
  rw [show desiredTime 90000 0 = 90 by decide] at h
  omega

/-! ## Two searches in one directory -/

/-- The times of the chunks do not decrease with their indices. -/
def TimesOrdered (dir : Directory) : Prop :=
  ∀ f ∈ chunkFiles dir, ∀ g ∈ chunkFiles dir, f.1 ≤ g.1 → f.2 ≤ g.2

theorem TimesOrdered.pairwise {dir : Directory} (h : TimesOrdered dir) :
    (chunkFiles dir).Pairwise fun f g => f.2 ≤ g.2 :=
  (chunkFiles_pairwise dir).imp_of_mem fun hf hg hlt => h _ hf _ hg hlt.le

/-- `next` is the chunk after `file` in the order of the indices. -/
def NextChunk (dir : Directory) (file next : Σ _ : Nat, Int) : Prop :=
  ∃ pre post, chunkFiles dir = pre ++ file :: next :: post

/-- Both times are after a chunk and before the next one, and only the second is less than one
duration before it. -/
def Straddles (dir : Directory) (chunkDuration desired₁ desired₂ : Int) : Prop :=
  ∃ file next, NextChunk dir file next ∧ file.2 ≤ desired₁ ∧
    desired₁ ≤ next.2 - chunkDuration ∧ next.2 - chunkDuration < desired₂ ∧ desired₂ < next.2

section Mono

variable {dir : Directory} {chunkDuration desired₁ desired₂ : Int}
  {pre post : List (Σ _ : Nat, Int)} {file : Σ _ : Nat, Int}

theorem startIndex_nil :
    startIndex chunkDuration desired₁ (lastIndex invalidChunkIndex []) file = file.1 := by
  simp [startIndex]

/-- Only the last chunk can have the invalid index. -/
theorem lastIndex_valid (h : chunkFiles dir = pre ++ file :: post) (hpre : pre ≠ []) :
    ∃ last ∈ pre, lastIndex invalidChunkIndex pre = last.1 ∧ last.1 < file.1 ∧
      last.1 ≠ invalidChunkIndex := by
  obtain ⟨last, hlast, heq⟩ := lastIndex_mem invalidChunkIndex hpre
  have hsorted := chunkFiles_pairwise dir
  rw [h] at hsorted
  have hlt : last.1 < file.1 :=
    (List.pairwise_append.1 hsorted).2.2 last hlast file (List.mem_cons_self ..)
  have hfile : file.1 < 2 ^ 64 := (mem_chunkFiles.1 (by rw [h]; simp)).2
  exact ⟨last, hlast, heq, hlt, by unfold invalidChunkIndex; omega⟩

/-- The chunk found is not after the one the loop stops at. -/
theorem startIndex_le (h : chunkFiles dir = pre ++ file :: post) :
    startIndex chunkDuration desired₁ (lastIndex invalidChunkIndex pre) file ≤ file.1 := by
  cases pre with
  | nil => rw [startIndex_nil]
  | cons first pre =>
    obtain ⟨last, -, heq, hlt, -⟩ := lastIndex_valid h (List.cons_ne_nil first pre)
    unfold startIndex
    split
    · rw [heq]
      exact hlt.le
    · exact le_refl _

/-- A chunk before the one the loop stops at is not after the chunk found. -/
theorem le_startIndex (h : chunkFiles dir = pre ++ file :: post) {f : Σ _ : Nat, Int}
    (hf : f ∈ pre) :
    f.1 ≤ startIndex chunkDuration desired₁ (lastIndex invalidChunkIndex pre) file := by
  have hsorted := chunkFiles_pairwise dir
  rw [h] at hsorted
  obtain ⟨hpre, -, hcross⟩ := List.pairwise_append.1 hsorted
  obtain ⟨init, last, rfl⟩ := List.eq_nil_or_concat pre |>.resolve_left (List.ne_nil_of_mem hf)
  rw [List.concat_eq_append] at hpre hcross hf ⊢
  have hfile : f.1 < file.1 := hcross f hf file (List.mem_cons_self ..)
  have hlast : f.1 ≤ last.1 := by
    rcases List.mem_append.1 hf with h | h
    · exact ((List.pairwise_append.1 hpre).2.2 f h last (List.mem_singleton.2 rfl)).le
    · rw [List.mem_singleton.1 h]
  have heq : lastIndex invalidChunkIndex (init ++ [last]) = last.1 := by simp [lastIndex]
  unfold startIndex
  split
  · rw [heq]
    exact hlast
  · exact hfile.le

/-- Two searches that stop at the same chunk. -/
theorem startIndex_le_iff (h : chunkFiles dir = pre ++ file :: post) (hle : desired₁ ≤ desired₂) :
    startIndex chunkDuration desired₁ (lastIndex invalidChunkIndex pre) file ≤
      startIndex chunkDuration desired₂ (lastIndex invalidChunkIndex pre) file ↔
    ¬ (pre ≠ [] ∧ desired₁ ≤ file.2 - chunkDuration ∧ file.2 - chunkDuration < desired₂) := by
  cases pre with
  | nil =>
    simp only [startIndex_nil, le_refl, ne_eq, not_true_eq_false, false_and, not_false_eq_true]
  | cons first pre =>
    obtain ⟨last, -, heq, hlt, hvalid⟩ := lastIndex_valid h (List.cons_ne_nil first pre)
    simp only [startIndex, heq, hvalid, ne_eq, not_false_eq_true, and_true, reduceCtorEq, true_and]
    split <;> split <;> omega

/-- A search for a later time stops at the same chunk or at a later one. -/
theorem stop_cases {pre₁ post₁ pre₂ post₂ : List (Σ _ : Nat, Int)} {file₁ file₂ : Σ _ : Nat, Int}
    (h : pre₁ ++ file₁ :: post₁ = pre₂ ++ file₂ :: post₂) (hpre : ∀ f ∈ pre₁, f.2 ≤ desired₁)
    (hfile : desired₂ < file₂.2) (hle : desired₁ ≤ desired₂) :
    (pre₁ = pre₂ ∧ file₁ = file₂) ∨ file₁ ∈ pre₂ := by
  rcases List.append_eq_append_iff.1 h with ⟨mid, rfl, hmid⟩ | ⟨mid, rfl, hmid⟩
  · cases mid with
    | nil => exact .inl ⟨(List.append_nil _).symm, (List.cons.inj hmid).1⟩
    | cons f mid =>
      rw [(List.cons.inj hmid).1]
      exact .inr (by simp)
  · cases mid with
    | nil => exact .inl ⟨List.append_nil _, (List.cons.inj hmid).1.symm⟩
    | cons f mid =>
      have := hpre f (by simp)
      rw [← (List.cons.inj hmid).1] at this
      omega

/-- The chunk after the last one that is not after the desired time is where the search stops. -/
theorem stop_eq {init rest : List (Σ _ : Nat, Int)} {last next : Σ _ : Nat, Int}
    (hdir : TimesOrdered dir) (h : chunkFiles dir = pre ++ file :: post)
    (hpre : ∀ f ∈ pre, f.2 ≤ desired₁) (hfile : desired₁ < file.2)
    (h' : chunkFiles dir = init ++ last :: next :: rest) (hlast : last.2 ≤ desired₁)
    (hnext : desired₁ < next.2) : pre = init ++ [last] ∧ file = next := by
  have happ : pre ++ file :: post = (init ++ [last]) ++ next :: rest := by
    rw [← h, h', List.append_assoc]
    rfl
  rcases stop_cases happ hpre hnext le_rfl with heq | hmem
  · exact heq
  · have htimes := hdir.pairwise
    rw [h'] at htimes
    obtain ⟨-, -, hcross⟩ := List.pairwise_append.1 htimes
    rcases List.mem_append.1 hmem with hinit | heq
    · have := hcross file hinit last (List.mem_cons_self ..)
      omega
    · rw [List.mem_singleton.1 heq] at hfile
      omega

end Mono

/-- **Seeking is monotone** between two desired times exactly when they do not straddle. -/
theorem findChunkToPlay_mono_iff {dir : Directory} (hdir : TimesOrdered dir) {chunkDuration : Int}
    {now₁ delay₁ now₂ delay₂ : Int} {i₁ i₂ : Nat}
    (hle : desiredTime now₁ delay₁ ≤ desiredTime now₂ delay₂)
    (h₁ : findChunkToPlay dir now₁ delay₁ chunkDuration = some i₁)
    (h₂ : findChunkToPlay dir now₂ delay₂ chunkDuration = some i₂) :
    i₁ ≤ i₂ ↔
      ¬ Straddles dir chunkDuration (desiredTime now₁ delay₁) (desiredTime now₂ delay₂) := by
  have htimes := hdir.pairwise
  obtain ⟨pre₁, file₁, post₁, hfiles₁, hpre₁, hfile₁, rfl⟩ := go_eq_some htimes h₁
  obtain ⟨pre₂, file₂, post₂, hfiles₂, hpre₂, hfile₂, rfl⟩ := go_eq_some htimes h₂
  rcases stop_cases (hfiles₁.symm.trans hfiles₂) hpre₁ hfile₂ hle with ⟨rfl, rfl⟩ | hlater
  · rw [startIndex_le_iff hfiles₁ hle]
    refine not_congr ⟨fun ⟨hne, hlo, hhi⟩ => ?_, fun ⟨f, g, ⟨p, q, h⟩, hf, hlo, hhi, hg⟩ => ?_⟩
    · obtain ⟨init, last, rfl⟩ := List.eq_nil_or_concat pre₁ |>.resolve_left hne
      refine ⟨last, file₁, ⟨init, post₁, ?_⟩, hpre₁ last (by simp), hlo, hhi, hfile₂⟩
      rw [hfiles₁, List.concat_eq_append, List.append_assoc]
      rfl
    · obtain ⟨rfl, rfl⟩ := stop_eq hdir hfiles₁ hpre₁ hfile₁ h hf (by omega)
      exact ⟨by simp, hlo, hhi⟩
  · refine iff_of_true ?_ ?_
    · exact (startIndex_le hfiles₁).trans (le_startIndex hfiles₂ hlater)
    · rintro ⟨f, g, ⟨p, q, h⟩, hf, -, -, hg⟩
      obtain ⟨-, rfl⟩ := stop_eq hdir hfiles₁ hpre₁ hfile₁ h hf (by omega)
      have := hpre₂ file₁ hlater
      omega

/-- Two chunks of a minute with a pause between them. -/
def pausedChunks : Directory := (AList.insert 0 0 ∅).insert 1 100

theorem pausedChunks_ordered : TimesOrdered pausedChunks := by
  unfold TimesOrdered
  decide

/-- For a time in the first chunk the second one is played, for a later time the first. -/
theorem findChunkToPlay_mono_fails :
    TimesOrdered pausedChunks ∧ desiredTime 30000 0 ≤ desiredTime 50000 0 ∧
    ∃ i₁ i₂, findChunkToPlay pausedChunks 30000 0 60 = some i₁ ∧
      findChunkToPlay pausedChunks 50000 0 60 = some i₂ ∧ ¬ i₁ ≤ i₂ :=
  ⟨pausedChunks_ordered, by decide, 1, 0, by decide, by decide, by decide⟩

theorem findChunkToPlay_mono_pausedChunks :
    ∃ i₁ i₂, findChunkToPlay pausedChunks (-10000) 0 60 = some i₁ ∧
      findChunkToPlay pausedChunks 10000 0 60 = some i₂ ∧ i₁ ≤ i₂ := by
  have h₁ : findChunkToPlay pausedChunks (-10000) 0 60 = some 0 := by decide
  have h₂ : findChunkToPlay pausedChunks 10000 0 60 = some 1 := by decide
  refine ⟨0, 1, h₁, h₂, ?_⟩
  refine (findChunkToPlay_mono_iff pausedChunks_ordered (by decide) h₁ h₂).2 ?_
  rintro ⟨f, g, ⟨pre, post, h⟩, hf, -⟩
  have hfirst : ∀ file ∈ chunkFiles pausedChunks, desiredTime (-10000) 0 < file.2 := by decide
  have := hfirst f (by rw [h]; simp)
  omega

end IptvCloud.Timeshift
