import IptvCloud.Lib.Run
import IptvCloud.Timeshift.Recorder

/-!
# When the recorders keep the recorded chunks

`OnSplitmuxsinkCreated` fills `chunk_` by position: the index it has computed becomes the duration
and `GST_CLOCK_TIME_NONE`, which is `invalid_chunk_index`, becomes the index. The first `OnPathSet`
of every session therefore starts from index 0 with one existence test, whatever the directory
holds (`calcNextIndex_invalid`); from then on the index follows the session's own files
(`calcNextIndex_valid`).

* `Inv`: within a session the last returned index is `chunk_.index`, and no file is beyond it.
* `pathFresh_iff_firstPathAlone`: over every run of sessions of either class, every returned path is
  new, not below any file and not below the session's earlier paths, exactly when every session
  opens its first file in a directory without a chunk other than `0.ts`.
-/

namespace IptvCloud.Timeshift

open Run

/-! ## The operations -/

theorem calcNextIndex_invalid {dir : Directory} {chunk : ChunkInfo}
    (h : chunk.index = invalidChunkIndex) :
    calcNextIndex dir chunk = if 0 ∈ dir then 1 else 0 := by
  simp only [calcNextIndex, h, if_true]
  rfl

theorem calcNextIndex_valid {dir : Directory} {chunk : ChunkInfo}
    (h : chunk.index < invalidChunkIndex) :
    calcNextIndex dir chunk = if chunk.index ∈ dir then chunk.index + 1 else chunk.index := by
  have hlt : chunk.index + 1 < 2 ^ 64 := by unfold invalidChunkIndex at h; omega
  simp only [calcNextIndex, h.ne, if_false, u64, Nat.mod_eq_of_lt hlt]

theorem noteSample_index (r : Recorder) (sample : Sample) :
    (r.noteSample sample).chunk.index = r.chunk.index := by
  cases sample <;> rfl

/-- Both classes return the index of `CalcNextIndex` and keep it in `chunk_`. -/
theorem onPathSet_index (cfg : RecorderConfig) (dir : Directory) (r : Recorder) (sample : Sample) :
    (onPathSet cfg dir r sample).2 = calcNextIndex dir r.chunk ∧
      (onPathSet cfg dir r sample).1.chunk.index = calcNextIndex dir r.chunk := by
  unfold onPathSet
  split
  · exact ⟨rfl, rfl⟩
  · have hcalc : ∀ chunk : ChunkInfo, chunk.index = r.chunk.index →
        calcNextIndex dir chunk = calcNextIndex dir r.chunk := fun chunk h => by
      simp only [calcNextIndex, h]
    exact ⟨hcalc _ (noteSample_index r sample), hcalc _ (noteSample_index r sample)⟩

theorem onSplitmuxsinkCreated_index (cfg : RecorderConfig) (now : Int) (dir : Directory)
    (r : Recorder) : (onSplitmuxsinkCreated cfg now dir r).chunk.index = invalidChunkIndex := rfl

/-- A clean-up only removes files. -/
theorem mem_of_mem_handleMainTimerTick {cfg : RecorderConfig} {now : Int} {unlinkOk : Nat → Bool}
    {dir : Directory} {i : Nat} (h : i ∈ handleMainTimerTick cfg now unlinkOk dir) : i ∈ dir := by
  simp only [handleMainTimerTick] at h
  split at h
  · obtain ⟨file, hf, rfl⟩ := List.mem_map.1 (AList.mem_keys.1 h)
    exact AList.mem_keys.2 (List.mem_map_of_mem (List.mem_of_mem_filter hf))
  · exact h

/-! ## The properties of one `OnPathSet` -/

/-- The returned path names no file, no file has a larger index and no earlier call of the session
returned a larger one. -/
def PathFresh (cfg : RecorderConfig) (s : Recording) (e : Event) : Prop :=
  ∀ sample mtime r, e = .pathSet sample mtime → s.stream = some r →
    (onPathSet cfg s.dir r sample).2 ∉ s.dir ∧
    (∀ i ∈ s.dir, i ≤ (onPathSet cfg s.dir r sample).2) ∧
    ∀ i ∈ s.returned, i ≤ (onPathSet cfg s.dir r sample).2

/-- The returned index is below `2 ^ 64 - 1`. -/
def IndexBelow (cfg : RecorderConfig) (s : Recording) (e : Event) : Prop :=
  ∀ sample mtime r, e = .pathSet sample mtime → s.stream = some r →
    (onPathSet cfg s.dir r sample).2 < 2 ^ 64 - 1

/-- The first `OnPathSet` of a session finds no chunk other than `0.ts`. -/
def FirstPathAlone (s : Recording) (e : Event) : Prop :=
  ∀ sample mtime r, e = .pathSet sample mtime → s.stream = some r → s.returned = [] →
    ∀ i ∈ s.dir, i = 0

/-! ## The invariant -/

/-- Before the first path of a session `chunk_.index` is invalid; after it `chunk_.index` is the
last returned index, and no file and no earlier path is beyond it. -/
structure Inv (s : Recording) : Prop where
  start : ∀ r, s.stream = some r → s.returned = [] → r.chunk.index = invalidChunkIndex
  last : ∀ r j l, s.stream = some r → s.returned = j :: l →
    r.chunk.index = j ∧ j < invalidChunkIndex ∧ (∀ i ∈ s.dir, i ≤ j) ∧ ∀ i ∈ s.returned, i ≤ j

theorem inv_init (dir : Directory) : Inv (.init dir) :=
  ⟨fun _ h => (by cases h), fun _ _ _ h => (by cases h)⟩

/-- Under the invariant a path is fresh exactly when the session's first one meets no other
chunk. -/
theorem pathFresh_iff {cfg : RecorderConfig} {s : Recording} {e : Event} (hI : Inv s) :
    PathFresh cfg s e ↔ FirstPathAlone s e := by
  unfold PathFresh FirstPathAlone
  refine forall_congr' fun sample => forall_congr' fun mtime => forall_congr' fun r =>
    forall_congr' fun _ => forall_congr' fun hr => ?_
  rw [(onPathSet_index cfg s.dir r sample).1]
  cases hret : s.returned with
  | nil =>
    rw [calcNextIndex_invalid (hI.start r hr hret)]
    split
    · rename_i h0
      constructor
      · -- the path is `1.ts`: no other file may be there
        rintro ⟨hnot, hle, -⟩ - i hi
        have hi1 : i ≠ 1 := fun h => hnot (h ▸ hi)
        have := hle i hi
        omega
      · intro h
        refine ⟨fun h1 => ?_, fun i hi => ?_, by simp⟩
        · exact absurd (h rfl 1 h1) (by decide)
        · rw [h rfl i hi]; exact Nat.zero_le 1
    · rename_i h0
      constructor
      · rintro ⟨-, hle, -⟩ - i hi
        have := hle i hi
        omega
      · intro h
        exact ⟨h0, fun i hi => (h rfl i hi).le, by simp⟩
  | cons j l =>
    obtain ⟨hj, hlt, hdir, hrets⟩ := hI.last r j l hr hret
    rw [hret] at hrets
    subst hj
    rw [calcNextIndex_valid hlt]
    refine iff_of_true ?_ (fun h => by cases h)
    split
    · refine ⟨fun h => ?_, fun i hi => ?_, fun i hi => ?_⟩
      · have := hdir _ h; omega
      · have := hdir i hi; omega
      · have := hrets i hi; omega
    · rename_i hnot
      exact ⟨hnot, hdir, hrets⟩

theorem inv_step {cfg : RecorderConfig} {s s' : Recording} {e : Event} (hI : Inv s)
    (hb : IndexBelow cfg s e) (hf : PathFresh cfg s e) (h : step cfg s e = some s') : Inv s' := by
  cases e with
  | splitmuxsinkCreated now loaded =>
    cases h
    refine ⟨fun r hr _ => ?_, fun r j l _ hret => (by cases hret)⟩
    cases hr
    exact onSplitmuxsinkCreated_index ..
  | pathSet sample mtime =>
    obtain ⟨r, hr, rfl⟩ := Option.map_eq_some_iff.1 h
    obtain ⟨-, hdir, hrets⟩ := hf sample mtime r rfl hr
    have hlt := hb sample mtime r rfl hr
    obtain ⟨hind, hchunk⟩ := onPathSet_index cfg s.dir r sample
    refine ⟨fun r' _ hret => (by cases hret), fun r' j l hr' hret => ?_⟩
    cases hr'
    simp only [List.cons.injEq] at hret
    obtain ⟨rfl, rfl⟩ := hret
    refine ⟨hchunk.trans hind.symm, hlt, fun i hi => ?_, fun i hi => ?_⟩
    · rcases (AList.mem_insert s.dir).1 hi with rfl | hi
      · exact Nat.le_refl _
      · exact hdir i hi
    · rcases List.mem_cons.1 hi with rfl | hi
      · exact Nat.le_refl _
      · exact hrets i hi
  | mainTimerTick now unlinkOk =>
    cases h
    refine ⟨hI.start, fun r j l hr hret => ?_⟩
    obtain ⟨hj, hlt, hdir, hrets⟩ := hI.last r j l hr hret
    exact ⟨hj, hlt, fun i hi => hdir i (mem_of_mem_handleMainTimerTick hi), hrets⟩

/-! ## Every run -/

/-- **The recorders overwrite nothing exactly when every session starts alone**: in every run of
sessions of a timeshift or catch-up recorder whose indices stay below `2 ^ 64 - 1`. -/
theorem pathFresh_iff_firstPathAlone (cfg : RecorderConfig) (dir : Directory) (es : List Event)
    (hb : Along (step cfg) (IndexBelow cfg) (.init dir) es) :
    Along (step cfg) (PathFresh cfg) (.init dir) es ↔
      Along (step cfg) FirstPathAlone (.init dir) es :=
  along_iff_under (I := Inv) (B := IndexBelow cfg) (fun _ _ hI _ => pathFresh_iff hI)
    (fun _ _ _ hI hb hC h => inv_step hI hb ((pathFresh_iff hI).2 hC) h) (inv_init dir) hb

/-- A catch-up recorder of two minute chunks. -/
def catchupConfig : RecorderConfig := ⟨.catchup, ['/', 'c', '/'], 120, 43200, 0⟩

/-- Three recorded chunks. -/
def threeChunks : Directory := ((AList.insert 0 100 ∅).insert 1 220).insert 2 340

/-- A restart on three recorded chunks opens `1.ts`, which exists. -/
theorem pathFresh_restart_fails :
    Along (step catchupConfig) (IndexBelow catchupConfig) (.init threeChunks)
      [.splitmuxsinkCreated 500000 [], .pathSet .null 500] ∧
    ¬ Along (step catchupConfig) (PathFresh catchupConfig) (.init threeChunks)
      [.splitmuxsinkCreated 500000 [], .pathSet .null 500] := by
  constructor
  · refine ⟨fun _ _ _ h => (by cases h), fun s hs => ?_⟩
    cases hs
    refine ⟨fun sample mtime r he hr => ?_, fun _ _ => trivial⟩
    cases he; cases hr
    decide
  · rintro ⟨-, h⟩
    exact absurd ((h _ rfl).1 .null 500 _ rfl rfl).1 (by decide)

theorem pathFresh_two_sessions :
    Along (step catchupConfig) (PathFresh catchupConfig) (.init ∅)
      [.splitmuxsinkCreated 1000 [], .pathSet .null 1, .splitmuxsinkCreated 500000 [],
        .pathSet .null 500, .pathSet .null 620] := by
  refine (pathFresh_iff_firstPathAlone catchupConfig ∅ _ ?_).2 ?_
  · simp [Along, step, IndexBelow]
    decide
  · simp [Along, step, FirstPathAlone]
    decide

end IptvCloud.Timeshift
