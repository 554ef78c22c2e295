import IptvCloud.Timeshift.Proof.Catchup

/-!
# The chunks the catch-up playlist lists

`PostLoop` writes the chunks that the session has loaded and opened. The clean-up of the inherited
`HandleMainTimerTick` does not look at this list: every listed chunk exists throughout a run exactly
when every session loads existing chunks and no clean-up removes a listed one
(`listedExist_iff_keepsListed`).
-/

namespace IptvCloud.Timeshift

open Run

theorem tsName_injective {i j : Nat} (h : tsName i = tsName j) : i = j := by
  have hdigits : Nat.toDigits 10 i = Nat.toDigits 10 j := List.append_cancel_right h
  rw [← Nat.ofDigitChars_ten_toDigits (n := i), hdigits, Nat.ofDigitChars_ten_toDigits]

/-- An `OnPathSet` of the session, and the file it creates. -/
theorem step_pathSet {cfg : RecorderConfig} {s s' : Recording} {sample : Sample} {mtime : Int}
    (h : step cfg s (.pathSet sample mtime) = some s') :
    ∃ r, s.stream = some r ∧ s' = ⟨s.dir.insert (calcNextIndex s.dir r.chunk) mtime,
      some (onPathSet cfg s.dir r sample).1, calcNextIndex s.dir r.chunk :: s.returned⟩ := by
  obtain ⟨r, hr, rfl⟩ := Option.map_eq_some_iff.1 h
  refine ⟨r, hr, ?_⟩
  rw [← (onPathSet_index cfg s.dir r sample).1]

/-! ## The listed chunks -/

/-- The directory has the file of a chunk. -/
def HasChunk (dir : Directory) (chunk : ChunkInfo) : Prop := ∃ i ∈ dir, chunk.path = tsName i

/-- The playlist that `PostLoop` writes lists existing chunks only. -/
def ListedExist (cfg : RecorderConfig) (s : Recording) : Prop :=
  ∀ chunk ∈ postLoopChunks cfg s, HasChunk s.dir chunk

/-- The clean-up of a tick removes a file: it is due, and the file is older than the life time of
the chunks. -/
def Removed (cfg : RecorderConfig) (now : Int) (unlinkOk : Nat → Bool) (file : Σ _ : Nat, Int) :
    Prop :=
  ((now - cfg.startTime).tdiv 1000).tmod noDataPanicSec = 0 ∧
    file.2 < now.tdiv 1000 - cfg.chunkLifeTime ∧ unlinkOk file.1 = true

/-- A session loads chunks of existing files, and a tick removes no file of a listed chunk. -/
def KeepsListed (cfg : RecorderConfig) (s : Recording) : Event → Prop
  | .splitmuxsinkCreated _ loaded => ∀ chunk ∈ loaded, HasChunk s.dir chunk
  | .pathSet _ _ => True
  | .mainTimerTick now unlinkOk =>
    ∀ file ∈ s.dir.entries, Removed cfg now unlinkOk file →
      ∀ chunk ∈ postLoopChunks cfg s, chunk.path ≠ tsName file.1

/-- The paths `PostLoop` writes. -/
theorem forall_postLoopChunks {P : Text → Prop} {cfg : RecorderConfig} {s : Recording} :
    (∀ chunk ∈ postLoopChunks cfg s, P chunk.path) ↔
      ∀ r, s.stream = some r → ∀ e ∈ r.chunks.map M3u8.entry, P e.1 := by
  unfold postLoopChunks
  split
  · rename_i h
    simp [h]
  · rename_i r h
    simp [h, writtenChunks, M3u8.entry]

theorem listedExist_iff {cfg : RecorderConfig} {s : Recording} :
    ListedExist cfg s ↔
      ∀ r, s.stream = some r → ∀ e ∈ r.chunks.map M3u8.entry, ∃ i ∈ s.dir, e.1 = tsName i :=
  forall_postLoopChunks (P := fun path => ∃ i ∈ s.dir, path = tsName i)

/-- The files after a tick. -/
theorem mem_handleMainTimerTick {cfg : RecorderConfig} {now : Int} {unlinkOk : Nat → Bool}
    {dir : Directory} {file : Σ _ : Nat, Int} :
    file ∈ (handleMainTimerTick cfg now unlinkOk dir).entries ↔
      file ∈ dir.entries ∧ ¬ Removed cfg now unlinkOk file := by
  simp only [handleMainTimerTick, Removed]
  split
  · rename_i hdue
    simp only [removeOldFilesByTime, List.mem_filter, hdue, true_and, Bool.not_eq_true',
      ← Bool.not_eq_true, Bool.and_eq_true, decide_eq_true_eq]
  · rename_i hdue
    simp [hdue]

theorem mem_iff_entries {dir : Directory} {i : Nat} :
    i ∈ dir ↔ ∃ file ∈ dir.entries, file.1 = i := by
  rw [AList.mem_keys, AList.keys, List.keys, List.mem_map]

theorem listedExist_tick {cfg : RecorderConfig} {s : Recording} {now : Int}
    {unlinkOk : Nat → Bool} (h : ListedExist cfg s) :
    ListedExist cfg { s with dir := handleMainTimerTick cfg now unlinkOk s.dir } ↔
      ∀ file ∈ s.dir.entries, Removed cfg now unlinkOk file →
        ∀ chunk ∈ postLoopChunks cfg s, chunk.path ≠ tsName file.1 := by
  refine ⟨fun h' file hfile hrem chunk hchunk hpath => ?_, fun hkeep chunk hchunk => ?_⟩
  · obtain ⟨i, hi, hpath'⟩ := h' chunk hchunk
    obtain ⟨left, hleft, rfl⟩ := mem_iff_entries.1 hi
    obtain ⟨hleft, hnot⟩ := mem_handleMainTimerTick.1 hleft
    have heq : left = file :=
      s.dir.nodupKeys.eq_of_fst_eq hleft hfile (tsName_injective (hpath'.symm.trans hpath))
    exact hnot (heq ▸ hrem)
  · obtain ⟨i, hi, hpath⟩ := h chunk hchunk
    obtain ⟨file, hfile, rfl⟩ := mem_iff_entries.1 hi
    refine ⟨file.1, mem_iff_entries.2 ⟨file, mem_handleMainTimerTick.2 ⟨hfile, ?_⟩, rfl⟩, hpath⟩
    exact fun hrem => hkeep file hfile hrem chunk hchunk hpath

/-- **One event** keeps the listed chunks exactly when it meets the condition. -/
theorem keepsListed_iff {cfg : RecorderConfig} (hcfg : cfg.kind = .catchup) {s : Recording}
    (e : Event) (h : ListedExist cfg s) :
    (∀ s', step cfg s e = some s' → ListedExist cfg s') ↔ KeepsListed cfg s e := by
  cases e with
  | splitmuxsinkCreated now loaded =>
    have hlisted : ∀ s', step cfg s (.splitmuxsinkCreated now loaded) = some s' →
        (ListedExist cfg s' ↔ ∀ chunk ∈ loaded, HasChunk s.dir chunk) := by
      intro s' hs'
      cases hs'
      simp [ListedExist, postLoopChunks, onSplitmuxsinkCreated, writtenChunks, HasChunk]
    exact ⟨fun h => (hlisted _ rfl).1 (h _ rfl), fun h s' hs' => (hlisted s' hs').2 h⟩
  | pathSet sample mtime =>
    refine iff_of_true (fun s' hs' => ?_) trivial
    rw [listedExist_iff] at h ⊢
    obtain ⟨r, hr, rfl⟩ := step_pathSet hs'
    intro r' hr' e he
    cases hr'
    rw [onPathSet_entries hcfg] at he
    rcases List.mem_append.1 he with he | he
    · obtain ⟨i, hi, hpath⟩ := h r hr e he
      exact ⟨i, (AList.mem_insert s.dir).2 (.inr hi), hpath⟩
    · rw [List.mem_singleton.1 he]
      exact ⟨_, (AList.mem_insert s.dir).2 (.inl rfl), rfl⟩
  | mainTimerTick now unlinkOk =>
    rw [KeepsListed, ← listedExist_tick h]
    exact ⟨fun h => h _ rfl, fun h s' hs' => by cases hs'; exact h⟩

/-- **The listed chunks exist** in every state of a run of catch-up sessions, whenever `PostLoop`
may come, exactly when every session of the run loads existing chunks and no tick removes a listed
one. -/
theorem listedExist_iff_keepsListed (cfg : RecorderConfig) (hcfg : cfg.kind = .catchup)
    (dir : Directory) (es : List Event) :
    Always (step cfg) (ListedExist cfg) (.init dir) es ↔
      Along (step cfg) (KeepsListed cfg) (.init dir) es := by
  rw [always_iff fun s e => keepsListed_iff hcfg e]
  exact and_iff_right fun chunk hchunk => (by cases hchunk)

/-- A session of two chunks whose clean-up comes after the life time of the first. -/
def longSession : List Event :=
  [.splitmuxsinkCreated 0 [], .pathSet .null 0, .pathSet .null 120,
    .mainTimerTick 43260000 fun _ => true]

/-- The first chunk is removed and stays listed. -/
theorem listedExist_longSession_fails :
    ∃ s, exec (step catchupConfig) (.init ∅) longSession = some s ∧
      ¬ ListedExist catchupConfig s := by
  refine ⟨_, rfl, fun h => ?_⟩
  obtain ⟨i, hi, hpath⟩ := h ⟨tsName 0, 120000000000, 0⟩ (by decide)
  rw [← tsName_injective hpath] at hi
  exact absurd hi (by decide)

theorem listedExist_shortSession :
    Always (step catchupConfig) (ListedExist catchupConfig) (.init ∅)
      [.splitmuxsinkCreated 0 [], .pathSet .null 0, .mainTimerTick 60000 fun _ => true] := by
  refine (listedExist_iff_keepsListed catchupConfig rfl ∅ _).2 ?_
  refine ⟨fun _ h => (by cases h), fun s hs => ⟨trivial, fun s' hs' => ⟨?_, fun _ _ => trivial⟩⟩⟩
  cases hs
  cases hs'
  rintro file hfile ⟨-, hold, -⟩
  have hyoung : ∀ file ∈ (AList.insert 0 (0 : Int) (∅ : Directory)).entries,
      ¬ file.2 < (60000 : Int).tdiv 1000 - catchupConfig.chunkLifeTime := by decide
  exact absurd hold (hyoung file hfile)

end IptvCloud.Timeshift
