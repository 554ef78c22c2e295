import IptvCloud.Lib.History
import IptvCloud.Timeshift.Proof.Player
import IptvCloud.Timeshift.Proof.Recorder

/-!
# What a player finds of a recording

The recorder writes the chunk files that `FindChunkToPlay` searches. On a clock that does not go
back, the times of the files are in the order of their indices throughout a run of the recorder
exactly when they are so at the start and no path that it returns has older files beyond it; the
sessions that start alone are such runs. In the states of these runs the chunk that is found is
known for every desired time (`Found`): the chunk of that time is played where the next one begins
less than one duration later.
-/

namespace IptvCloud.Timeshift

open Run findChunkToPlay

/-! ## Where the search ends -/

section
variable {dir : Directory} {now delay chunkDuration : Int} {file next : Σ _ : Nat, Int}
  {pre post : List (Σ _ : Nat, Int)}

/-- The search over the files from the first one after the desired time on. -/
theorem findChunkToPlay_of_split (hdir : TimesOrdered dir)
    (hfiles : chunkFiles dir = pre ++ next :: post)
    (hpre : ∀ f ∈ pre, f.2 ≤ desiredTime now delay) (hnext : desiredTime now delay < next.2) :
    findChunkToPlay dir now delay chunkDuration =
      if next.2 < desiredTime now delay + 2 * chunkDuration then
        some (startIndex chunkDuration (desiredTime now delay)
          (lastIndex invalidChunkIndex pre) next)
      else none := by
  rw [findChunkToPlay, hfiles, go_append hpre]
  split_ifs with hnear
  · exact go_stop hnext hnear
  · refine go_past fun f hf => ?_
    have htimes := hdir.pairwise
    rw [hfiles] at htimes
    obtain ⟨-, hpost, -⟩ := List.pairwise_append.1 htimes
    rcases List.mem_cons.1 hf with rfl | hf
    · omega
    · have := (List.pairwise_cons.1 hpost).1 f hf
      omega

/-- What is found in a directory: between the times of two chunks, before the first chunk, and after
the last one. -/
structure Found (dir : Directory) (chunkDuration : Int) : Prop where
  between : ∀ now delay file next, NextChunk dir file next → file.2 ≤ desiredTime now delay →
    desiredTime now delay < next.2 → findChunkToPlay dir now delay chunkDuration =
      if next.2 < desiredTime now delay + chunkDuration then some file.1
      else if next.2 < desiredTime now delay + 2 * chunkDuration then some next.1
      else none
  before : ∀ now delay first, (chunkFiles dir).head? = some first →
    desiredTime now delay < first.2 → findChunkToPlay dir now delay chunkDuration =
      if first.2 < desiredTime now delay + 2 * chunkDuration then some first.1 else none
  after : ∀ now delay, (∀ file ∈ chunkFiles dir, file.2 ≤ desiredTime now delay) →
    findChunkToPlay dir now delay chunkDuration = none

theorem found_of_timesOrdered (hdir : TimesOrdered dir) (chunkDuration : Int) :
    Found dir chunkDuration := by
  refine ⟨fun now delay file next hnext hlo hhi => ?_, fun now delay first hfirst hhi => ?_,
    fun now delay hall => ?_⟩
  · obtain ⟨pre, post, hfiles⟩ := hnext
    have hsplit : chunkFiles dir = (pre ++ [file]) ++ next :: post := by
      rw [hfiles, List.append_assoc]
      rfl
    have htimes := hdir.pairwise
    rw [hfiles] at htimes
    have hpre : ∀ f ∈ pre ++ [file], f.2 ≤ desiredTime now delay := by
      intro f hf
      rcases List.mem_append.1 hf with hf | hf
      · have := (List.pairwise_append.1 htimes).2.2 f hf file List.mem_cons_self
        omega
      · rw [List.mem_singleton.1 hf]
        exact hlo
    have hlast : lastIndex invalidChunkIndex (pre ++ [file]) = file.1 := by simp [lastIndex]
    obtain ⟨last, -, heq, -, hvalid⟩ := lastIndex_valid hsplit (by simp)
    rw [← heq, hlast] at hvalid
    rw [findChunkToPlay_of_split hdir hsplit hpre hhi, hlast, startIndex]
    split_ifs <;> first | rfl | omega
  · obtain ⟨post, hfiles⟩ := List.head?_eq_some_iff.1 hfirst
    have hsplit : chunkFiles dir = [] ++ first :: post := hfiles
    rw [findChunkToPlay_of_split hdir hsplit (by simp) hhi, startIndex_nil]
  · have hgo : go chunkDuration (desiredTime now delay) invalidChunkIndex (chunkFiles dir ++ []) =
        none := by rw [go_append hall]; rfl
    rwa [List.append_nil] at hgo

end

/-! ## The times of a recording -/

section
variable {cfg : RecorderConfig} {s s' : Recording} {e : Event} {dir : Directory} {i : Nat}
  {mtime : Int}

/-- The clock does not go back: no file is younger than one that is created. -/
def Forward (s : Recording) : Event → Prop
  | .pathSet _ mtime => ∀ file ∈ chunkFiles s.dir, file.2 ≤ mtime
  | _ => True

/-- A path that is returned has no older files beyond it. -/
def KeepsOrder (cfg : RecorderConfig) (s : Recording) (e : Event) : Prop :=
  ∀ sample mtime r, e = .pathSet sample mtime → s.stream = some r →
    ∀ file ∈ chunkFiles s.dir, (onPathSet cfg s.dir r sample).2 < file.1 → mtime ≤ file.2

theorem mem_chunkFiles_insert {file : Σ _ : Nat, Int} : file ∈ chunkFiles (dir.insert i mtime) ↔
    file.1 < 2 ^ 64 ∧ (file = ⟨i, mtime⟩ ∨ file.1 ≠ i ∧ file ∈ dir.entries) := by
  obtain ⟨j, time⟩ := file
  rw [mem_chunkFiles, ← AList.mem_lookup_iff, ← AList.mem_lookup_iff, and_comm]
  by_cases hj : j = i
  · subst hj
    rw [AList.lookup_insert]
    simp [eq_comm]
  · rw [AList.lookup_insert_ne hj]
    simp [hj]

theorem timesOrdered_insert_iff (hdir : TimesOrdered dir)
    (hforward : ∀ file ∈ chunkFiles dir, file.2 ≤ mtime) :
    TimesOrdered (dir.insert i mtime) ↔ ∀ file ∈ chunkFiles dir, i < file.1 → mtime ≤ file.2 := by
  constructor
  · intro h file hfile hlt
    obtain ⟨hmem, hindex⟩ := mem_chunkFiles.1 hfile
    have hnew : (⟨i, mtime⟩ : Σ _ : Nat, Int) ∈ chunkFiles (dir.insert i mtime) :=
      mem_chunkFiles_insert.2 ⟨by show i < 2 ^ 64; omega, .inl rfl⟩
    have hold : file ∈ chunkFiles (dir.insert i mtime) :=
      mem_chunkFiles_insert.2 ⟨hindex, .inr ⟨by omega, hmem⟩⟩
    exact h _ hnew _ hold hlt.le
  · intro h f hf g hg hle
    obtain ⟨hfindex, hf⟩ := mem_chunkFiles_insert.1 hf
    obtain ⟨hgindex, hg⟩ := mem_chunkFiles_insert.1 hg
    rcases hf with rfl | ⟨hfi, hf⟩
    · rcases hg with rfl | ⟨hgi, hg⟩
      · exact le_rfl
      · exact h g (mem_chunkFiles.2 ⟨hg, hgindex⟩) (lt_of_le_of_ne hle (Ne.symm hgi))
    · have hf := mem_chunkFiles.2 ⟨hf, hfindex⟩
      rcases hg with rfl | ⟨-, hg⟩
      · exact hforward f hf
      · exact hdir f hf g (mem_chunkFiles.2 ⟨hg, hgindex⟩) hle

/-- A clean-up keeps the times of the files it leaves. -/
theorem timesOrdered_handleMainTimerTick {now : Int} {unlinkOk : Nat → Bool}
    (hdir : TimesOrdered dir) : TimesOrdered (handleMainTimerTick cfg now unlinkOk dir) := by
  have hsub : ∀ file ∈ chunkFiles (handleMainTimerTick cfg now unlinkOk dir),
      file ∈ chunkFiles dir := by
    intro file hfile
    obtain ⟨hmem, hindex⟩ := mem_chunkFiles.1 hfile
    refine mem_chunkFiles.2 ⟨?_, hindex⟩
    simp only [handleMainTimerTick] at hmem
    split at hmem
    · exact List.mem_of_mem_filter hmem
    · exact hmem
  exact fun f hf g hg hle => hdir f (hsub f hf) g (hsub g hg) hle

/-- What one event does to the times of the files. -/
theorem timesOrdered_step_iff (hdir : TimesOrdered s.dir) (hforward : Forward s e) :
    (∀ s', step cfg s e = some s' → TimesOrdered s'.dir) ↔ KeepsOrder cfg s e := by
  cases e with
  | splitmuxsinkCreated now loaded =>
    refine iff_of_true (fun s' h => ?_) fun _ _ _ h => by cases h
    cases h
    exact hdir
  | pathSet sample mtime =>
    constructor
    · intro h sample' mtime' r heq hr
      cases heq
      have hs' := h _ (by rw [step, hr]; rfl)
      exact (timesOrdered_insert_iff hdir hforward).1 hs'
    · intro h s' hs'
      obtain ⟨r, hr, rfl⟩ := Option.map_eq_some_iff.1 hs'
      exact (timesOrdered_insert_iff hdir hforward).2 (h sample mtime r rfl hr)
  | mainTimerTick now unlinkOk =>
    refine iff_of_true (fun s' h => ?_) fun _ _ _ h => by cases h
    cases h
    exact timesOrdered_handleMainTimerTick hdir

/-- A path that is fresh has no files beyond it. -/
theorem keepsOrder_of_pathFresh (h : PathFresh cfg s e) : KeepsOrder cfg s e := by
  intro sample mtime r he hr file hfile hlt
  have hmem : file.1 ∈ s.dir := by
    rw [AList.mem_keys]
    exact List.mem_map.2 ⟨file, (mem_chunkFiles.1 hfile).1, rfl⟩
  have := (h sample mtime r he hr).2.1 file.1 hmem
  omega

/-- The sessions that each start alone in the directory keep the order of the times. -/
theorem keepsOrder_of_firstPathAlone {es : List Event}
    (hb : Along (step cfg) (IndexBelow cfg) (.init dir) es)
    (halone : Along (step cfg) FirstPathAlone (.init dir) es) :
    Along (step cfg) (KeepsOrder cfg) (.init dir) es := by
  have hfresh : Along (step cfg) (PathFresh cfg) (.init dir) es :=
    (along_iff_under (I := Inv) (B := IndexBelow cfg) (fun _ _ hI _ => pathFresh_iff hI)
      (fun _ _ _ hI hb hC h => inv_step hI hb ((pathFresh_iff hI).2 hC) h) (inv_init dir) hb).2
      halone
  exact Along.inv (I := fun _ => True) (fun _ _ _ _ _ _ => trivial)
    (fun _ _ _ h => keepsOrder_of_pathFresh h) trivial hfresh

end

/-! ## What is found in a recording -/

/-- From a directory in order the times stay so exactly when no returned path has older files beyond
it. -/
theorem timesOrdered_along_iff {cfg : RecorderConfig} {dir : Directory} (hdir : TimesOrdered dir)
    {es : List Event} (hclock : Along (step cfg) Forward (.init dir) es) :
    Always (step cfg) (fun s => TimesOrdered s.dir) (.init dir) es ↔
      Along (step cfg) (KeepsOrder cfg) (.init dir) es :=
  always_iff_under (I := fun s => TimesOrdered s.dir) (fun _ h => h)
    (fun _ _ hs hforward => timesOrdered_step_iff hs hforward)
    (fun _ _ s' hs hforward hkeeps h => (timesOrdered_step_iff hs hforward).2 hkeeps s' h)
    hdir hclock

/-- Over every run of a recorder on a clock that does not go back, the times of the files are in the
order of their indices exactly when they are so at the start and no returned path has older files
beyond it, and then a player finds what `Found` says in every state of the directory. -/
theorem found_of_recording (cfg : RecorderConfig) (dir : Directory) (es : List Event)
    (hclock : Along (step cfg) Forward (.init dir) es) :
    (Always (step cfg) (fun s => TimesOrdered s.dir) (.init dir) es ↔
      TimesOrdered dir ∧ Along (step cfg) (KeepsOrder cfg) (.init dir) es) ∧
    (TimesOrdered dir → Along (step cfg) (KeepsOrder cfg) (.init dir) es →
      Always (step cfg) (fun s => ∀ chunkDuration, Found s.dir chunkDuration) (.init dir) es) := by
  refine ⟨⟨fun h => ⟨h.init, (timesOrdered_along_iff h.init hclock).1 h⟩,
    fun ⟨hdir, hkeeps⟩ => (timesOrdered_along_iff hdir hclock).2 hkeeps⟩, fun hdir hkeeps => ?_⟩
  have hordered := (timesOrdered_along_iff hdir hclock).2 hkeeps
  exact hordered.imp fun s hs => found_of_timesOrdered hs

/-- A session with a late last chunk, between two clean-ups. -/
def lateChunk : List Event :=
  [.mainTimerTick 0 fun _ => true, .splitmuxsinkCreated 1000 [], .pathSet .null 1,
    .pathSet .null 61, .pathSet .null 151, .mainTimerTick 120000 fun _ => true]

theorem found_of_recording_lateChunk :
    Always (step catchupConfig) (fun s => ∀ chunkDuration, Found s.dir chunkDuration) (.init ∅)
      lateChunk := by
  have hempty : TimesOrdered ∅ := fun _ hf => by cases hf
  refine (found_of_recording catchupConfig ∅ lateChunk ?_).2 hempty
    (keepsOrder_of_firstPathAlone ?_ ?_)
  · simp [lateChunk, Along, step, Forward]
    decide
  · simp [lateChunk, Along, step, IndexBelow]
    decide
  · simp [lateChunk, Along, step, FirstPathAlone]
    decide

end IptvCloud.Timeshift
