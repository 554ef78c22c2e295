import IptvCloud.Timeshift.Proof.Playlist

/-!
# The durations in the catch-up playlist

`OnPathSet` closes the last chunk of the list: when its sample has a time and `chunk_.duration` is
valid, their difference becomes the duration of that chunk, and the time is kept in
`chunk_.duration`. A call without a buffer leaves `chunk_.duration` as it is, and
`OnSplitmuxsinkCreated` puts an index there (`startStamp`). `durationsWritten_iff` is the exact
condition for the written durations to be those of the samples (`sampleDurations`).
-/

namespace IptvCloud.Timeshift

open Run

/-! ## What the samples say -/

/-- The sample of an `OnPathSet`. -/
def Event.sample? : Event → Option Sample
  | .pathSet sample _ => some sample
  | .splitmuxsinkCreated _ _ | .mainTimerTick _ _ => none

/-- The samples of the `OnPathSet` calls. -/
def samples (es : List Event) : List Sample := es.filterMap Event.sample?

/-- The valid time of a sample. -/
def Sample.time? : Sample → Option Nat
  | .null | .noBuffer => none
  | .buffer time => if clockTimeIsValid time then some time else none

def Sample.hasBuffer : Sample → Bool
  | .null | .noBuffer => false
  | .buffer _ => true

/-- `duration * GST_SECOND`. -/
def configuredDuration (chunkDuration : Int) : Nat := (chunkDuration * 1000000000 % 2 ^ 64).toNat

/-- The length of the chunk that a call opens and the next one closes. -/
def chunkLength (configured : Nat) (opened closed : Sample) : Nat :=
  match opened.time?, closed.time? with
  | some t, some t' => t' - t
  | _, _ => configured

/-- The lengths of the chunks that the calls open. -/
def sampleDurations (configured : Nat) : List Sample → List Nat
  | [] => []
  | [_] => [configured]
  | sample :: next :: rest =>
    chunkLength configured sample next :: sampleDurations configured (next :: rest)

theorem time?_eq_some {sample : Sample} {t : Nat} :
    sample.time? = some t ↔ sample = .buffer t ∧ clockTimeIsValid t = true := by
  cases sample with
  | null | noBuffer => simp [Sample.time?]
  | buffer time =>
    simp only [Sample.time?, Option.ite_none_right_eq_some, Option.some.injEq, Sample.buffer.injEq]
    exact ⟨fun ⟨hv, h⟩ => ⟨h, h ▸ hv⟩, fun ⟨h, hv⟩ => ⟨h ▸ hv, h⟩⟩

theorem chunkLength_of_none {configured : Nat} {opened closed : Sample}
    (h : opened.time? = none ∨ closed.time? = none) :
    chunkLength configured opened closed = configured := by
  unfold chunkLength
  rcases h with h | h <;> rw [h]
  cases opened.time? <;> rfl

/-! ## What the code keeps -/

/-- `chunk_.duration` after a call. -/
def noteTime (stamp : Nat) : Sample → Nat
  | .null | .noBuffer => stamp
  | .buffer time => time

/-- `chunk_.duration` after some calls: the time of the last buffer. -/
def keptTime (stamp : Nat) (calls : List Sample) : Nat := calls.foldl noteTime stamp

/-- The duration of the last chunk of the list after a call. -/
def closeChunk (stamp duration : Nat) : Sample → Nat
  | .null | .noBuffer => duration
  | .buffer time =>
    if clockTimeIsValid time && clockTimeIsValid stamp then clockDiff stamp time else duration

theorem closeChunk_of_none {stamp duration : Nat} {sample : Sample} (h : sample.time? = none) :
    closeChunk stamp duration sample = duration := by
  cases sample with
  | null | noBuffer => rfl
  | buffer time =>
    have hv : ¬ clockTimeIsValid time = true := fun hv => by
      rw [time?_eq_some.2 ⟨rfl, hv⟩] at h
      cases h
    simp [closeChunk, hv]

/-- The durations of a list of chunks after a call. -/
def closeLast (stamp : Nat) (durations : List Nat) (sample : Sample) : List Nat :=
  match durations.getLast? with
  | some last => durations.dropLast ++ [closeChunk stamp last sample]
  | none => []

/-- The durations of the list after the calls. -/
def listDurations (stamp : Nat) (durations : List Nat) : List Sample → List Nat
  | [] => durations
  | sample :: rest =>
    listDurations (noteTime stamp sample) (closeLast stamp durations sample ++ [clockTimeNone]) rest

/-- The durations of the open chunk and of those that the calls open. -/
def openDurations (stamp duration : Nat) : List Sample → List Nat
  | [] => [duration]
  | sample :: rest =>
    closeChunk stamp duration sample :: openDurations (noteTime stamp sample) clockTimeNone rest

theorem closeLast_concat (stamp : Nat) (front : List Nat) (last : Nat) (sample : Sample) :
    closeLast stamp (front ++ [last]) sample = front ++ [closeChunk stamp last sample] := by
  simp [closeLast]

theorem listDurations_concat (stamp : Nat) (front : List Nat) (last : Nat) (calls : List Sample) :
    listDurations stamp (front ++ [last]) calls = front ++ openDurations stamp last calls := by
  induction calls generalizing stamp front last with
  | nil => rfl
  | cons sample rest ih =>
    rw [listDurations, closeLast_concat, ih, openDurations, List.append_assoc]
    rfl

theorem onPathSet_stamp {cfg : RecorderConfig} (hcfg : cfg.kind = .catchup) (dir : Directory)
    (r : Recorder) (sample : Sample) :
    (onPathSet cfg dir r sample).1.chunk.duration = noteTime r.chunk.duration sample := by
  unfold onPathSet
  rw [hcfg]
  cases sample <;> rfl

theorem noteSample_durations (r : Recorder) (sample : Sample) :
    (r.noteSample sample).chunks.map (·.duration) =
      closeLast r.chunk.duration (r.chunks.map (·.duration)) sample := by
  rcases List.eq_nil_or_concat r.chunks with h | ⟨front, last, h⟩
  · cases sample with
    | null | noBuffer => simp [Recorder.noteSample, closeLast, h]
    | buffer time =>
      simp only [Recorder.noteSample, h]
      split <;> simp [closeLast, setLastDuration]
  · rw [List.concat_eq_append] at h
    cases sample with
    | null | noBuffer => simp [Recorder.noteSample, closeLast, closeChunk, h]
    | buffer time =>
      simp only [Recorder.noteSample, h]
      split <;> rename_i hv <;> simp [closeLast, setLastDuration, closeChunk, hv]

theorem onPathSet_durations {cfg : RecorderConfig} (hcfg : cfg.kind = .catchup) (dir : Directory)
    (r : Recorder) (sample : Sample) :
    (onPathSet cfg dir r sample).1.chunks.map (·.duration) =
      closeLast r.chunk.duration (r.chunks.map (·.duration)) sample ++ [clockTimeNone] := by
  unfold onPathSet
  rw [hcfg]
  simp only [Recorder.catchupPathSet, Recorder.basePathSet, List.map_append, noteSample_durations]
  rfl

/-- **The durations in the list** after the calls and ticks of a session. -/
theorem exec_durations {cfg : RecorderConfig} (hcfg : cfg.kind = .catchup) {es : List Event}
    (hes : ∀ now loaded, .splitmuxsinkCreated now loaded ∉ es) {s : Recording} {r : Recorder}
    (hs : s.stream = some r) :
    ∃ s' r', exec (step cfg) s es = some s' ∧ s'.stream = some r' ∧
      r'.chunks.map (·.duration) =
        listDurations r.chunk.duration (r.chunks.map (·.duration)) (samples es) := by
  induction es generalizing s r with
  | nil => exact ⟨s, r, rfl, hs, rfl⟩
  | cons e es ih =>
    have hrest : ∀ now loaded, .splitmuxsinkCreated now loaded ∉ es := fun now loaded h =>
      hes now loaded (List.mem_cons_of_mem e h)
    cases e with
    | splitmuxsinkCreated now loaded => exact absurd (List.mem_cons_self ..) (hes now loaded)
    | pathSet sample mtime =>
      obtain ⟨s₁, hs₁⟩ : ∃ s₁, step cfg s (.pathSet sample mtime) = some s₁ := by
        simp [step, hs]
      obtain ⟨r₁, hr₁, rfl⟩ := step_pathSet hs₁
      rw [hs, Option.some.injEq] at hr₁
      subst hr₁
      obtain ⟨s', r', hexec, hs', hd⟩ := ih hrest
        (s := ⟨s.dir.insert (calcNextIndex s.dir r.chunk) mtime, _, _⟩)
        (r := (onPathSet cfg s.dir r sample).1) rfl
      refine ⟨s', r', ?_, hs', ?_⟩
      · rw [exec, hs₁, Option.bind_some, hexec]
      · rw [hd, onPathSet_stamp hcfg, onPathSet_durations hcfg]
        rfl
    | mainTimerTick now unlinkOk =>
      obtain ⟨s', r', hexec, hs', hd⟩ :=
        ih hrest (s := { s with dir := handleMainTimerTick cfg now unlinkOk s.dir }) hs
      exact ⟨s', r', hexec, hs', hd⟩

/-! ## The written durations -/

section Written

variable (chunkDuration : Int)

theorem playlistDuration_none :
    playlistDuration chunkDuration clockTimeNone = configuredDuration chunkDuration := rfl

theorem playlistDuration_of_valid {duration : Nat} (h : clockTimeIsValid duration = true) :
    playlistDuration chunkDuration duration = duration := if_pos h

/-- The configured length is a multiple of a power of two, so `PostLoop` writes no invalid one. -/
theorem playlistDuration_ne_none (duration : Nat) :
    playlistDuration chunkDuration duration ≠ clockTimeNone := by
  unfold playlistDuration clockTimeIsValid clockTimeNone
  split
  · rename_i h
    simpa using h
  · omega

theorem playlistDuration_eq_self {duration : Nat} :
    playlistDuration chunkDuration duration = duration ↔ clockTimeIsValid duration = true := by
  refine ⟨fun h => ?_, playlistDuration_of_valid chunkDuration⟩
  have := playlistDuration_ne_none chunkDuration duration
  rw [h] at this
  simpa [clockTimeIsValid] using this

theorem clockDiff_of_le {t t' : Nat} (hle : t ≤ t') (hlt : t' < 2 ^ 64) :
    clockDiff t t' = t' - t := by
  unfold clockDiff u64
  omega

/-- The duration of a chunk that the call `opened` opens and the next one closes. -/
theorem closeChunk_eq_iff {stamp : Nat} {opened closed : Sample}
    (hstamp : opened.hasBuffer = true → opened = .buffer stamp)
    (hlt : ∀ t, closed = .buffer t → t < 2 ^ 64)
    (hle : ∀ t t', opened.time? = some t → closed.time? = some t' → t ≤ t') :
    playlistDuration chunkDuration (closeChunk stamp clockTimeNone closed) =
        chunkLength (configuredDuration chunkDuration) opened closed ↔
      ∀ t, closed = .buffer t → clockTimeIsValid t = true → opened.hasBuffer = false →
        clockTimeIsValid stamp = true →
        playlistDuration chunkDuration (clockDiff stamp t) = configuredDuration chunkDuration := by
  cases hclosed : closed.time? with
  | none =>
    rw [closeChunk_of_none hclosed, chunkLength_of_none (.inr hclosed)]
    refine iff_of_true rfl fun t ht hv => ?_
    rw [time?_eq_some.2 ⟨ht, hv⟩] at hclosed
    cases hclosed
  | some t =>
    obtain ⟨rfl, hv⟩ := time?_eq_some.1 hclosed
    have hclose : closeChunk stamp clockTimeNone (.buffer t) =
        if clockTimeIsValid stamp then clockDiff stamp t else clockTimeNone := by
      simp [closeChunk, hv]
    rw [hclose]
    cases hbuf : opened.hasBuffer with
    | false =>
      have hopened : opened.time? = none := by cases opened <;> first | rfl | cases hbuf
      rw [chunkLength_of_none (.inl hopened)]
      split
      · rename_i hs
        simp [hs, hv]
      · rename_i hs
        simp [hs, playlistDuration_none]
    | true =>
      refine iff_of_true ?_ (fun _ _ _ h => by cases h)
      have hopened := hstamp hbuf
      subst hopened
      split
      · rename_i hs
        have htime : Sample.time? (.buffer stamp) = some stamp := time?_eq_some.2 ⟨rfl, hs⟩
        have hst := hle stamp t htime hclosed
        have ht := hlt t rfl
        rw [clockDiff_of_le hst ht, chunkLength, htime, hclosed]
        refine playlistDuration_of_valid chunkDuration ?_
        simp only [clockTimeIsValid, clockTimeNone, bne_iff_ne] at hv ⊢
        omega
      · rename_i hs
        have htime : Sample.time? (.buffer stamp) = none := if_neg hs
        rw [chunkLength_of_none (.inl htime), playlistDuration_none]

theorem singleton_ne_pair (sample : Sample) (pre : List Sample) (p q : Sample)
    (post : List Sample) : [sample] ≠ pre ++ p :: q :: post := by
  intro h
  have hlen := congrArg List.length h
  simp only [List.length_cons, List.length_nil, List.length_append] at hlen
  omega

/-- The pairs of calls of a list: the first one, and those of the rest. -/
theorem forall_pairs_cons {P : List Sample → Sample → Sample → Prop} {first next : Sample}
    {rest : List Sample} :
    (∀ pre p q post, first :: next :: rest = pre ++ p :: q :: post → P pre p q) ↔
      P [] first next ∧
      ∀ pre p q post, next :: rest = pre ++ p :: q :: post → P (first :: pre) p q := by
  refine ⟨fun h => ⟨h [] first next rest rfl, fun pre p q post heq => ?_⟩,
    fun ⟨hfirst, hrest⟩ pre p q post heq => ?_⟩
  · exact h (first :: pre) p q post (by rw [heq]; rfl)
  · cases pre with
    | nil =>
      cases heq
      exact hfirst
    | cons c pre =>
      obtain ⟨rfl, htail⟩ := List.cons.inj heq
      exact hrest pre p q post htail

/-- The time a call `p` without a buffer finds kept is the one expected before the next call. -/
def PairFresh (stamp : Nat) (pre : List Sample) (p q : Sample) : Prop :=
  ∀ t, q = .buffer t → clockTimeIsValid t = true → p.hasBuffer = false →
    clockTimeIsValid (keptTime stamp (pre ++ [p])) = true →
    playlistDuration chunkDuration (clockDiff (keptTime stamp (pre ++ [p])) t) =
      configuredDuration chunkDuration

theorem noteTime_noteTime (stamp : Nat) (sample : Sample) :
    noteTime (noteTime stamp sample) sample = noteTime stamp sample := by
  cases sample <;> rfl

/-- The first of the calls decides alone what is kept. -/
theorem keptTime_noteTime {stamp : Nat} {first p q : Sample} {rest pre post : List Sample}
    (h : first :: rest = pre ++ p :: q :: post) :
    keptTime (noteTime stamp first) (pre ++ [p]) = keptTime stamp (pre ++ [p]) := by
  obtain ⟨l, hl⟩ : ∃ l, pre ++ [p] = first :: l := by
    cases pre with
    | nil => exact ⟨[], by rw [(List.cons.inj h).1]; rfl⟩
    | cons c pre => exact ⟨pre ++ [p], by rw [(List.cons.inj h).1]; rfl⟩
  simp only [hl, keptTime, List.foldl_cons, noteTime_noteTime]

/-- The written durations of the chunks opened from the call `opened` on. -/
theorem openDurations_eq_iff {stamp : Nat} {opened : Sample} {calls : List Sample}
    (hstamp : noteTime stamp opened = stamp)
    (hlt : ∀ t, .buffer t ∈ calls → t < 2 ^ 64)
    (hmono : ((opened :: calls).filterMap Sample.time?).Pairwise (· ≤ ·)) :
    (openDurations stamp clockTimeNone calls).map (playlistDuration chunkDuration) =
        sampleDurations (configuredDuration chunkDuration) (opened :: calls) ↔
      ∀ pre p q post, opened :: calls = pre ++ p :: q :: post →
        PairFresh chunkDuration stamp pre p q := by
  induction calls generalizing stamp opened with
  | nil =>
    exact iff_of_true rfl fun pre p q post h => absurd h (singleton_ne_pair opened pre p q post)
  | cons next rest ih =>
    have hopened : opened.hasBuffer = true → opened = .buffer stamp := by
      intro h
      cases opened <;> cases h
      rw [← hstamp]
      rfl
    rw [openDurations, sampleDurations, List.map_cons, List.cons.injEq, forall_pairs_cons,
      closeChunk_eq_iff chunkDuration hopened (fun t ht => hlt t (ht ▸ List.mem_cons_self ..)) ?_,
      ih (noteTime_noteTime stamp next) (fun t ht => hlt t (List.mem_cons_of_mem next ht)) ?_]
    · refine and_congr ?_ (forall_congr' fun pre => forall_congr' fun p => forall_congr' fun q =>
        forall_congr' fun post => forall_congr' fun heq => ?_)
      · simp only [PairFresh, List.nil_append, keptTime, List.foldl_cons, List.foldl_nil, hstamp]
      · have hkept : keptTime (noteTime stamp next) (pre ++ [p]) =
            keptTime stamp (opened :: pre ++ [p]) := by
          rw [keptTime_noteTime heq, List.cons_append, keptTime, keptTime, List.foldl_cons, hstamp]
        simp only [PairFresh, hkept]
    · exact hmono.sublist ((List.sublist_cons_self _ _).filterMap _)
    · intro t t' ht ht'
      rw [List.filterMap_cons_some ht, List.filterMap_cons_some ht'] at hmono
      exact (List.pairwise_cons.1 hmono).1 t' (List.mem_cons_self ..)

theorem map_playlistDuration_eq_iff {durations : List Nat} :
    durations.map (playlistDuration chunkDuration) = durations ↔
      ∀ duration ∈ durations, clockTimeIsValid duration = true := by
  induction durations with
  | nil => simp
  | cons duration durations ih =>
    rw [List.map_cons, List.cons.injEq, ih, playlistDuration_eq_self, List.forall_mem_cons]

/-- The last loaded duration after the first call. -/
theorem closeChunk_kept_iff {stamp last : Nat} {sample : Sample} :
    playlistDuration chunkDuration (closeChunk stamp last sample) = last ↔
      clockTimeIsValid last = true ∧
      ∀ t, sample = .buffer t → clockTimeIsValid t = true → clockTimeIsValid stamp = true →
        playlistDuration chunkDuration (clockDiff stamp t) = last := by
  cases htime : sample.time? with
  | none =>
    rw [closeChunk_of_none htime, playlistDuration_eq_self]
    refine (and_iff_left fun t ht hv => ?_).symm
    rw [time?_eq_some.2 ⟨ht, hv⟩] at htime
    cases htime
  | some t =>
    obtain ⟨rfl, hv⟩ := time?_eq_some.1 htime
    by_cases hs : clockTimeIsValid stamp = true
    · have hclose : closeChunk stamp last (.buffer t) = clockDiff stamp t := by
        simp [closeChunk, hv, hs]
      rw [hclose]
      refine ⟨fun h => ⟨?_, fun t' ht' _ _ => by cases ht'; exact h⟩, fun h => h.2 t rfl hv hs⟩
      have := playlistDuration_ne_none chunkDuration (clockDiff stamp t)
      rw [h] at this
      simpa [clockTimeIsValid] using this
    · have hclose : closeChunk stamp last (.buffer t) = last := by
        simp [closeChunk, hv, hs]
      rw [hclose, playlistDuration_eq_self]
      exact (and_iff_left fun _ _ _ h => absurd h hs).symm

/-- The loaded durations after the first call. -/
theorem closeLast_eq_iff {stamp : Nat} {durations : List Nat} {sample : Sample} :
    (closeLast stamp durations sample).map (playlistDuration chunkDuration) = durations ↔
      (∀ duration ∈ durations, clockTimeIsValid duration = true) ∧
      ∀ t last, sample = .buffer t → clockTimeIsValid t = true → clockTimeIsValid stamp = true →
        durations.getLast? = some last →
        playlistDuration chunkDuration (clockDiff stamp t) = last := by
  rcases List.eq_nil_or_concat durations with rfl | ⟨front, last, rfl⟩
  · simp [closeLast]
  · have hsplit : ∀ d, front.map (playlistDuration chunkDuration) ++ [d] = front ++ [last] ↔
        (∀ duration ∈ front, clockTimeIsValid duration = true) ∧ d = last := by
      intro d
      rw [← map_playlistDuration_eq_iff chunkDuration]
      refine ⟨fun h => ?_, fun ⟨h, hd⟩ => by rw [h, hd]⟩
      obtain ⟨hfront, hlast⟩ := List.append_inj' h rfl
      exact ⟨hfront, (List.cons.inj hlast).1⟩
    rw [List.concat_eq_append, closeLast_concat, List.map_append, List.map_singleton, hsplit,
      List.forall_mem_append, List.forall_mem_singleton, and_assoc]
    refine and_congr_right fun _ => ?_
    rw [closeChunk_kept_iff]
    refine and_congr_right fun _ => forall_congr' fun t => ?_
    simp only [List.getLast?_append, List.getLast?_singleton, Option.some_or, Option.some.injEq]
    exact ⟨fun h last' ht hv hs hlast => hlast ▸ h ht hv hs, fun h ht hv hs => h last ht hv hs rfl⟩

end Written

/-! ## A session -/

/-- The index that `OnSplitmuxsinkCreated` puts in `chunk_.duration`. -/
def startStamp (dir : Directory) : Nat :=
  match findLastChunk dir with
  | some (last, _) => u64 (last + 1)
  | none => clockTimeNone

/-- `PostLoop` writes the lengths of the opened chunks and leaves those of the loaded ones. -/
def DurationsWritten (cfg : RecorderConfig) (dir : Directory) (now : Int) (loaded : List ChunkInfo)
    (es : List Event) : Prop :=
  ∃ s, exec (step cfg) (.init dir) (.splitmuxsinkCreated now loaded :: es) = some s ∧
    (postLoopChunks cfg s).map (·.duration) =
      loaded.map (·.duration) ++
        sampleDurations (configuredDuration cfg.chunkDuration) (samples es)

/-- The loaded durations are valid, and a valid sample time that follows a call without a buffer,
or that comes first in a session with loaded chunks, finds no valid time in `chunk_.duration` (or
one whose difference is the duration anyway). -/
structure StampsFresh (chunkDuration : Int) (dir : Directory) (loaded : List ChunkInfo)
    (calls : List Sample) : Prop where
  valid : ∀ chunk ∈ loaded, clockTimeIsValid chunk.duration = true
  first : ∀ t rest last, calls = .buffer t :: rest → clockTimeIsValid t = true →
    clockTimeIsValid (startStamp dir) = true → loaded.getLast? = some last →
    playlistDuration chunkDuration (clockDiff (startStamp dir) t) = last.duration
  later : ∀ pre p q post, calls = pre ++ p :: q :: post →
    PairFresh chunkDuration (startStamp dir) pre p q

section Session

variable {cfg : RecorderConfig} (hcfg : cfg.kind = .catchup) {dir : Directory} {now : Int}
  {loaded : List ChunkInfo} {es : List Event}
  (hes : ∀ now loaded, .splitmuxsinkCreated now loaded ∉ es)
include hcfg hes

theorem durationsWritten_iff_listDurations :
    DurationsWritten cfg dir now loaded es ↔
      (listDurations (startStamp dir) (loaded.map (·.duration)) (samples es)).map
          (playlistDuration cfg.chunkDuration) =
        loaded.map (·.duration) ++
          sampleDurations (configuredDuration cfg.chunkDuration) (samples es) := by
  obtain ⟨s', r', hexec, hs', hd⟩ := exec_durations hcfg hes
    (s := ⟨dir, some (onSplitmuxsinkCreated cfg now dir ⟨ChunkInfo.empty, loaded⟩), []⟩) rfl
  have hstart : (onSplitmuxsinkCreated cfg now dir ⟨ChunkInfo.empty, loaded⟩).chunk.duration =
      startStamp dir := by
    simp only [onSplitmuxsinkCreated, startStamp, getNextChunkStrategy, hcfg]
    rfl
  have hrun : exec (step cfg) (.init dir) (.splitmuxsinkCreated now loaded :: es) = some s' :=
    hexec
  have hpost : (postLoopChunks cfg s').map (·.duration) =
      (listDurations (startStamp dir) (loaded.map (·.duration)) (samples es)).map
        (playlistDuration cfg.chunkDuration) := by
    rw [hstart] at hd
    simp only [onSplitmuxsinkCreated] at hd
    rw [postLoopChunks, hs', ← hd]
    simp [writtenChunks]
  rw [DurationsWritten, hrun, ← hpost]
  refine ⟨fun h => ?_, fun h => ⟨s', rfl, h⟩⟩
  obtain ⟨s, hs, h⟩ := h
  cases hs
  exact h

end Session

theorem closeLast_length (stamp : Nat) (durations : List Nat) (sample : Sample) :
    (closeLast stamp durations sample).length = durations.length := by
  rcases List.eq_nil_or_concat durations with rfl | ⟨front, last, rfl⟩
  · rfl
  · rw [List.concat_eq_append, closeLast_concat, List.length_append, List.length_append]
    rfl

/-- **The durations in the playlist** are those of the samples exactly when no valid time meets a
stale one. -/
theorem durationsWritten_iff (cfg : RecorderConfig) (hcfg : cfg.kind = .catchup) (dir : Directory)
    (now : Int) (loaded : List ChunkInfo) (es : List Event)
    (hes : ∀ now loaded, .splitmuxsinkCreated now loaded ∉ es)
    (hlt : ∀ t, .buffer t ∈ samples es → t < 2 ^ 64)
    (hmono : ((samples es).filterMap Sample.time?).Pairwise (· ≤ ·)) :
    DurationsWritten cfg dir now loaded es ↔
      StampsFresh cfg.chunkDuration dir loaded (samples es) := by
  rw [durationsWritten_iff_listDurations hcfg hes]
  have hloaded : (∀ duration ∈ loaded.map (·.duration), clockTimeIsValid duration = true) ↔
      ∀ chunk ∈ loaded, clockTimeIsValid chunk.duration = true := List.forall_mem_map
  cases hcalls : samples es with
  | nil =>
    rw [listDurations, sampleDurations, List.append_nil, map_playlistDuration_eq_iff, hloaded]
    exact ⟨fun h => ⟨h, fun _ _ _ h => (by cases h), fun pre _ _ _ h => (by cases pre <;> cases h)⟩,
      fun h => h.valid⟩
  | cons first rest =>
    rw [hcalls] at hlt hmono
    have hsplit : ∀ a b c d : List Nat, a.length = c.length →
        (a ++ b = c ++ d ↔ a = c ∧ b = d) := fun a b c d hlen =>
      ⟨fun h => List.append_inj h hlen, fun ⟨h, h'⟩ => by rw [h, h']⟩
    rw [listDurations, listDurations_concat, List.map_append,
      hsplit _ _ _ _ (by rw [List.length_map, closeLast_length]), closeLast_eq_iff, hloaded,
      openDurations_eq_iff _ (noteTime_noteTime _ _)
        (fun t ht => hlt t (List.mem_cons_of_mem first ht)) hmono]
    have hfresh : ∀ pre p q post, first :: rest = pre ++ p :: q :: post →
        (PairFresh cfg.chunkDuration (noteTime (startStamp dir) first) pre p q ↔
          PairFresh cfg.chunkDuration (startStamp dir) pre p q) := by
      intro pre p q post h
      simp only [PairFresh, keptTime_noteTime h]
    constructor
    · rintro ⟨⟨hvalid, hfirst⟩, hlater⟩
      refine ⟨hvalid, fun t rest' last h ht hs hlast => ?_, fun pre p q post h => ?_⟩
      · exact hfirst t last.duration (List.cons.inj h).1 ht hs
          (by rw [List.getLast?_map, hlast]; rfl)
      · exact (hfresh pre p q post h).1 (hlater pre p q post h)
    · rintro ⟨hvalid, hfirst, hlater⟩
      refine ⟨⟨hvalid, fun t d h ht hs hd => ?_⟩, fun pre p q post h => ?_⟩
      · rw [List.getLast?_map] at hd
        obtain ⟨last, hlast, rfl⟩ := Option.map_eq_some_iff.1 hd
        exact hfirst t rest last (by rw [h]) ht hs hlast
      · exact (hfresh pre p q post h).2 (hlater pre p q post h)

/-- The chunks of an earlier session, a minute long each. -/
def earlierChunks : List ChunkInfo := [⟨tsName 0, 60000000000, 0⟩, ⟨tsName 1, 60000000000, 1⟩]

/-- The files of the earlier session. -/
def earlierFiles : Directory := (AList.insert 0 60 ∅).insert 1 120

/-- The first sample time overwrites the duration of the last loaded chunk. -/
theorem durationsWritten_restart_fails :
    ¬ DurationsWritten catchupConfig earlierFiles 200000 earlierChunks
      [.pathSet (.buffer 5000000000) 260, .pathSet (.buffer 65000000000) 320] := by
  rintro ⟨s, hs, h⟩
  cases hs
  revert h
  decide

/-- A first session that ends with a call without a sample. -/
theorem durationsWritten_first_session :
    DurationsWritten catchupConfig ∅ 0 []
      [.pathSet (.buffer 5000000000) 60, .pathSet (.buffer 65000000000) 120,
        .mainTimerTick 180000 (fun _ => true), .pathSet .null 180] := by
  refine (durationsWritten_iff catchupConfig rfl ∅ 0 [] _ (by simp) (fun t ht => ?_)
    (by decide)).2 ⟨fun _ h => (by cases h), fun _ _ _ _ _ _ h => (by cases h), ?_⟩
  · simp only [samples, List.filterMap_cons, Event.sample?, List.filterMap_nil, List.mem_cons,
      Sample.buffer.injEq, reduceCtorEq, List.not_mem_nil, or_false] at ht
    omega
  · refine forall_pairs_cons.2 ⟨fun _ _ _ h => (by cases h), forall_pairs_cons.2
      ⟨fun _ h => (by cases h), fun pre p q post h => ?_⟩⟩
    exact absurd h (singleton_ne_pair _ pre p q post)

end IptvCloud.Timeshift
