import IptvCloud.Timeshift.Catchup
import IptvCloud.Timeshift.Proof.Recorder
import IptvCloud.Utils.Proof.M3u8RoundTrip

/-!
# The catch-up playlist over restarts

The files of one session have consecutive indices from `firstIndex` on (`exec_pathSets`), which is
0 or 1 whatever the earlier sessions have recorded, and the playlist of `PostLoop` is the loaded one
followed by them (`runSession_spec`). `playlistKept_iff` is the exact condition: the playlist stays
complete and in order over a run of sessions exactly when no session records a file after another
one than `0.ts`, up to the sizes of the integers.
-/

namespace IptvCloud.Timeshift

open Run M3u8

/-- The playlist entry of a chunk file. -/
def named (i : Nat) : Text × Nat := (tsName i, i)

/-- The index of the first file of a session. -/
def firstIndex (dir : Directory) : Nat := if 0 ∈ dir then 1 else 0

/-! ## One call of `OnPathSet` -/

theorem setLastDuration_entries (cs : List ChunkInfo) (duration : Nat) :
    (setLastDuration cs duration).map entry = cs.map entry := by
  unfold setLastDuration
  split
  · rename_i last hlast
    have hcs : cs.dropLast ++ [last] = cs := List.dropLast_append_getLast? last hlast
    conv_rhs => rw [← hcs]
    simp [entry]
  · rfl

theorem noteSample_entries (r : Recorder) (sample : Sample) :
    (r.noteSample sample).chunks.map entry = r.chunks.map entry := by
  cases sample with
  | null | noBuffer => rfl
  | buffer time =>
    simp only [Recorder.noteSample]
    split
    · exact setLastDuration_entries ..
    · rfl

theorem onPathSet_entries {cfg : RecorderConfig} (hcfg : cfg.kind = .catchup) (dir : Directory)
    (r : Recorder) (sample : Sample) :
    (onPathSet cfg dir r sample).1.chunks.map entry =
      r.chunks.map entry ++ [named (calcNextIndex dir r.chunk)] := by
  unfold onPathSet
  rw [hcfg]
  simp only [Recorder.catchupPathSet, Recorder.basePathSet, List.map_append, noteSample_entries]
  rfl

theorem calcNextIndex_lt (dir : Directory) {chunk : ChunkInfo} (h : chunk.index < 2 ^ 64) :
    calcNextIndex dir chunk < 2 ^ 64 := by
  have hi : (if chunk.index = invalidChunkIndex then 0 else chunk.index) < 2 ^ 64 := by
    split <;> omega
  simp only [calcNextIndex]
  generalize (if chunk.index = invalidChunkIndex then 0 else chunk.index) = i at hi
  split
  · exact Nat.mod_lt _ (by omega)
  · exact hi

/-! ## The calls of a session -/

/-- What the calls of `OnPathSet` do from a state `s` with the stream `r` on: `is` are the indices
they return. -/
structure Recorded (s : Recording) (r : Recorder) (n : Nat) (s' : Recording) (r' : Recorder)
    (is : List Nat) : Prop where
  stream : s'.stream = some r'
  returned : s'.returned = is.reverse ++ s.returned
  entries : r'.chunks.map entry = r.chunks.map entry ++ is.map named
  length : is.length = n
  dir : ∀ i, i ∈ s'.dir ↔ i ∈ is ∨ i ∈ s.dir
  head : ∀ i l, is = i :: l → i = calcNextIndex s.dir r.chunk
  lt : ∀ i ∈ is, i < 2 ^ 64
  consecutive : calcNextIndex s.dir r.chunk + n ≤ 2 ^ 64 →
    is = List.range' (calcNextIndex s.dir r.chunk) n

section Calls

variable {s s' : Recording} {r r₁ r' : Recorder} {is : List Nat} {n : Nat}

theorem recorded_nil (hs : s.stream = some r) : Recorded s r 0 s r [] :=
  ⟨hs, rfl, by simp, rfl, by simp, nofun, by simp, fun _ => rfl⟩

/-- One call, which returns `i`, and then the calls that return `is`. -/
theorem Recorded.cons {i : Nat} {mtime : Int}
    (h : Recorded ⟨s.dir.insert i mtime, some r₁, i :: s.returned⟩ r₁ n s' r' is)
    (hi : calcNextIndex s.dir r.chunk = i) (hchunk : r₁.chunk.index = i)
    (hent : r₁.chunks.map entry = r.chunks.map entry ++ [named i]) (hlt : i < 2 ^ 64) :
    Recorded s r (n + 1) s' r' (i :: is) := by
  refine ⟨h.stream, ?_, ?_, ?_, fun j => ?_, ?_, ?_, fun hn => ?_⟩
  · rw [h.returned, List.reverse_cons, List.append_assoc]
    rfl
  · rw [h.entries, hent, List.append_assoc]
    rfl
  · rw [List.length_cons, h.length]
  · rw [h.dir, AList.mem_insert, List.mem_cons]
    tauto
  · intro j l heq
    cases heq
    exact hi.symm
  · exact List.forall_mem_cons.2 ⟨hlt, h.lt⟩
  · rw [hi] at hn ⊢
    rw [List.range'_succ]
    cases n with
    | zero => rw [List.length_eq_zero_iff.1 h.length]; rfl
    | succ n =>
      -- the file just created makes the next index the successor
      have hnext : calcNextIndex (s.dir.insert i mtime) r₁.chunk = i + 1 := by
        rw [calcNextIndex_valid (by rw [hchunk, invalidChunkIndex]; omega), hchunk,
          if_pos ((AList.mem_insert s.dir).2 (.inl rfl))]
      have hrest := h.consecutive (by rw [hnext]; omega)
      rw [hnext] at hrest
      rw [hrest]

theorem exec_pathSets (cfg : RecorderConfig) (hcfg : cfg.kind = .catchup)
    (calls : List (Sample × Int)) (hs : s.stream = some r) (hr : r.chunk.index < 2 ^ 64) :
    ∃ s' r' is, exec (step cfg) s (pathSets calls) = some s' ∧
      Recorded s r calls.length s' r' is := by
  induction calls generalizing s r with
  | nil => exact ⟨s, r, [], rfl, recorded_nil hs⟩
  | cons call calls ih =>
    obtain ⟨sample, mtime⟩ := call
    obtain ⟨hind, hchunk⟩ := onPathSet_index cfg s.dir r sample
    have hent := onPathSet_entries hcfg s.dir r sample
    have hlt := calcNextIndex_lt s.dir hr
    have hstep : step cfg s (.pathSet sample mtime) =
        some ⟨s.dir.insert (calcNextIndex s.dir r.chunk) mtime,
          some (onPathSet cfg s.dir r sample).1, calcNextIndex s.dir r.chunk :: s.returned⟩ := by
      simp only [step, hs, Option.map_some, hind]
    obtain ⟨s', r', is, hexec, h⟩ :=
      ih (s := ⟨s.dir.insert (calcNextIndex s.dir r.chunk) mtime, _, _⟩) rfl (hchunk ▸ hlt)
    refine ⟨s', r', _ :: is, ?_, h.cons rfl hchunk hent hlt⟩
    simp only [pathSets, List.map_cons, exec, hstep, Option.bind_some]
    exact hexec

end Calls

/-! ## One session -/

/-- What a session leaves: the files `is` and the playlist of the loaded chunks and of these. -/
theorem runSession_spec (cv : Convert) (s : Catchup) (e : Session) : ∃ dir chunks is,
    runSession cv s e =
      some ⟨dir, some (writeM3u8List e.chunkDuration chunks), s.recorded ++ is⟩ ∧
    chunks.map entry = (parse cv s.playlist).2.chunks.map entry ++ is.map named ∧
    is.length = e.calls.length ∧ (∀ i, i ∈ dir ↔ i ∈ is ∨ i ∈ s.dir) ∧
    (∀ i l, is = i :: l → i = firstIndex s.dir) ∧ (∀ i ∈ is, i < 2 ^ 64) ∧
    (firstIndex s.dir + e.calls.length ≤ 2 ^ 64 →
      is = List.range' (firstIndex s.dir) e.calls.length) := by
  generalize hr : onSplitmuxsinkCreated e.config e.now s.dir
    ⟨ChunkInfo.empty, (parse cv s.playlist).2.chunks⟩ = r
  have hindex : r.chunk.index = invalidChunkIndex := hr ▸ onSplitmuxsinkCreated_index ..
  have hchunks : r.chunks = (parse cv s.playlist).2.chunks := hr ▸ rfl
  have hfirst : calcNextIndex s.dir r.chunk = firstIndex s.dir := calcNextIndex_invalid hindex
  obtain ⟨s', r', is, hexec, h⟩ := exec_pathSets e.config rfl e.calls
    (s := ⟨s.dir, some r, []⟩) rfl (by rw [hindex, invalidChunkIndex]; omega)
  have hrun : exec (step e.config) (.init s.dir)
      (.splitmuxsinkCreated e.now (parse cv s.playlist).2.chunks :: pathSets e.calls) =
      some s' := by
    simp only [exec, step, Recording.init, Option.bind_some, hr]
    exact hexec
  refine ⟨s'.dir, r'.chunks, is, ?_, hchunks ▸ h.entries, h.length, h.dir, ?_, h.lt, ?_⟩
  · rw [runSession, hrun, Option.bind_some, h.stream, Option.map_some, h.returned,
      List.append_nil, List.reverse_reverse]
  · exact fun i l hl => (h.head i l hl).trans hfirst
  · have := h.consecutive
    rwa [hfirst] at this

/-- The recorded files when no index wraps. -/
theorem runSession_recorded {cv : Convert} {s s' : Catchup} {e : Session}
    (hfits : firstIndex s.dir + e.calls.length ≤ 2 ^ 64) (h : runSession cv s e = some s') :
    s'.recorded = s.recorded ++ List.range' (firstIndex s.dir) e.calls.length ∧
      ∀ i, i ∈ s'.dir ↔ i ∈ List.range' (firstIndex s.dir) e.calls.length ∨ i ∈ s.dir := by
  obtain ⟨dir, chunks, is, hrun, -, -, hdir, -, -, hcons⟩ := runSession_spec cv s e
  rw [hrun] at h
  cases h
  rw [← hcons hfits]
  exact ⟨rfl, hdir⟩

/-! ## The playlist -/

theorem named_of_entries {cs : List ChunkInfo} {is : List Nat} (h : cs.map entry = is.map named)
    (hlt : ∀ i ∈ is, i < 2 ^ 64) : Named cs := by
  intro c hc
  have hmem : entry c ∈ is.map named := h ▸ List.mem_map_of_mem hc
  obtain ⟨i, hi, he⟩ := List.mem_map.1 hmem
  obtain ⟨hpath, hindex⟩ := Prod.mk.inj he
  simp only [← hpath, ← hindex]
  exact ⟨trivial, hlt i hi⟩

/-- The playlist parses and lists the recorded chunks in order, each once. -/
def PlaylistKept (cv : Convert) (s : Catchup) : Prop :=
  ∃ r, parse cv s.playlist = (true, r) ∧ r.chunks.map entry = s.recorded.map named ∧
    s.recorded.Pairwise (· < ·)

/-- The playlist is complete and in order after the session. -/
def KeepsPlaylist (cv : Convert) (s : Catchup) (e : Session) : Prop :=
  ∀ s', runSession cv s e = some s' → PlaylistKept cv s'

/-- The chunk length is a non-negative `int`, nothing but `0.ts` has been recorded before a session
with files, and the indices of the session fit a `uint64_t`. -/
structure SessionAlone (s : Catchup) (e : Session) : Prop where
  duration : 0 ≤ e.chunkDuration ∧ e.chunkDuration < 2 ^ 31
  alone : e.calls ≠ [] → ∀ i ∈ s.recorded, i = 0
  fits : firstIndex s.dir + e.calls.length ≤ 2 ^ 64

/-- The invariant of the runs that keep the playlist. -/
structure CatchupInv (cv : Convert) (s : Catchup) : Prop where
  entries : (parse cv s.playlist).2.chunks.map entry = s.recorded.map named
  present : ∀ i ∈ s.recorded, i ∈ s.dir
  lt : ∀ i ∈ s.recorded, i < 2 ^ 64
  head : ∀ i l, s.recorded = i :: l → i ≤ 1
  increasing : s.recorded.Pairwise (· < ·)

theorem catchupInv_init (cv : Convert) (dir : Directory) : CatchupInv cv (.init dir) :=
  ⟨rfl, nofun, nofun, nofun, .nil⟩

theorem firstIndex_le (dir : Directory) : firstIndex dir ≤ 1 := by
  unfold firstIndex
  split <;> omega

theorem add_length_le_of_pairwise {N a : Nat} {l : List Nat} (h : (a :: l).Pairwise (· < ·))
    (hlt : ∀ i ∈ a :: l, i < N) : a + (a :: l).length ≤ N := by
  induction l generalizing a with
  | nil => exact hlt a (by simp)
  | cons b l ih =>
    obtain ⟨hab, hl⟩ := List.pairwise_cons.1 h
    have hb := ih hl fun i hi => hlt i (List.mem_cons_of_mem a hi)
    have := hab b (by simp)
    simp only [List.length_cons] at hb ⊢
    omega

section
variable {cv : Convert} {s : Catchup} {e : Session} (hI : CatchupInv cv s)
include hI

/-- The recorded indices after the session are increasing exactly when nothing but `0.ts` was
there and no index wraps. -/
theorem increasing_iff {is : List Nat} (hlen : is.length = e.calls.length)
    (hhead : ∀ i l, is = i :: l → i = firstIndex s.dir) (hlt : ∀ i ∈ is, i < 2 ^ 64)
    (hcons : firstIndex s.dir + e.calls.length ≤ 2 ^ 64 →
      is = List.range' (firstIndex s.dir) e.calls.length) :
    (s.recorded ++ is).Pairwise (· < ·) ↔
      (e.calls ≠ [] → ∀ i ∈ s.recorded, i = 0) ∧ firstIndex s.dir + e.calls.length ≤ 2 ^ 64 := by
  have hfirst := firstIndex_le s.dir
  rw [List.pairwise_append]
  constructor
  · rintro ⟨-, his, hcross⟩
    cases is with
    | nil =>
      rw [← hlen, List.length_nil]
      exact ⟨fun h => absurd (List.length_eq_zero_iff.1 hlen.symm) h, by omega⟩
    | cons i l =>
      have hi := hhead i l rfl
      subst hi
      refine ⟨fun _ j hj => ?_, hlen ▸ add_length_le_of_pairwise his hlt⟩
      have := hcross j hj _ (List.mem_cons_self ..)
      omega
  · rintro ⟨halone, hfits⟩
    have his := hcons hfits
    refine ⟨hI.increasing, his ▸ List.pairwise_lt_range', fun i hi j hj => ?_⟩
    have hne : e.calls ≠ [] := fun h => by
      rw [h, List.length_nil] at hlen
      rw [List.length_eq_zero_iff.1 hlen] at hj
      cases hj
    have h0 := halone hne i hi
    subst h0
    rw [his, firstIndex, if_pos (hI.present 0 hi), List.mem_range'_1] at hj
    omega

/-- The index in the header of the playlist. -/
theorem head_le {is : List Nat} (hhead : ∀ i l, is = i :: l → i = firstIndex s.dir) {i : Nat}
    {l : List Nat} (h : s.recorded ++ is = i :: l) : i ≤ 1 := by
  rcases List.append_eq_cons_iff.1 h with ⟨-, h⟩ | ⟨l', h, -⟩
  · exact hhead i l h ▸ firstIndex_le s.dir
  · exact hI.head i l' h

end

theorem writeM3u8List_eq {chunks : List ChunkInfo} {is : List Nat} (chunkDuration : Int)
    (hent : chunks.map entry = is.map named) (hhead : ∀ i l, is = i :: l → i ≤ 1) :
    ∃ first cs, first < 2 ^ 31 ∧ cs.map entry = is.map named ∧
      writeM3u8List chunkDuration chunks =
        writePlaylist first (chunkDuration % 2 ^ 64).toNat cs := by
  refine ⟨_, _, ?_, ?_, rfl⟩
  · split
    · exact Nat.two_pow_pos 31
    · rename_i first cs
      cases is with
      | nil => cases hent
      | cons i l =>
        have hindex : first.index = i := (Prod.mk.inj (List.cons.inj hent).1).2
        have := hhead i l rfl
        omega
  · rw [writtenChunks, List.map_map, ← hent]
    rfl

/-- **After one session** from a directory whose playlist is kept. -/
theorem keepsPlaylist_iff {cv : Convert} (hcv : cv.Lawful) {s : Catchup} (hI : CatchupInv cv s)
    (e : Session) : KeepsPlaylist cv s e ↔ SessionAlone s e := by
  obtain ⟨dir, chunks, is, hrun, hent, hlen, -, hhead, hlt, hcons⟩ := runSession_spec cv s e
  have hinc := increasing_iff hI (e := e) hlen hhead hlt hcons
  have hall : ∀ i ∈ s.recorded ++ is, i < 2 ^ 64 := fun i hi =>
    (List.mem_append.1 hi).elim (hI.lt i) (hlt i)
  rw [hI.entries, ← List.map_append] at hent
  obtain ⟨first, cs, hf, hcs, hwrite⟩ :=
    writeM3u8List_eq e.chunkDuration hent fun i l => head_le hI hhead
  have hkeeps : KeepsPlaylist cv s e ↔
      ∃ r, parse cv (some (writePlaylist first (e.chunkDuration % 2 ^ 64).toNat cs)) = (true, r) ∧
        r.chunks.map entry = (s.recorded ++ is).map named ∧
        (s.recorded ++ is).Pairwise (· < ·) := by
    rw [KeepsPlaylist, hrun, ← hwrite]
    exact ⟨fun h => h _ rfl, fun h s' hs' => by cases hs'; exact h⟩
  rw [hkeeps]
  have htime := e.isTime
  constructor
  · rintro ⟨r, hparse, -, hpair⟩
    obtain ⟨halone, hfits⟩ := hinc.1 hpair
    refine ⟨?_, halone, hfits⟩
    by_contra hd
    have hlarge :=
      parse_target_large hcv hf (show 2 ^ 31 ≤ (e.chunkDuration % 2 ^ 64).toNat by omega)
      (by omega) cs
    rw [hparse] at hlarge
    cases hlarge
  · rintro ⟨hd, halone, hfits⟩
    obtain ⟨r, hparse, hr⟩ := parse_write hcv hf
      (show (e.chunkDuration % 2 ^ 64).toNat < 2 ^ 31 by omega) (named_of_entries hcs hall)
    exact ⟨r, hparse, hr.trans hcs, hinc.2 ⟨halone, hfits⟩⟩

theorem catchupInv_step {cv : Convert} {s s' : Catchup} {e : Session} (hI : CatchupInv cv s)
    (hk : KeepsPlaylist cv s e) (h : runSession cv s e = some s') : CatchupInv cv s' := by
  obtain ⟨r, hparse, hr, hpair⟩ := hk s' h
  obtain ⟨dir, chunks, is, hrun, -, -, hdir, hhead, hlt, -⟩ := runSession_spec cv s e
  rw [hrun] at h
  cases h
  refine ⟨by rw [hparse]; exact hr, fun i hi => ?_, fun i hi => ?_, fun i l => head_le hI hhead,
    hpair⟩
  · exact (hdir i).2 ((List.mem_append.1 hi).elim (fun h => .inr (hI.present i h)) .inl)
  · exact (List.mem_append.1 hi).elim (hI.lt i) (hlt i)

/-- **The playlist over restarts**: over every run of catch-up sessions on a directory without a
playlist, it is complete and in order after each `PostLoop` exactly when every session of the run
starts alone. -/
theorem playlistKept_iff_sessionAlone {cv : Convert} (hcv : cv.Lawful) (dir : Directory)
    (es : List Session) :
    Along (runSession cv) (KeepsPlaylist cv) (.init dir) es ↔
      Along (runSession cv) SessionAlone (.init dir) es :=
  along_iff (I := CatchupInv cv) (fun _ e hI => keepsPlaylist_iff hcv hI e)
    (fun _ e _ hI hC h => catchupInv_step hI ((keepsPlaylist_iff hcv hI e).2 hC) h)
    (catchupInv_init cv dir)

/-! ## Runs on an empty directory -/

/-- A session of two minute chunks that records `n` files. -/
def sessionOf (n : Nat) : Session :=
  ⟨['/', 'c', '/'], 120, 43200, 0, 1000, List.replicate n (.null, 0), by decide⟩

/-- The second session of two files and one file records `1.ts` again. -/
theorem playlistKept_restart_fails :
    (∀ s s', runSession decimalConvert (.init ∅) (sessionOf 2) = some s →
      runSession decimalConvert s (sessionOf 1) = some s' → s'.recorded = [0, 1, 1]) ∧
    ¬ Along (runSession decimalConvert) (KeepsPlaylist decimalConvert) (.init ∅)
      [sessionOf 2, sessionOf 1] := by
  have hrec : ∀ s s', runSession decimalConvert (.init ∅) (sessionOf 2) = some s →
      runSession decimalConvert s (sessionOf 1) = some s' → s'.recorded = [0, 1, 1] := by
    intro s s' hs hs'
    obtain ⟨hr, hdir⟩ := runSession_recorded (by decide) hs
    have hfirst : firstIndex s.dir = 1 := if_pos ((hdir 0).2 (.inl (by decide)))
    rw [(runSession_recorded (by rw [hfirst]; decide) hs').1, hr, hfirst]
    rfl
  refine ⟨hrec, fun h => ?_⟩
  obtain ⟨_, _, _, hs, -⟩ := runSession_spec decimalConvert (.init ∅) (sessionOf 2)
  obtain ⟨_, _, _, hs', -⟩ := runSession_spec decimalConvert _ (sessionOf 1)
  obtain ⟨_, -, -, hpair⟩ := (h.2 _ hs).1 _ hs'
  rw [hrec _ _ hs hs'] at hpair
  exact absurd hpair (by decide)

theorem playlistKept_one_then_two :
    Along (runSession decimalConvert) (KeepsPlaylist decimalConvert) (.init ∅)
      [sessionOf 1, sessionOf 2] := by
  refine (playlistKept_iff_sessionAlone decimalConvert_lawful ∅ _).2
    ⟨⟨by decide, nofun, by decide⟩, fun s hs =>
      ⟨⟨by decide, fun _ i hi => ?_, ?_⟩, fun _ _ => trivial⟩⟩
  · rw [(runSession_recorded (by decide) hs).1] at hi
    exact List.mem_singleton.1 hi
  · have := firstIndex_le s.dir
    rw [show (sessionOf 2).calls.length = 2 from rfl]
    omega

end IptvCloud.Timeshift
