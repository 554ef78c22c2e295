import IptvCloud.Stream.Watchdog

/-!
# The no-data watchdog

* `handleMainTimerTick_spec`: what one tick does, in any state and at any reading of the clock.
* `checkpoints_apart`: over any run whose readings are in order, a tick moves the checkpoint more
  than a minute after it was last moved, and after enough bytes went out (`CheckpointInv`).
* `watchdog`: both.
-/

namespace IptvCloud.Streams

open Checked IptvCloud.Stream Run

variable {δ : Type} {ops : DesireOps δ} {s s' : LiveStream δ}

/-! ## Times -/

/-- The quotient that C has for a division by 1000. -/
theorem tdiv_thousand (a : Int) :
    (0 ≤ a ∧ 1000 * a.tdiv 1000 ≤ a ∧ a < 1000 * a.tdiv 1000 + 1000) ∨
    (a < 0 ∧ a ≤ 1000 * a.tdiv 1000 ∧ 1000 * a.tdiv 1000 - 1000 < a) := by
  rcases Int.le_total 0 a with h | h
  · rw [Int.tdiv_eq_ediv_of_nonneg h]
    omega
  · have hneg : a.tdiv 1000 = -((-a) / 1000) := by
      rw [← Int.tdiv_eq_ediv_of_nonneg (show 0 ≤ -a by omega), Int.neg_tdiv, Int.neg_neg]
    rw [hneg]
    omega

/-- A sum or a difference of `int64_t` is that of the integers up to a multiple of `2 ^ 64`. -/
theorem bmod_cases (x : Int) : ∃ k : Int, x.bmod (2 ^ 64) = x + 2 ^ 64 * k :=
  ⟨-x.bdiv (2 ^ 64), by have := Int.bmod_eq_self_sub_mul_bdiv x (2 ^ 64); omega⟩

/-- The whole seconds from `start` to `now`, readings in milliseconds whose difference is one of
`int64_t`. -/
def secondsBetween (start now : Int64) : Int :=
  ((now.toInt - start.toInt).bmod (2 ^ 64)).tdiv 1000

/-- They are far from the bounds of `int64_t`. -/
theorem secondsBetween_bounds (start now : Int64) :
    -(2 ^ 54) < secondsBetween start now ∧ secondsBetween start now < 2 ^ 54 := by
  have hlo := Int.le_bmod (x := now.toInt - start.toInt) (show 0 < 2 ^ 64 by decide)
  have hhi := Int.bmod_lt (x := now.toInt - start.toInt) (show 0 < 2 ^ 64 by decide)
  have hdiv := tdiv_thousand ((now.toInt - start.toInt).bmod (2 ^ 64))
  rw [secondsBetween]
  omega

/-- The elapsed time is the whole seconds since the start. -/
theorem toInt_getElipsedTime (s : LiveStream δ) (now : Int64) :
    (s.getElipsedTime now).toInt = secondsBetween s.startTime now := by
  have hbounds := secondsBetween_bounds s.startTime now
  rw [LiveStream.getElipsedTime, Int64.toInt_div, Int64.toInt_sub,
    show (1000 : Int64).toInt = 1000 by decide]
  exact Int.bmod_eq_of_le (n := secondsBetween s.startTime now) (by omega) (by omega)

/-- The panic tick that a checkpoint sets. -/
theorem toInt_panicTick (s : LiveStream δ) (now : Int64) :
    (s.getElipsedTime now + noDataPanicSec).toInt = secondsBetween s.startTime now + 60 := by
  have hbounds := secondsBetween_bounds s.startTime now
  rw [Int64.toInt_add, toInt_getElipsedTime, show noDataPanicSec.toInt = 60 by decide]
  exact Int.bmod_eq_of_le (by omega) (by omega)

/-- Being late in the terms of the code. -/
theorem lt_getElipsedTime_iff {tick now : Int64} :
    tick < s.getElipsedTime now ↔ tick.toInt < secondsBetween s.startTime now := by
  rw [Int64.lt_iff_toInt_lt, toInt_getElipsedTime]

/-- After the panic tick a tick does not divide by zero. -/
theorem diff_ne_zero {now : Int64} (h : s.noDataPanicTick < s.getElipsedTime now) :
    (noDataPanicSec - s.noDataPanicTick + s.getElipsedTime now + 1).toUInt64 ≠ 0 := by
  intro hz
  have hz' := congrArg (fun x => x.toInt64.toInt) hz
  simp only [Int64.toInt64_toUInt64, Int64.toInt_add, Int64.toInt_sub] at hz'
  rw [show noDataPanicSec.toInt = 60 by decide, show (1 : Int64).toInt = 1 by decide,
    show (0 : UInt64).toInt64.toInt = 0 by decide] at hz'
  have hbounds := secondsBetween_bounds s.startTime now
  have hlo := Int64.le_toInt s.noDataPanicTick
  rw [lt_getElipsedTime_iff] at h
  rw [toInt_getElipsedTime] at hz'
  obtain ⟨i, hi⟩ := bmod_cases (60 - s.noDataPanicTick.toInt)
  obtain ⟨j, hj⟩ := bmod_cases ((60 - s.noDataPanicTick.toInt).bmod (2 ^ 64) +
    secondsBetween s.startTime now)
  obtain ⟨k, hk⟩ := bmod_cases (((60 - s.noDataPanicTick.toInt).bmod (2 ^ 64) +
    secondsBetween s.startTime now).bmod (2 ^ 64) + 1)
  omega

/-- Of two readings in order that are `n` whole seconds apart, the clock has advanced by more than
`n - 1` seconds. -/
theorem apart_of_seconds {start before now : Int64} {n : Nat} (hle : before ≤ now)
    (h : secondsBetween start before + (n + 1) ≤ secondsBetween start now) :
    before.toInt + n * 1000 < now.toInt := by
  rw [Int64.le_iff_toInt_le] at hle
  unfold secondsBetween at h
  have hdiv := tdiv_thousand ((before.toInt - start.toInt).bmod (2 ^ 64))
  have hdiv' := tdiv_thousand ((now.toInt - start.toInt).bmod (2 ^ 64))
  have hlo := Int64.le_toInt before
  have hhi := Int64.toInt_lt now
  have hlo' := Int.le_bmod (x := before.toInt - start.toInt) (show 0 < 2 ^ 64 by decide)
  have hhi' := Int.bmod_lt (x := now.toInt - start.toInt) (show 0 < 2 ^ 64 by decide)
  obtain ⟨i, hi⟩ := bmod_cases (before.toInt - start.toInt)
  obtain ⟨j, hj⟩ := bmod_cases (now.toInt - start.toInt)
  omega

/-! ## The bytes since the checkpoint -/

/-- The counts of a channel. -/
def counts (channel : ChannelStats δ) : UInt64 × UInt64 :=
  (channel.totalBytes, channel.prevTotalBytes)

@[simp] theorem counts_updateBps (channel : ChannelStats δ) (sec : UInt64) :
    counts (channel.updateBps sec) = counts channel := by
  unfold ChannelStats.updateBps
  split <;> rfl

@[simp] theorem totalBytes_updateBps (channel : ChannelStats δ) (sec : UInt64) :
    (channel.updateBps sec).totalBytes = channel.totalBytes :=
  congrArg Prod.fst (counts_updateBps channel sec)

@[simp] theorem counts_updateCheckPoint (channel : ChannelStats δ) :
    counts channel.updateCheckPoint = (channel.totalBytes, channel.totalBytes) := rfl

/-- What the channels counted since the checkpoint, summed over them as `size_t` does. -/
def bytesSince (channels : List (ChannelStats δ)) : Int :=
  (channels.map fun c => (c.totalBytes.toNat : Int) - c.prevTotalBytes.toNat).sum % 2 ^ 64

theorem diffTotal_cons (channel : ChannelStats δ) (channels : List (ChannelStats δ)) :
    diffTotal (channel :: channels) = channel.getDiffTotalBytes + diffTotal channels := by
  have shift (x y : UInt64) (cs : List (ChannelStats δ)) :
      cs.foldl (fun total c => total + c.getDiffTotalBytes) (x + y) =
        x + cs.foldl (fun total c => total + c.getDiffTotalBytes) y := by
    induction cs generalizing y with
    | nil => rfl
    | cons c cs ih => rw [List.foldl_cons, List.foldl_cons, UInt64.add_assoc, ih]
  rw [diffTotal, List.foldl_cons, UInt64.add_comm, shift]
  rfl

/-- The sum of the code. -/
theorem toNat_diffTotal (channels : List (ChannelStats δ)) :
    ((diffTotal channels).toNat : Int) = bytesSince channels := by
  induction channels with
  | nil => rfl
  | cons c cs ih =>
    have hc := UInt64.toNat_lt c.prevTotalBytes
    unfold bytesSince at ih ⊢
    rw [diffTotal_cons, UInt64.toNat_add, ChannelStats.getDiffTotalBytes, UInt64.toNat_sub,
      List.map_cons, List.sum_cons]
    omega

theorem le_diffTotal_iff {channels : List (ChannelStats δ)} {bytes : UInt64} :
    bytes ≤ diffTotal channels ↔ (bytes.toNat : Int) ≤ bytesSince channels := by
  rw [UInt64.le_iff_toNat_le, ← toNat_diffTotal]
  omega

theorem diffTotal_lt_iff {channels : List (ChannelStats δ)} {bytes : UInt64} :
    diffTotal channels < bytes ↔ bytesSince channels < bytes.toNat := by
  rw [UInt64.lt_iff_toNat_lt, ← toNat_diffTotal]
  omega

/-- It depends on the counts alone. -/
theorem diffTotal_congr {channels channels' : List (ChannelStats δ)}
    (h : channels'.map counts = channels.map counts) :
    diffTotal channels' = diffTotal channels := by
  have byCounts (cs : List (ChannelStats δ)) :
      diffTotal cs = (cs.map counts).foldl (fun total c => total + (c.1 - c.2)) 0 := by
    rw [List.foldl_map]
    rfl
  rw [byCounts, byCounts, h]

theorem diffTotal_checkpoint {channels channels' : List (ChannelStats δ)}
    (h : channels'.map counts = channels.map fun c => (c.totalBytes, c.totalBytes)) :
    diffTotal channels' = 0 := by
  have hcounts :
      channels'.map counts = (channels.map ChannelStats.updateCheckPoint).map counts := by
    rw [h, List.map_map]
    rfl
  rw [diffTotal_congr hcounts]
  clear h hcounts
  induction channels with
  | nil => rfl
  | cons c cs ih =>
    rw [List.map_cons, diffTotal_cons, ih, UInt64.add_zero]
    exact UInt64.sub_self _

/-- A channel counts a buffer. -/
theorem diffTotal_modify (channels : List (ChannelStats δ)) (i : Nat) (now : Int64)
    (size : UInt64) :
    diffTotal (channels.modify i fun c => c.setTotalBytes now (c.totalBytes + size)) =
      if i < channels.length then diffTotal channels + size else diffTotal channels := by
  induction channels generalizing i with
  | nil => simp
  | cons c cs ih =>
    cases i with
    | zero =>
      have hc : (c.setTotalBytes now (c.totalBytes + size)).getDiffTotalBytes =
          c.getDiffTotalBytes + size := by
        simp only [ChannelStats.getDiffTotalBytes, ChannelStats.setTotalBytes]
        grind
      simp only [List.modify_zero_cons, diffTotal_cons, hc, List.length_cons, Nat.zero_lt_succ,
        if_true]
      grind
    | succ i =>
      rw [List.modify_succ_cons, diffTotal_cons, diffTotal_cons, ih]
      by_cases hi : i < cs.length
      · simp [hi, UInt64.add_assoc]
      · simp [hi]

/-! ## A tick -/

/-- The stream is up for longer at `now` than its panic tick. -/
def Late (s : LiveStream δ) (now : Int64) : Prop :=
  s.noDataPanicTick.toInt < secondsBetween s.startTime now

/-- The checkpoint is due to be moved by a tick at `now`. -/
def Due (s : LiveStream δ) (now : Int64) : Prop :=
  Late s now ∧ (minOutData.toNat : Int) ≤ bytesSince s.output

/-- The checkpoint is moved at `now`. -/
structure CheckpointMoved (s s' : LiveStream δ) (now : Int64) : Prop where
  tick : s'.noDataPanicTick.toInt = secondsBetween s.startTime now + 60
  input : s'.input.map counts = s.input.map fun c => (c.totalBytes, c.totalBytes)
  output : s'.output.map counts = s.output.map fun c => (c.totalBytes, c.totalBytes)

structure CheckpointKept (s s' : LiveStream δ) : Prop where
  tick : s'.noDataPanicTick = s.noDataPanicTick
  input : s'.input.map counts = s.input.map counts
  output : s'.output.map counts = s.output.map counts

/-- What a tick at `now` does. -/
structure TickSpec (s s' : LiveStream δ) (now resetNow : Int64) (effects : List TickEffect) :
    Prop where
  quit : .quit ∈ effects ↔
    Late s now ∧ (bytesSince s.input < minInData.toNat ∨ bytesSince s.output < minOutData.toNat)
  checkpoint : .checkpoint ∈ effects ↔ Due s now
  moved : Due s now → CheckpointMoved s s' resetNow
  kept : ¬ Due s now → CheckpointKept s s'
  startTime : s'.startTime = s.startTime

/-- The comparison with the rate divides by what is not zero. -/
theorem checkDesire_eq (ops : DesireOps δ) (s : LiveStream δ) (diffInTotal : UInt64) (desire : δ)
    {diff : UInt64} (h : diff ≠ 0) :
    ∃ effects, s.checkDesire ops diff diffInTotal desire = some effects ∧
      effects ⊆ [.notInRange] := by
  unfold LiveStream.checkDesire divide
  rw [if_neg h]
  split
  · refine ⟨_, rfl, ?_⟩
    dsimp only
    split <;> simp
  · exact ⟨[], rfl, by simp⟩

/-- The end of a tick does not touch the checkpoint. -/
theorem sendUpdate_spec (s : LiveStream δ) (upTime : Int64) :
    (s.sendUpdate upTime).2 ⊆ [.timeoutUpdated] ∧
      (s.sendUpdate upTime).1.noDataPanicTick = s.noDataPanicTick ∧
      (s.sendUpdate upTime).1.input = s.input ∧ (s.sendUpdate upTime).1.output = s.output ∧
      (s.sendUpdate upTime).1.startTime = s.startTime := by
  unfold LiveStream.sendUpdate
  split
  · refine ⟨?_, rfl, rfl, rfl, rfl⟩
    dsimp only
    split <;> simp
  · exact ⟨by simp, rfl, rfl, rfl, rfl⟩

/-- The hooks after the panic tick. -/
theorem checkNoData_spec (ops : DesireOps δ) (s : LiveStream δ) (resetNow : Int64)
    (diffInTotal diffOutTotal : UInt64) (desire : δ) {diff : UInt64} (h : diff ≠ 0) :
    ∃ effects,
      s.checkNoData ops resetNow diff diffInTotal diffOutTotal desire =
        some (if diffOutTotal < minOutData then s else s.resetDataWait resetNow, effects) ∧
      (.quit ∈ effects ↔ diffInTotal < minInData ∨ diffOutTotal < minOutData) ∧
      (.checkpoint ∈ effects ↔ minOutData ≤ diffOutTotal) := by
  have hin : (if diffInTotal < minInData then s.onInputDataFailed else s.onInputDataOK) =
      (s, if diffInTotal < minInData then [.quit] else []) := by
    split <;> rfl
  have hout : (if diffOutTotal < minOutData then s.onOutputDataFailed
        else s.onOutputDataOK resetNow) =
      (if diffOutTotal < minOutData then s else s.resetDataWait resetNow,
        if diffOutTotal < minOutData then [.quit] else [.checkpoint]) := by
    split <;> rfl
  obtain ⟨effects, hdesire, hsub⟩ := checkDesire_eq ops s diffInTotal desire h
  have hquit : .quit ∉ effects := fun hm => by simpa using hsub hm
  have hcheck : .checkpoint ∉ effects := fun hm => by simpa using hsub hm
  refine ⟨(if diffInTotal < minInData then [.quit] else []) ++ effects ++
    (if diffOutTotal < minOutData then [.quit] else [.checkpoint]), ?_, ?_, ?_⟩
  · simp only [LiveStream.checkNoData, hin, hout, hdesire]
    rfl
  · by_cases h₁ : diffInTotal < minInData <;> by_cases h₂ : diffOutTotal < minOutData <;>
      simp [h₁, h₂, hquit]
  · rw [← UInt64.not_lt]
    by_cases h₁ : diffInTotal < minInData <;> by_cases h₂ : diffOutTotal < minOutData <;>
      simp [h₁, h₂, hcheck]

/-- **A tick** never divides by zero, and does what `TickSpec` says. -/
theorem handleMainTimerTick_spec (ops : DesireOps δ) (s : LiveStream δ) (now resetNow : Int64) :
    ∃ s' effects, s.handleMainTimerTick ops now resetNow = some (s', effects) ∧
      TickSpec s s' now resetNow effects := by
  let diff := (noDataPanicSec - s.noDataPanicTick + s.getElipsedTime now + 1).toUInt64
  let s₁ : LiveStream δ := { s with
    input := s.input.map (·.updateBps diff), output := s.output.map (·.updateBps diff) }
  have hinput : s₁.input.map counts = s.input.map counts := by simp [s₁, Function.comp_def]
  have houtput : s₁.output.map counts = s.output.map counts := by simp [s₁, Function.comp_def]
  by_cases hlate : s.noDataPanicTick < s.getElipsedTime now
  · obtain ⟨effects, hcheck, hquit, hcheckpoint⟩ := checkNoData_spec ops s₁ resetNow
      (diffTotal s.input) (diffTotal s.output)
      (s.input.foldl (fun d c => ops.add d c.desireBytesPerSecond) ops.default)
      (diff_ne_zero hlate)
    let s₂ := if diffTotal s.output < minOutData then s₁ else s₁.resetDataWait resetNow
    obtain ⟨hsub, htick, hin, hout, hstart⟩ := sendUpdate_spec s₂ (s.getElipsedTime now)
    have hspec : Late s now := lt_getElipsedTime_iff.1 hlate
    have hdue : Due s now ↔ minOutData ≤ diffTotal s.output :=
      (and_iff_right hspec).trans le_diffTotal_iff.symm
    refine ⟨(s₂.sendUpdate (s.getElipsedTime now)).1,
      effects ++ (s₂.sendUpdate (s.getElipsedTime now)).2, ?_,
      ⟨?_, ?_, fun h => ?_, fun h => ?_, ?_⟩⟩
    · simp only [LiveStream.handleMainTimerTick]
      rw [if_pos hlate, hcheck]
      rfl
    · have hupdate : .quit ∉ (s₂.sendUpdate (s.getElipsedTime now)).2 :=
        fun hm => by simpa using hsub hm
      simp only [List.mem_append, hupdate, or_false, hquit, hspec, true_and, diffTotal_lt_iff]
    · have hupdate : .checkpoint ∉ (s₂.sendUpdate (s.getElipsedTime now)).2 :=
        fun hm => by simpa using hsub hm
      simp only [List.mem_append, hupdate, or_false, hcheckpoint, hdue]
    · have hs₂ : s₂ = s₁.resetDataWait resetNow := if_neg (UInt64.not_lt.2 (hdue.1 h))
      refine ⟨by rw [htick, hs₂]; exact toInt_panicTick s₁ resetNow, ?_, ?_⟩
      · rw [hin, hs₂]
        simp [LiveStream.resetDataWait, s₁, Function.comp_def]
      · rw [hout, hs₂]
        simp [LiveStream.resetDataWait, s₁, Function.comp_def]
    · have hs₂ : s₂ = s₁ := if_pos (UInt64.not_le.1 (mt hdue.2 h))
      exact ⟨by rw [htick, hs₂], by rw [hin, hs₂, hinput], by rw [hout, hs₂, houtput]⟩
    · rw [hstart]
      simp only [s₂]
      split <;> rfl
  · have hspec : ¬ Late s now := mt lt_getElipsedTime_iff.2 hlate
    obtain ⟨hsub, htick, hin, hout, hstart⟩ := sendUpdate_spec s₁ (s.getElipsedTime now)
    refine ⟨(s₁.sendUpdate (s.getElipsedTime now)).1,
      (s₁.sendUpdate (s.getElipsedTime now)).2, ?_, ⟨?_, ?_, fun h => ?_, fun _ => ?_, hstart⟩⟩
    · simp only [LiveStream.handleMainTimerTick]
      rw [if_neg hlate]
      rfl
    · exact iff_of_false (fun hm => by simpa using hsub hm) fun h => hspec h.1
    · exact iff_of_false (fun hm => by simpa using hsub hm) fun h => hspec h.1
    · exact absurd h.1 hspec
    · exact ⟨htick, by rw [hin, hinput], by rw [hout, houtput]⟩

/-! ## Probes -/

/-- What a probe leaves alone. -/
structure ProbeFrame (s s' : LiveStream δ) : Prop where
  tick : s'.noDataPanicTick = s.noDataPanicTick
  startTime : s'.startTime = s.startTime
  statusTick : s'.statusTick = s.statusTick
  hasClient : s'.hasClient = s.hasClient

theorem updateStats_frame (s : LiveStream δ) (now : Int64) (probe : Probe) (size : UInt64) :
    ProbeFrame s (s.updateStats now probe size) := by
  obtain ⟨name, id⟩ := probe
  cases name <;> exact ⟨rfl, rfl, rfl, rfl⟩

theorem diffTotal_updateStats (s : LiveStream δ) (now : Int64) (probe : Probe) (size : UInt64) :
    diffTotal (s.updateStats now probe size).output =
      if probe.name = .probeOut ∧ probe.id < s.output.length then diffTotal s.output + size
      else diffTotal s.output := by
  obtain ⟨name, id⟩ := probe
  cases name with
  | probeIn => rfl
  | probeOut => simp [LiveStream.updateStats, diffTotal_modify]

theorem outputs_updateStats (s : LiveStream δ) (now : Int64) (probe : Probe) (size : UInt64) :
    (s.updateStats now probe size).output.length = s.output.length := by
  obtain ⟨name, id⟩ := probe
  cases name with
  | probeIn => rfl
  | probeOut => exact List.length_modify ..

/-- The buffers that a callback counts. -/
def countedBuffers : PadDirection → ProbeData → List Buffer
  | .src, .bufferList _ => []
  | _, data => data.buffers

/-- A stream that counts buffers at a probe. -/
def LiveStream.countBuffers (s : LiveStream δ) (probe : Probe) (buffers : List Buffer) :
    LiveStream δ :=
  buffers.foldl (fun s buffer => s.updateStats buffer.now probe buffer.size) s

theorem callbackProbeBuffer_eq (s : LiveStream δ) (probe : Probe) (direction : PadDirection)
    (data : ProbeData) :
    s.callbackProbeBuffer probe direction data =
      s.countBuffers probe (countedBuffers direction data) := by
  cases direction <;> cases data <;> rfl

theorem totalSize_cons (buffer : Buffer) (buffers : List Buffer) :
    totalSize (buffer :: buffers) = buffer.size.toNat + totalSize buffers := by
  simp [totalSize]

/-- A callback counts nothing that did not pass the pad. -/
theorem totalSize_counted_le (direction : PadDirection) (data : ProbeData) :
    totalSize (countedBuffers direction data) ≤ data.bytes := by
  cases direction <;> cases data <;> simp [countedBuffers, ProbeData.bytes, totalSize]

theorem countBuffers_frame (s : LiveStream δ) (probe : Probe) (buffers : List Buffer) :
    ProbeFrame s (s.countBuffers probe buffers) := by
  induction buffers generalizing s with
  | nil => exact ⟨rfl, rfl, rfl, rfl⟩
  | cons b bs ih =>
    have hb := updateStats_frame s b.now probe b.size
    have hbs := ih (s.updateStats b.now probe b.size)
    exact ⟨hbs.tick.trans hb.tick, hbs.startTime.trans hb.startTime,
      hbs.statusTick.trans hb.statusTick, hbs.hasClient.trans hb.hasClient⟩

theorem diffTotal_countBuffers (s : LiveStream δ) (probe : Probe) (buffers : List Buffer) :
    diffTotal (s.countBuffers probe buffers).output =
      if probe.name = .probeOut ∧ probe.id < s.output.length
      then diffTotal s.output + UInt64.ofNat (totalSize buffers) else diffTotal s.output := by
  induction buffers generalizing s with
  | nil =>
    show diffTotal s.output = if _ then diffTotal s.output + 0 else _
    rw [UInt64.add_zero, ite_self]
  | cons b bs ih =>
    show diffTotal ((s.updateStats b.now probe b.size).countBuffers probe bs).output = _
    rw [ih, outputs_updateStats, diffTotal_updateStats]
    split
    · rw [totalSize_cons, UInt64.ofNat_add, UInt64.ofNat_toNat, UInt64.add_assoc]
    · rfl

/-! ## Messages -/

/-- What messages leave alone. -/
structure MessageFrame (s s' : LiveStream δ) : Prop where
  output : s'.output = s.output
  tick : s'.noDataPanicTick = s.noDataPanicTick
  startTime : s'.startTime = s.startTime
  probeIn : s'.probeIn = s.probeIn

theorem updateDurations_frame {now : Int64} {duration : UInt64} {input : List InputUri} {i : Nat}
    (h : s.updateDurations now duration input i = .ok s') : MessageFrame s s' := by
  induction input generalizing i s with
  | nil => cases h; exact ⟨rfl, rfl, rfl, rfl⟩
  | cons uri input ih =>
    simp only [LiveStream.updateDurations] at h
    split at h
    · obtain ⟨id, -, h⟩ := bind_eq_ok_iff.1 h
      have hframe := ih h
      exact ⟨hframe.output, hframe.tick, hframe.startTime, hframe.probeIn⟩
    · exact ih h

theorem message_frame {now : Int64} {input : List InputUri} {message : BusMessage}
    (h : s.handleAsyncBusMessageReceived input now message = .ok s') : MessageFrame s s' := by
  unfold LiveStream.handleAsyncBusMessageReceived at h
  split at h
  · exact updateDurations_frame h
  all_goals cases h; exact ⟨rfl, rfl, rfl, rfl⟩

/-! ## Runs -/

/-- The readings of the clock are in order. -/
def Ordered (o : Observed δ) : StreamEvent → Prop
  | .tick now resetNow => o.clock ≤ now ∧ now ≤ resetNow
  | .exec _ now | .restart now => o.clock ≤ now
  | .data _ _ _ | .message _ _ => True

/-- The tick calls `ResetDataWait`. -/
def LiveStream.movesCheckpoint (ops : DesireOps δ) (s : LiveStream δ) (now resetNow : Int64) :
    Bool :=
  (s.handleMainTimerTick ops now resetNow).any fun p => .checkpoint ∈ p.2

/-- A tick that moves the checkpoint does so more than a minute after it was last moved, and after
`MIN_OUT_DATA` bytes went out. -/
def CheckpointsApart (ops : DesireOps δ) (o : Observed δ) : StreamEvent → Prop
  | .tick now resetNow => o.stream.movesCheckpoint ops now resetNow = true →
    ∀ t, o.lastCheckpoint = some t →
      t.toInt + 60 * 1000 < resetNow.toInt ∧ minOutData.toNat ≤ o.sent
  | _ => True

/-- What is known since the checkpoint was moved at `t`; the channels of the outputs count no more
than what passed their probes. -/
structure CheckpointInv (o : Observed δ) (t : Int64) : Prop where
  sent : ∃ counted ≤ o.sent, diffTotal o.stream.output = UInt64.ofNat counted
  tick : o.stream.noDataPanicTick.toInt = secondsBetween o.stream.startTime t + 60
  clock : t ≤ o.clock

variable {input : List InputUri} {o o' : Observed δ} {e : StreamEvent}

/-- The checkpoint was just moved. -/
theorem checkpointInv_moved {now t : Int64} (h : CheckpointMoved o.stream s' now)
    (hstart : s'.startTime = o.stream.startTime)
    (ht : (o.checkpoint s' now).lastCheckpoint = some t) :
    CheckpointInv (o.checkpoint s' now) t := by
  cases ht
  refine ⟨⟨0, Nat.le_refl 0, diffTotal_checkpoint h.output⟩, ?_, Int64.le_refl _⟩
  show s'.noDataPanicTick.toInt = secondsBetween s'.startTime now + 60
  rw [h.tick, hstart]

theorem checkpointMoved_exec (s : LiveStream δ) (probeIn : Probes) (now : Int64) :
    CheckpointMoved s (s.exec probeIn now) now :=
  ⟨toInt_panicTick s now, by simp [LiveStream.exec, LiveStream.resetDataWait],
    by simp [LiveStream.exec, LiveStream.resetDataWait]⟩

theorem checkpointMoved_restart (s : LiveStream δ) (now : Int64) :
    CheckpointMoved s (s.restart now) now :=
  ⟨toInt_panicTick s now, by simp [LiveStream.restart, LiveStream.resetDataWait],
    by simp [LiveStream.restart, LiveStream.resetDataWait]⟩

theorem checkpointInv_step (hI : ∀ t, o.lastCheckpoint = some t → CheckpointInv o t)
    (hord : Ordered o e) (h : streamStep ops input o e = some o') :
    ∀ t, o'.lastCheckpoint = some t → CheckpointInv o' t := by
  cases e with
  | data probe direction data =>
    cases h
    intro t ht
    rcases hI t ht with ⟨⟨counted, hle, hsent⟩, htick, hclock⟩
    have hframe := countBuffers_frame o.stream probe (countedBuffers direction data)
    have hbytes := totalSize_counted_le direction data
    simp only [callbackProbeBuffer_eq]
    refine ⟨?_, ?_, hclock⟩
    · simp only [Observed.passed, diffTotal_countBuffers]
      split
      · refine ⟨counted + totalSize (countedBuffers direction data), by omega, ?_⟩
        rw [hsent, UInt64.ofNat_add]
      · exact ⟨counted, hle, hsent⟩
    · simp only [Observed.passed, hframe.tick, htick, hframe.startTime]
  | exec probeIn now =>
    cases h
    exact fun t ht => checkpointInv_moved (checkpointMoved_exec _ _ _) rfl ht
  | restart now =>
    cases h
    exact fun t ht => checkpointInv_moved (checkpointMoved_restart _ _) rfl ht
  | tick now resetNow =>
    obtain ⟨s', effects, htick, hspec⟩ := handleMainTimerTick_spec ops o.stream now resetNow
    simp only [streamStep, htick, Option.map_some, Option.some.injEq] at h
    split at h
    · rename_i hcheck
      subst h
      exact fun t ht =>
        checkpointInv_moved (hspec.moved (hspec.checkpoint.1 hcheck)) hspec.startTime ht
    · rename_i hcheck
      subst h
      intro t ht
      have hkept := hspec.kept (mt hspec.checkpoint.2 hcheck)
      rcases hI t ht with ⟨⟨counted, hle, hsent⟩, htick', hclock⟩
      refine ⟨⟨counted, hle, (diffTotal_congr hkept.output).trans hsent⟩, ?_,
        Int64.le_trans hclock hord.1⟩
      simp only [hkept.tick, htick', hspec.startTime]
  | message message now =>
    simp only [streamStep] at h
    split at h
    · rename_i s' hmessage
      cases h
      intro t ht
      have hframe := message_frame hmessage
      rcases hI t ht with ⟨⟨counted, hle, hsent⟩, htick, hclock⟩
      refine ⟨⟨counted, hle, by rw [hframe.output, hsent]⟩, ?_, hclock⟩
      simp only [hframe.tick, htick, hframe.startTime]
    · cases h

theorem checkpointsApart_of_inv (hI : ∀ t, o.lastCheckpoint = some t → CheckpointInv o t)
    (hord : Ordered o e) : CheckpointsApart ops o e := by
  cases e with
  | exec _ _ | restart _ | data _ _ _ | message _ _ => trivial
  | tick now resetNow =>
    intro hmoves t ht
    obtain ⟨s', effects, htick', hspec⟩ := handleMainTimerTick_spec ops o.stream now resetNow
    have hcheck : .checkpoint ∈ effects := by
      simpa [LiveStream.movesCheckpoint, htick'] using hmoves
    rcases hspec.checkpoint.1 hcheck with ⟨hlate, hout⟩
    rcases hI t ht with ⟨⟨counted, hle, hsent⟩, htick, hclock⟩
    constructor
    · have hseconds : secondsBetween o.stream.startTime t + ((60 : Nat) + 1) ≤
          secondsBetween o.stream.startTime now := by
        rw [Late, htick] at hlate
        omega
      have hapart := apart_of_seconds (Int64.le_trans hclock hord.1) hseconds
      have hreset := Int64.le_iff_toInt_le.1 hord.2
      omega
    · have hcounted := Nat.mod_le counted (2 ^ 64)
      rw [← le_diffTotal_iff, hsent, UInt64.le_iff_toNat_le, UInt64.toNat_ofNat'] at hout
      omega

/-- **Checkpoints are apart** in every run whose readings of the clock are in order. -/
theorem checkpoints_apart (ops : DesireOps δ) (input : List InputUri) (stream : LiveStream δ)
    (clock : Int64) (events : List StreamEvent)
    (h : Along (streamStep ops input) Ordered (.start stream clock) events) :
    Along (streamStep ops input) (CheckpointsApart ops) (.start stream clock) events :=
  Along.inv (I := fun o => ∀ t, o.lastCheckpoint = some t → CheckpointInv o t)
    (fun _ _ _ hI hord hstep => checkpointInv_step hI hord hstep)
    (fun _ _ hI hord => checkpointsApart_of_inv hI hord) nofun h

/-- **The watchdog**: every tick, and the checkpoints of every run whose readings of the clock are
in order. -/
theorem watchdog (ops : DesireOps δ) (input : List InputUri) (stream : LiveStream δ)
    (clock : Int64) (events : List StreamEvent)
    (h : Along (streamStep ops input) Ordered (.start stream clock) events) :
    (∀ (s : LiveStream δ) (now resetNow : Int64), ∃ s' effects,
      s.handleMainTimerTick ops now resetNow = some (s', effects) ∧
        TickSpec s s' now resetNow effects) ∧
    Along (streamStep ops input) (CheckpointsApart ops) (.start stream clock) events :=
  ⟨handleMainTimerTick_spec ops, checkpoints_apart ops input stream clock events h⟩

def sampleOps : DesireOps Unit where
  default := ()
  add _ _ := ()
  isValid _ := false
  inRange _ _ := true

/-- A stream with an input and an output. -/
def sampleStream : LiveStream Unit where
  startTime := 0
  status := .playing
  input := [{ id := 1, desireBytesPerSecond := () }]
  output := [{ id := 2, desireBytesPerSecond := () }]
  probeIn := [0]

/-- A session, a buffer of its output and a tick a minute later. -/
def sampleEvents : List StreamEvent :=
  [.exec [0] 1000, .data ⟨.probeOut, 0⟩ .sink (.bufferList [⟨300000, 2000⟩]), .tick 70000 70000]

theorem watchdog_sample :
    Along (streamStep sampleOps []) Ordered (.start sampleStream 0) sampleEvents ∧
      Along (streamStep sampleOps []) (CheckpointsApart sampleOps) (.start sampleStream 0)
        sampleEvents := by
  have hordered : Along (streamStep sampleOps []) Ordered (.start sampleStream 0) sampleEvents := by
    refine ⟨show (0 : Int64) ≤ 1000 by decide, fun o ho => ⟨trivial, fun o' ho' => ⟨?_, ?_⟩⟩⟩
    · cases ho
      cases ho'
      exact ⟨show (1000 : Int64) ≤ 70000 by decide, Int64.le_refl _⟩
    · exact fun _ _ => trivial
  exact ⟨hordered, (watchdog sampleOps [] sampleStream 0 sampleEvents hordered).2⟩

end IptvCloud.Streams
