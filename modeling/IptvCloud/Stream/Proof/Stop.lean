import IptvCloud.Stream.Proof.Controller

/-!
# When a stop is lost

`Stop` sets `stop_`, notifies `stop_cond_` and posts a quit. The controller reads `stop_` at the top
of its loop only, a notification reaches a wait that has begun and a quit a main loop that runs.
`noLostStop_of_heard`: a stop keeps the controller from every further session and every further
wait for a chunk exactly when `Stop` returns at a point where one of the three is heard
(`Pc.hears`): not between the test of `stop_` and the running main loop, except in a wait for a
chunk that was notified.
-/

namespace IptvCloud.Stream

open Run

variable {cfg : Config} {s s' : Controller} {e : Event}

/-- No session and no wait for a chunk has started after `Stop` returned. -/
def QuietSinceStop : List Obs → Prop
  | [] => True
  | o :: log => (.stopReturned ∈ log → o ≠ .created ∧ o ≠ .searchWait) ∧ QuietSinceStop log

/-- After `Stop` has returned, a main loop that runs or is about to has been told to quit, and
nothing new has started. -/
structure NoLostStop (s : Controller) : Prop where
  quit : .stopReturned ∈ s.log →
    s.pc ≠ .initPipeLine ∧ s.pc ≠ .enterLoop ∧ s.pc ≠ .mainLoop none
  quiet : QuietSinceStop s.log

/-- From here the controller leaves `Exec` without a session or a wait for a chunk. -/
def Pc.settled : Pc → Bool
  | .testStop | .searchWaiting _ true | .mainLoop (some _) | .sessionOver _ | .judge _ _
  | .beforeBackoff _ | .backoffWaiting _ _ _ | .exited => true
  | .findChunk | .beforeSearchWait | .searchWaiting _ false | .createStream | .initPipeLine
  | .enterLoop | .mainLoop none => false

/-- `StopStream` settles the controller, or finds it settled. -/
def Pc.hears : Pc → Bool
  | .mainLoop none => true
  | pc => pc.settled

/-- `Stop` returns at a point where it is heard. -/
def StopHeard (s : Controller) (e : Event) : Prop :=
  e = .stopStream → s.cmd = some true → s.pc.hears = true

/-! ## The invariant -/

structure StopInv (s : Controller) : Prop where
  command : s.cmd = some true → s.stop = true
  settled : .stopReturned ∈ s.log → s.stop = true ∧ s.pc.settled = true
  quiet : QuietSinceStop s.log

theorem stopInv_init (clock : Int) : StopInv (.init clock) := ⟨nofun, nofun, trivial⟩

theorem StopInv.noLostStop (hI : StopInv s) : NoLostStop s := by
  refine ⟨fun hm => ?_, hI.quiet⟩
  have hp := (hI.settled hm).2
  refine ⟨fun h => ?_, fun h => ?_, fun h => ?_⟩ <;>
  · rw [h] at hp
    cases hp

/-- A step that logs nothing. -/
theorem StopInv.of_log_eq (hI : StopInv s) (hc : s'.cmd = s.cmd) (hs : s'.stop = s.stop)
    (hl : s'.log = s.log) (hp : s.stop = true → s.pc.settled = true → s'.pc.settled = true) :
    StopInv s' := by
  refine ⟨fun h => ?_, fun h => ?_, hl ▸ hI.quiet⟩
  · rw [hs]
    exact hI.command (hc ▸ h)
  · obtain ⟨h1, h2⟩ := hI.settled (hl ▸ h)
    exact ⟨hs ▸ h1, hp h1 h2⟩

/-- A step that logs something else than the end of `Stop`. -/
theorem StopInv.of_log_cons (hI : StopInv s) {o : Obs} (hl : s'.log = o :: s.log)
    (hc : s'.cmd = s.cmd) (hs : s'.stop = s.stop) (ho : o ≠ .stopReturned)
    (hp : s.pc.settled = true → s'.pc.settled = true ∧ o ≠ .created ∧ o ≠ .searchWait) :
    StopInv s' := by
  refine ⟨fun h => ?_, fun h => ?_, ?_⟩
  · rw [hs]
    exact hI.command (hc ▸ h)
  · rw [hl] at h
    obtain ⟨h1, h2⟩ := hI.settled ((List.mem_cons.1 h).resolve_left (Ne.symm ho))
    exact ⟨hs ▸ h1, (hp h2).1⟩
  · rw [hl]
    exact ⟨fun h => (hp (hI.settled h).2).2, hI.quiet⟩

theorem Pc.settled_quit {pc : Pc} (h : pc.settled = true) (status : ExitStatus) :
    (pc.quit status).settled = true := by
  rcases pc.quit_cases status with hq | ⟨-, hq⟩
  · exact hq.symm ▸ h
  · exact hq.symm ▸ rfl

theorem Pc.settled_quit_of_hears {pc : Pc} (h : pc.hears = true) (status : ExitStatus) :
    (pc.quit status).settled = true := by
  rcases pc.quit_cases status with hq | ⟨-, hq⟩
  · rw [hq]
    cases pc with
    | mainLoop quit =>
      cases quit with
      | none => cases hq
      | some res => rfl
    | _ => exact h
  · rw [hq]
    rfl

theorem Pc.settled_notify {pc : Pc} (h : pc.settled = true) : pc.notify.settled = true := by
  rcases pc.notify_cases with hn | ⟨_, _, -, hn⟩ | ⟨_, _, _, -, hn⟩
  · exact hn.symm ▸ h
  · exact hn.symm ▸ rfl
  · exact hn.symm ▸ rfl

theorem judgeSession_frame (cfg : Config) (s : Controller) (res : ExitStatus) :
    (judgeSession cfg s res).cmd = s.cmd ∧ (judgeSession cfg s res).stop = s.stop ∧
      (judgeSession cfg s res).pc.settled = true ∧
      ∃ o, (judgeSession cfg s res).log = o :: s.log ∧
        o ≠ .stopReturned ∧ o ≠ .created ∧ o ≠ .searchWait := by
  unfold judgeSession
  split
  · exact ⟨rfl, rfl, rfl, _, rfl, nofun, nofun, nofun⟩
  · split
    · exact ⟨rfl, rfl, rfl, _, rfl, nofun, nofun, nofun⟩
    · split <;> exact ⟨rfl, rfl, rfl, _, rfl, nofun, nofun, nofun⟩

theorem stopInv_moves (hI : StopInv s) (hm : Moves cfg s s') : StopInv s' := by
  cases hm with
  | search hpc hs | start hpc hs =>
    exact hI.of_log_eq rfl rfl rfl fun h => by rw [hs] at h; cases h
  | found hpc | notFound hpc | searchTimeout _ hpc | initialized hpc | entered hpc =>
    exact hI.of_log_eq rfl rfl rfl fun _ h => by rw [hpc] at h; cases h
  | stopped | foundInvalid | searchNotified | notCreated | initFailed | left | vodOver | backoff =>
    exact hI.of_log_eq rfl rfl rfl fun _ _ => rfl
  | searchWait hpc | created hpc =>
    exact hI.of_log_cons rfl rfl rfl nofun fun h => by rw [hpc] at h; cases h
  | finished | backoffNotified | backoffTimeout =>
    exact hI.of_log_cons rfl rfl rfl nofun fun _ => ⟨rfl, nofun, nofun⟩
  | judged res lasted hpc hv =>
    obtain ⟨hc, hs, hp, o, hl, ho, ho'⟩ := judgeSession_frame cfg s res
    exact hI.of_log_cons hl hc hs ho fun _ => ⟨hp, ho'⟩

theorem stopInv_step (hI : StopInv s) (hh : StopHeard s e) (h : step cfg s e = some s') :
    StopInv s' := by
  cases stepCases_of_step h with
  | tick => exact hI.of_log_eq rfl rfl rfl fun _ h => h
  | controller outcome s' hm => exact stopInv_moves hI hm
  | sessionQuit status => exact hI.of_log_eq rfl rfl rfl fun _ h => Pc.settled_quit h status
  | command isStop hc =>
    refine ⟨fun h => ?_, fun h => ?_, hI.quiet⟩
    · cases h
      exact Bool.or_true _
    · obtain ⟨h1, h2⟩ := hI.settled h
      exact ⟨by simp [h1], Pc.settled_notify h2⟩
  | stopStream isStop hc =>
    cases isStop with
    | false =>
      refine ⟨nofun, fun h => ?_, hI.quiet⟩
      obtain ⟨h1, h2⟩ := hI.settled h
      exact ⟨h1, Pc.settled_quit h2 _⟩
    | true =>
      exact ⟨nofun, fun _ => ⟨hI.command hc, Pc.settled_quit_of_hears (hh rfl hc) _⟩,
        fun _ => ⟨nofun, nofun⟩, hI.quiet⟩

/-! ## The lost stops -/

theorem lost_of_createStream (cfg : Config) (hpc : s.pc = .createStream)
    (hm : .stopReturned ∈ s.log) :
    ∃ s', Reaches (step cfg) s s' ∧ ¬ NoLostStop s' := by
  have hstep : step cfg s (.controller (.success 0)) =
      some { s with pc := .initPipeLine, startUtcNow := s.clock, log := .created :: s.log } := by
    simp only [step, controllerStep, hpc]
  exact ⟨_, .head hstep (.refl _), fun h => (h.quiet.1 hm).1 rfl⟩

theorem lost_of_findChunk (cfg : Config) (hpc : s.pc = .findChunk) (hm : .stopReturned ∈ s.log) :
    ∃ s', Reaches (step cfg) s s' ∧ ¬ NoLostStop s' := by
  have hstep : step cfg s (.controller (.success 0)) = some { s with pc := .createStream } := by
    simp [step, controllerStep, hpc, invalidChunkIndex]
  obtain ⟨s', hr, hn⟩ := lost_of_createStream cfg (s := { s with pc := .createStream }) rfl hm
  exact ⟨s', .head hstep hr, hn⟩

/-- Everywhere else a stop can be lost. -/
theorem lost_of_not_hears (hh : s.pc.hears = false) (hm : .stopReturned ∈ s.log) :
    ∃ s', Reaches (step cfg) s s' ∧ ¬ NoLostStop s' := by
  cases hpc : s.pc with
  | findChunk => exact lost_of_findChunk cfg hpc hm
  | createStream => exact lost_of_createStream cfg hpc hm
  | beforeSearchWait =>
    have hstep : step cfg s (.controller .failure) =
        some { s with pc := .searchWaiting s.clock false, log := .searchWait :: s.log } := by
      simp only [step, controllerStep, hpc]
    exact ⟨_, .head hstep (.refl _), fun h => (h.quiet.1 hm).2 rfl⟩
  | searchWaiting since notified =>
    cases notified with
    | true => rw [hpc] at hh; cases hh
    | false =>
      -- the wait runs to its end and the search goes on
      have htick : step cfg s (.tick (max s.clock (since + cfg.chunkDuration * 1000))) =
          some { s with clock := max s.clock (since + cfg.chunkDuration * 1000) } :=
        if_pos (Int.le_max_left ..)
      have hstep : step cfg { s with clock := max s.clock (since + cfg.chunkDuration * 1000) }
          (.controller .failure) = some { s with
            pc := .findChunk, clock := max s.clock (since + cfg.chunkDuration * 1000) } := by
        simp only [step, controllerStep, hpc, Bool.false_eq_true, if_false,
          if_pos (Int.le_max_right ..)]
      obtain ⟨s', hr, hn⟩ := lost_of_findChunk cfg
        (s := { s with
          pc := .findChunk, clock := max s.clock (since + cfg.chunkDuration * 1000) }) rfl hm
      exact ⟨s', .head htick (.head hstep hr), hn⟩
  | initPipeLine => exact ⟨s, .refl s, fun h => (h.quit hm).1 hpc⟩
  | enterLoop => exact ⟨s, .refl s, fun h => (h.quit hm).2.1 hpc⟩
  | mainLoop quit => rw [hpc] at hh; cases quit <;> cases hh
  | testStop | sessionOver | judge | beforeBackoff | backoffWaiting | exited =>
    rw [hpc] at hh
    cases hh

/-- **No lost stop**: in every run whose stops are heard, for every type of stream, no stop is lost
in any state; and after a stop that is not heard some state is reached where it is lost. -/
theorem noLostStop_of_heard (cfg : Config) (clock : Int) :
    (∀ es s, Along (step cfg) StopHeard (.init clock) es →
      exec (step cfg) (.init clock) es = some s → NoLostStop s) ∧
    ∀ s s₁, ¬ StopHeard s .stopStream → step cfg s .stopStream = some s₁ →
      ∃ s', Reaches (step cfg) s₁ s' ∧ ¬ NoLostStop s' := by
  constructor
  · intro es s hh h
    exact (exec_inv (I := StopInv) (fun _ _ _ hI hh h => stopInv_step hI hh h) (stopInv_init clock)
      hh h).noLostStop
  · intro s s₁ hh h
    simp only [StopHeard, true_implies, Classical.not_imp, Bool.not_eq_true] at hh
    obtain ⟨hc, hh⟩ := hh
    have hquit : s.pc.quit .exitSelf = s.pc := by
      rcases s.pc.quit_cases .exitSelf with hq | ⟨hpc, -⟩
      · exact hq
      · rw [hpc] at hh
        cases hh
    simp only [step, hc, Option.map_some, Option.some.injEq, hquit, if_true] at h
    subst h
    exact lost_of_not_hears hh (List.mem_cons_self ..)

/-- A relay stream. -/
def relayConfig : Config := ⟨.relay, 10, 120, by decide⟩

/-- A stop between the test of `stop_` and the main loop: the session starts all the same. -/
theorem noLostStop_fails :
    ∃ s, exec (step relayConfig) (.init 1500000000000)
      [.controller .failure, .command true, .stopStream, .controller (.success 0),
        .controller (.success 0), .controller .failure] = some s ∧
      s.pc = .mainLoop none ∧ ¬ NoLostStop s :=
  ⟨_, rfl, rfl, fun h => (h.quit (by decide)).2.2 rfl⟩

end IptvCloud.Stream
