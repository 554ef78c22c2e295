import IptvCloud.Stream.Proof.Controller

/-!
# The back-off of the controller

* `backoff_along_run`: over every run the counter stays below the configured maximum, and the waits
  and the published status are those of the failures since its last reset (`BackoffOk`).
* `rested_before_create`: a session that failed within ten minutes is followed by a wait of a second
  before the next one, as long as the failure is judged against its own start time and the wait
  asked for is not zero (`JudgedQuick`). `InitPipeLine` failing leaves `loop_start_time` as it was,
  0 at first, and a maximum above 60 makes the division by it zero.
-/

namespace IptvCloud.Stream

open Run

variable {cfg : Config} {s s' : Controller} {e : Event}

/-! ## The counter, the waits and the status -/

/-- The waits of the failures since the last reset of the counter, last first. The counter is reset
by a session that was stopped or ran long, a notification during a wait, and a freeze. -/
def streakWaits : List Obs → List Nat
  | [] => []
  | .failure waitTime published :: log =>
    if published = some .frozen then [] else waitTime :: streakWaits log
  | .success :: _ | .longRun :: _ | .waited _ true :: _ => []
  | .created :: log | .finished _ _ :: log | .waited _ false :: log | .searchWait :: log
  | .stopReturned :: log => streakWaits log

/-- Every failure waits at most `restart_after_frozen_sec` and not less than the failures before it
in its streak; it publishes `FROZEN` exactly when it is the last one allowed, with the full wait. -/
def BackoffOk (maxRestartAttempts : Nat) : List Obs → Prop
  | [] => True
  | .failure waitTime published :: log =>
    (waitTime ≤ restartAfterFrozenSec ∧
      (published = some .frozen ↔ (streakWaits log).length + 1 = maxRestartAttempts) ∧
      (published = some .frozen → waitTime = restartAfterFrozenSec) ∧
      ∀ w ∈ streakWaits log, w ≤ waitTime) ∧ BackoffOk maxRestartAttempts log
  | _ :: log => BackoffOk maxRestartAttempts log

/-- The counter is the length of the streak. -/
structure BackoffInv (cfg : Config) (s : Controller) : Prop where
  lt : s.restartAttempts < cfg.maxRestartAttempts
  streak : (streakWaits s.log).length = s.restartAttempts
  le : ∀ w ∈ streakWaits s.log,
    w ≤ s.restartAttempts * (restartAfterFrozenSec / cfg.maxRestartAttempts)
  log : BackoffOk cfg.maxRestartAttempts s.log

theorem backoffInv_init (cfg : Config) (clock : Int) : BackoffInv cfg (.init clock) :=
  ⟨cfg.attempts_pos, rfl, nofun, trivial⟩

/-- The counter starts again. -/
theorem BackoffInv.reset (hI : BackoffInv cfg s) (o : Obs) (hw : streakWaits (o :: s.log) = [])
    (hlog : BackoffOk cfg.maxRestartAttempts (o :: s.log)) (pc : Pc) :
    BackoffInv cfg { s with pc, restartAttempts := 0, log := o :: s.log } :=
  ⟨Nat.zero_lt_of_lt hI.lt, by rw [hw]; rfl, by rw [hw]; nofun, hlog⟩

theorem mul_div_le_frozen {attempts : Nat} (h : attempts ≤ cfg.maxRestartAttempts) :
    attempts * (restartAfterFrozenSec / cfg.maxRestartAttempts) ≤ restartAfterFrozenSec :=
  calc attempts * (restartAfterFrozenSec / cfg.maxRestartAttempts)
    _ ≤ cfg.maxRestartAttempts * (restartAfterFrozenSec / cfg.maxRestartAttempts) :=
      Nat.mul_le_mul_right _ h
    _ ≤ restartAfterFrozenSec := Nat.mul_div_le ..

theorem backoffInv_judgeSession (hI : BackoffInv cfg s) (res : ExitStatus) :
    BackoffInv cfg (judgeSession cfg s res) := by
  cases res with
  | exitSelf => exact hI.reset .success rfl hI.log _
  | exitInner =>
    simp only [judgeSession]
    split
    · exact hI.reset .longRun rfl hI.log _
    · split
      · -- the last failure allowed
        rename_i hmax
        refine hI.reset (.failure _ (some .frozen)) rfl
          ⟨⟨Nat.le_refl _, ?_, fun _ => rfl, fun w hw => ?_⟩, hI.log⟩ _
        · rw [hI.streak]
          exact iff_of_true rfl hmax
        · exact Nat.le_trans (hI.le w hw) (mul_div_le_frozen (Nat.le_of_lt hI.lt))
      · rename_i hmax
        have hlt := hI.lt
        have hle := Nat.mul_le_mul_right (restartAfterFrozenSec / cfg.maxRestartAttempts)
          (Nat.le_succ s.restartAttempts)
        refine ⟨by dsimp only; omega, congrArg (· + 1) hI.streak, fun w hw => ?_,
          ⟨mul_div_le_frozen hlt, ?_, nofun, fun w hw => Nat.le_trans (hI.le w hw) hle⟩, hI.log⟩
        · rcases List.mem_cons.1 hw with rfl | hw
          · exact Nat.le_refl _
          · exact Nat.le_trans (hI.le w hw) hle
        · rw [hI.streak]
          exact iff_of_false nofun hmax

theorem backoffInv_step (hI : BackoffInv cfg s) (h : step cfg s e = some s') :
    BackoffInv cfg s' := by
  cases stepCases_of_step h with
  | tick | sessionQuit | command => exact ⟨hI.lt, hI.streak, hI.le, hI.log⟩
  | stopStream isStop hc =>
    cases isStop <;> exact ⟨hI.lt, hI.streak, hI.le, hI.log⟩
  | controller outcome s' hm =>
    cases hm with
    | judged res lasted hpc hv => exact backoffInv_judgeSession hI res
    | backoffNotified => exact hI.reset (.waited _ true) rfl hI.log _
    | _ => exact ⟨hI.lt, hI.streak, hI.le, hI.log⟩

/-- **The back-off over a run**: for every maximum of at least one attempt, every sequence of
outcomes, run times and interruptions. -/
theorem backoff_along_run (cfg : Config) (clock : Int) (es : List Event) {s : Controller}
    (h : exec (step cfg) (.init clock) es = some s) :
    s.restartAttempts < cfg.maxRestartAttempts ∧ BackoffOk cfg.maxRestartAttempts s.log := by
  have hI := exec_of_inv (I := BackoffInv cfg) (fun _ _ _ hI h => backoffInv_step hI h)
    (backoffInv_init cfg clock) h
  exact ⟨hI.lt, hI.log⟩

/-- An encoder with two attempts. -/
def twoAttempts : Config := ⟨.encode, 2, 120, by decide⟩

/-- A session that is created and whose pipeline is not initialized, up to its judgement. -/
def failedSession : List Event :=
  [.controller (.success 0), .controller (.success 0), .controller .failure, .controller .failure,
    .controller .failure]

/-- The controller after two failures in a row, the second of which freezes. -/
def twoFailures : Controller :=
  ⟨.beforeBackoff 60, false, 0, 0, 530000, 530000, none,
    [.failure 60 (some .frozen), .finished .exitInner 0, .created, .waited 30000 false,
      .failure 30 none, .finished .exitInner 0, .created]⟩

theorem backoff_along_two_failures :
    exec (step twoAttempts) (.init 500000) (failedSession ++
      ([.controller .failure, .tick 530000, .controller .failure] ++ failedSession)) =
        some twoFailures ∧ BackoffOk 2 twoFailures.log := by
  have hrun : exec (step twoAttempts) (.init 500000) (failedSession ++
      ([.controller .failure, .tick 530000, .controller .failure] ++ failedSession)) =
        some twoFailures := by decide
  exact ⟨hrun, (backoff_along_run twoAttempts 500000 _ hrun).2⟩

/-! ## The wait after a quick failure -/

/-- The last session did not fail within ten minutes, or the controller has waited since for a
second or until it was notified. -/
def rested : List Obs → Bool
  | [] => true
  | .waited lasted notified :: log => notified || decide (1000 ≤ lasted) || rested log
  | .finished res lasted :: _ => res = .exitSelf || decide (600000 ≤ lasted)
  | .created :: log | .success :: log | .longRun :: log | .failure _ _ :: log | .searchWait :: log
  | .stopReturned :: log => rested log

/-- A new session is created after a rest. -/
def RestedBeforeCreate (s : Controller) (e : Event) : Prop :=
  ∀ index, e = .controller (.success index) → s.pc = .createStream → rested s.log = true

/-- A failure within ten minutes is judged to be one, and the wait it asks for is not zero, unless
the controller has been stopped. -/
def JudgedQuick (cfg : Config) (s : Controller) (e : Event) : Prop :=
  ∀ outcome lasted, e = .controller outcome → s.pc = .judge .exitInner lasted → lasted < 600000 →
    cfg.type.isVod = false → s.stop = true ∨
      s.withoutRestartTime.tdiv 1000 ≤ 600 ∧
        (cfg.maxRestartAttempts ≤ 60 ∨ s.restartAttempts + 1 = cfg.maxRestartAttempts)

/-- What is known of the rest at every point of the loop. -/
def RestAt (stop rested : Bool) : Pc → Prop
  | .testStop => stop = true ∨ rested = true
  | .findChunk | .beforeSearchWait | .searchWaiting _ _ | .createStream => rested = true
  | .judge res lasted => rested = true ∨ res = .exitInner ∧ lasted < 600000
  | .beforeBackoff waitTime | .backoffWaiting waitTime _ _ =>
    stop = true ∨ rested = true ∨ 1 ≤ waitTime
  | .initPipeLine | .enterLoop | .mainLoop _ | .sessionOver _ | .exited => True

def RestInv (s : Controller) : Prop := RestAt s.stop (rested s.log) s.pc

/-- A quick failure is remembered until it is judged. -/
def QuickInv (s : Controller) : Prop :=
  ∀ lasted, s.pc = .judge .exitInner lasted → lasted < 600000 → rested s.log = false

theorem RestAt.quit {stop r : Bool} {pc : Pc} (h : RestAt stop r pc) (status : ExitStatus) :
    RestAt stop r (pc.quit status) := by
  rcases pc.quit_cases status with hq | ⟨-, hq⟩
  · rw [hq]
    exact h
  · rw [hq]
    trivial

theorem RestAt.notify {stop r : Bool} {pc : Pc} (h : RestAt stop r pc) :
    RestAt stop r pc.notify := by
  rcases pc.notify_cases with hn | ⟨since, n, rfl, -⟩ | ⟨w, since, n, rfl, -⟩
  · rw [hn]
    exact h
  · exact h
  · exact h

theorem RestAt.or_stop {stop r : Bool} {pc : Pc} (h : RestAt stop r pc) (isStop : Bool) :
    RestAt (stop || isStop) r pc := by
  cases stop with
  | true => exact h
  | false =>
    cases isStop with
    | false => exact h
    | true =>
      cases pc with
      | testStop | beforeBackoff | backoffWaiting => exact .inl rfl
      | _ => exact h

theorem rested_stopReturned (isStop : Bool) (log : List Obs) :
    rested (if isStop then .stopReturned :: log else log) = rested log := by
  cases isStop <;> rfl

theorem restInv_judgeSession {res : ExitStatus} {lasted : Int} (hI : RestInv s)
    (hpc : s.pc = .judge res lasted)
    (hq : res = .exitInner → lasted < 600000 → s.stop = true ∨
      s.withoutRestartTime.tdiv 1000 ≤ 600 ∧
        (cfg.maxRestartAttempts ≤ 60 ∨ s.restartAttempts + 1 = cfg.maxRestartAttempts)) :
    RestInv (judgeSession cfg s res) := by
  rw [RestInv, hpc] at hI
  rcases hI with hr | ⟨rfl, hl⟩
  · unfold judgeSession
    split
    · exact .inr hr
    · split
      · exact .inr hr
      · split
        · exact .inr (.inl hr)
        · exact .inr (.inl hr)
  · have hq := hq rfl hl
    simp only [judgeSession]
    split
    · rename_i hlong
      rcases hq with hs | ⟨hshort, -⟩
      · exact .inl hs
      · simp only [restartAfterFrozenSec] at hlong
        omega
    · split
      · exact .inr (.inr (by decide))
      · rename_i hmax
        rcases hq with hs | ⟨-, hle | hlast⟩
        · exact .inl hs
        · exact .inr (.inr (Nat.mul_pos (Nat.succ_pos _) (Nat.div_pos hle cfg.attempts_pos)))
        · exact absurd hlast hmax

theorem restInv_step (hI : RestInv s) (hq : JudgedQuick cfg s e) (h : step cfg s e = some s') :
    RestInv s' := by
  cases stepCases_of_step h with
  | tick => exact hI
  | sessionQuit status => exact RestAt.quit hI status
  | command isStop => exact (RestAt.notify hI).or_stop isStop
  | stopStream isStop =>
    rw [RestInv, rested_stopReturned]
    exact RestAt.quit hI .exitSelf
  | controller outcome s' hm =>
    cases hm with
    | stopped | created | notCreated | initialized | initFailed | entered | left | vodOver =>
      trivial
    | search hpc hs | start hpc hs =>
      rw [RestInv, hpc, hs] at hI
      exact hI.resolve_left nofun
    | foundInvalid hpc | searchNotified _ hpc =>
      rw [RestInv, hpc] at hI
      exact .inr hI
    | found hpc | notFound hpc | searchWait hpc | searchTimeout _ hpc | backoff _ hpc =>
      rw [RestInv, hpc] at hI
      exact hI
    | finished res hpc =>
      cases res with
      | exitSelf => exact .inl rfl
      | exitInner =>
        by_cases hl : 600000 ≤ s.clock - s.startUtcNow
        · exact .inl (by simp [rested, hl])
        · exact .inr ⟨rfl, by omega⟩
    | judged res lasted hpc hv =>
      refine restInv_judgeSession hI hpc fun hres hl => ?_
      subst hres
      exact hq outcome lasted rfl hpc hl hv
    | backoffNotified waitTime since hpc => exact .inr rfl
    | backoffTimeout waitTime since hpc ht =>
      rw [RestInv, hpc] at hI
      rcases hI with hs | hr | hw
      · exact .inl hs
      · exact .inr (by simp [rested, hr])
      · have hlasted : 1000 ≤ s.clock - since := by omega
        exact .inr (by simp [rested, hlasted])

theorem judgeSession_pc_ne (cfg : Config) (s : Controller) (res res' : ExitStatus) (lasted : Int) :
    (judgeSession cfg s res).pc ≠ .judge res' lasted := by
  unfold judgeSession
  split
  · exact nofun
  · split
    · exact nofun
    · split <;> exact nofun

theorem quickInv_step (hI : QuickInv s) (h : step cfg s e = some s') : QuickInv s' := by
  cases stepCases_of_step h with
  | tick => exact hI
  | sessionQuit status =>
    intro lasted hpc hl
    rcases s.pc.quit_cases status with hq | ⟨-, hq⟩
    · exact hI lasted (hq ▸ hpc) hl
    · cases hq.symm.trans hpc
  | command isStop =>
    intro lasted hpc hl
    rcases s.pc.notify_cases with hn | ⟨_, _, -, hn⟩ | ⟨_, _, _, -, hn⟩
    · exact hI lasted (hn ▸ hpc) hl
    · cases hn.symm.trans hpc
    · cases hn.symm.trans hpc
  | stopStream isStop =>
    intro lasted hpc hl
    rcases s.pc.quit_cases .exitSelf with hq | ⟨-, hq⟩
    · exact (rested_stopReturned isStop s.log).trans (hI lasted (hq ▸ hpc) hl)
    · cases hq.symm.trans hpc
  | controller outcome s' hm =>
    cases hm with
    | finished res hpc =>
      intro lasted hpc' hl
      cases hpc'
      simpa [rested] using hl
    | judged res lasted hpc hv =>
      exact fun lasted' hpc' => absurd hpc' (judgeSession_pc_ne cfg s res .exitInner lasted')
    | _ => exact nofun

theorem step_backoffTimeout {waitTime : Nat} {since : Int} {outcome : Outcome}
    (hpc : s.pc = .backoffWaiting waitTime since false)
    (ht : since + (waitTime * 1000 : Nat) ≤ s.clock) :
    step cfg s (.controller outcome) =
      some { s with pc := .testStop, log := .waited (s.clock - since) false :: s.log } := by
  simp only [step, controllerStep, hpc, Bool.false_eq_true, if_false, if_pos ht]

/-- At the top of the loop of a controller that is not stopped, the next session comes at once. -/
theorem exists_unrested_of_testStop (hpc : s.pc = .testStop) (hs : s.stop = false)
    (hr : rested s.log = false) : ∃ es, ¬ Along (step cfg) RestedBeforeCreate s es := by
  have hcreate : ∀ s₁ : Controller, s₁.pc = .createStream → rested s₁.log = false →
      ∃ es, ¬ Along (step cfg) RestedBeforeCreate s₁ es := fun s₁ hpc₁ hr₁ =>
    ⟨[.controller (.success 0)], fun hA => by
      have := hA.1 0 rfl hpc₁
      rw [hr₁] at this
      cases this⟩
  by_cases ht : cfg.type = .timeshiftPlayer
  · have hsearch : step cfg s (.controller (.success 0)) = some { s with pc := .findChunk } := by
      simp [step, controllerStep, hpc, hs, ht]
    have hfound : step cfg { s with pc := .findChunk } (.controller (.success 0)) =
        some { s with pc := .createStream } := by
      simp [step, controllerStep, invalidChunkIndex]
    exact exists_not_along hsearch (exists_not_along hfound (hcreate _ rfl hr))
  · have hstart : step cfg s (.controller (.success 0)) = some { s with pc := .createStream } := by
      simp [step, controllerStep, hpc, hs, ht]
    exact exists_not_along hstart (hcreate _ rfl hr)

/-- A quick failure that is taken for a long run, or whose wait is zero, is followed by a session at
once in some run. -/
theorem exists_unrested (hQ : QuickInv s) (hq : ¬ JudgedQuick cfg s e) :
    ∃ es, ¬ Along (step cfg) RestedBeforeCreate s es := by
  simp only [JudgedQuick, not_forall, not_or, exists_prop] at hq
  obtain ⟨outcome, lasted, rfl, hpc, hl, hv, hs, hbad⟩ := hq
  have hs : s.stop = false := by simpa using hs
  have hr := hQ lasted hpc hl
  have hjudge : step cfg s (.controller outcome) = some (judgeSession cfg s .exitInner) := by
    simp [step, controllerStep, hpc, hv]
  refine exists_not_along hjudge ?_
  by_cases hlong : s.withoutRestartTime.tdiv 1000 > (restartAfterFrozenSec * 10 : Nat)
  · rw [judgeSession, if_pos hlong]
    exact exists_unrested_of_testStop rfl hs hr
  · have hshort : s.withoutRestartTime.tdiv 1000 ≤ 600 := by
      simpa [restartAfterFrozenSec] using hlong
    have hmax : ¬ (cfg.maxRestartAttempts ≤ 60 ∨ s.restartAttempts + 1 = cfg.maxRestartAttempts) :=
      fun h => hbad ⟨hshort, h⟩
    obtain ⟨hlarge, hne⟩ := not_or.1 hmax
    have hzero : (s.restartAttempts + 1) * (restartAfterFrozenSec / cfg.maxRestartAttempts) =
        0 := by
      rw [restartAfterFrozenSec, Nat.div_eq_of_lt (by omega), Nat.mul_zero]
    simp only [judgeSession, if_neg hlong, if_neg hne, hzero]
    refine exists_not_along (e := .controller .failure) rfl ?_
    refine exists_not_along (e := .controller .failure)
      (step_backoffTimeout rfl (by simp)) ?_
    refine exists_unrested_of_testStop rfl hs ?_
    simp [rested, hr]

/-- **The wait after a quick failure**: in every run whose quick failures are judged as such, every
session is created after a rest; and wherever one is not, some run goes on with a session that is
not. -/
theorem rested_before_create (cfg : Config) (clock : Int) :
    (∀ es, Along (step cfg) (JudgedQuick cfg) (.init clock) es →
      Along (step cfg) RestedBeforeCreate (.init clock) es) ∧
    ∀ es s e, exec (step cfg) (.init clock) es = some s → ¬ JudgedQuick cfg s e →
      ∃ es', ¬ Along (step cfg) RestedBeforeCreate s es' := by
  constructor
  · intro es
    refine Along.inv (I := RestInv) (fun s e s' hI hq h => restInv_step hI hq h) ?_ (.inr rfl)
    intro s e hI _ index _ hpc
    rw [RestInv, hpc] at hI
    exact hI
  · intro es s e h hq
    have hQ := exec_of_inv (I := QuickInv) (fun _ _ _ hI h => quickInv_step hI h)
      (fun _ h => (by cases h)) h
    exact exists_unrested hQ hq

/-- An encoder with the default number of attempts, and one with a hundred. -/
def encoder (maxRestartAttempts : Nat) (h : 0 < maxRestartAttempts) : Config :=
  ⟨.encode, maxRestartAttempts, 120, h⟩

/-- A session that runs for a second and fails, up to its judgement. -/
def shortSession : List Event :=
  [.controller (.success 0), .controller (.success 0), .controller (.success 0),
    .controller .failure, .tick 1500000001000, .sessionQuit .exitInner, .controller .failure,
    .controller .failure, .controller .failure]

/-- A first session without a pipeline is taken for a long run, and a failure after a second waits
for zero seconds when a hundred attempts are allowed. -/
theorem rested_before_create_fails :
    ¬ Along (step (encoder 10 (by decide))) RestedBeforeCreate (.init 1500000000000)
      (failedSession ++ [.controller (.success 0), .controller (.success 0)]) ∧
    ¬ Along (step (encoder 100 (by decide))) RestedBeforeCreate (.init 1500000000000)
      (shortSession ++ [.controller .failure, .controller .failure, .controller (.success 0),
        .controller (.success 0)]) := by
  constructor
  · intro h
    have h := (((((h.2 _ rfl).2 _ rfl).2 _ rfl).2 _ rfl).2 _ rfl).2 _ rfl
    exact absurd (h.1 0 rfl rfl) (by decide)
  · intro h
    have h := (((((h.2 _ rfl).2 _ rfl).2 _ rfl).2 _ rfl).2 _ rfl).2 _ rfl
    have h := (((((h.2 _ rfl).2 _ rfl).2 _ rfl).2 _ rfl).2 _ rfl).2 _ rfl
    exact absurd (h.1 0 rfl rfl) (by decide)

end IptvCloud.Stream
