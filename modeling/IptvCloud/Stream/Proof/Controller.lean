import IptvCloud.Lib.Run
import IptvCloud.Stream.Controller

/-!
# What a step of the controller does

`Moves` lists the steps of the controller thread with their guards, `StepCases` those of the whole
system; the invariants of the controller are case splits on them.
-/

namespace IptvCloud.Stream

variable {cfg : Config} {s s' : Controller} {e : Event}

/-- The steps of the controller thread. -/
inductive Moves (cfg : Config) (s : Controller) : Controller → Prop
  | stopped (h : s.pc = .testStop) (hs : s.stop = true) : Moves cfg s { s with pc := .exited }
  | search (h : s.pc = .testStop) (hs : s.stop = false) : Moves cfg s { s with pc := .findChunk }
  | start (h : s.pc = .testStop) (hs : s.stop = false) : Moves cfg s { s with pc := .createStream }
  | foundInvalid (h : s.pc = .findChunk) : Moves cfg s { s with pc := .testStop }
  | found (h : s.pc = .findChunk) : Moves cfg s { s with pc := .createStream }
  | notFound (h : s.pc = .findChunk) : Moves cfg s { s with pc := .beforeSearchWait }
  | searchWait (h : s.pc = .beforeSearchWait) :
    Moves cfg s { s with pc := .searchWaiting s.clock false, log := .searchWait :: s.log }
  | searchNotified (since : Int) (h : s.pc = .searchWaiting since true) :
    Moves cfg s { s with pc := .testStop }
  | searchTimeout (since : Int) (h : s.pc = .searchWaiting since false) :
    Moves cfg s { s with pc := .findChunk }
  | created (h : s.pc = .createStream) :
    Moves cfg s { s with pc := .initPipeLine, startUtcNow := s.clock, log := .created :: s.log }
  | notCreated (h : s.pc = .createStream) : Moves cfg s { s with pc := .exited }
  | initialized (h : s.pc = .initPipeLine) :
    Moves cfg s { s with pc := .enterLoop, loopStartTime := s.clock }
  | initFailed (h : s.pc = .initPipeLine) : Moves cfg s { s with pc := .sessionOver .exitInner }
  | entered (h : s.pc = .enterLoop) : Moves cfg s { s with pc := .mainLoop none }
  | left (res : ExitStatus) (h : s.pc = .mainLoop (some res)) :
    Moves cfg s { s with pc := .sessionOver res }
  | finished (res : ExitStatus) (h : s.pc = .sessionOver res) :
    Moves cfg s { s with
      pc := .judge res (s.clock - s.startUtcNow)
      log := .finished res (s.clock - s.startUtcNow) :: s.log }
  | vodOver (res : ExitStatus) (lasted : Int) (h : s.pc = .judge res lasted) :
    Moves cfg s { s with pc := .exited }
  | judged (res : ExitStatus) (lasted : Int) (h : s.pc = .judge res lasted)
    (hv : cfg.type.isVod = false) : Moves cfg s (judgeSession cfg s res)
  | backoff (waitTime : Nat) (h : s.pc = .beforeBackoff waitTime) :
    Moves cfg s { s with pc := .backoffWaiting waitTime s.clock false }
  | backoffNotified (waitTime : Nat) (since : Int)
      (h : s.pc = .backoffWaiting waitTime since true) :
    Moves cfg s { s with
      pc := .testStop, restartAttempts := 0, log := .waited (s.clock - since) true :: s.log }
  | backoffTimeout (waitTime : Nat) (since : Int) (h : s.pc = .backoffWaiting waitTime since false)
    (ht : since + (waitTime * 1000 : Nat) ≤ s.clock) :
    Moves cfg s { s with pc := .testStop, log := .waited (s.clock - since) false :: s.log }

theorem moves_of_controllerStep {outcome : Outcome}
    (h : controllerStep cfg s outcome = some s') : Moves cfg s s' := by
  unfold controllerStep at h
  cases hpc : s.pc with rw [hpc] at h
  | testStop =>
    dsimp only at h
    split at h
    · rename_i hs; cases h; exact .stopped hpc hs
    · rename_i hs
      have hs : s.stop = false := by simpa using hs
      split at h
      · cases h; exact .search hpc hs
      · cases h; exact .start hpc hs
  | findChunk =>
    cases outcome with
    | success index =>
      dsimp only at h
      split at h
      · cases h; exact .foundInvalid hpc
      · cases h; exact .found hpc
    | failure => cases h; exact .notFound hpc
  | beforeSearchWait => cases h; exact .searchWait hpc
  | searchWaiting since notified =>
    cases notified with
    | true => cases h; exact .searchNotified since hpc
    | false =>
      simp only [Bool.false_eq_true, if_false] at h
      split at h
      · cases h; exact .searchTimeout since hpc
      · cases h
  | createStream =>
    cases outcome with
    | success index => cases h; exact .created hpc
    | failure => cases h; exact .notCreated hpc
  | initPipeLine =>
    cases outcome with
    | success index => cases h; exact .initialized hpc
    | failure => cases h; exact .initFailed hpc
  | enterLoop => cases h; exact .entered hpc
  | mainLoop quit =>
    cases quit with
    | none => cases h
    | some res => cases h; exact .left res hpc
  | sessionOver res => cases h; exact .finished res hpc
  | judge res lasted =>
    dsimp only at h
    split at h
    · cases h; exact .vodOver res lasted hpc
    · rename_i hv
      cases h
      exact .judged res lasted hpc (by simpa using hv)
  | beforeBackoff waitTime => cases h; exact .backoff waitTime hpc
  | backoffWaiting waitTime since notified =>
    cases notified with
    | true => cases h; exact .backoffNotified waitTime since hpc
    | false =>
      simp only [Bool.false_eq_true, if_false] at h
      split at h
      · rename_i ht; cases h; exact .backoffTimeout waitTime since hpc ht
      · cases h
  | exited => cases h

/-- The steps of the system. -/
inductive StepCases (cfg : Config) (s : Controller) : Event → Controller → Prop
  | tick (now : Int) (h : s.clock ≤ now) : StepCases cfg s (.tick now) { s with clock := now }
  | controller (outcome : Outcome) (s' : Controller) (h : Moves cfg s s') :
    StepCases cfg s (.controller outcome) s'
  | sessionQuit (status : ExitStatus) :
    StepCases cfg s (.sessionQuit status) { s with pc := s.pc.quit status }
  | command (isStop : Bool) (h : s.cmd = none) :
    StepCases cfg s (.command isStop)
      { s with stop := s.stop || isStop, pc := s.pc.notify, cmd := some isStop }
  | stopStream (isStop : Bool) (h : s.cmd = some isStop) :
    StepCases cfg s .stopStream
      { s with
        pc := s.pc.quit .exitSelf
        cmd := none
        log := if isStop then .stopReturned :: s.log else s.log }

theorem stepCases_of_step (h : step cfg s e = some s') : StepCases cfg s e s' := by
  cases e with
  | tick now =>
    simp only [step] at h
    split at h
    · rename_i hle; cases h; exact .tick now hle
    · cases h
  | controller outcome => exact .controller outcome s' (moves_of_controllerStep h)
  | sessionQuit status => cases h; exact .sessionQuit status
  | command isStop =>
    simp only [step] at h
    split at h
    · rename_i hc; cases h; exact .command isStop hc
    · cases h
  | stopStream =>
    obtain ⟨isStop, hc, hs⟩ := Option.map_eq_some_iff.1 h
    cases hs
    exact .stopStream isStop hc

/-! ## What the command thread leaves -/

/-- A quit changes a running main loop only. -/
theorem Pc.quit_cases (status : ExitStatus) (pc : Pc) :
    pc.quit status = pc ∨ pc = .mainLoop none ∧ pc.quit status = .mainLoop (some status) := by
  cases pc with
  | mainLoop quit =>
    cases quit with
    | none => exact .inr ⟨rfl, rfl⟩
    | some res => exact .inl rfl
  | _ => exact .inl rfl

/-- A notification changes a wait only. -/
theorem Pc.notify_cases (pc : Pc) :
    pc.notify = pc ∨
    (∃ since n, pc = .searchWaiting since n ∧ pc.notify = .searchWaiting since true) ∨
      ∃ w since n, pc = .backoffWaiting w since n ∧ pc.notify = .backoffWaiting w since true := by
  cases pc with
  | searchWaiting since n => exact .inr (.inl ⟨since, n, rfl, rfl⟩)
  | backoffWaiting w since n => exact .inr (.inr ⟨w, since, n, rfl, rfl⟩)
  | _ => exact .inl rfl

end IptvCloud.Stream
