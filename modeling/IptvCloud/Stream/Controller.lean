import IptvCloud.Utils.Chunk

/-!
# The stream controller (`stream/stream_controller.cpp`)

`StreamController::Exec` on the controller thread, with the parts of `IBaseStream::Exec` that read
the clock or the exit status, and `Stop` and `Restart` on the command thread. A step is what a
thread does between two points where the other one can interfere; a wait on `stop_cond_` ends when
it is notified or its time is over (there are no spurious wake-ups), and a quit ends the main loop
only while it runs, as `HandleSyncBusMessageReceived` tests.
-/

namespace IptvCloud.Stream

inductive StreamType
  | proxy
  | relay
  | encode
  | timeshiftPlayer
  | timeshiftRecorder
  | catchup
  | testLife
  | vodRelay
  | vodEncode
  | screen
  deriving DecidableEq, Repr

/-- `IBaseStream::IsVod`. -/
def StreamType.isVod (type : StreamType) : Bool := type = .vodEncode || type = .vodRelay

inductive ExitStatus
  | exitSelf
  | exitInner
  deriving DecidableEq, Repr

inductive StreamStatus
  | new
  | init
  | started
  | ready
  | playing
  | frozen
  | waiting
  deriving DecidableEq, Repr

/-- `restart_after_frozen_sec`. -/
def restartAfterFrozenSec : Nat := 60

/-- What the controller reads of the configuration; `make_config` checks the attempts.
`chunkDuration` is `GetTimeShiftChunkDuration` of a timeshift player, in seconds. -/
structure Config where
  type : StreamType
  maxRestartAttempts : Nat
  chunkDuration : Int
  attempts_pos : 0 < maxRestartAttempts

/-- Where the controller thread is. -/
inductive Pc
  /-- Before the test of `stop_` at the top of the loop. -/
  | testStop
  /-- Before `FindChunkToPlay`. -/
  | findChunk
  /-- `WAITING` is published, `stop_mutex_` not yet taken. -/
  | beforeSearchWait
  | searchWaiting (since : Int) (notified : Bool)
  /-- Before `CreateStream`. -/
  | createStream
  /-- `origin_` is set, before `InitPipeLine`. -/
  | initPipeLine
  /-- The pipeline is ready, before `g_main_loop_run`. -/
  | enterLoop
  /-- The main loop runs, or has been told to quit with a status. -/
  | mainLoop (quit : Option ExitStatus)
  /-- `IBaseStream::Exec` has returned, `origin_` is not yet destroyed. -/
  | sessionOver (res : ExitStatus)
  /-- The session and its working time are known. -/
  | judge (res : ExitStatus) (lasted : Int)
  /-- Before the wait after a failure. -/
  | beforeBackoff (waitTime : Nat)
  | backoffWaiting (waitTime : Nat) (since : Int) (notified : Bool)
  | exited
  deriving DecidableEq, Repr

/-- What the controller has done, for the statements about runs. -/
inductive Obs
  /-- `CreateStream` has returned a stream. -/
  | created
  /-- A session is over after `lasted` milliseconds. -/
  | finished (res : ExitStatus) (lasted : Int)
  /-- The counter is reset after a session that was stopped, or that ran long. -/
  | success
  | longRun
  /-- A failure, with the wait it asks for and the status it publishes. -/
  | failure (waitTime : Nat) (published : Option StreamStatus)
  /-- The wait after a failure is over after `lasted` milliseconds. -/
  | waited (lasted : Int) (notified : Bool)
  /-- The wait for a chunk starts. -/
  | searchWait
  /-- `Stop` has returned. -/
  | stopReturned
  deriving DecidableEq, Repr

/-- `cmd` is the command thread between the notification and `StopStream`, of `Stop` (`true`) or
`Restart`. The clock is in milliseconds. -/
structure Controller where
  pc : Pc
  stop : Bool
  restartAttempts : Nat
  loopStartTime : Int
  startUtcNow : Int
  clock : Int
  cmd : Option Bool
  log : List Obs
  deriving DecidableEq, Repr

/-- The controller as it is constructed; `StreamStruct` starts with `loop_start_time` 0. -/
def Controller.init (clock : Int) : Controller := ⟨.testStop, false, 0, 0, 0, clock, none, []⟩

/-- `StreamStruct::WithoutRestartTime`. -/
def Controller.withoutRestartTime (s : Controller) : Int := s.clock - s.loopStartTime

/-! ## The controller thread -/

/-- The outcome of the call a step makes: `FindChunkToPlay` with the index it finds,
`CreateStream`, `InitPipeLine`. -/
inductive Outcome
  | success (index : Nat)
  | failure

/-- After a session of a stream that is no VOD: reset the counter and go on, or count the failure
and wait. -/
def judgeSession (cfg : Config) (s : Controller) (res : ExitStatus) : Controller :=
  match res with
  | .exitSelf =>
    { s with pc := .testStop, restartAttempts := 0, log := .success :: s.log }
  | .exitInner =>
    if s.withoutRestartTime.tdiv 1000 > (restartAfterFrozenSec * 10 : Nat) then
      { s with pc := .testStop, restartAttempts := 0, log := .longRun :: s.log }
    else if s.restartAttempts + 1 = cfg.maxRestartAttempts then
      { s with
        pc := .beforeBackoff restartAfterFrozenSec
        restartAttempts := 0
        log := .failure restartAfterFrozenSec (some .frozen) :: s.log }
    else
      let waitTime := (s.restartAttempts + 1) * (restartAfterFrozenSec / cfg.maxRestartAttempts)
      { s with
        pc := .beforeBackoff waitTime
        restartAttempts := s.restartAttempts + 1
        log := .failure waitTime none :: s.log }

/-- The next step of the controller thread; `none` while it is blocked or has left `Exec`. -/
def controllerStep (cfg : Config) (s : Controller) (outcome : Outcome) : Option Controller :=
  match s.pc with
  | .testStop =>
    if s.stop then some { s with pc := .exited }
    else if cfg.type = .timeshiftPlayer then some { s with pc := .findChunk }
    else some { s with pc := .createStream }
  | .findChunk =>
    match outcome with
    | .success index =>
      if index = invalidChunkIndex then some { s with pc := .testStop }
      else some { s with pc := .createStream }
    | .failure => some { s with pc := .beforeSearchWait }
  | .beforeSearchWait =>
    some { s with pc := .searchWaiting s.clock false, log := .searchWait :: s.log }
  | .searchWaiting since notified =>
    if notified then some { s with pc := .testStop }
    else if since + cfg.chunkDuration * 1000 ≤ s.clock then some { s with pc := .findChunk }
    else none
  | .createStream =>
    match outcome with
    | .success _ =>
      some { s with pc := .initPipeLine, startUtcNow := s.clock, log := .created :: s.log }
    | .failure => some { s with pc := .exited }
  | .initPipeLine =>
    match outcome with
    | .success _ => some { s with pc := .enterLoop, loopStartTime := s.clock }
    | .failure => some { s with pc := .sessionOver .exitInner }
  | .enterLoop => some { s with pc := .mainLoop none }
  | .mainLoop (some res) => some { s with pc := .sessionOver res }
  | .mainLoop none => none
  | .sessionOver res =>
    let lasted := s.clock - s.startUtcNow
    some { s with pc := .judge res lasted, log := .finished res lasted :: s.log }
  | .judge res _ =>
    if cfg.type.isVod then some { s with pc := .exited } else some (judgeSession cfg s res)
  | .beforeBackoff waitTime => some { s with pc := .backoffWaiting waitTime s.clock false }
  | .backoffWaiting waitTime since notified =>
    if notified then
      some { s with
        pc := .testStop, restartAttempts := 0, log := .waited (s.clock - since) true :: s.log }
    else if since + (waitTime * 1000 : Nat) ≤ s.clock then
      some { s with pc := .testStop, log := .waited (s.clock - since) false :: s.log }
    else none
  | .exited => none

/-! ## The command thread -/

/-- `stop_cond_.notify_all()`. -/
def Pc.notify : Pc → Pc
  | .searchWaiting since _ => .searchWaiting since true
  | .backoffWaiting waitTime since _ => .backoffWaiting waitTime since true
  | pc => pc

/-- `IBaseStream::Quit` of `origin_`. -/
def Pc.quit (status : ExitStatus) : Pc → Pc
  | .mainLoop none => .mainLoop (some status)
  | pc => pc

inductive Event
  /-- The clock goes on. -/
  | tick (now : Int)
  | controller (outcome : Outcome)
  /-- The stream quits its main loop itself. -/
  | sessionQuit (status : ExitStatus)
  /-- The first part of `Stop` (`true`) or `Restart`, under `stop_mutex_`. -/
  | command (isStop : Bool)
  /-- `StopStream`, the end of the command. -/
  | stopStream

def step (cfg : Config) (s : Controller) : Event → Option Controller
  | .tick now => if s.clock ≤ now then some { s with clock := now } else none
  | .controller outcome => controllerStep cfg s outcome
  | .sessionQuit status => some { s with pc := s.pc.quit status }
  | .command isStop =>
    if s.cmd = none then
      some { s with stop := s.stop || isStop, pc := s.pc.notify, cmd := some isStop }
    else none
  | .stopStream =>
    s.cmd.map fun isStop =>
      { s with
        pc := s.pc.quit .exitSelf
        cmd := none
        log := if isStop then .stopReturned :: s.log else s.log }

end IptvCloud.Stream
