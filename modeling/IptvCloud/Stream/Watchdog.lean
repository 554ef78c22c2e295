import IptvCloud.Lib.Run
import IptvCloud.Stream.Factory
import IptvCloud.Stream.StatisticInfo

/-!
# The statistics of a running stream (`stream/ibase_stream.cpp`, `base/channel_stats.cpp`)

The probes of a stream count the bytes of its channels, `HandleMainTimerTick` looks every second for
what came since the last checkpoint, and `ResetDataWait` moves the checkpoint. Times are
milliseconds of the clock, read where the code reads them; a difference of times is divided as
`int64_t`. The rate that `common` reads from tags is a parameter (`DesireOps`).
-/

namespace IptvCloud.Stream

variable {δ : Type}

/-- `ChannelStats::GetDiffTotalBytes`. -/
def ChannelStats.getDiffTotalBytes (channel : ChannelStats δ) : UInt64 :=
  channel.totalBytes - channel.prevTotalBytes

/-- `ChannelStats::UpdateBps`. -/
def ChannelStats.updateBps (channel : ChannelStats δ) (sec : UInt64) : ChannelStats δ :=
  if sec = 0 then channel
  else { channel with bytesPerSecond := channel.getDiffTotalBytes / sec }

/-- `ChannelStats::UpdateCheckPoint`. -/
def ChannelStats.updateCheckPoint (channel : ChannelStats δ) : ChannelStats δ :=
  { channel with prevTotalBytes := channel.totalBytes }

end IptvCloud.Stream

namespace IptvCloud.Streams

open Checked IptvCloud.Stream

/-- `DesireBytesPerSec`: the default value, `+=`, `IsValid` and `InRange`. -/
structure DesireOps (δ : Type) where
  default : δ
  add : δ → δ → δ
  isValid : δ → Bool
  inRange : δ → UInt64 → Bool

/-- `PROBE_IN` and `PROBE_OUT`. -/
inductive ProbeName
  | probeIn
  | probeOut
  deriving DecidableEq, Repr

structure Probe where
  name : ProbeName
  id : Nat
  deriving DecidableEq, Repr

/-- `GstPadDirection` of the pad that a probe is linked to. -/
inductive PadDirection
  | src
  | sink
  deriving DecidableEq, Repr

/-- A buffer: `gst_buffer_get_size`, and what the clock shows when it is counted. -/
structure Buffer where
  size : UInt64
  now : Int64
  deriving DecidableEq, Repr

/-- What passes a pad, of the types in `GST_PAD_PROBE_TYPE_DATA_DOWNSTREAM`. -/
inductive ProbeData
  | buffer (buffer : Buffer)
  | bufferList (buffers : List Buffer)
  | event
  deriving DecidableEq, Repr

/-- The buffers that pass the pad. -/
def ProbeData.buffers : ProbeData → List Buffer
  | .buffer b => [b]
  | .bufferList buffers => buffers
  | .event => []

/-- The bytes of buffers. -/
def totalSize (buffers : List Buffer) : Nat := (buffers.map (·.size.toNat)).sum

def ProbeData.bytes (data : ProbeData) : Nat := totalSize data.buffers

/-- The members of `IBaseStream` and of its `StreamStruct` that the statistics are made of. -/
structure LiveStream (δ : Type) where
  startTime : Int64
  status : StreamStatus
  input : List (ChannelStats δ)
  output : List (ChannelStats δ)
  probeIn : Probes
  noDataPanicTick : Int64 := 0
  statusTick : Int64 := 0
  /-- `desire_flags_` is not `INITED_NOTHING`. -/
  desireInited : Bool := false
  hasClient : Bool := true
  deriving DecidableEq

/-- What a tick does to the outside. -/
inductive TickEffect
  /-- `Quit(EXIT_INNER)`. -/
  | quit
  /-- `ResetDataWait`. -/
  | checkpoint
  /-- The notice that the input is not in the range of its rate. -/
  | notInRange
  | timeoutUpdated
  deriving DecidableEq, Repr

def noDataPanicSec : Int64 := 60
def reportDelaySec : Int64 := 10
def minInData : UInt64 := 4 * 1024 * 60
def minOutData : UInt64 := 4 * 1024 * 60

/-- A division of `size_t`, undefined for zero. -/
def divide (a b : UInt64) : Option UInt64 := if b = 0 then none else some (a / b)

/-- The bytes since the checkpoint, summed as `size_t`. -/
def diffTotal {δ : Type} (channels : List (ChannelStats δ)) : UInt64 :=
  channels.foldl (fun total channel => total + channel.getDiffTotalBytes) 0

namespace LiveStream

variable {δ : Type}

/-- `GetElipsedTime`. -/
def getElipsedTime (s : LiveStream δ) (now : Int64) : Int64 := (now - s.startTime) / 1000

/-- `IBaseStream::UpdateStats`. -/
def updateStats (s : LiveStream δ) (now : Int64) (probe : Probe) (size : UInt64) : LiveStream δ :=
  let update (channel : ChannelStats δ) := channel.setTotalBytes now (channel.totalBytes + size)
  match probe.name with
  | .probeIn => { s with input := s.input.modify probe.id update }
  | .probeOut => { s with output := s.output.modify probe.id update }

/-- `Probe::source_callback_probe_buffer` (`stream/probes.cpp`): a buffer list is an unknown type
there. The client of the stream hands on what it checks. -/
def sourceCallbackProbeBuffer (s : LiveStream δ) (probe : Probe) : ProbeData → LiveStream δ
  | .buffer buffer => s.updateStats buffer.now probe buffer.size
  | .bufferList _ | .event => s

/-- `Probe::sink_callback_probe_buffer`. -/
def sinkCallbackProbeBuffer (s : LiveStream δ) (probe : Probe) : ProbeData → LiveStream δ
  | .buffer buffer => s.updateStats buffer.now probe buffer.size
  | .bufferList buffers =>
    buffers.foldl (fun s buffer => s.updateStats buffer.now probe buffer.size) s
  | .event => s

/-- The callback that `Probe::Link` adds to a pad. -/
def callbackProbeBuffer (s : LiveStream δ) (probe : Probe) :
    PadDirection → ProbeData → LiveStream δ
  | .src => s.sourceCallbackProbeBuffer probe
  | .sink => s.sinkCallbackProbeBuffer probe

/-- `IBaseStream::ResetDataWait`. -/
def resetDataWait (s : LiveStream δ) (now : Int64) : LiveStream δ :=
  { s with
    noDataPanicTick := s.getElipsedTime now + noDataPanicSec
    input := s.input.map ChannelStats.updateCheckPoint
    output := s.output.map ChannelStats.updateCheckPoint }

/-- What `IBaseStream::Exec` does before its loop; a session has a stream object of its own, with
the probes of its pipeline, and goes on with the channels. -/
def exec (s : LiveStream δ) (probeIn : Probes) (now : Int64) : LiveStream δ :=
  { s with status := .init, probeIn, statusTick := 0, desireInited := false }.resetDataWait now

/-- `IBaseStream::Restart`. -/
def restart (s : LiveStream δ) (now : Int64) : LiveStream δ :=
  { s.resetDataWait now with status := .init }

/-! ## `HandleMainTimerTick` -/

def onInputDataFailed (s : LiveStream δ) : LiveStream δ × List TickEffect := (s, [.quit])

def onInputDataOK (s : LiveStream δ) : LiveStream δ × List TickEffect := (s, [])

def onOutputDataFailed (s : LiveStream δ) : LiveStream δ × List TickEffect := (s, [.quit])

def onOutputDataOK (s : LiveStream δ) (now : Int64) : LiveStream δ × List TickEffect :=
  (s.resetDataWait now, [.checkpoint])

/-- The comparison of the input with its rate. -/
def checkDesire (ops : DesireOps δ) (s : LiveStream δ) (diff diffInTotal : UInt64)
    (desireInTotal : δ) : Option (List TickEffect) :=
  if ops.isValid desireInTotal && s.desireInited then
    (divide diffInTotal diff).map fun inBytesPerSec =>
      if ops.inRange desireInTotal inBytesPerSec then [] else [.notInRange]
  else some []

/-- What a tick does after the panic tick; `diff` are the seconds it divides by. -/
def checkNoData (ops : DesireOps δ) (s : LiveStream δ) (resetNow : Int64)
    (diff diffInTotal diffOutTotal : UInt64) (desireInTotal : δ) :
    Option (LiveStream δ × List TickEffect) := do
  let (s, inEffects) := if diffInTotal < minInData then s.onInputDataFailed else s.onInputDataOK
  let desireEffects ← checkDesire ops s diff diffInTotal desireInTotal
  let (s, outEffects) :=
    if diffOutTotal < minOutData then s.onOutputDataFailed else s.onOutputDataOK resetNow
  return (s, inEffects ++ desireEffects ++ outEffects)

/-- The status update at the end of a tick. -/
def sendUpdate (s : LiveStream δ) (upTime : Int64) : LiveStream δ × List TickEffect :=
  if s.status ≠ .init ∧ s.statusTick ≤ upTime then
    ({ s with statusTick := upTime + reportDelaySec },
      if s.hasClient then [.timeoutUpdated] else [])
  else (s, [])

/-- `IBaseStream::HandleMainTimerTick`; the clock shows `now` at its start, and `resetNow` when the
checkpoint is moved. -/
def handleMainTimerTick (ops : DesireOps δ) (s : LiveStream δ) (now resetNow : Int64) :
    Option (LiveStream δ × List TickEffect) := do
  let upTime := s.getElipsedTime now
  let diff := (noDataPanicSec - s.noDataPanicTick + upTime + 1).toUInt64
  let diffInTotal := diffTotal s.input
  let desireInTotal :=
    s.input.foldl (fun desire channel => ops.add desire channel.desireBytesPerSecond) ops.default
  let diffOutTotal := diffTotal s.output
  let s := { s with
    input := s.input.map (·.updateBps diff), output := s.output.map (·.updateBps diff) }
  let (s, effects) ←
    if upTime > s.noDataPanicTick then
      checkNoData ops s resetNow diff diffInTotal diffOutTotal desireInTotal
    else some (s, [])
  let (s, updates) := s.sendUpdate upTime
  return (s, effects ++ updates)

/-! ## Messages -/

/-- The loop of the `GST_MESSAGE_DURATION_CHANGED` branch, from input `i` on. -/
def updateDurations (now : Int64) (duration : UInt64) :
    List InputUri → Nat → LiveStream δ → Outcome (LiveStream δ)
  | [], _, s => .ok s
  | uri :: input, i, s =>
    if uri.input.scheme = .http then do
      let id ← elemAt .durationChanged s.probeIn i
      updateDurations now duration input (i + 1) (s.updateStats now ⟨.probeIn, id⟩ duration)
    else updateDurations now duration input (i + 1) s

/-- `IBaseStream::HandleAsyncBusMessageReceived`. -/
def handleAsyncBusMessageReceived (input : List InputUri) (s : LiveStream δ) (now : Int64)
    (message : BusMessage) : Outcome (LiveStream δ) :=
  match message with
  | .durationChanged duration => updateDurations now duration input 0 s
  | .stateChanged true .null => .ok { s with status := .init }
  | .stateChanged true .ready => .ok { s with status := .ready }
  | .stateChanged true .playing => .ok { s with status := .playing }
  | .stateChanged _ _ | .buffering | .clockLost | .eos | .other => .ok s

end LiveStream

/-! ## Runs -/

/-- What happens to a stream. -/
inductive StreamEvent
  | exec (probeIn : Probes) (now : Int64)
  | restart (now : Int64)
  | data (probe : Probe) (direction : PadDirection) (data : ProbeData)
  | tick (now resetNow : Int64)
  | message (message : BusMessage) (now : Int64)
  deriving DecidableEq

/-- A stream with what an observer of its events counts: the bytes of the buffers that passed each
probe since the last checkpoint and in all, those that passed any probe, those that passed a probe
of an output since the last checkpoint, and the time of that checkpoint. -/
structure Observed (δ : Type) where
  stream : LiveStream δ
  seen : Probe → Nat
  all : Probe → Nat
  traffic : Nat
  sent : Nat
  lastCheckpoint : Option Int64
  clock : Int64

namespace Observed

variable {δ : Type}

/-- A stream whose channels have counted nothing yet. -/
def start (stream : LiveStream δ) (clock : Int64) : Observed δ :=
  ⟨stream, fun _ => 0, fun _ => 0, 0, 0, none, clock⟩

/-- The checkpoint was moved, which leaves the stream as `stream`. -/
def checkpoint (o : Observed δ) (stream : LiveStream δ) (now : Int64) : Observed δ :=
  { o with stream, seen := fun _ => 0, sent := 0, lastCheckpoint := some now, clock := now }

/-- So many bytes passed a probe. -/
def passed (o : Observed δ) (stream : LiveStream δ) (probe : Probe) (bytes : Nat) : Observed δ :=
  { o with
    stream
    seen := fun p => if p = probe then o.seen p + bytes else o.seen p
    all := fun p => if p = probe then o.all p + bytes else o.all p
    traffic := o.traffic + bytes
    sent :=
      if probe.name = .probeOut ∧ probe.id < o.stream.output.length then o.sent + bytes
      else o.sent }

end Observed

/-- One event; `none` when it is undefined. -/
def streamStep {δ : Type} (ops : DesireOps δ) (input : List InputUri) (o : Observed δ) :
    StreamEvent → Option (Observed δ)
  | .exec probeIn now => some (o.checkpoint (o.stream.exec probeIn now) now)
  | .restart now => some (o.checkpoint (o.stream.restart now) now)
  | .data probe direction data =>
    some (o.passed (o.stream.callbackProbeBuffer probe direction data) probe data.bytes)
  | .tick now resetNow =>
    (o.stream.handleMainTimerTick ops now resetNow).map fun (stream, effects) =>
      if .checkpoint ∈ effects then o.checkpoint stream resetNow
      else { o with stream, clock := now }
  | .message message now =>
    match o.stream.handleAsyncBusMessageReceived input now message with
    | .ok stream => some { o with stream }
    | .error _ => none

end IptvCloud.Streams
