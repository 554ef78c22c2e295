import Mathlib.Logic.Function.Basic
import IptvCloud.Lib.Rpc
import IptvCloud.Server.DaemonLoop
import IptvCloud.Server.Messages
import IptvCloud.Stream.Controller

/-!
# The daemon and its streams (`server/child_stream.cpp`, `stream/stream_controller.cpp`)

The daemon, the streams it has started, each a process of its own, and the pipes between them. The
daemon asks a stream to stop or to restart; the loop of the stream answers a request before it acts
on it, and writes what the stream announces between the answers. The daemon finds what a stream
wrote in the order in which it was written, and the end of the pipe after the process has ended.
`react` takes any of them one step further. The table behind `WriteRequest` and `PopRequestByID` is
that of the `ProtocolClient` of `common`, a parameter.
-/

namespace IptvCloud.Server.Daemon

open JsonC

variable {χ δ : Type}

/-! ## Messages -/

/-- The library that writes messages: the text of a `Url`, of a JSON value and of a success. -/
structure Writer where
  getUrl : Url → String
  toJsonString : Json → String
  successMessage : String

def Writer.cm (w : Writer) (cm : Common) : CommonText := ⟨cm, w.getUrl⟩

/-- The notifications of a stream: `ChangedSouresInfo` and `StatisticInfo`. -/
inductive Notice (δ : Type)
  | changedSources (info : ChangedSouresInfo)
  | statistic (info : Stream.StatisticInfo δ)

/-- The stream that a notification is about. -/
def Notice.id : Notice δ → String
  | .changedSources info => info.id
  | .statistic info => info.id

/-- `CHANGED_SOURCES_STREAM` and `STATISTIC_STREAM`. -/
def Notice.method : Notice δ → String
  | .changedSources _ => "changed_source_stream"
  | .statistic _ => "statistic_stream"

/-- `Serialize`. -/
def Notice.serialize (env : Env χ δ) (w : Writer) : Notice δ → Decoded Json
  | .changedSources info => .ok (.object (info.serializeFields (w.cm env.cm)))
  | .statistic info => info.serialize env.desire

/-- `STOP_STREAM` and `RESTART_STREAM`. -/
def Command.streamMethod : Command → String
  | .stop => "stop"
  | .restart => "restart"

/-- What the daemon finds in a pipe, as its `DataReceived` sees it. -/
def foundData (env : Env χ δ) (w : Writer) : Rpc.Found Command (Notice δ) → Data
  | .response request => .response (request.map Command.streamMethod) (some w.successMessage)
  | .notification notice =>
    match notice.serialize env w with
    | .ok j => .request ⟨none, notice.method, some (w.toJsonString j)⟩
    | .error _ => .notJsonRpc

/-! ## Streams -/

variable {table : Rpc.Table UInt64 Command}

/-- A stream and its pipes. `memId` is the id in the memory that it shares with the daemon,
`serving` the request that the loop of the stream has answered and not yet acted on, `ended` says
that the process is over, `ownStops` counts the calls of `Stop` that no request asked for. -/
structure Link (table : Rpc.Table UInt64 Command) (δ : Type) where
  channel : Rpc.Channel table (Notice δ)
  memId : String
  config : Stream.Config
  controller : Stream.Controller
  serving : Option Command
  ended : Bool
  ownStops : Nat

/-- A stream that was just started. -/
def Link.start (memId : String) (config : Stream.Config) (clock : Int) : Link table δ :=
  ⟨.empty, memId, config, .init clock, none, false, 0⟩

/-- The loop of the stream waits for an event. -/
def Link.idle (l : Link table δ) : Bool := !l.ended && l.serving.isNone && l.controller.cmd.isNone

/-- What a stream does next. -/
inductive StreamEvent (δ : Type)
  /-- The loop reads a request and writes the response to it. -/
  | dataReceived
  /-- `Stop` or `Restart` after the response, to its notification. -/
  | handleRequest
  /-- `Stop` of the timer, of a read that fails or of `Closed`, to its notification. -/
  | timerEmited
  | onInputChanged (uri : InputUri)
  | dumpStreamStatus (stat : Stream.StatisticInfo δ)
  /-- The controller thread, or the loop in `StopStream`. -/
  | controller (e : Stream.Event)
  /-- The process ends, by itself or by a signal. -/
  | exited

/-- `WriteRequest` of a notification that can be serialized. -/
def Link.writeRequest (env : Env χ δ) (w : Writer) (l : Link table δ) (notice : Notice δ) :
    Link table δ :=
  match notice.serialize env w with
  | .ok _ => { l with channel := l.channel.notify notice }
  | .error _ => l

/-- One step of the stream. -/
def Link.step (env : Env χ δ) (w : Writer) (l : Link table δ) :
    StreamEvent δ → Option (Link table δ)
  | .dataReceived =>
    if l.idle then
      l.channel.serve.map fun p => { l with channel := p.2, serving := some p.1 }
    else none
  | .handleRequest =>
    match l.ended, l.serving with
    | false, some command =>
      (Stream.step l.config l.controller (.command (command = .stop))).map fun controller =>
        { l with controller, serving := none }
    | _, _ => none
  | .timerEmited =>
    if l.idle then
      (Stream.step l.config l.controller (.command true)).map fun controller =>
        { l with controller, ownStops := l.ownStops + 1 }
    else none
  | .onInputChanged uri =>
    if l.idle then some (l.writeRequest env w (.changedSources ⟨l.memId, uri⟩)) else none
  | .dumpStreamStatus stat =>
    if l.idle then some (l.writeRequest env w (.statistic { stat with id := l.memId })) else none
  | .controller (.command _) => none
  | .controller e =>
    if l.ended then none
    else (Stream.step l.config l.controller e).map fun controller => { l with controller }
  | .exited => if l.ended then none else some { l with ended := true }

/-! ## The whole -/

/-- The daemon and the streams it has started, by their pipes. -/
structure Net (χ : Type) (table : Rpc.Table UInt64 Command) (δ : Type) where
  daemon : Loop χ
  links : PipeClient → Option (Link table δ)

/-- The daemon after `PreLooped`. -/
def Net.init (fds : Finset Nat) : Net χ table δ := ⟨.init fds, fun _ => none⟩

/-- The requests that are sent to a stream, with their ids. -/
def requestsTo (pipe : PipeClient) (outs : List Out) : List (UInt64 × Command) :=
  outs.filterMap fun
    | .toChild p command id => if p = pipe then some (id, command) else none
    | _ => none

/-- The process of a child is over before the kernel says so. -/
def Net.mayHappen (n : Net χ table δ) : Input → Bool
  | .pipeData _ _ => false
  | .childStatusChanged pid _ =>
    n.daemon.base.children.all fun child =>
      child.pid != pid || (child.client.bind n.links).all Link.ended
  | _ => true

/-- The pipe of a stream that was started has the stream at its other end, which runs with the
memory of the child; the requests to a stream are in its pipe. -/
def Net.daemonReacted (n : Net χ table δ) (config : Stream.Config) (clock : Int) (s : Loop χ)
    (outs : List Out) : Net χ table δ :=
  ⟨s, fun pipe =>
    if pipe ∈ s.base.pipeClients ∧ pipe ∉ n.daemon.base.pipeClients then
      (s.base.children.find? (·.client == some pipe)).map fun child =>
        .start child.streamId config clock
    else
      (n.links pipe).map fun l => { l with channel := l.channel.sendAll (requestsTo pipe outs) }⟩

/-- What happens next: in the daemon, which may start a stream with a configuration; a read of the
daemon from a pipe, or the end of it; or a step of a stream. -/
inductive NetEvent (δ : Type)
  | daemon (e : Event) (config : Stream.Config) (clock : Int)
  | reads (pipe : PipeClient) (answers : Answers)
  | hangup (pipe : PipeClient) (answers : Answers)
  | stream (pipe : PipeClient) (e : StreamEvent δ)

/-- One step of the daemon or of a stream, with what the daemon sends. -/
def Net.react (env : Env χ δ) (w : Writer) (n : Net χ table δ) :
    NetEvent δ → Option (Net χ table δ × List Out)
  | .daemon e config clock =>
    if n.mayHappen e.input then
      (Daemon.react env n.daemon e).map fun p => (n.daemonReacted config clock p.1 p.2, p.2)
    else none
  | .reads pipe answers =>
    match n.links pipe with
    | none => none
    | some l =>
      l.channel.receive.bind fun (found, channel) =>
        (Daemon.react env n.daemon ⟨.pipeData pipe (foundData env w found), answers⟩).map fun p =>
          (⟨p.1, Function.update n.links pipe (some { l with channel })⟩, p.2)
  | .hangup pipe answers =>
    match n.links pipe with
    | none => none
    | some l =>
      if l.ended && l.channel.messages.isEmpty then
        (Daemon.react env n.daemon ⟨.pipeData pipe .readError, answers⟩).map fun p =>
          (⟨p.1, n.links⟩, p.2)
      else none
  | .stream pipe e =>
    match n.links pipe with
    | none => none
    | some l =>
      (l.step env w e).map fun l' =>
        (⟨n.daemon, Function.update n.links pipe (some l')⟩, [])

/-- `react` without what is sent. -/
def Net.step (env : Env χ δ) (w : Writer) (n : Net χ table δ) (e : NetEvent δ) :
    Option (Net χ table δ) :=
  (n.react env w e).map (·.1)

end IptvCloud.Server.Daemon
