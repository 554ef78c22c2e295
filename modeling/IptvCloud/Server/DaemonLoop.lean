import IptvCloud.Server.CommandsInfo
import IptvCloud.Server.Daemon
import IptvCloud.Server.StreamInfo
import IptvCloud.Server.Vods
import IptvCloud.Stream.StatisticInfo

/-!
# The daemon loop (`server/process_slave_wrapper.cpp`)

The loop of `ProcessSlaveWrapper`: the management clients with their requests, the pipes of the
streams, the exits of the streams, the playlist requests that the VOD server posts, and the timers.
`step` handles one event to its end, as the loop thread does; it gives the new state and what is
sent (`Out`), and `none` when the event cannot happen or the daemon does not survive it. What the
kernel, the file system and the clock answer comes with the event (`Answers`); the code of other
libraries, and `ValidateConfig`, are the parameters `Env`.
-/

namespace IptvCloud.Server.Daemon

open JsonC

/-! ## Messages -/

/-- `protocol::request_t`; without an id it is a notification. -/
structure Request where
  id : Option String
  method : String
  params : Option String

/-- The message or the error of a response. -/
inductive Reply
  | success
  | message (result : String)
  | error (err : Error)
  deriving DecidableEq

/-- `protocol::response_t`. -/
structure Response where
  id : Option String
  reply : Reply
  deriving DecidableEq

/-- What `BroadcastClients` is called with, before it is turned into text. -/
inductive Broadcast
  | changedSources (info : ChangedSouresInfo)
  | statisticStream (stat : Json)
  | statisticService (nodeStats : String)
  | quitStatus (id : String) (exitStatus : Bool) (signal : Nat)

/-- The requests to a stream. -/
inductive Command
  | stop
  | restart
  deriving DecidableEq

/-- What the loop sends, uploads and removes. -/
inductive Out
  | response (client : Nat) (resp : Response)
  | broadcast (client : Nat) (req : Broadcast)
  | ping (client : Nat) (id : UInt64) (params : String)
  | toChild (pipe : PipeClient) (command : Command) (id : UInt64)
  | postHttpFile (file : String) (url : Url)
  | removeFiles (dir : String)

/-- What arrives at a client: the read fails, it is no JSON-RPC, or it is a request or a response;
of a response the method of the request that `PopRequestByID` finds, and the message. -/
inductive Data
  | readError
  | notJsonRpc
  | request (req : Request)
  | response (method : Option String) (message : Option String)

/-! ## The loop -/

variable {χ δ : Type}

/-- The resources of `Daemon.State`, the management clients by their socket with `is_verified_`,
`vods_links_`, the user table, the roots of the two HTTP handlers, whether `quit_cleanup_timer_` is
set, and `id_`, a `seq_id_t` that wraps. A stopped loop handles nothing more. -/
structure Loop (χ : Type) where
  base : State
  clients : AList fun _ : Nat => Bool
  vodsLinks : AList fun _ : String => ArgsMap
  users : SyncFinder χ
  httpRoot : String
  vodsRoot : String
  quitTimer : Bool
  nextId : UInt64
  running : Bool

/-- The loop after `PreLooped`, with the descriptors that are open then. -/
def Loop.init (fds : Finset Nat) : Loop χ :=
  ⟨⟨fds, ∅, [], []⟩, ∅, ∅, ∅, "", "", false, 0, true⟩

/-- The license key, the libraries, `ValidateConfig` (`none` is a `CRITICAL_LOG`), `ClientPingInfo`,
the path of the service log, `MakeFileStringPath`, and what the check of a playlist uses. -/
structure Env (χ δ : Type) where
  licenseKey : String
  cm : Common
  validateConfig : String → Option ArgsMap
  channels : ChannelsLib χ
  desire : Stream.DesireLib δ
  clientPing : Json → Decoded Unit
  logPath : String
  makeFilePath : String → String → Option String
  convert : M3u8.Convert
  paths : Vods.Paths

/-- What is answered while one event is handled: by the kernel to a start, by `CreateAndCheckDir`,
by the clock, by `MakeServiceStats`, `ServerPingInfo` and `MakeDirectoryResponce`, whether the write
of a ping fails, and the files that a check of a playlist finds with the descriptor of its
`fopen`. -/
structure Answers where
  mmap : Nat := mapFailed
  commandPipe : Except Int (Nat × Nat) := .error 24
  responcePipe : Except Int (Nat × Nat) := .error 24
  fork : Option Nat := none
  createAndCheckDir : String → Option Error := fun _ => none
  clock : Nat → Int64 := fun _ => 0
  serviceStats : String := ""
  serverPing : Option String := some ""
  directories : PrepareInfo → String := fun _ => ""
  writeFails : Nat → Bool := fun _ => false
  files : Vods.FileSystem := ⟨fun _ => none, fun _ => false⟩
  fopenFd : Nat := 0

/-- The answers of the kernel, if it can give them: what it gives out is not in use. -/
def Answers.calls (a : Answers) (s : State) : Option (SysCalls s) :=
  if h : (a.mmap = mapFailed ∨ a.mmap ≠ 0 ∧ a.mmap ∉ s.mappings) ∧
      (pipeFds a.commandPipe ++ pipeFds a.responcePipe).Nodup ∧
      (∀ fd ∈ pipeFds a.commandPipe ++ pipeFds a.responcePipe, fd ∉ s.fds) ∧
      (∀ child ∈ s.children, a.fork ≠ some child.pid) then
    some ⟨a.mmap, a.commandPipe, a.responcePipe, a.fork, h.1, h.2.1, h.2.2.1⟩
  else none

/-- The new state and what was sent; `none` when the daemon crashes. -/
abbrev Handled (χ : Type) := Option (Loop χ × List Out)

def Loop.isVerified (s : Loop χ) (client : Nat) : Bool := s.clients.lookup client == some true

/-- `NextRequestID`. -/
def Loop.takeIds (s : Loop χ) (n : Nat) : Loop χ :=
  { s with nextId := s.nextId + UInt64.ofNat n }

/-- `BroadcastClients`. -/
def Loop.broadcastClients (s : Loop χ) (req : Broadcast) : List Out :=
  (s.clients.keys.filter s.isVerified).map fun client => .broadcast client req

/-- A management client that is closed and deleted. -/
def Loop.closeClient (s : Loop χ) (client : Nat) : Loop χ :=
  { s with clients := s.clients.erase client, base := closeDescriptor s.base client }

/-- `SendStop` and `SendRestart`: without a client nothing is sent. -/
def Child.send (child : Child) (command : Command) (id : UInt64) : List Out :=
  match child.client with
  | some pipe => [.toChild pipe command id]
  | none => []

/-- `DeSerialize` of the params; `none` when it does not return. -/
def readParams {α : Type} (cm : Common) (doDeSerialize : Json → Decoded α) (req : Request) :
    Option (Params α) :=
  match req.params with
  | none => some .absent
  | some text =>
    match cm.tokenerParse text with
    | .null => some .notJson
    | j =>
      match cm.deSerialize doDeSerialize j with
      | .ok value => some (.read value)
      | .error (.refused err) => some (.refused err)
      | .error _ => none

/-- The handlers act on params that are read, and are silent otherwise. -/
def onParams {α : Type} (s : Loop χ) (params : Option (Params α)) (act : α → Handled χ) :
    Handled χ :=
  match params with
  | some (.read value) => act value
  | some _ => some (s, [])
  | none => none

/-- A response, after other messages. -/
def respond (s : Loop χ) (client : Nat) (req : Request) (reply : Reply) (sent : List Out := []) :
    Handled χ :=
  some (s, sent ++ [.response client ⟨req.id, reply⟩])

/-! ## Streams -/

/-- `CreateChildStream` after `MakeStreamInfo`, with the error it returns. -/
def Loop.createChild (s : Loop χ) (calls : SysCalls s.base) (info : Except Error String) :
    Option (Loop χ × Option Error) :=
  match Daemon.createChildStream s.base info calls with
  | .crashed => none
  | .returned err _ base => some ({ s with base }, err)

/-- `CreateChildStream` of an argument map. -/
def Loop.createChildStream (env : Env χ δ) (a : Answers) (s : Loop χ) (calls : SysCalls s.base)
    (args : ArgsMap) : Option (Loop χ × Option Error) :=
  match makeStreamInfo env.cm a.createAndCheckDir args true with
  | .ok info => s.createChild calls (.ok info.id)
  | .error (.refused err) => s.createChild calls (.error err)
  | .error _ => none

section
variable (env : Env χ δ) (a : Answers) (s : Loop χ) (client : Nat) (req : Request)

def Loop.handleRequestClientStartStream (calls : SysCalls s.base) : Handled χ :=
  if s.isVerified client then
    onParams s (readParams env.cm (StartInfo.doDeSerialize env.cm.co) req) fun info =>
      match env.validateConfig info.config with
      | none => none
      | some args =>
        match s.createChildStream env a calls args with
        | none => none
        | some (s, some err) => respond s client req (.error err)
        | some (s, none) => respond s client req .success
  else some (s, [])

/-- `HandleRequestClientStopStream` and `HandleRequestClientRestartStream`; the result of the send
is not looked at. -/
def commandStream (command : Command) : Handled χ :=
  if s.isVerified client then
    onParams s (readParams env.cm (StreamIdInfo.doDeSerialize env.cm.co) req) fun info =>
      match findChildByID s.base info.streamId with
      | none => respond s client req (.error (.message "Stream not found."))
      | some chan => respond (s.takeIds 1) client req .success (chan.send command s.nextId)
  else some (s, [])

def handleRequestClientStopStream : Handled χ := commandStream env s client req .stop

def handleRequestClientRestartStream : Handled χ := commandStream env s client req .restart

/-- The file of a stream that is posted to an `http` url. -/
def postStreamFile (name : String) (info : GetLogStreamInfo) : List Out :=
  if info.path.scheme = .http then
    match env.makeFilePath info.feedbackDir name with
    | some file => [.postHttpFile file info.path]
    | none => []
  else []

/-- `HandleRequestClientGetLogStream` and `HandleRequestClientGetPipelineStream`, which both answer
`GetLogStreamResponceSuccess`. -/
def getFileStream (name : String) : Handled χ :=
  if s.isVerified client then
    onParams s (readParams env.cm (GetLogStreamInfo.doDeSerialize env.cm) req) fun info =>
      respond s client req .success (postStreamFile env name info)
  else some (s, [])

def handleRequestClientGetLogStream : Handled χ := getFileStream env s client req "logs"

def handleRequestClientGetPipelineStream : Handled χ := getFileStream env s client req "dump.html"

/-! ## Service -/

def handleRequestClientPrepareService : Handled χ :=
  if s.isVerified client then
    onParams s (readParams env.cm (PrepareInfo.doDeSerialize env.cm.co) req) fun info =>
      let s := { s with
        httpRoot := env.cm.directoryPath info.hlsDirectory
        vodsRoot := env.cm.directoryPath info.vodsDirectory }
      respond s client req (.message (a.directories info))
  else some (s, [])

/-- The links of a VOD configuration: one for each `http` output. -/
def addVodLinks (args : ArgsMap) (links : AList fun _ : String => ArgsMap) :
    List OutputUri → AList fun _ : String => ArgsMap
  | [] => links
  | uri :: output =>
    if uri.output.scheme = .http then
      addVodLinks (args.insert "cleanup_ts" "false") (links.insert uri.httpRoot
        (args.insert "cleanup_ts" "false")) output
    else addVodLinks args links output

/-- `AddStreamLine`; `none` when the daemon does not survive the configuration. -/
def addStreamLine (links : AList fun _ : String => ArgsMap) (config : String) :
    Option (AList fun _ : String => ArgsMap) :=
  match env.validateConfig config with
  | none => none
  | some args =>
    match makeStreamInfo env.cm a.createAndCheckDir args false with
    | .ok info =>
      if info.type = .vodEncode || info.type = .vodRelay then
        match readOutput env.cm args with
        | .ok output => some (addVodLinks args links output)
        | .error (.refused _) => some links
        | .error _ => none
      else some links
    | .error (.refused _) => some links
    | .error _ => none

/-- A subscriber of a synchronisation: `DeSerializeFromString` and `AddUser`. -/
def addSubscriber (users : SyncFinder χ) (user : String) : Option (SyncFinder χ) :=
  match env.cm.tokenerParse user with
  | .null => some users
  | j =>
    match env.cm.deSerialize (UserInfo.doDeSerialize env.cm.co env.channels) j with
    | .ok info => some (users.addUser info)
    | .error (.refused _) => some users
    | .error _ => none

/-- The answer is `StopStreamResponceSuccess`. -/
def handleRequestClientSyncService : Handled χ :=
  if s.isVerified client then
    onParams s (readParams env.cm (SyncInfo.doDeSerialize env.cm.co) req) fun info =>
      match info.streams.foldlM (addStreamLine env a) ∅,
          info.users.foldlM (addSubscriber env) ∅ with
      | some vodsLinks, some users => respond { s with vodsLinks, users } client req .success
      | _, _ => none
  else some (s, [])

/-- `SendStop` to each child, with the ids from `id` on. -/
def sendStops : List Child → UInt64 → List Out
  | [], _ => []
  | child :: children, id => child.send .stop id ++ sendStops children (id + 1)

/-- `HandleRequestClientStopService`: the license key is enough. -/
def handleRequestClientStopService : Handled χ :=
  onParams s (readParams env.cm (StopServiceInfo.doDeSerialize env.cm.co) req) fun info =>
    if info.license = env.licenseKey || s.isVerified client then
      if s.quitTimer then
        respond s client req (.error (.message "Stop service in progress..."))
      else
        respond { s.takeIds s.base.children.length with quitTimer := true } client req .success
          (sendStops s.base.children s.nextId)
    else some (s, [])

/-- `HandleRequestClientActivate`: an error of the params is answered here. -/
def handleRequestClientActivate : Handled χ :=
  match readParams env.cm (ActivateInfo.doDeSerialize env.cm.co) req with
  | none => none
  | some (.refused err) => respond s client req (.error err)
  | some (.read info) =>
    if info.license = env.licenseKey then
      respond { s with clients := s.clients.insert client true } client req
        (.message a.serviceStats)
    else respond s client req (.error (.message "Wrong license key"))
  | some _ => some (s, [])

def handleRequestClientPingService : Handled χ :=
  if s.isVerified client then
    onParams s (readParams env.cm env.clientPing req) fun _ =>
      match a.serverPing with
      | some text => respond s client req (.message text)
      | none => some (s, [])
  else some (s, [])

def handleRequestClientGetLogService : Handled χ :=
  if s.isVerified client then
    onParams s (readParams env.cm (GetLogServiceInfo.doDeSerialize env.cm) req) fun info =>
      respond s client req .success
        (if info.path.scheme = .http then [.postHttpFile env.logPath info.path] else [])
  else some (s, [])

/-- `HandleRequestServiceCommand`. -/
def handleRequestServiceCommand (calls : SysCalls s.base) : Handled χ :=
  if req.method = "start_stream" then s.handleRequestClientStartStream env a client req calls
  else if req.method = "stop_stream" then handleRequestClientStopStream env s client req
  else if req.method = "restart_stream" then handleRequestClientRestartStream env s client req
  else if req.method = "get_log_stream" then handleRequestClientGetLogStream env s client req
  else if req.method = "get_pipeline_stream" then
    handleRequestClientGetPipelineStream env s client req
  else if req.method = "prepare_service" then handleRequestClientPrepareService env a s client req
  else if req.method = "sync_service" then handleRequestClientSyncService env a s client req
  else if req.method = "stop_service" then handleRequestClientStopService env s client req
  else if req.method = "activate_request" then handleRequestClientActivate env a s client req
  else if req.method = "ping_service" then handleRequestClientPingService env a s client req
  else if req.method = "get_log_service" then handleRequestClientGetLogService env s client req
  else some (s, [])

/-- `HandleResponceServiceCommand`: the response to a ping is decoded and changes nothing; `none`
when the decoding does not return. -/
def handleResponceServiceCommand (method message : Option String) : Handled χ :=
  if s.isVerified client && method = some "ping_client" then
    match message with
    | none => some (s, [])
    | some text => onParams s (readParams env.cm env.clientPing ⟨none, "", some text⟩) fun _ =>
        some (s, [])
  else some (s, [])

/-- `DataReceived` of a management client. -/
def daemonDataReceived (calls : SysCalls s.base) : Data → Handled χ
  | .readError | .notJsonRpc => some (s.closeClient client, [])
  | .request req => handleRequestServiceCommand env a s client req calls
  | .response method message => handleResponceServiceCommand env s client method message

end

/-! ## Pipes, children and timers -/

section
variable (env : Env χ δ) (a : Answers) (s : Loop χ)

def handleRequestChangedSourcesStream (req : Request) : Handled χ :=
  onParams s (readParams env.cm (ChangedSouresInfo.doDeSerialize env.cm) req) fun info =>
    some (s, s.broadcastClients (.changedSources info))

def handleRequestStatisticStream (req : Request) : Handled χ :=
  onParams s (readParams env.cm
    (Stream.handleRequestStatisticStream env.cm.co env.desire a.clock) req) fun stat =>
      some (s, s.broadcastClients (.statisticStream stat))

/-- `HandleRequestStreamsCommand`. -/
def handleRequestStreamsCommand (req : Request) : Handled χ :=
  if req.method = "changed_source_stream" then handleRequestChangedSourcesStream env s req
  else if req.method = "statistic_stream" then handleRequestStatisticStream env a s req
  else some (s, [])

/-- A child whose client is the pipe loses it. -/
def Child.dropClient (pipe : PipeClient) (child : Child) : Child :=
  if child.client = some pipe then { child with client := none } else child

/-- The pipe client is taken from its child, closed and deleted. -/
def State.closePipe (s : State) (pipe : PipeClient) : State :=
  let s := { s with
    children := s.children.map (Child.dropClient pipe)
    pipeClients := s.pipeClients.filter (· ≠ pipe) }
  closeDescriptor (closeDescriptor s pipe.readFd) pipe.writeFd

/-- `DataReceived` of a pipe client. -/
def pipeDataReceived (pipe : PipeClient) : Data → Handled χ
  | .readError | .notJsonRpc => some ({ s with base := s.base.closePipe pipe }, [])
  | .request req => handleRequestStreamsCommand env a s req
  | .response _ _ => some (s, [])

/-- The status of a process that has ended. -/
inductive ExitStatus
  | exited (code : Nat)
  | signaled (signal : Nat)
  | unknown
  deriving DecidableEq

/-- `QuitStatusInfo` of a stream: the status is reversed. -/
def quitStatus (sid : String) : ExitStatus → Broadcast
  | .exited code => .quitStatus sid (code = 0) 0
  | .signaled signal => .quitStatus sid false signal
  | .unknown => .quitStatus sid false 0

/-- The child is unregistered and its memory is given back. -/
def State.removeChild (s : State) (child : Child) : State :=
  let s := { s with children := s.children.filter (·.pid ≠ child.pid) }
  match child.kind with
  | .stream mem => freeSharedStreamStruct s mem
  | .vod => s

/-- `ChildStatusChanged`; it ends a debug build if the client of the child is not null. -/
def childStatusChanged (pid : Nat) (status : ExitStatus) : Handled χ :=
  match s.base.children.find? (·.pid == pid) with
  | none => none
  | some channel =>
    some ({ s with base := s.base.removeChild channel },
      s.broadcastClients (quitStatus channel.streamId status))

/-- A playlist that a check has left open holds its descriptor, which was not in use. -/
def Loop.leaveOpen (s : Loop χ) (fd : Nat) (handles : Vods.Handles) : Option (Loop χ) :=
  if handles = [] then some s
  else if fd ∈ s.base.fds then none
  else some { s with base := { s.base with fds := insert fd s.base.fds } }

/-- `OnHttpRequest` in the loop thread, for a playlist. -/
def onHttpRequest (file : String) : Handled χ :=
  match s.vodsLinks.lookup (env.paths.getDirectory file) with
  | none => some (s, [])
  | some args =>
    let (isFullVod, handles) := Vods.checkIsFullVod env.convert env.paths a.files file []
    (s.leaveOpen a.fopenFd handles).bind fun s =>
      if isFullVod then some (s, [])
      else (a.calls s.base).bind fun calls =>
        (s.createChildStream env a calls args).map fun (s, _) => (s, [])

/-- The pings of `TimerEmited`; a client whose ping cannot be written is deleted. -/
def pingClients : List Nat → Loop χ → Loop χ × List Out
  | [], s => (s, [])
  | client :: clients, s =>
    match s.isVerified client, a.serverPing with
    | true, some text =>
      let ping := Out.ping client s.nextId text
      let s := s.takeIds 1
      let (s, sent) := pingClients clients (if a.writeFails client then s.closeClient client else s)
      (s, ping :: sent)
    | _, _ => pingClients clients s

/-- The timers of the loop. -/
inductive Timer
  | pingClient
  | nodeStats
  | cleanupFiles
  | quitCleanup
  deriving DecidableEq

/-- `TimerEmited`. -/
def timerEmited : Timer → Handled χ
  | .pingClient => some (pingClients a s.clients.keys s)
  | .nodeStats => some (s, s.broadcastClients (.statisticService a.serviceStats))
  | .cleanupFiles => some (s, s.vodsLinks.keys.map .removeFiles)
  | .quitCleanup => if s.quitTimer then some ({ s with running := false }, []) else none

end

/-! ## Runs -/

/-- What wakes the loop up. -/
inductive Input
  | accepted (client : Nat)
  | daemonData (client : Nat) (data : Data)
  | pipeData (pipe : PipeClient) (data : Data)
  | childStatusChanged (pid : Nat) (status : ExitStatus)
  | httpRequest (file : String)
  | timerEmited (timer : Timer)

/-- An event of the loop with the answers to it. -/
structure Event where
  input : Input
  answers : Answers := {}

/-- One event; only clients of the loop receive, and the kernel accepts with a new descriptor. -/
def handle (env : Env χ δ) (a : Answers) (s : Loop χ) (calls : SysCalls s.base) : Input → Handled χ
  | .accepted client =>
    if client ∈ s.base.fds then none
    else some ({ s with
      clients := s.clients.insert client false
      base := { s.base with fds := insert client s.base.fds } }, [])
  | .daemonData client data =>
    if client ∈ s.clients then daemonDataReceived env a s client calls data else none
  | .pipeData pipe data =>
    if pipe ∈ s.base.pipeClients then pipeDataReceived env a s pipe data else none
  | .childStatusChanged pid status => childStatusChanged s pid status
  | .httpRequest file => onHttpRequest env a s file
  | .timerEmited timer => timerEmited a s timer

/-- The loop handles an event. -/
def react (env : Env χ δ) (s : Loop χ) (e : Event) : Handled χ :=
  if s.running then
    match e.answers.calls s.base with
    | some calls => handle env e.answers s calls e.input
    | none => none
  else none

/-- `react` without what is sent. -/
def step (env : Env χ δ) (s : Loop χ) (e : Event) : Option (Loop χ) := (react env s e).map (·.1)

end IptvCloud.Server.Daemon
