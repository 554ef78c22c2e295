import Mathlib.Algebra.Ring.Nat
import Mathlib.Data.Finset.Basic
import IptvCloud.Server.Request

/-!
# Starting a stream (`server/process_slave_wrapper.cpp`)

`CreateChildStream` of the daemon with the resources it takes: descriptors, shared mappings
(`server/stream_struct_utils.cpp`), registered pipe clients and registered children, and the
`start_stream` request that calls it. The configuration enters through what `MakeStreamInfo` makes
of it. The system calls are what the kernel answers (`SysCalls`): new descriptors and addresses, or
a failure.
-/

namespace IptvCloud.Server.Daemon

/-- `ProtocoledPipeClient` in the daemon: the stream id it is named by, and its descriptors. -/
structure PipeClient where
  name : String
  readFd : Nat
  writeFd : Nat
  deriving DecidableEq, Repr

/-- `ChildStream` with its shared memory, or `ChildVod`. -/
inductive ChildKind
  | stream (mem : Nat)
  | vod
  deriving DecidableEq, Repr

/-- A child of the loop: `GetStreamID()`, the process, `client_`. -/
structure Child where
  streamId : String
  pid : Nat
  kind : ChildKind
  client : Option PipeClient
  deriving DecidableEq, Repr

/-- The open descriptors, the shared mappings, and what is registered at the loop. -/
structure State where
  fds : Finset Nat
  mappings : Finset Nat
  pipeClients : List PipeClient
  children : List Child
  deriving DecidableEq

/-- `MAP_FAILED`, a pointer that is not null. -/
def mapFailed : Nat := 2 ^ 64 - 1

/-- The descriptors of a pipe. -/
def pipeFds : Except Int (Nat × Nat) → List Nat
  | .ok (readFd, writeFd) => [readFd, writeFd]
  | .error _ => []

/-- What the kernel answers to `mmap`, both `pipe`s and `fork` (`none` is -1): a mapping is at a new
address, the descriptors are not in use. -/
structure SysCalls (s : State) where
  mmap : Nat
  commandPipe : Except Int (Nat × Nat)
  responcePipe : Except Int (Nat × Nat)
  fork : Option Nat
  mmap_new : mmap = mapFailed ∨ mmap ≠ 0 ∧ mmap ∉ s.mappings
  fds_nodup : (pipeFds commandPipe ++ pipeFds responcePipe).Nodup
  fds_new : ∀ fd ∈ pipeFds commandPipe ++ pipeFds responcePipe, fd ∉ s.fds

/-- The end of `CreateChildStream` in the daemon: it has crashed, or returned an error or none, with
the child process it has started. -/
inductive Result
  | crashed
  | returned (err : Option Error) (started : Option Nat) (s : State)

/-- `FindChildByID`. -/
def findChildByID (s : State) (id : String) : Option Child :=
  s.children.find? fun child => child.streamId == id

/-- `AllocSharedStreamStruct`: the test is for a null pointer, and the construction writes through
the pointer; `none` is a crash. -/
def allocSharedStreamStruct (mem : Nat) : Option (Except Error Nat) :=
  if mem = 0 then some (.error (.message "Failed to allocate memory."))
  else if mem = mapFailed then none
  else some (.ok mem)

/-- `FreeSharedStreamStruct`. -/
def freeSharedStreamStruct (s : State) (mem : Nat) : State :=
  { s with mappings := s.mappings.erase mem }

/-- `CreatePipe`. -/
def createPipe (s : State) : Except Int (Nat × Nat) → Except Error (State × Nat × Nat)
  | .error code => .error (.errno code)
  | .ok (readFd, writeFd) =>
    .ok ({ s with fds := insert readFd (insert writeFd s.fds) }, readFd, writeFd)

/-- `close_descriptor`. -/
def closeDescriptor (s : State) (fd : Nat) : State := { s with fds := s.fds.erase fd }

/-- The parent after `fork`: it keeps its ends of the pipes and registers the client and the
child. -/
def registerStream (s : State) (id : String) (mem pid readCommandClient writeRequestsClient
    readResponceClient writeResponceClient : Nat) : State :=
  let s := closeDescriptor (closeDescriptor s readCommandClient) writeResponceClient
  let client : PipeClient := ⟨id, readResponceClient, writeRequestsClient⟩
  { s with
    pipeClients := s.pipeClients ++ [client]
    children := s.children ++ [⟨id, pid, .stream mem, some client⟩] }

/-- `CreateChildStream` from the first pipe on, with the mapping at `mem`. -/
def createPipesAndFork (s : State) (id : String) (mem : Nat)
    (commandPipe responcePipe : Except Int (Nat × Nat)) (fork : Option Nat) : Result :=
  match createPipe s commandPipe with
  | .error err => .returned (some err) none (freeSharedStreamStruct s mem)
  | .ok (s, readCommandClient, writeRequestsClient) =>
    match createPipe s responcePipe with
    | .error err => .returned (some err) none (freeSharedStreamStruct s mem)
    | .ok (s, readResponceClient, writeResponceClient) =>
      match fork with
      | none => .returned none none s
      | some pid =>
        .returned none (some pid) (registerStream s id mem pid readCommandClient
          writeRequestsClient readResponceClient writeResponceClient)

/-- `CreateChildStream`; `info` is the stream id of `MakeStreamInfo`, or its error. -/
def createChildStream (s : State) (info : Except Error String) (calls : SysCalls s) : Result :=
  match info with
  | .error err => .returned (some err) none s
  | .ok id =>
    if (findChildByID s id).isSome then
      .returned (some (.message ("Stream with id: " ++ id ++ " exist, skip request."))) none s
    else
      match allocSharedStreamStruct calls.mmap with
      | none => .crashed
      | some (.error err) => .returned (some err) none s
      | some (.ok mem) =>
        createPipesAndFork { s with mappings := insert mem s.mappings } id mem calls.commandPipe
          calls.responcePipe calls.fork

/-! ## The request -/

/-- The answer to `start_stream`. -/
inductive StartReply
  | startStreamResponceSuccess
  | startStreamResponceFail (err : Error)
  deriving DecidableEq

/-- `HandleRequestClientStartStream`: the result of `CreateChildStream`, if it is called, and the
answer. `makeStreamInfo` reads the configuration of the params. -/
def handleRequestClientStartStream (s : State) (isVerified : Bool)
    (makeStreamInfo : String → Except Error String) (params : Params String) (calls : SysCalls s) :
    Option Result × Option StartReply :=
  if isVerified then
    match params with
    | .absent | .notJson | .refused _ => (none, none)
    | .read config =>
      let result := createChildStream s (makeStreamInfo config) calls
      (some result, match result with
        | .crashed => none
        | .returned (some err) _ _ => some (.startStreamResponceFail err)
        | .returned none _ _ => some .startStreamResponceSuccess)
  else (none, none)

end IptvCloud.Server.Daemon
