import IptvCloud.Lib.Run
import IptvCloud.Server.DaemonLoop
import IptvCloud.Server.Proof.Daemon
import IptvCloud.Utils.Proof.M3u8RoundTrip

/-!
# One child per stream

`Requested` says what one management request can do and `createChildStream_cases` what a start can
do; the facts about runs of the daemon loop are derived from these two. `registered_step` is the
invariant of the registered children: their ids, processes and memories are distinct, the memories
are mapped, and a pipe client carries the id of its child. `oneChild_of_reaches`: in every reachable
state there is one child per stream id, and a stop or a restart is sent to the child with the id, as
long as that child has its pipe.
-/

namespace IptvCloud.Server.Daemon

open Run

variable {χ δ : Type} {env : Env χ δ} {a : Answers} {s s' : Loop χ} {client : Nat} {req : Request}
  {outs : List Out}

/-! ## What a request does -/

/-- The outcomes of a management request. -/
inductive Requested (env : Env χ δ) (a : Answers) (s : Loop χ) (calls : SysCalls s.base)
    (client : Nat) (req : Request) : Loop χ → List Out → Prop
  /-- Nothing: no right, no params, or an unknown method. -/
  | silent : Requested env a s calls client req s []
  /-- An activation that is refused. -/
  | refused (err : Error) :
    Requested env a s calls client req s [.response client ⟨req.id, .error err⟩]
  /-- An activation with the license key. -/
  | activated (info : ActivateInfo) (hmethod : req.method = "activate_request")
    (hread : readParams env.cm (ActivateInfo.doDeSerialize env.cm.co) req = some (.read info))
    (hkey : info.license = env.licenseKey) :
    Requested env a s calls client req { s with clients := s.clients.insert client true }
      [.response client ⟨req.id, .message a.serviceStats⟩]
  /-- An answer that changes nothing, after uploads. -/
  | answered (hv : s.isVerified client = true) (files : List (String × Url)) (reply : Reply) :
    Requested env a s calls client req s
      (files.map (fun f => .postHttpFile f.1 f.2) ++ [.response client ⟨req.id, reply⟩])
  /-- `start_stream`. -/
  | started (hv : s.isVerified client = true) (hmethod : req.method = "start_stream")
    (info : StartInfo)
    (hread : readParams env.cm (StartInfo.doDeSerialize env.cm.co) req = some (.read info))
    (args : ArgsMap) (hargs : env.validateConfig info.config = some args) (s' : Loop χ)
    (err : Option Error) (hcreate : s.createChildStream env a calls args = some (s', err))
    (reply : Reply) :
    Requested env a s calls client req s' [.response client ⟨req.id, reply⟩]
  /-- `stop_stream` and `restart_stream` of a child that is found. -/
  | commanded (hv : s.isVerified client = true) (chan : Child) (hchan : chan ∈ s.base.children)
    (command : Command) :
    Requested env a s calls client req (s.takeIds 1)
      (chan.send command s.nextId ++ [.response client ⟨req.id, .success⟩])
  /-- `prepare_service`. -/
  | prepared (hv : s.isVerified client = true) (httpRoot vodsRoot : String) (reply : Reply) :
    Requested env a s calls client req { s with httpRoot, vodsRoot }
      [.response client ⟨req.id, reply⟩]
  /-- `sync_service`. -/
  | synced (hv : s.isVerified client = true) (vodsLinks : AList fun _ : String => ArgsMap)
    (users : SyncFinder χ) :
    Requested env a s calls client req { s with vodsLinks, users }
      [.response client ⟨req.id, .success⟩]
  /-- `stop_service` while the service stops. -/
  | stopping (reply : Reply) (hmethod : req.method = "stop_service") (info : StopServiceInfo)
    (hread : readParams env.cm (StopServiceInfo.doDeSerialize env.cm.co) req = some (.read info))
    (hright : info.license = env.licenseKey ∨ s.isVerified client = true) :
    Requested env a s calls client req s [.response client ⟨req.id, reply⟩]
  /-- `stop_service`. -/
  | stopped (hmethod : req.method = "stop_service") (info : StopServiceInfo)
    (hread : readParams env.cm (StopServiceInfo.doDeSerialize env.cm.co) req = some (.read info))
    (hright : info.license = env.licenseKey ∨ s.isVerified client = true)
    (hquit : s.quitTimer = false) :
    Requested env a s calls client req
      { s.takeIds s.base.children.length with quitTimer := true }
      (sendStops s.base.children s.nextId ++ [.response client ⟨req.id, .success⟩])

theorem onParams_cases {α : Type} {params : Option (Params α)} {act : α → Handled χ}
    (h : onParams s params act = some (s', outs)) :
    (∃ value, params = some (.read value) ∧ act value = some (s', outs)) ∨ s' = s ∧ outs = [] := by
  unfold onParams at h
  split at h
  · exact .inl ⟨_, rfl, h⟩
  · cases h
    exact .inr ⟨rfl, rfl⟩
  · cases h

/-- A handler that tests the right of the client and then reads the params. -/
theorem verified_cases {α : Type} {params : Option (Params α)} {act : α → Handled χ}
    (h : (if s.isVerified client then onParams s params act else some (s, [])) = some (s', outs)) :
    (s.isVerified client = true ∧ ∃ value, params = some (.read value) ∧
      act value = some (s', outs)) ∨ s' = s ∧ outs = [] := by
  split at h
  · rename_i hv
    exact (onParams_cases h).imp_left fun h => ⟨hv, h⟩
  · cases h
    exact .inr ⟨rfl, rfl⟩

section
variable {calls : SysCalls s.base}

theorem requested_startStream (hmethod : req.method = "start_stream")
    (h : s.handleRequestClientStartStream env a client req calls = some (s', outs)) :
    Requested env a s calls client req s' outs := by
  obtain ⟨hv, info, hread, h⟩ | ⟨rfl, rfl⟩ := verified_cases h
  · cases hconfig : env.validateConfig info.config with
    | none => simp [hconfig] at h
    | some args =>
      cases hcreate : s.createChildStream env a calls args with
      | none => simp [hconfig, hcreate] at h
      | some r =>
        obtain ⟨s₁, err⟩ := r
        cases err with
        | none =>
          simp only [hconfig, hcreate, respond, List.nil_append] at h
          cases h
          exact .started hv hmethod info hread args hconfig _ none hcreate _
        | some err =>
          simp only [hconfig, hcreate, respond, List.nil_append] at h
          cases h
          exact .started hv hmethod info hread args hconfig _ (some err) hcreate _
  · exact .silent

theorem requested_commandStream {command : Command}
    (h : commandStream env s client req command = some (s', outs)) :
    Requested env a s calls client req s' outs := by
  obtain ⟨hv, info, -, h⟩ | ⟨rfl, rfl⟩ := verified_cases h
  · cases hfind : findChildByID s.base info.streamId with
    | none =>
      simp only [hfind, respond, List.nil_append] at h
      cases h
      exact .answered hv [] _
    | some chan =>
      simp only [hfind, respond] at h
      cases h
      exact .commanded hv chan (List.mem_of_find?_eq_some hfind) command
  · exact .silent

theorem requested_getFileStream {name : String}
    (h : getFileStream env s client req name = some (s', outs)) :
    Requested env a s calls client req s' outs := by
  obtain ⟨hv, info, -, h⟩ | ⟨rfl, rfl⟩ := verified_cases h
  · have hpost : ∃ files : List (String × Url), postStreamFile env name info =
        files.map fun f => .postHttpFile f.1 f.2 := by
      unfold postStreamFile
      split
      · split
        · rename_i file _
          exact ⟨[(file, info.path)], rfl⟩
        · exact ⟨[], rfl⟩
      · exact ⟨[], rfl⟩
    obtain ⟨files, hfiles⟩ := hpost
    simp only [respond, hfiles] at h
    cases h
    exact .answered hv files _
  · exact .silent

theorem requested_prepareService
    (h : handleRequestClientPrepareService env a s client req = some (s', outs)) :
    Requested env a s calls client req s' outs := by
  obtain ⟨hv, info, -, h⟩ | ⟨rfl, rfl⟩ := verified_cases h
  · cases h
    exact .prepared hv _ _ _
  · exact .silent

theorem requested_syncService
    (h : handleRequestClientSyncService env a s client req = some (s', outs)) :
    Requested env a s calls client req s' outs := by
  obtain ⟨hv, info, -, h⟩ | ⟨rfl, rfl⟩ := verified_cases h
  · split at h
    · cases h
      exact .synced hv _ _
    · cases h
  · exact .silent

theorem requested_stopService (hmethod : req.method = "stop_service")
    (h : handleRequestClientStopService env s client req = some (s', outs)) :
    Requested env a s calls client req s' outs := by
  obtain ⟨info, hread, h⟩ | ⟨rfl, rfl⟩ := onParams_cases h
  · split at h
    · rename_i hright
      have hright : info.license = env.licenseKey ∨ s.isVerified client = true := by
        simpa using hright
      split at h
      · cases h
        exact .stopping _ hmethod info hread hright
      · rename_i hquit
        cases h
        exact .stopped hmethod info hread hright (by simpa using hquit)
    · cases h
      exact .silent
  · exact .silent

theorem requested_activate (hmethod : req.method = "activate_request")
    (h : handleRequestClientActivate env a s client req = some (s', outs)) :
    Requested env a s calls client req s' outs := by
  unfold handleRequestClientActivate at h
  split at h
  · cases h
  · cases h
    exact .refused _
  · rename_i info hread
    split at h
    · rename_i hkey
      cases h
      exact .activated info hmethod hread hkey
    · cases h
      exact .refused _
  · cases h
    exact .silent

theorem requested_pingService
    (h : handleRequestClientPingService env a s client req = some (s', outs)) :
    Requested env a s calls client req s' outs := by
  obtain ⟨hv, -, -, h⟩ | ⟨rfl, rfl⟩ := verified_cases h
  · split at h
    · cases h
      exact .answered hv [] _
    · cases h
      exact .silent
  · exact .silent

theorem requested_getLogService
    (h : handleRequestClientGetLogService env s client req = some (s', outs)) :
    Requested env a s calls client req s' outs := by
  obtain ⟨hv, info, -, h⟩ | ⟨rfl, rfl⟩ := verified_cases h
  · simp only [respond] at h
    split at h
    · cases h
      exact .answered hv [(env.logPath, info.path)] _
    · cases h
      exact .answered hv [] _
  · exact .silent

theorem requested_of_handled
    (h : handleRequestServiceCommand env a s client req calls = some (s', outs)) :
    Requested env a s calls client req s' outs := by
  unfold handleRequestServiceCommand at h
  obtain ⟨hmethod, h⟩ | ⟨-, h⟩ := ite_eq_iff.1 h
  · exact requested_startStream hmethod h
  obtain ⟨-, h⟩ | ⟨-, h⟩ := ite_eq_iff.1 h
  · exact requested_commandStream h
  obtain ⟨-, h⟩ | ⟨-, h⟩ := ite_eq_iff.1 h
  · exact requested_commandStream h
  obtain ⟨-, h⟩ | ⟨-, h⟩ := ite_eq_iff.1 h
  · exact requested_getFileStream h
  obtain ⟨-, h⟩ | ⟨-, h⟩ := ite_eq_iff.1 h
  · exact requested_getFileStream h
  obtain ⟨-, h⟩ | ⟨-, h⟩ := ite_eq_iff.1 h
  · exact requested_prepareService h
  obtain ⟨-, h⟩ | ⟨-, h⟩ := ite_eq_iff.1 h
  · exact requested_syncService h
  obtain ⟨hmethod, h⟩ | ⟨-, h⟩ := ite_eq_iff.1 h
  · exact requested_stopService hmethod h
  obtain ⟨hmethod, h⟩ | ⟨-, h⟩ := ite_eq_iff.1 h
  · exact requested_activate hmethod h
  obtain ⟨-, h⟩ | ⟨-, h⟩ := ite_eq_iff.1 h
  · exact requested_pingService h
  obtain ⟨-, h⟩ | ⟨-, h⟩ := ite_eq_iff.1 h
  · exact requested_getLogService h
  · cases h
    exact .silent

end

/-! ## What an event does -/

/-- The read fails, or what is read is no JSON-RPC: the client is closed. -/
def Data.fails : Data → Bool
  | .readError | .notJsonRpc => true
  | .request _ | .response _ _ => false

/-- The check of a playlist: its answer, and the loop with what it leaves open. -/
structure VodChecked (env : Env χ δ) (a : Answers) (s : Loop χ) (file : String) (isFullVod : Bool)
    (s₁ : Loop χ) : Prop where
  answer : (Vods.checkIsFullVod env.convert env.paths a.files file []).1 = isFullVod
  leftOpen : s.leaveOpen a.fopenFd
    (Vods.checkIsFullVod env.convert env.paths a.files file []).2 = some s₁

theorem leaveOpen_cases {fd : Nat} {handles : Vods.Handles} {s₁ : Loop χ}
    (h : s.leaveOpen fd handles = some s₁) :
    handles = [] ∧ s₁ = s ∨ handles ≠ [] ∧ fd ∉ s.base.fds ∧
      s₁ = { s with base := { s.base with fds := insert fd s.base.fds } } := by
  unfold Loop.leaveOpen at h
  split at h
  · rename_i hnil
    cases h
    exact .inl ⟨hnil, rfl⟩
  · rename_i hopen
    split at h
    · cases h
    · rename_i hnew
      cases h
      exact .inr ⟨hopen, hnew, rfl⟩

/-- A check changes the open descriptors only. -/
theorem VodChecked.same {file : String} {isFullVod : Bool} {s₁ : Loop χ}
    (h : VodChecked env a s file isFullVod s₁) :
    ∃ fds, s.base.fds ⊆ fds ∧ s₁ = { s with base := { s.base with fds } } := by
  rcases leaveOpen_cases h.leftOpen with ⟨-, heq⟩ | ⟨-, -, heq⟩
  · exact ⟨_, subset_rfl, heq⟩
  · exact ⟨_, Finset.subset_insert _ _, heq⟩

/-- The outcomes of an event. -/
inductive Reacted (env : Env χ δ) (a : Answers) (s : Loop χ) (calls : SysCalls s.base) :
    Input → Loop χ → List Out → Prop
  | accepted (client : Nat) (hnew : client ∉ s.base.fds) :
    Reacted env a s calls (.accepted client)
      { s with
        clients := s.clients.insert client false
        base := { s.base with fds := insert client s.base.fds } } []
  | closed (client : Nat) (hclient : client ∈ s.clients) (data : Data)
      (hfails : data.fails = true) :
    Reacted env a s calls (.daemonData client data) (s.closeClient client) []
  | requested (client : Nat) (hclient : client ∈ s.clients) (req : Request) (s' : Loop χ)
    (outs : List Out) (h : Requested env a s calls client req s' outs) :
    Reacted env a s calls (.daemonData client (.request req)) s' outs
  | responded (client : Nat) (hclient : client ∈ s.clients) (method message : Option String) :
    Reacted env a s calls (.daemonData client (.response method message)) s []
  | pipeClosed (pipe : PipeClient) (hpipe : pipe ∈ s.base.pipeClients) (data : Data)
    (hfails : data.fails = true) :
    Reacted env a s calls (.pipeData pipe data) { s with base := s.base.closePipe pipe } []
  | piped (pipe : PipeClient) (hpipe : pipe ∈ s.base.pipeClients) (data : Data)
    (hfails : data.fails = false) (sent : Option Broadcast) :
    Reacted env a s calls (.pipeData pipe data) s (sent.toList.flatMap s.broadcastClients)
  | exited (pid : Nat) (status : ExitStatus) (channel : Child)
    (hfind : s.base.children.find? (·.pid == pid) = some channel) :
    Reacted env a s calls (.childStatusChanged pid status)
      { s with base := s.base.removeChild channel }
      (s.broadcastClients (quitStatus channel.streamId status))
  | vodIgnored (file : String) (hlink : s.vodsLinks.lookup (env.paths.getDirectory file) = none) :
    Reacted env a s calls (.httpRequest file) s []
  | vodFull (file : String) (args : ArgsMap)
    (hlink : s.vodsLinks.lookup (env.paths.getDirectory file) = some args) (s₁ : Loop χ)
    (hcheck : VodChecked env a s file true s₁) : Reacted env a s calls (.httpRequest file) s₁ []
  | vodStarted (file : String) (args : ArgsMap)
    (hlink : s.vodsLinks.lookup (env.paths.getDirectory file) = some args) (s₁ : Loop χ)
    (hcheck : VodChecked env a s file false s₁) (calls₁ : SysCalls s₁.base)
    (hcalls : a.calls s₁.base = some calls₁) (s' : Loop χ) (err : Option Error)
    (hcreate : s₁.createChildStream env a calls₁ args = some (s', err)) :
    Reacted env a s calls (.httpRequest file) s' []
  | pinged : Reacted env a s calls (.timerEmited .pingClient) (pingClients a s.clients.keys s).1
      (pingClients a s.clients.keys s).2
  | nodeStats : Reacted env a s calls (.timerEmited .nodeStats) s
      (s.broadcastClients (.statisticService a.serviceStats))
  | cleanupFiles : Reacted env a s calls (.timerEmited .cleanupFiles) s
      (s.vodsLinks.keys.map .removeFiles)
  | quit (hquit : s.quitTimer = true) :
    Reacted env a s calls (.timerEmited .quitCleanup) { s with running := false } []

section
variable {calls : SysCalls s.base}

theorem reacted_daemonData {data : Data} (hclient : client ∈ s.clients)
    (h : daemonDataReceived env a s client calls data = some (s', outs)) :
    Reacted env a s calls (.daemonData client data) s' outs := by
  cases data with
  | readError | notJsonRpc =>
    cases h
    exact .closed client hclient _ rfl
  | request req => exact .requested client hclient req s' outs (requested_of_handled h)
  | response method message =>
    have hsame : s' = s ∧ outs = [] := by
      simp only [daemonDataReceived, handleResponceServiceCommand] at h
      split at h
      · split at h
        · cases h
          exact ⟨rfl, rfl⟩
        · obtain ⟨-, -, h⟩ | h := onParams_cases h
          · cases h
            exact ⟨rfl, rfl⟩
          · exact h
      · cases h
        exact ⟨rfl, rfl⟩
    obtain ⟨rfl, rfl⟩ := hsame
    exact .responded client hclient method message

theorem reacted_pipeData {pipe : PipeClient} {data : Data} (hpipe : pipe ∈ s.base.pipeClients)
    (h : pipeDataReceived env a s pipe data = some (s', outs)) :
    Reacted env a s calls (.pipeData pipe data) s' outs := by
  have silent (data : Data) (hdata : data.fails = false) :
      Reacted env a s calls (.pipeData pipe data) s [] := .piped pipe hpipe data hdata none
  cases data with
  | readError | notJsonRpc =>
    cases h
    exact .pipeClosed pipe hpipe _ rfl
  | request req =>
    have sent (b : Broadcast) :
        Reacted env a s calls (.pipeData pipe (.request req)) s (s.broadcastClients b) := by
      simpa using Reacted.piped pipe hpipe (.request req) rfl (some b)
    simp only [pipeDataReceived, handleRequestStreamsCommand] at h
    split at h
    · obtain ⟨info, -, h⟩ | ⟨rfl, rfl⟩ := onParams_cases h
      · cases h
        exact sent _
      · exact silent _ rfl
    · split at h
      · obtain ⟨info, -, h⟩ | ⟨rfl, rfl⟩ := onParams_cases h
        · cases h
          exact sent _
        · exact silent _ rfl
      · cases h
        exact silent _ rfl
  | response method message =>
    cases h
    exact silent _ rfl

theorem reacted_of_handle {input : Input} (h : handle env a s calls input = some (s', outs)) :
    Reacted env a s calls input s' outs := by
  cases input with
  | accepted client =>
    simp only [handle] at h
    split at h
    · cases h
    · rename_i hnew
      cases h
      exact .accepted client hnew
  | daemonData client data =>
    simp only [handle] at h
    split at h
    · rename_i hclient
      exact reacted_daemonData hclient h
    · cases h
  | pipeData pipe data =>
    simp only [handle] at h
    split at h
    · rename_i hpipe
      exact reacted_pipeData hpipe h
    · cases h
  | childStatusChanged pid status =>
    simp only [handle, childStatusChanged] at h
    split at h
    · cases h
    · rename_i channel hfind
      cases h
      exact .exited pid status channel hfind
  | httpRequest file =>
    simp only [handle, onHttpRequest] at h
    split at h
    · rename_i hlink
      cases h
      exact .vodIgnored file hlink
    · rename_i args hlink
      obtain ⟨s₁, hopen, h⟩ := Option.bind_eq_some_iff.1 h
      split at h
      · rename_i hfull
        cases h
        exact .vodFull file args hlink _ ⟨hfull, hopen⟩
      · rename_i hfull
        obtain ⟨calls₁, hcalls, h⟩ := Option.bind_eq_some_iff.1 h
        obtain ⟨⟨s₂, err⟩, hcreate, heq⟩ := Option.map_eq_some_iff.1 h
        cases heq
        have hcheck : VodChecked env a s file false s₁ := ⟨by simpa using hfull, hopen⟩
        exact .vodStarted file args hlink s₁ hcheck calls₁ hcalls _ err hcreate
  | timerEmited timer =>
    cases timer with
    | pingClient =>
      have heq : pingClients a s.clients.keys s = (s', outs) := Option.some.inj h
      have hpinged : Reacted env a s calls (.timerEmited .pingClient) _ _ := .pinged
      rwa [heq] at hpinged
    | nodeStats =>
      cases h
      exact .nodeStats
    | cleanupFiles =>
      cases h
      exact .cleanupFiles
    | quitCleanup =>
      simp only [handle, timerEmited] at h
      split at h
      · rename_i hquit
        cases h
        exact .quit hquit
      · cases h

end

theorem reacted_of_react {e : Event} (h : react env s e = some (s', outs)) :
    s.running = true ∧ ∃ calls, e.answers.calls s.base = some calls ∧
      Reacted env e.answers s calls e.input s' outs := by
  unfold react at h
  split at h
  · rename_i hrun
    split at h
    · rename_i calls hcalls
      exact ⟨hrun, calls, hcalls, reacted_of_handle h⟩
    · cases h
  · cases h

/-! ## What a start does -/

/-- A start registers nothing, and keeps what was there; or all its calls succeed, and it registers
the stream of a new id. -/
theorem createChildStream_cases {s s' : State} {calls : SysCalls s} {info : Except Error String}
    {err : Option Error} {started : Option Nat}
    (h : createChildStream s info calls = .returned err started s') :
    (∃ fds mappings, s' = { s with fds, mappings } ∧ s.mappings ⊆ mappings) ∨
    ∃ id pid command responce, info = .ok id ∧ findChildByID s id = none ∧
      calls.mmap ≠ mapFailed ∧ calls.mmap ∉ s.mappings ∧ calls.commandPipe = .ok command ∧
      calls.responcePipe = .ok responce ∧ calls.fork = some pid ∧
      s' = { s with
        fds := s'.fds
        mappings := insert calls.mmap s.mappings
        pipeClients := s.pipeClients ++ [⟨id, responce.1, command.2⟩]
        children := s.children ++
          [⟨id, pid, .stream calls.mmap, some ⟨id, responce.1, command.2⟩⟩] } := by
  cases info with
  | error err =>
    cases h
    exact .inl ⟨_, _, rfl, subset_rfl⟩
  | ok id =>
    by_cases hex : (findChildByID s id).isSome = true
    · simp only [createChildStream, hex, if_true] at h
      cases h
      exact .inl ⟨_, _, rfl, subset_rfl⟩
    · have hfind : findChildByID s id = none := by simpa using hex
      by_cases hm : calls.mmap = mapFailed
      · rw [createChildStream_mapFailed hfind hm] at h
        cases h
      · obtain ⟨hnew, heq⟩ := createChildStream_mapped hfind hm
        rw [heq] at h
        cases hp : calls.commandPipe with
        | error code =>
          simp only [hp, createPipesAndFork, createPipe, free_insert hnew] at h
          cases h
          exact .inl ⟨_, _, rfl, subset_rfl⟩
        | ok command =>
          cases hq : calls.responcePipe with
          | error code =>
            simp only [hp, hq, createPipesAndFork, createPipe] at h
            cases h
            refine .inl ⟨_, _, rfl, ?_⟩
            rw [Finset.erase_insert hnew]
          | ok responce =>
            cases hk : calls.fork with
            | none =>
              simp only [hp, hq, hk, createPipesAndFork, createPipe] at h
              cases h
              exact .inl ⟨_, _, rfl, Finset.subset_insert _ _⟩
            | some pid =>
              simp only [hp, hq, hk, createPipesAndFork, createPipe] at h
              cases h
              exact .inr ⟨id, pid, command, responce, rfl, hfind, hm, hnew, rfl, rfl, rfl, rfl⟩

/-- A start does not return when the mapping for a new stream fails. -/
theorem createChildStream_crashed_iff {s : State} {calls : SysCalls s}
    {info : Except Error String} :
    createChildStream s info calls = .crashed ↔
      ∃ id, info = .ok id ∧ findChildByID s id = none ∧ calls.mmap = mapFailed := by
  constructor
  · intro h
    cases info with
    | error err => cases h
    | ok id =>
      by_cases hex : (findChildByID s id).isSome = true
      · obtain ⟨err, heq⟩ := createChildStream_exists calls hex
        rw [heq] at h
        cases h
      · have hfind : findChildByID s id = none := by simpa using hex
        refine ⟨id, rfl, hfind, ?_⟩
        by_contra hm
        rw [(createChildStream_mapped hfind hm).2] at h
        unfold createPipesAndFork at h
        split at h
        · cases h
        · split at h
          · cases h
          · split at h <;> cases h
  · rintro ⟨id, rfl, hfind, hm⟩
    exact createChildStream_mapFailed hfind hm

theorem createChild_cases {calls : SysCalls s.base} {info : Except Error String}
    {err : Option Error} (h : s.createChild calls info = some (s', err)) :
    ∃ started base, createChildStream s.base info calls = .returned err started base ∧
      s' = { s with base } := by
  unfold Loop.createChild at h
  split at h
  · cases h
  · rename_i hcreate
    cases h
    exact ⟨_, _, hcreate, rfl⟩

/-- `CreateChildStream` of the loop is that of the resources. -/
theorem loop_createChildStream {calls : SysCalls s.base} {args : ArgsMap} {err : Option Error}
    (h : s.createChildStream env a calls args = some (s', err)) :
    ∃ info started base, createChildStream s.base info calls = .returned err started base ∧
      s' = { s with base } ∧ ∀ id, info = .ok id → ∃ streamInfo,
        makeStreamInfo env.cm a.createAndCheckDir args true = .ok streamInfo ∧
          streamInfo.id = id := by
  unfold Loop.createChildStream at h
  split at h
  · rename_i streamInfo hinfo
    obtain ⟨started, base, hcreate, heq⟩ := createChild_cases h
    refine ⟨_, started, base, hcreate, heq, fun id hid => ?_⟩
    exact ⟨streamInfo, hinfo, Except.ok.inj hid⟩
  · obtain ⟨started, base, hcreate, heq⟩ := createChild_cases h
    exact ⟨_, started, base, hcreate, heq, nofun⟩
  · cases h

/-! ## The registered children -/

/-- The children that are registered: distinct ids, processes and memories, the memories mapped, and
each pipe client named by the id of its child. -/
structure Registered (s : State) : Prop where
  ids : (s.children.map (·.streamId)).Nodup
  pids : (s.children.map (·.pid)).Nodup
  kinds : (s.children.map (·.kind)).Nodup
  mapped : ∀ child ∈ s.children, ∃ mem ∈ s.mappings, child.kind = .stream mem
  named : ∀ child ∈ s.children, ∀ pipe, child.client = some pipe → pipe.name = child.streamId

theorem registered_init (fds : Finset Nat) : Registered ⟨fds, ∅, [], []⟩ :=
  ⟨.nil, .nil, .nil, nofun, nofun⟩

/-- Only the children and the mappings matter. -/
theorem Registered.mono {s s' : State} (h : Registered s) (hchildren : s'.children = s.children)
    (hmap : s.mappings ⊆ s'.mappings) : Registered s' := by
  refine ⟨hchildren ▸ h.ids, hchildren ▸ h.pids, hchildren ▸ h.kinds, fun child hc => ?_,
    hchildren ▸ h.named⟩
  obtain ⟨mem, hmem, hkind⟩ := h.mapped child (hchildren ▸ hc)
  exact ⟨mem, hmap hmem, hkind⟩

theorem findChildByID_eq_none {s : State} {id : String} (h : findChildByID s id = none) :
    id ∉ s.children.map (·.streamId) := by
  intro hmem
  obtain ⟨child, hchild, hid⟩ := List.mem_map.1 hmem
  simpa [hid] using List.find?_eq_none.1 h child hchild

theorem Registered.create {s s' : State} {calls : SysCalls s} {info : Except Error String}
    {err : Option Error} {started : Option Nat} (hs : Registered s)
    (hpid : ∀ child ∈ s.children, calls.fork ≠ some child.pid)
    (h : createChildStream s info calls = .returned err started s') : Registered s' := by
  obtain ⟨fds, mappings, rfl, hmap⟩ |
    ⟨id, pid, command, responce, -, hfind, -, hnew, -, -, hfork, heq⟩ := createChildStream_cases h
  · exact hs.mono rfl hmap
  · have hids := findChildByID_eq_none hfind
    have hpids : pid ∉ s.children.map (·.pid) := by
      intro hmem
      obtain ⟨child, hchild, rfl⟩ := List.mem_map.1 hmem
      exact hpid child hchild hfork
    have hkinds : .stream calls.mmap ∉ s.children.map (·.kind) := by
      intro hmem
      obtain ⟨child, hchild, hkind⟩ := List.mem_map.1 hmem
      obtain ⟨mem, hmem, hkind'⟩ := hs.mapped child hchild
      rw [hkind] at hkind'
      cases hkind'
      exact hnew hmem
    rw [heq]
    refine ⟨?_, ?_, ?_, ?_, ?_⟩
    · simpa using List.nodup_append_comm.1 (List.nodup_cons.2 ⟨hids, hs.ids⟩)
    · simpa using List.nodup_append_comm.1 (List.nodup_cons.2 ⟨hpids, hs.pids⟩)
    · simpa using List.nodup_append_comm.1 (List.nodup_cons.2 ⟨hkinds, hs.kinds⟩)
    · intro child hchild
      obtain hchild | hchild := List.mem_append.1 hchild
      · obtain ⟨mem, hmem, hkind⟩ := hs.mapped child hchild
        exact ⟨mem, Finset.mem_insert_of_mem hmem, hkind⟩
      · rw [List.mem_singleton.1 hchild]
        exact ⟨calls.mmap, Finset.mem_insert_self _ _, rfl⟩
    · intro child hchild pipe hpipe
      obtain hchild | hchild := List.mem_append.1 hchild
      · exact hs.named child hchild pipe hpipe
      · rw [List.mem_singleton.1 hchild] at hpipe ⊢
        cases hpipe
        rfl

theorem dropClient_streamId (pipe : PipeClient) (child : Child) :
    (child.dropClient pipe).streamId = child.streamId := by
  unfold Child.dropClient
  split <;> rfl

theorem dropClient_pid (pipe : PipeClient) (child : Child) :
    (child.dropClient pipe).pid = child.pid := by
  unfold Child.dropClient
  split <;> rfl

theorem dropClient_kind (pipe : PipeClient) (child : Child) :
    (child.dropClient pipe).kind = child.kind := by
  unfold Child.dropClient
  split <;> rfl

theorem dropClient_client {pipe pipe' : PipeClient} {child : Child}
    (h : (child.dropClient pipe).client = some pipe') : child.client = some pipe' := by
  unfold Child.dropClient at h
  split at h
  · cases h
  · exact h

theorem Registered.closePipe {s : State} (hs : Registered s) (pipe : PipeClient) :
    Registered (s.closePipe pipe) := by
  have map_eq {α : Type} (f : Child → α) (hf : ∀ child, f (child.dropClient pipe) = f child) :
      ((s.closePipe pipe).children.map f) = s.children.map f := by
    simp [State.closePipe, closeDescriptor, hf]
  have mem {child : Child} (h : child ∈ (s.closePipe pipe).children) :
      ∃ c ∈ s.children, c.dropClient pipe = child := List.mem_map.1 h
  refine ⟨?_, ?_, ?_, fun child hchild => ?_, fun child hchild p hp => ?_⟩
  · rw [map_eq _ (dropClient_streamId pipe)]
    exact hs.ids
  · rw [map_eq _ (dropClient_pid pipe)]
    exact hs.pids
  · rw [map_eq _ (dropClient_kind pipe)]
    exact hs.kinds
  · obtain ⟨c, hc, rfl⟩ := mem hchild
    rw [dropClient_kind]
    exact hs.mapped c hc
  · obtain ⟨c, hc, rfl⟩ := mem hchild
    rw [dropClient_streamId]
    exact hs.named c hc p (dropClient_client hp)

theorem removeChild_children (s : State) (channel : Child) :
    (s.removeChild channel).children = s.children.filter (·.pid ≠ channel.pid) ∧
      (s.removeChild channel).pipeClients = s.pipeClients := by
  unfold State.removeChild
  split
  · exact ⟨rfl, rfl⟩
  · exact ⟨rfl, rfl⟩

/-- An exit gives back the memory of the child, which no other child has. -/
theorem Registered.removeChild {s : State} (hs : Registered s) {channel : Child}
    (hchannel : channel ∈ s.children) : Registered (s.removeChild channel) := by
  obtain ⟨mem, -, hkind⟩ := hs.mapped channel hchannel
  have heq : s.removeChild channel = { s with
      children := s.children.filter (·.pid ≠ channel.pid)
      mappings := s.mappings.erase mem } := by
    simp [State.removeChild, hkind, freeSharedStreamStruct]
  have hsub : (s.children.filter (·.pid ≠ channel.pid)).Sublist s.children := List.filter_sublist
  rw [heq]
  refine ⟨hs.ids.sublist (hsub.map _), hs.pids.sublist (hsub.map _), hs.kinds.sublist (hsub.map _),
    fun child hchild => ?_, fun child hchild => hs.named child (hsub.subset hchild)⟩
  obtain ⟨hmem, hne⟩ := List.mem_filter.1 hchild
  obtain ⟨mem', hmem', hkind'⟩ := hs.mapped child hmem
  refine ⟨mem', Finset.mem_erase.2 ⟨?_, hmem'⟩, hkind'⟩
  rintro rfl
  have heq := List.inj_on_of_nodup_map hs.kinds hmem hchannel (hkind'.trans hkind.symm)
  simp [heq] at hne

/-- Pings close clients and nothing else. -/
theorem pingClients_cases {P : Loop χ → Prop} (clients : List Nat) (hs : P s)
    (hids : ∀ s n, P s → P (s.takeIds n)) (hclose : ∀ s client, P s → P (s.closeClient client)) :
    P (pingClients a clients s).1 := by
  induction clients generalizing s with
  | nil => exact hs
  | cons client clients ih =>
    unfold pingClients
    split
    · refine ih ?_
      split
      · exact hclose _ _ (hids _ _ hs)
      · exact hids _ _ hs
    · exact ih hs

/-- The calls are those of the answers, and a new process is not a registered one. -/
theorem calls_spec {s : State} {calls : SysCalls s} (h : a.calls s = some calls) :
    (calls.mmap = a.mmap ∧ calls.commandPipe = a.commandPipe ∧
      calls.responcePipe = a.responcePipe ∧ calls.fork = a.fork) ∧
    ∀ child ∈ s.children, calls.fork ≠ some child.pid := by
  unfold Answers.calls at h
  split at h
  · rename_i hvalid
    cases h
    exact ⟨⟨rfl, rfl, rfl, rfl⟩, hvalid.2.2.2⟩
  · cases h

/-- No event breaks the registration. -/
theorem registered_react {e : Event} (hs : Registered s.base)
    (h : react env s e = some (s', outs)) : Registered s'.base := by
  obtain ⟨-, calls, hcalls, h⟩ := reacted_of_react h
  have created {s s' : Loop χ} {calls : SysCalls s.base} {args : ArgsMap} {err : Option Error}
      (hs : Registered s.base) (hcalls : e.answers.calls s.base = some calls)
      (h : s.createChildStream env e.answers calls args = some (s', err)) : Registered s'.base := by
    obtain ⟨info, started, base, hcreate, rfl, -⟩ := loop_createChildStream h
    exact hs.create (calls_spec hcalls).2 hcreate
  have checked {file : String} {isFullVod : Bool} {s₁ : Loop χ}
      (h : VodChecked env e.answers s file isFullVod s₁) : Registered s₁.base := by
    obtain ⟨fds, -, rfl⟩ := h.same
    exact hs.mono rfl subset_rfl
  generalize e.input = input at h
  cases h with
  | accepted | closed => exact hs.mono rfl subset_rfl
  | requested client hclient req s' outs h =>
    cases h with
    | started hv hmethod info hread args hargs s' err hcreate => exact created hs hcalls hcreate
    | silent | refused | activated | answered | commanded | prepared | synced | stopping
    | stopped =>
      exact hs
  | responded | piped | vodIgnored | nodeStats | cleanupFiles | quit => exact hs
  | pipeClosed pipe => exact hs.closePipe pipe
  | exited pid status channel hfind =>
    exact hs.removeChild (List.mem_of_find?_eq_some hfind)
  | vodFull file args hlink s₁ hcheck => exact checked hcheck
  | vodStarted file args hlink s₁ hcheck calls₁ hcalls₁ s' err hcreate =>
    exact created (checked hcheck) hcalls₁ hcreate
  | pinged =>
    exact pingClients_cases (P := fun s => Registered s.base) _ hs (fun _ _ h => h)
      fun _ _ h => h.mono rfl subset_rfl

theorem registered_of_reaches {fds : Finset Nat} (h : Reaches (step env) (.init fds) s) :
    Registered s.base := by
  obtain ⟨es, h⟩ := h
  refine exec_of_inv (I := fun s => Registered s.base) (fun s e s' hs hstep => ?_)
    (registered_init fds) h
  obtain ⟨⟨s₁, outs⟩, hreact, rfl⟩ := Option.map_eq_some_iff.1 hstep
  exact registered_react hs hreact

/-! ## One child per stream id -/

/-- The registered children have distinct stream ids and mapped memories. -/
structure OneChildPerId (s : State) : Prop where
  ids : (s.children.map (·.streamId)).Nodup
  mapped : ∀ child ∈ s.children, ∃ mem ∈ s.mappings, child.kind = .stream mem

/-- The commands that are written to pipes. -/
def commandsSent (outs : List Out) : List (PipeClient × Command) :=
  outs.filterMap fun
    | .toChild pipe command _ => some (pipe, command)
    | _ => none

/-- The method of a stop or a restart. -/
def Command.method : Command → String
  | .stop => "stop_stream"
  | .restart => "restart_stream"

/-- A stop or a restart for an id, from a client with the right to it: `sent` of the child with the
id and what is written to pipes. -/
def OnCommand (env : Env χ δ) (s : Loop χ)
    (sent : Command → Child → List (PipeClient × Command) → Prop) : Prop :=
  ∀ a calls client req (command : Command) info, s.isVerified client = true →
    req.method = command.method →
    readParams env.cm (StreamIdInfo.doDeSerialize env.cm.co) req = some (.read info) →
    ∃ s' outs, handle env a s calls (.daemonData client (.request req)) = some (s', outs) ∧
      (∀ child ∈ s.base.children, child.streamId = info.streamId →
        sent command child (commandsSent outs)) ∧
      ∀ pipe command, (pipe, command) ∈ commandsSent outs → ∀ child ∈ s.base.children,
        child.client = some pipe → child.streamId = info.streamId

/-- The command is written to the pipe of the child and to no other. -/
def SentToChild (command : Command) (child : Child) (commands : List (PipeClient × Command)) :
    Prop :=
  ∃ pipe, child.client = some pipe ∧ commands = [(pipe, command)]

/-- The command is written to the pipe of the child, if it has one, and to no other. -/
def SentToPipe (command : Command) (child : Child) (commands : List (PipeClient × Command)) :
    Prop :=
  commands = child.client.toList.map fun pipe => (pipe, command)

theorem commandsSent_append (outs outs' : List Out) :
    commandsSent (outs ++ outs') = commandsSent outs ++ commandsSent outs' :=
  List.filterMap_append

theorem commandsSent_send (child : Child) (command : Command) (id : UInt64) :
    commandsSent (child.send command id) = child.client.toList.map fun pipe => (pipe, command) := by
  unfold Child.send
  split
  · rename_i pipe h
    rw [h]
    rfl
  · rename_i h
    rw [h]
    rfl

theorem handle_command {calls : SysCalls s.base} {command : Command}
    (hclient : client ∈ s.clients) (hmethod : req.method = command.method) :
    handle env a s calls (.daemonData client (.request req)) =
      commandStream env s client req command := by
  simp only [handle, hclient, if_true, daemonDataReceived, handleRequestServiceCommand, hmethod]
  cases command with
  | stop => rfl
  | restart => rfl

theorem onCommand_of_registered (hs : Registered s.base) : OnCommand env s SentToPipe := by
  intro a calls client req command info hv hmethod hread
  have hclient : client ∈ s.clients := by
    refine AList.lookup_isSome.1 ?_
    simp only [Loop.isVerified, beq_iff_eq] at hv
    rw [hv]
    rfl
  rw [handle_command hclient hmethod, commandStream, if_pos hv, hread, onParams]
  cases hfind : findChildByID s.base info.streamId with
  | none =>
    have hid := findChildByID_eq_none hfind
    refine ⟨s, _, rfl, fun child hchild heq => ?_, nofun⟩
    exact absurd (List.mem_map.2 ⟨child, hchild, heq⟩) hid
  | some chan =>
    have hchan := List.mem_of_find?_eq_some hfind
    have hid : chan.streamId = info.streamId := by
      simpa using List.find?_some hfind
    refine ⟨s.takeIds 1, _, rfl, fun child hchild heq => ?_,
      fun pipe c hpc child hchild hpipe => ?_⟩
    · have hsame : child = chan :=
        List.inj_on_of_nodup_map hs.ids hchild hchan (heq.trans hid.symm)
      rw [SentToPipe, commandsSent_append, commandsSent_send, hsame]
      exact List.append_nil _
    · rw [commandsSent_append, commandsSent_send] at hpc
      obtain hpc | hpc := List.mem_append.1 hpc
      · obtain ⟨p, hp, heq⟩ := List.mem_map.1 hpc
        cases heq
        rw [← hs.named child hchild pipe hpipe, ← hid]
        exact hs.named chan hchan pipe (Option.mem_toList.1 hp)
      · cases hpc

/-- **One child per stream id**: in every state that the loop reaches, the children have distinct
ids and mapped memories, and a stop or a restart for an id is written to the pipe of the child with
that id, if it has one, and to no other. -/
theorem oneChild_of_reaches {fds : Finset Nat} (h : Reaches (step env) (.init fds) s) :
    OneChildPerId s.base ∧ OnCommand env s SentToPipe := by
  have hs := registered_of_reaches h
  exact ⟨⟨hs.ids, hs.mapped⟩, onCommand_of_registered hs⟩

/-! ## A run with one stream -/

/-- `{"license_key":"key"}`. -/
def keyParams : String := "\x7b\"license_key\":\"key\"\x7d"

/-- `{"config":"{...}"}`. -/
def startParams : String :=
  "\x7b\"config\":\"\x7b\\\"id\\\":\\\"stream\\\",\\\"type\\\":1\x7d\"\x7d"

/-- `{"id":"stream"}`. -/
def idParams : String := "\x7b\"id\":\"stream\"\x7d"

/-- `{"urls":[]}`. -/
def noUrls : String := "\x7b\"urls\":[]\x7d"

/-- The JSON texts of the run. -/
def sampleTexts : List (String × JsonC.Json) :=
  [(keyParams, .object [("license_key", .string "key")]),
    (startParams, .object [("config", .string "\x7b\"id\":\"stream\",\"type\":1\x7d")]),
    (idParams, .object [("id", .string "stream")]), (noUrls, .object [("urls", .array [])])]

/-- A relay stream without inputs and outputs. -/
def sampleArgs : ArgsMap :=
  List.toAList [⟨"id", "stream"⟩, ⟨"type", "1"⟩, ⟨"feedback_directory", "/stream"⟩,
    ⟨"input", noUrls⟩, ⟨"output", noUrls⟩]

/-- The directory of a path ends at its last slash. -/
def samplePaths : Vods.Paths where
  getDirectory file := String.ofList (file.toList.reverse.dropWhile (· ≠ '/')).reverse
  makeFileStringPath dir name := some (dir ++ String.ofList name)

def sampleEnv : Env Unit Unit where
  licenseKey := "key"
  cm := { Common.blank with
    tokenerParse := fun text => (sampleTexts.lookup text).getD .null
    toUInt8 := fun text => if text = "1" then some 1 else none }
  validateConfig _ := some sampleArgs
  channels := ⟨(), fun _ => .ok ()⟩
  desire := ⟨(), fun _ => "", fun _ => some ()⟩
  clientPing _ := .ok ()
  logPath := "/log"
  makeFilePath dir name := some (dir ++ "/" ++ name)
  convert := M3u8.decimalConvert
  paths := samplePaths

/-- The request `id` of the client 3. -/
def sampleRequest (id method params : String) (answers : Answers := {}) : Event :=
  ⟨.daemonData 3 (.request ⟨some id, method, some params⟩), answers⟩

/-- The answers of the kernel to a start that succeeds. -/
def startAnswers : Answers :=
  { mmap := 4096, commandPipe := .ok (4, 5), responcePipe := .ok (6, 7), fork := some 77 }

/-- A client is accepted, activates itself and starts a stream. -/
def startRun : List Event :=
  [⟨.accepted 3, {}⟩, sampleRequest "1" "activate_request" keyParams,
    sampleRequest "2" "start_stream" startParams startAnswers]

/-- The pipe of the stream. -/
def samplePipe : PipeClient := ⟨"stream", 6, 5⟩

/-- What the stream sends is no JSON-RPC. -/
def pipeGarbage : Event := ⟨.pipeData samplePipe .notJsonRpc, {}⟩

/-- Calls that all fail. -/
def failingCalls (s : State) : SysCalls s :=
  ⟨mapFailed, .error 24, .error 24, none, .inl rfl, by simp [pipeFds], by simp [pipeFds]⟩

theorem oneChild_startRun : ∃ s, Reaches (step sampleEnv) (.init {0, 1, 2}) s ∧
    s.base.children = [⟨"stream", 77, .stream 4096, some samplePipe⟩] ∧
    OneChildPerId s.base ∧ OnCommand sampleEnv s SentToPipe := by
  have hrun : (exec (step sampleEnv) (.init {0, 1, 2}) startRun).map (·.base.children) =
      some [⟨"stream", 77, .stream 4096, some samplePipe⟩] := by
    decide
  obtain ⟨s, hexec, hchildren⟩ := Option.map_eq_some_iff.1 hrun
  exact ⟨s, ⟨_, hexec⟩, hchildren, oneChild_of_reaches ⟨_, hexec⟩⟩

/-- After a message of the stream that is no JSON-RPC the child has no pipe: a stop is not sent to
it. -/
theorem commandSent_fails : ∃ s, Reaches (step sampleEnv) (.init {0, 1, 2}) s ∧
    ¬ OnCommand sampleEnv s SentToChild := by
  have hrun : (exec (step sampleEnv) (.init {0, 1, 2}) (startRun ++ [pipeGarbage])).map
      (fun s => (s.base.children, s.isVerified 3)) =
        some ([⟨"stream", 77, .stream 4096, none⟩], true) := by
    decide
  obtain ⟨s, hexec, heq⟩ := Option.map_eq_some_iff.1 hrun
  obtain ⟨hchildren, hv⟩ := Prod.mk.inj heq
  refine ⟨s, ⟨_, hexec⟩, fun h => ?_⟩
  obtain ⟨s', outs, -, hsent, -⟩ :=
    h {} (failingCalls s.base) 3 ⟨some "3", "stop_stream", some idParams⟩
    .stop ⟨"stream"⟩ hv rfl rfl
  obtain ⟨pipe, hpipe, -⟩ := hsent _ (hchildren ▸ List.mem_singleton_self _) rfl
  cases hpipe

end IptvCloud.Server.Daemon
