import IptvCloud.Lib.Transcript
import IptvCloud.Server.Proof.DaemonLoop
import IptvCloud.Server.Proof.Vods
import IptvCloud.Stream.Proof.Configs
import IptvCloud.Stream.Proof.Factory

/-!
# VODs on demand

`sync_service` links the directories of the VODs with their configurations, a request for a playlist
starts the VOD of its directory, and a timer removes the chunks in the linked directories. An
observer sees the synchronisations that are handled (`synced`) and keeps from the last one which VOD
a directory has (`lastVod`). `vods_of_run`: over every run, these are the VODs that are started and
the directories that are cleaned up, and a VOD that is started so leaves its chunks when it ends.
-/

namespace IptvCloud.Server.Daemon

open Checked Transcript Streams

variable {χ δ : Type} {env : Env χ δ} {a : Answers} {s s' : Loop χ} {client : Nat} {req : Request}
  {outs : List Out} {links links' : AList fun _ : String => ArgsMap} {dir config : String}

/-! ## The VOD of a directory -/

/-- The arguments of a line with the directory among its `http` outputs, where it is a VOD. -/
def vodLine (env : Env χ δ) (a : Answers) (dir config : String) : Option ArgsMap :=
  (env.validateConfig config).bind fun args =>
    match makeStreamInfo env.cm a.createAndCheckDir args false, readOutput env.cm args with
    | .ok info, .ok output =>
      if (info.type = .vodEncode ∨ info.type = .vodRelay) ∧
          ∃ uri ∈ output, uri.output.scheme = .http ∧ uri.httpRoot = dir then
        some (args.insert "cleanup_ts" "false")
      else none
    | _, _ => none

/-- The last line with the directory. -/
def lastVod (env : Env χ δ) (a : Answers) (dir : String) (streams : List String) : Option ArgsMap :=
  streams.reverse.findSome? (vodLine env a dir)

theorem lookup_addVodLinks (args : ArgsMap) (output : List OutputUri) :
    (addVodLinks args links output).lookup dir =
      if ∃ uri ∈ output, uri.output.scheme = .http ∧ uri.httpRoot = dir then
        some (args.insert "cleanup_ts" "false")
      else links.lookup dir := by
  induction output generalizing args links with
  | nil => simp [addVodLinks]
  | cons uri output ih =>
    simp only [addVodLinks, List.exists_mem_cons_iff]
    by_cases hhttp : uri.output.scheme = .http
    · rw [if_pos hhttp, ih, AList.insert_insert]
      by_cases hdir : uri.httpRoot = dir
      · subst hdir
        simp [hhttp]
      · rw [AList.lookup_insert_ne (Ne.symm hdir)]
        simp [hdir]
    · rw [if_neg hhttp, ih]
      simp [hhttp]

theorem lookup_addStreamLine (h : addStreamLine env a links config = some links') :
    links'.lookup dir = (vodLine env a dir config).or (links.lookup dir) := by
  unfold addStreamLine at h
  unfold vodLine
  cases hargs : env.validateConfig config with
  | none =>
    rw [hargs] at h
    cases h
  | some args =>
    simp only [hargs] at h
    rw [Option.bind_some]
    cases hinfo : makeStreamInfo env.cm a.createAndCheckDir args false with
    | error failure =>
      rw [hinfo] at h
      cases failure <;> cases h
      rfl
    | ok info =>
      simp only [hinfo, Bool.or_eq_true, decide_eq_true_eq] at h
      cases houtput : readOutput env.cm args with
      | error failure =>
        rw [houtput] at h
        split at h
        · cases failure <;> cases h
          rfl
        · cases h
          rfl
      | ok output =>
        rw [houtput] at h
        split at h
        · rename_i hvod
          cases h
          rw [lookup_addVodLinks]
          simp only [hvod, true_and]
          split <;> rfl
        · rename_i hvod
          cases h
          simp [hvod]

/-- The links of a synchronisation are those of the last line of each directory. -/
theorem lookup_foldlM_addStreamLine {streams : List String}
    (h : streams.foldlM (addStreamLine env a) links = some links') :
    links'.lookup dir = (lastVod env a dir streams).or (links.lookup dir) := by
  induction streams generalizing links with
  | nil =>
    cases h
    rfl
  | cons config streams ih =>
    rw [List.foldlM_cons] at h
    obtain ⟨links₁, hline, hrest⟩ := Option.bind_eq_some_iff.1 h
    rw [ih hrest, lookup_addStreamLine hline, lastVod, lastVod, List.reverse_cons,
      List.findSome?_append, Option.or_assoc]
    simp

/-! ## The synchronisations of a run -/

/-- The synchronisation that an event handles, with what is answered while it does. -/
def synced (env : Env χ δ) (s : Loop χ) (e : Event) : Option (Answers × SyncInfo) :=
  match e.input with
  | .daemonData client (.request req) =>
    if req.method = "sync_service" ∧ s.isVerified client = true then
      match readParams env.cm (SyncInfo.doDeSerialize env.cm.co) req with
      | some (.read info) => some (e.answers, info)
      | _ => none
    else none
  | _ => none

/-- `step` with the synchronisation that is seen. -/
def observeSyncs (env : Env χ δ) (s : Loop χ) (e : Event) :
    Option (Loop χ × List (Answers × SyncInfo)) :=
  (step env s e).map fun s' => (s', (synced env s e).toList)

/-- The links change with the synchronisation alone. -/
def Relinks (env : Env χ δ) (s : Loop χ) (sync : Option (Answers × SyncInfo)) (s' : Loop χ) :
    Prop :=
  match sync with
  | none => s'.vodsLinks = s.vodsLinks
  | some (answers, info) => info.streams.foldlM (addStreamLine env answers) ∅ = some s'.vodsLinks

theorem vodsLinks_createChildStream {calls : SysCalls s.base} {args : ArgsMap} {err : Option Error}
    (h : s.createChildStream env a calls args = some (s', err)) : s'.vodsLinks = s.vodsLinks := by
  obtain ⟨-, -, base, -, rfl, -⟩ := loop_createChildStream h
  rfl

section
variable {calls : SysCalls s.base}

/-- A handler keeps the links that keeps them once the params are read. -/
theorem vodsLinks_of_verified {α : Type} {params : Option (Params α)} {act : α → Handled χ}
    (h : (if s.isVerified client then onParams s params act else some (s, [])) = some (s', outs))
    (hact : ∀ value, act value = some (s', outs) → s'.vodsLinks = s.vodsLinks) :
    s'.vodsLinks = s.vodsLinks := by
  obtain ⟨-, value, -, h⟩ | ⟨rfl, -⟩ := verified_cases h
  · exact hact value h
  · rfl

theorem vodsLinks_startStream
    (h : s.handleRequestClientStartStream env a client req calls = some (s', outs)) :
    s'.vodsLinks = s.vodsLinks := by
  refine vodsLinks_of_verified h fun info h => ?_
  split at h
  · cases h
  · split at h
    · cases h
    · rename_i hcreate
      cases h
      exact vodsLinks_createChildStream hcreate
    · rename_i hcreate
      cases h
      exact vodsLinks_createChildStream hcreate

theorem vodsLinks_commandStream {command : Command}
    (h : commandStream env s client req command = some (s', outs)) :
    s'.vodsLinks = s.vodsLinks := by
  refine vodsLinks_of_verified h fun info h => ?_
  split at h <;> cases h <;> rfl

theorem vodsLinks_getFileStream {name : String}
    (h : getFileStream env s client req name = some (s', outs)) : s'.vodsLinks = s.vodsLinks := by
  refine vodsLinks_of_verified h fun info h => ?_
  cases h
  rfl

theorem vodsLinks_stopService
    (h : handleRequestClientStopService env s client req = some (s', outs)) :
    s'.vodsLinks = s.vodsLinks := by
  obtain ⟨info, -, h⟩ | ⟨rfl, -⟩ := onParams_cases h
  · split at h
    · split at h <;> cases h <;> rfl
    · cases h
      rfl
  · rfl

theorem vodsLinks_activate
    (h : handleRequestClientActivate env a s client req = some (s', outs)) :
    s'.vodsLinks = s.vodsLinks := by
  unfold handleRequestClientActivate at h
  split at h
  · cases h
  · cases h
    rfl
  · split at h <;> cases h <;> rfl
  · cases h
    rfl

/-- A request of another method. -/
theorem vodsLinks_of_requested (hmethod : req.method ≠ "sync_service")
    (h : handleRequestServiceCommand env a s client req calls = some (s', outs)) :
    s'.vodsLinks = s.vodsLinks := by
  unfold handleRequestServiceCommand at h
  obtain ⟨-, h⟩ | ⟨-, h⟩ := ite_eq_iff.1 h
  · exact vodsLinks_startStream h
  obtain ⟨-, h⟩ | ⟨-, h⟩ := ite_eq_iff.1 h
  · exact vodsLinks_commandStream h
  obtain ⟨-, h⟩ | ⟨-, h⟩ := ite_eq_iff.1 h
  · exact vodsLinks_commandStream h
  obtain ⟨-, h⟩ | ⟨-, h⟩ := ite_eq_iff.1 h
  · exact vodsLinks_getFileStream h
  obtain ⟨-, h⟩ | ⟨-, h⟩ := ite_eq_iff.1 h
  · exact vodsLinks_getFileStream h
  obtain ⟨-, h⟩ | ⟨-, h⟩ := ite_eq_iff.1 h
  · refine vodsLinks_of_verified h fun info h => ?_
    cases h
    rfl
  rw [if_neg hmethod] at h
  obtain ⟨-, h⟩ | ⟨-, h⟩ := ite_eq_iff.1 h
  · exact vodsLinks_stopService h
  obtain ⟨-, h⟩ | ⟨-, h⟩ := ite_eq_iff.1 h
  · exact vodsLinks_activate h
  obtain ⟨-, h⟩ | ⟨-, h⟩ := ite_eq_iff.1 h
  · refine vodsLinks_of_verified h fun info h => ?_
    split at h <;> cases h <;> rfl
  obtain ⟨-, h⟩ | ⟨-, h⟩ := ite_eq_iff.1 h
  · refine vodsLinks_of_verified h fun info h => ?_
    cases h
    rfl
  · cases h
    rfl

end

/-- `sync_service` links the directories anew. -/
theorem relinks_of_sync (hmethod : req.method = "sync_service") {calls : SysCalls s.base}
    (h : handleRequestServiceCommand env a s client req calls = some (s', outs)) :
    Relinks env s (synced env s ⟨.daemonData client (.request req), a⟩) s' := by
  have hsync : handleRequestClientSyncService env a s client req = some (s', outs) := by
    simpa [handleRequestServiceCommand, hmethod] using h
  unfold handleRequestClientSyncService at hsync
  unfold synced
  by_cases hv : s.isVerified client = true
  · rw [if_pos hv] at hsync
    simp only [hmethod, hv, and_self, if_true]
    cases hparams : readParams env.cm (SyncInfo.doDeSerialize env.cm.co) req with
    | none =>
      rw [hparams] at hsync
      cases hsync
    | some params =>
      rw [hparams] at hsync
      cases params with
      | read info =>
        dsimp only [onParams] at hsync
        split at hsync
        · rename_i hlinks _
          cases hsync
          exact hlinks
        · cases hsync
      | absent | notJson | refused =>
        cases hsync
        rfl
  · rw [if_neg hv] at hsync
    cases hsync
    simp [hv, Relinks]

theorem relinks_of_handle {input : Input} {calls : SysCalls s.base}
    (h : handle env a s calls input = some (s', outs)) :
    Relinks env s (synced env s ⟨input, a⟩) s' := by
  have hreacted := reacted_of_handle h
  cases hreacted with
  | requested client hclient req s' outs _ =>
    have hcommand : handleRequestServiceCommand env a s client req calls = some (s', outs) := by
      rwa [handle, if_pos hclient] at h
    by_cases hmethod : req.method = "sync_service"
    · exact relinks_of_sync hmethod hcommand
    · have hnone : synced env s ⟨.daemonData client (.request req), a⟩ = none := by
        simp [synced, hmethod]
      rw [hnone]
      exact vodsLinks_of_requested hmethod hcommand
  | closed client hclient data hfails =>
    cases data with
    | readError | notJsonRpc => rfl
    | request | response => cases hfails
  | vodFull file args hlink s₁ hcheck =>
    obtain ⟨fds, -, rfl⟩ := hcheck.same
    rfl
  | vodStarted file args hlink s₁ hcheck calls₁ hcalls₁ s' err hcreate =>
    have hlinks := vodsLinks_createChildStream hcreate
    obtain ⟨fds, -, rfl⟩ := hcheck.same
    exact hlinks
  | pinged =>
    exact pingClients_cases (P := fun s₁ => s₁.vodsLinks = s.vodsLinks) _ rfl (fun _ _ hs => hs)
      fun _ _ hs => hs
  | _ => rfl

theorem relinks_of_react {e : Event} (h : react env s e = some (s', outs)) :
    Relinks env s (synced env s e) s' := by
  unfold react at h
  split at h
  · split at h
    · exact relinks_of_handle h
    · cases h
  · cases h

/-! ## What a run does for the VODs -/

/-- The VOD of a directory in the last synchronisation. -/
def linkedVod (env : Env χ δ) (syncs : List (Answers × SyncInfo)) (dir : String) : Option ArgsMap :=
  syncs.getLast?.bind fun sync => lastVod env sync.1 dir sync.2.streams

theorem lookup_of_relinks {sync : Option (Answers × SyncInfo)} (h : Relinks env s sync s') :
    s'.vodsLinks.lookup dir =
      if sync.isSome then linkedVod env sync.toList dir else s.vodsLinks.lookup dir := by
  cases sync with
  | none => exact congrArg (AList.lookup dir) h
  | some sync =>
    have hlinks : s'.vodsLinks.lookup dir = (lastVod env sync.1 dir sync.2.streams).or _ :=
      lookup_foldlM_addStreamLine h
    rwa [AList.lookup_empty, Option.or_none] at hlinks

theorem linkedVod_append (syncs rest : List (Answers × SyncInfo)) :
    linkedVod env (syncs ++ rest) dir =
      if rest.isEmpty then linkedVod env syncs dir else linkedVod env rest dir := by
  cases hlast : rest.getLast? with
  | none =>
    rw [List.getLast?_eq_none_iff] at hlast
    simp [hlast]
  | some sync =>
    have hne : rest ≠ [] := by
      rintro rfl
      cases hlast
    simp [linkedVod, List.getLast?_append, hlast, hne]

/-- The links after a run are those of its last synchronisation. -/
theorem lookup_of_run {es : List Event} {syncs : List (Answers × SyncInfo)}
    (hrun : run (observeSyncs env) s es = some (s', syncs)) :
    s'.vodsLinks.lookup dir =
      if syncs.isEmpty then s.vodsLinks.lookup dir else linkedVod env syncs dir := by
  induction es generalizing s syncs with
  | nil =>
    cases hrun
    rfl
  | cons e es ih =>
    obtain ⟨s₁, outs, rest, hobserved, hrest, rfl⟩ := run_cons hrun
    obtain ⟨s₂, hstep, heq⟩ := Option.map_eq_some_iff.1 hobserved
    obtain ⟨⟨s₂, sent⟩, hreact, rfl⟩ := Option.map_eq_some_iff.1 hstep
    cases heq
    rw [ih hrest, linkedVod_append, lookup_of_relinks (relinks_of_react hreact)]
    cases synced env s e <;> cases rest <;> simp

/-! ## The end of a VOD -/

section
variable {cm : Common} {args : ArgsMap} {object : ConfigObject} {stream : BaseStream}

/-- `GetCleanupTS`; only a VOD has it. -/
def cleanupTs : ConfigObject → Bool
  | .vodRelay config => config.cleanupTs
  | .vodEncode config => config.cleanupTs
  | _ => false

/-- A map without the flag makes no object that cleans up. -/
theorem cleanupTs_of_makeConfig (h : makeConfig cm args = .ok object)
    (hargs : cleanupTsArg cm args = false) : cleanupTs object = false := by
  obtain ⟨conf, -, hobject⟩ := bind_eq_ok_iff.1 h
  generalize makeAudioVideo cm args conf = aconf at hobject
  cases htype : aconf.type with
  | screen | relay | timeshiftPlayer | testLife =>
    simp only [makeObject, htype] at hobject
    cases hobject
    rfl
  | vodRelay =>
    simp only [makeObject, htype] at hobject
    cases hobject
    exact hargs
  | encode =>
    simp only [makeObject, htype] at hobject
    split at hobject <;> cases hobject
    rfl
  | vodEncode =>
    simp only [makeObject, htype] at hobject
    split at hobject <;> cases hobject
    exact hargs
  | timeshiftRecorder | catchup =>
    simp only [makeObject, htype] at hobject
    split at hobject <;> cases hobject
    rfl
  | proxy | other code =>
    simp only [makeObject, htype] at hobject
    cases hobject

theorem postExecCleanup_createEncodingStream (config : EncodingConfig) (uri : InputUri)
    (fs : Cleanup.FileSystem) : (createEncodingStream cm config uri).postExecCleanup fs = fs := by
  unfold createEncodingStream
  split_ifs <;> rfl

/-- The cleanup of a stream is that of its configuration. -/
theorem postExecCleanup_of_createStream (hclass : ClassOf object.base.type object)
    {startChunkIndex : Nat} (h : createStream cm object startChunkIndex = .ok stream)
    (fs : Cleanup.FileSystem) :
    stream.postExecCleanup fs =
      Cleanup.postExecCleanup fs (cleanupTs object) object.base.output := by
  generalize htype : object.base.type = type at hclass
  cases hclass with
  | screen config =>
    rw [createStream_screen config htype] at h
    cases h
  | relay config =>
    rw [createStream_relay htype] at h
    split_ifs at h <;> cases h <;> rfl
  | encode config =>
    rw [createStream_encode htype] at h
    split_ifs at h
    · cases h
      rfl
    · cases h
      rfl
    · generalize elemAt Site.createStream config.input 0 = uri at h
      cases uri with
      | error fault => cases h
      | ok uri =>
        cases h
        exact postExecCleanup_createEncodingStream config uri fs
  | vodRelay config =>
    rw [createStream_vodRelay htype] at h
    split_ifs at h
    · cases h
      rfl
    · cases h
  | vodEncode config =>
    rw [createStream_vodEncode htype] at h
    split_ifs at h
    · cases h
      rfl
    · cases h
  | timeshiftPlayer config =>
    rw [createStream_timeshiftPlayer htype] at h
    cases h
    rfl
  | testLife config =>
    rw [createStream_testLife htype] at h
    cases h
    rfl
  | timeshiftRecorder config =>
    rw [createStream_timeshiftRecorder htype] at h
    cases h
    rfl
  | catchup config =>
    rw [createStream_catchup htype] at h
    cases h
    rfl

/-- A stream of a map without the flag leaves its chunks when it ends. -/
theorem postExecCleanup_of_execTurn (hmake : makeConfig cm args = .ok object)
    (hargs : cleanupTsArg cm args = false) {search : Int64 → Nat}
    (hexec : execTurn cm search object = .ok (some stream)) (fs : Cleanup.FileSystem) :
    stream.postExecCleanup fs = fs := by
  have hclass := (accepted_of_makeConfig hmake).classOf
  by_cases htype : object.base.type = .timeshiftPlayer
  · rw [execTurn_timeshiftPlayer (htype ▸ hclass) htype] at hexec
    cases hexec
  · rw [execTurn_of_ne htype] at hexec
    cases hcreate : createStream cm object invalidChunkIndex with
    | error fault =>
      rw [hcreate] at hexec
      cases hexec
    | ok created =>
      rw [hcreate] at hexec
      cases hexec
      rw [postExecCleanup_of_createStream hclass hcreate, cleanupTs_of_makeConfig hmake hargs]
      rfl

end

/-! ## Runs -/

/-- The playlist passes for that of a full VOD: it parses, and the chunks it lists are there. -/
def PassesForFull (env : Env χ δ) (a : Answers) (file : String) : Prop :=
  ∃ text, Vods.Listed env.convert env.paths a.files file text

/-- The loop serves the VODs that the directories have. -/
structure ServesVods (env : Env χ δ) (vod : String → Option ArgsMap) (s : Loop χ) : Prop where
  /-- A request for a playlist starts at most the VOD of its directory, and only if the playlist
  does not pass for that of a full VOD and the stream is new. -/
  request : ∀ a file s' outs, react env s ⟨.httpRequest file, a⟩ = some (s', outs) →
    outs = [] ∧ (s'.base.children = s.base.children ∨ ∃ args info pid mem pipe,
      ¬ PassesForFull env a file ∧ vod (env.paths.getDirectory file) = some args ∧
      makeStreamInfo env.cm a.createAndCheckDir args true = .ok info ∧
      findChildByID s.base info.id = none ∧
      s'.base.children = s.base.children ++ [⟨info.id, pid, .stream mem, some pipe⟩])
  /-- Then it starts it, where the kernel does, after the check has opened the playlist. -/
  starts : ∀ a file s₁ calls args info command responce pid, s.running = true →
    vod (env.paths.getDirectory file) = some args → ¬ PassesForFull env a file →
    s.leaveOpen a.fopenFd (Vods.checkIsFullVod env.convert env.paths a.files file []).2 = some s₁ →
    makeStreamInfo env.cm a.createAndCheckDir args true = .ok info →
    findChildByID s.base info.id = none → a.calls s₁.base = some calls → a.mmap ≠ mapFailed →
    a.commandPipe = .ok command → a.responcePipe = .ok responce → a.fork = some pid →
    ∃ s', react env s ⟨.httpRequest file, a⟩ = some (s', []) ∧
      s'.base.children = s.base.children ++
        [⟨info.id, pid, .stream a.mmap, some ⟨info.id, responce.1, command.2⟩⟩]
  /-- The clean-up removes the chunks in the directories that have a VOD. -/
  cleanup : ∀ a s' outs, react env s ⟨.timerEmited .cleanupFiles, a⟩ = some (s', outs) →
    s' = s ∧ ∃ dirs : List String, outs = dirs.map .removeFiles ∧ dirs.Nodup ∧
      ∀ dir, dir ∈ dirs ↔ (vod dir).isSome
  /-- A stream of such a VOD leaves its chunks when it ends. -/
  leaves : ∀ dir args, vod dir = some args → ∀ object, makeConfig env.cm args = .ok object →
    ∀ search stream, execTurn env.cm search object = .ok (some stream) →
    ∀ fs, stream.postExecCleanup fs = fs

theorem checkIsFullVod_eq_false_iff {file : String} :
    (Vods.checkIsFullVod env.convert env.paths a.files file []).1 = false ↔
      ¬ PassesForFull env a file := by
  rw [← Bool.not_eq_true, Vods.checkIsFullVod_eq_true_iff, PassesForFull]

/-- The kernel can give the same answers where fewer descriptors are open. -/
theorem calls_of_subset (base : State) {fds fds' : Finset Nat}
    {calls : SysCalls { base with fds := fds' }}
    (hsub : fds ⊆ fds') (h : a.calls { base with fds := fds' } = some calls) :
    ∃ calls' : SysCalls { base with fds }, a.calls { base with fds } = some calls' := by
  unfold Answers.calls at h
  split at h
  · rename_i hvalid
    unfold Answers.calls
    obtain ⟨hmmap, hnodup, hnew, hpids⟩ := hvalid
    exact ⟨_, dif_pos ⟨hmmap, hnodup, fun fd hfd hmem => hnew fd hfd (hsub hmem), hpids⟩⟩
  · cases h

section
variable {vod : String → Option ArgsMap} (hlinks : ∀ dir, s.vodsLinks.lookup dir = vod dir)
include hlinks

theorem children_of_httpRequest {file : String}
    (h : react env s ⟨.httpRequest file, a⟩ = some (s', outs)) :
    outs = [] ∧ (s'.base.children = s.base.children ∨ ∃ args info pid mem pipe,
      ¬ PassesForFull env a file ∧ vod (env.paths.getDirectory file) = some args ∧
      makeStreamInfo env.cm a.createAndCheckDir args true = .ok info ∧
      findChildByID s.base info.id = none ∧
      s'.base.children = s.base.children ++ [⟨info.id, pid, .stream mem, some pipe⟩]) := by
  obtain ⟨-, calls, -, hreacted⟩ := reacted_of_react h
  cases hreacted with
  | vodIgnored => exact ⟨rfl, .inl rfl⟩
  | vodFull _ args hlink s₁ hcheck =>
    obtain ⟨fds, -, rfl⟩ := hcheck.same
    exact ⟨rfl, .inl rfl⟩
  | vodStarted _ args hlink s₁ hcheck calls₁ hcalls₁ s' err hcreate =>
    have hfull := checkIsFullVod_eq_false_iff.1 hcheck.answer
    obtain ⟨fds, -, rfl⟩ := hcheck.same
    refine ⟨rfl, ?_⟩
    obtain ⟨info, started, base, hbase, rfl, hinfo⟩ := loop_createChildStream hcreate
    rcases createChildStream_cases hbase with ⟨fds, mappings, rfl, -⟩ |
      ⟨id, pid, command, responce, rfl, hfind, -, -, -, -, -, hnew⟩
    · exact .inl rfl
    · obtain ⟨streamInfo, hmake, rfl⟩ := hinfo id rfl
      exact .inr ⟨args, streamInfo, pid, _, _, hfull, (hlinks _).symm.trans hlink, hmake, hfind,
        congrArg State.children hnew⟩

theorem starts_of_httpRequest {file : String} {s₁ : Loop χ} {calls : SysCalls s₁.base}
    {args : ArgsMap} {info : StreamInfo} {command responce : Nat × Nat} {pid : Nat}
    (hrunning : s.running = true) (hvod : vod (env.paths.getDirectory file) = some args)
    (hfull : ¬ PassesForFull env a file)
    (hopen : s.leaveOpen a.fopenFd
      (Vods.checkIsFullVod env.convert env.paths a.files file []).2 = some s₁)
    (hmake : makeStreamInfo env.cm a.createAndCheckDir args true = .ok info)
    (hfind : findChildByID s.base info.id = none) (hcalls : a.calls s₁.base = some calls)
    (hmmap : a.mmap ≠ mapFailed) (hcommand : a.commandPipe = .ok command)
    (hresponce : a.responcePipe = .ok responce) (hfork : a.fork = some pid) :
    ∃ s', react env s ⟨.httpRequest file, a⟩ = some (s', []) ∧
      s'.base.children = s.base.children ++
        [⟨info.id, pid, .stream a.mmap, some ⟨info.id, responce.1, command.2⟩⟩] := by
  have hcheck : VodChecked env a s file false s₁ :=
    ⟨checkIsFullVod_eq_false_iff.2 hfull, hopen⟩
  obtain ⟨fds, hsub, hs₁⟩ := hcheck.same
  subst hs₁
  obtain ⟨calls₀, hcalls₀⟩ := calls_of_subset s.base hsub hcalls
  obtain ⟨⟨hm, hp, hq, hk⟩, -⟩ := calls_spec hcalls
  rw [← hm] at hmmap ⊢
  have hstart : ∃ base, createChildStream { s.base with fds } (.ok info.id) calls =
        .returned none (some pid) base ∧
      base.children = s.base.children ++
        [⟨info.id, pid, .stream calls.mmap, some ⟨info.id, responce.1, command.2⟩⟩] := by
    rw [(createChildStream_mapped (s := { s.base with fds }) hfind hmmap).2, hp, hcommand, hq,
      hresponce, hk, hfork]
    exact ⟨_, rfl, rfl⟩
  obtain ⟨base, hstart, hchildren⟩ := hstart
  refine ⟨{ s with base }, ?_, hchildren⟩
  simp only [react, hrunning, if_true, hcalls₀, handle, onHttpRequest, hlinks _, hvod,
    hcheck.answer, hopen, hcalls, Option.bind_some, Bool.false_eq_true, if_false,
    Loop.createChildStream, hmake, Loop.createChild, hstart]
  rfl

theorem dirs_of_cleanupFiles (h : react env s ⟨.timerEmited .cleanupFiles, a⟩ = some (s', outs)) :
    s' = s ∧ ∃ dirs : List String, outs = dirs.map .removeFiles ∧ dirs.Nodup ∧
      ∀ dir, dir ∈ dirs ↔ (vod dir).isSome := by
  obtain ⟨-, calls, -, hreacted⟩ := reacted_of_react h
  cases hreacted with
  | cleanupFiles =>
    refine ⟨rfl, s.vodsLinks.keys, rfl, s.vodsLinks.keys_nodup, fun dir => ?_⟩
    rw [← hlinks dir, AList.lookup_isSome, AList.mem_keys]

end

/-- A link turns the flag off. -/
theorem cleanupTsArg_of_linkedVod (hfalse : env.cm.toBool "false" = some false)
    {syncs : List (Answers × SyncInfo)} {args : ArgsMap} (h : linkedVod env syncs dir = some args) :
    cleanupTsArg env.cm args = false := by
  obtain ⟨sync, -, h⟩ := Option.bind_eq_some_iff.1 h
  obtain ⟨config, -, h⟩ := List.exists_of_findSome?_eq_some h
  obtain ⟨args₀, -, h⟩ := Option.bind_eq_some_iff.1 h
  split at h
  · split at h
    · cases h
      simp [cleanupTsArg, argsGetValue, hfalse]
    · cases h
  · cases h

/-- **VODs on demand**: over every run a directory has the VOD of the last line with it in the last
synchronisation, and none before one; a request for a playlist in it starts exactly that VOD, unless
the playlist passes for that of a full one; the clean-up removes the chunks in exactly these
directories, and a stream that is started so leaves its chunks when it ends. -/
theorem vods_of_run (hfalse : env.cm.toBool "false" = some false) {fds : Finset Nat}
    {es : List Event} {syncs : List (Answers × SyncInfo)}
    (hrun : run (observeSyncs env) (.init fds) es = some (s, syncs)) :
    ServesVods env (linkedVod env syncs) s := by
  have hlinks : ∀ dir, s.vodsLinks.lookup dir = linkedVod env syncs dir := by
    intro dir
    rw [lookup_of_run hrun]
    cases syncs <;> rfl
  refine ⟨fun a file s' outs => children_of_httpRequest hlinks, ?_,
    fun a s' outs => dirs_of_cleanupFiles hlinks, ?_⟩
  · intro a file s₁ calls args info command responce pid
    exact starts_of_httpRequest hlinks
  · intro dir args hvod object hmake search stream hexec fs
    exact postExecCleanup_of_execTurn hmake (cleanupTsArg_of_linkedVod hfalse hvod) hexec fs

/-- `{"streams":["vod"]}`. -/
def syncParams : String := "\x7b\"streams\":[\"vod\"]\x7d"

/-- `{"urls":[{"uri":"http://host/vod","http_root":"/vod/"}]}`. -/
def vodUrls : String :=
  "\x7b\"urls\":[\x7b\"uri\":\"http://host/vod\",\"http_root\":\"/vod/\"\x7d]\x7d"

def vodTexts : List (String × JsonC.Json) :=
  [(syncParams, .object [("streams", .array [.string "vod"])]),
    (vodUrls, .object [("urls", .array [
      .object [("uri", .string "http://host/vod"), ("http_root", .string "/vod/")]])])]

/-- `sampleArgs` as a VOD that cleans up. -/
def vodArgs : ArgsMap :=
  ((sampleArgs.insert "type" "7").insert "output" vodUrls).insert "cleanup_ts" "true"

def vodEnv : Env Unit Unit :=
  { sampleEnv with
    validateConfig := fun _ => some vodArgs
    cm := { sampleEnv.cm with
      tokenerParse := fun text => ((sampleTexts ++ vodTexts).lookup text).getD .null
      parseUrl := fun text => if text = "http://host/vod" then { scheme := .http } else {}
      toUInt8 := fun text => if text = "7" then some 7 else none
      toBool := fun text => [("true", true), ("false", false)].lookup text } }

/-- A client activates itself and synchronises a VOD. -/
def syncRun : List Event :=
  [⟨.accepted 3, {}⟩, sampleRequest "1" "activate_request" keyParams,
    sampleRequest "2" "sync_service" syncParams]

/-- The directory of the VOD is linked with its arguments, without the clean-up. -/
theorem vods_of_run_syncRun : ∃ s syncs,
    run (observeSyncs vodEnv) (.init {0, 1, 2}) syncRun = some (s, syncs) ∧
      linkedVod vodEnv syncs "/vod/" = some (vodArgs.insert "cleanup_ts" "false") ∧
      ServesVods vodEnv (linkedVod vodEnv syncs) s := by
  obtain ⟨⟨s, syncs⟩, hrun⟩ : ∃ r, run (observeSyncs vodEnv) (.init {0, 1, 2}) syncRun = some r :=
    ⟨_, rfl⟩
  refine ⟨s, syncs, hrun, ?_, vods_of_run rfl hrun⟩
  cases hrun
  rfl

end IptvCloud.Server.Daemon
