import IptvCloud.Server.Proof.DaemonLoop

/-!
# The rights and the answers of management clients

`authorized_along`: over every run of the loop, a client becomes verified by an activation with the
license key only, the requests and responses of the others change nothing and cause nothing but an
answer to them, and broadcasts are written to verified clients only. `answeredOnce_iff`: a request
of a verified client gets exactly one response when its method is known and its params are read; the
handlers are silent about params that are missing or refused and about unknown methods.
-/

namespace IptvCloud.Server.Daemon

open JsonC Run

variable {χ δ : Type} {env : Env χ δ} {a : Answers} {s s' : Loop χ} {client : Nat} {req : Request}
  {outs : List Out}

/-! ## Rights -/

/-- The request is an activation with the license key. -/
def ActivatesWithKey (env : Env χ δ) (req : Request) : Prop :=
  req.method = "activate_request" ∧ ∃ info : ActivateInfo,
    readParams env.cm (ActivateInfo.doDeSerialize env.cm.co) req = some (.read info) ∧
      info.license = env.licenseKey

/-- The request is a `stop_service` with the license key. -/
def StopsWithKey (env : Env χ δ) (req : Request) : Prop :=
  req.method = "stop_service" ∧ ∃ info : StopServiceInfo,
    readParams env.cm (StopServiceInfo.doDeSerialize env.cm.co) req = some (.read info) ∧
      info.license = env.licenseKey

/-- The children with all resources, the links, the user table, the roots and the quit timer are the
same. -/
structure SameService (s s' : Loop χ) : Prop where
  base : s'.base = s.base
  vodsLinks : s'.vodsLinks = s.vodsLinks
  users : s'.users = s.users
  httpRoot : s'.httpRoot = s.httpRoot
  vodsRoot : s'.vodsRoot = s.vodsRoot
  quitTimer : s'.quitTimer = s.quitTimer

/-- Nothing is sent but responses to the client: nothing to a child, no broadcast, no upload. -/
def OnlyAnswers (client : Nat) (outs : List Out) : Prop :=
  ∀ out ∈ outs, ∃ resp, out = .response client resp

/-- What the event does is within the rights of the clients. -/
structure Authorized (env : Env χ δ) (s : Loop χ) (input : Input) (s' : Loop χ) (outs : List Out) :
    Prop where
  verified : ∀ client, s.isVerified client = false → s'.isVerified client = true →
    ∃ req, input = .daemonData client (.request req) ∧ ActivatesWithKey env req
  request : ∀ client req, input = .daemonData client (.request req) → s.isVerified client = false →
    ¬ ActivatesWithKey env req → ¬ StopsWithKey env req → SameService s s' ∧ OnlyAnswers client outs
  response : ∀ client method message, input = .daemonData client (.response method message) →
    s.isVerified client = false → SameService s s' ∧ OnlyAnswers client outs
  broadcast : ∀ client req, .broadcast client req ∈ outs → s.isVerified client = true

/-! ## Clients -/

theorem isVerified_insert (s : Loop χ) (client client' : Nat) (verified : Bool) :
    Loop.isVerified { s with clients := s.clients.insert client verified } client' =
      if client' = client then verified else s.isVerified client' := by
  unfold Loop.isVerified
  split
  · rename_i h
    subst h
    cases verified <;> simp
  · rename_i h
    simp [AList.lookup_insert_ne h]

theorem isVerified_closeClient (h : (s.closeClient client).isVerified client' = true) :
    s.isVerified client' = true := by
  unfold Loop.isVerified Loop.closeClient at h
  by_cases hc : client' = client
  · subst hc
    simp at h
  · simpa [Loop.isVerified, AList.lookup_erase_ne hc] using h

theorem mem_broadcastClients {b : Broadcast} {out : Out} (h : out ∈ s.broadcastClients b) :
    ∃ client, out = .broadcast client b ∧ s.isVerified client = true := by
  obtain ⟨client, hmem, rfl⟩ := List.mem_map.1 h
  exact ⟨client, rfl, (List.mem_filter.1 hmem).2⟩

theorem verified_of_mem_broadcastClients {b b' : Broadcast}
    (h : .broadcast client b' ∈ s.broadcastClients b) : s.isVerified client = true := by
  obtain ⟨c, heq, hc⟩ := mem_broadcastClients h
  cases heq
  exact hc

theorem mem_pingClients {clients : List Nat} {out : Out} (h : out ∈ (pingClients a clients s).2) :
    ∃ client id text, out = .ping client id text := by
  induction clients generalizing s with
  | nil => cases h
  | cons client clients ih =>
    unfold pingClients at h
    split at h
    · obtain rfl | h := List.mem_cons.1 h
      · exact ⟨_, _, _, rfl⟩
      · exact ih h
    · exact ih h

theorem mem_send {child : Child} {command : Command} {id : UInt64} {out : Out}
    (h : out ∈ child.send command id) : ∃ pipe, out = .toChild pipe command id := by
  unfold Child.send at h
  split at h
  · exact ⟨_, List.mem_singleton.1 h⟩
  · cases h

theorem mem_sendStops {children : List Child} {id : UInt64} {out : Out}
    (h : out ∈ sendStops children id) : ∃ pipe id, out = .toChild pipe .stop id := by
  induction children generalizing id with
  | nil => cases h
  | cons child children ih =>
    obtain h | h := List.mem_append.1 h
    · obtain ⟨pipe, rfl⟩ := mem_send h
      exact ⟨pipe, id, rfl⟩
    · exact ih h

/-! ## Requests -/

section
variable {calls : SysCalls s.base}

/-- A request of a client that is not verified. -/
theorem unverified_of_requested (h : Requested env a s calls client req s' outs)
    (hv : s.isVerified client = false) (hactivate : ¬ ActivatesWithKey env req)
    (hstop : ¬ StopsWithKey env req) : SameService s s' ∧ OnlyAnswers client outs := by
  have not_verified : ¬ s.isVerified client = true := by simp [hv]
  have same : SameService s s := ⟨rfl, rfl, rfl, rfl, rfl, rfl⟩
  cases h with
  | silent => exact ⟨same, nofun⟩
  | refused err => exact ⟨same, fun out hout => ⟨_, List.mem_singleton.1 hout⟩⟩
  | activated info hmethod hread hkey => exact absurd ⟨hmethod, info, hread, hkey⟩ hactivate
  | stopping reply hmethod info hread hright =>
    exact absurd ⟨hmethod, info, hread, hright.resolve_right not_verified⟩ hstop
  | stopped hmethod info hread hright =>
    exact absurd ⟨hmethod, info, hread, hright.resolve_right not_verified⟩ hstop
  | answered hv' | started hv' | commanded hv' | prepared hv' | synced hv' =>
    exact absurd hv' not_verified

/-- A request makes at most its own client verified. -/
theorem verified_of_requested (h : Requested env a s calls client req s' outs) {other : Nat}
    (hv : s.isVerified other = false) (hv' : s'.isVerified other = true) :
    other = client ∧ ActivatesWithKey env req := by
  have same (heq : s'.clients = s.clients) : other = client ∧ ActivatesWithKey env req := by
    rw [Loop.isVerified, heq, ← Loop.isVerified, hv] at hv'
    cases hv'
  cases h with
  | activated info hmethod hread hkey =>
    rw [isVerified_insert] at hv'
    split at hv'
    · rename_i heq
      exact ⟨heq, hmethod, info, hread, hkey⟩
    · rw [hv] at hv'
      cases hv'
  | started hverified hmethod info hread args hargs s' err hcreate =>
    obtain ⟨-, -, base, -, heq, -⟩ := loop_createChildStream hcreate
    exact same (by rw [heq])
  | silent | refused | answered | commanded | prepared | synced | stopping | stopped =>
    exact same rfl

/-- A request causes no broadcast. -/
theorem no_broadcast_of_requested (h : Requested env a s calls client req s' outs) {other : Nat}
    {b : Broadcast} : .broadcast other b ∉ outs := by
  intro hmem
  cases h with
  | commanded hv chan hchan command =>
    obtain hmem | hmem := List.mem_append.1 hmem
    · obtain ⟨pipe, heq⟩ := mem_send hmem
      cases heq
    · cases List.mem_singleton.1 hmem
  | stopped =>
    obtain hmem | hmem := List.mem_append.1 hmem
    · obtain ⟨pipe, id, heq⟩ := mem_sendStops hmem
      cases heq
    · cases List.mem_singleton.1 hmem
  | answered hv files =>
    obtain hmem | hmem := List.mem_append.1 hmem
    · obtain ⟨file, -, heq⟩ := List.mem_map.1 hmem
      cases heq
    · cases List.mem_singleton.1 hmem
  | silent => cases hmem
  | refused | activated | started | prepared | synced | stopping =>
    cases List.mem_singleton.1 hmem

end

/-- Every event is within the rights of the clients. -/
theorem authorized_react {e : Event} (h : react env s e = some (s', outs)) :
    Authorized env s e.input s' outs := by
  obtain ⟨-, calls, -, h⟩ := reacted_of_react h
  generalize e.input = input at h ⊢
  -- most events leave the clients as they are, and are no requests
  have same {client : Nat} {P : Prop} (hv : s.isVerified client = false)
      (hv' : s.isVerified client = true) : P := by
    rw [hv] at hv'
    cases hv'
  cases h with
  | accepted client =>
    refine ⟨fun other hv hv' => ?_, nofun, nofun, nofun⟩
    change Loop.isVerified { s with clients := s.clients.insert client false } other = true at hv'
    rw [isVerified_insert] at hv'
    split at hv'
    · cases hv'
    · exact same hv hv'
  | closed client hclient data hfails =>
    refine ⟨fun other hv hv' => same hv (isVerified_closeClient hv'), fun c req heq => ?_,
      fun c method message heq => ?_, nofun⟩
    · cases heq
      cases hfails
    · cases heq
      cases hfails
  | requested client hclient req s' outs h =>
    refine ⟨fun other hv hv' => ?_, fun c r heq hv hactivate hstop => ?_, nofun,
      fun other b hmem => absurd hmem (no_broadcast_of_requested h)⟩
    · obtain ⟨rfl, hkey⟩ := verified_of_requested h hv hv'
      exact ⟨req, rfl, hkey⟩
    · cases heq
      exact unverified_of_requested h hv hactivate hstop
  | responded client hclient method message =>
    exact ⟨fun _ hv hv' => same hv hv', nofun,
      fun c _ _ _ _ => ⟨⟨rfl, rfl, rfl, rfl, rfl, rfl⟩, nofun⟩, nofun⟩
  | pipeClosed pipe hpipe data hfails => exact ⟨fun _ hv hv' => same hv hv', nofun, nofun, nofun⟩
  | piped pipe hpipe data hfails sent =>
    refine ⟨fun _ hv hv' => same hv hv', nofun, nofun, fun client req hmem => ?_⟩
    obtain ⟨b, -, hmem⟩ := List.mem_flatMap.1 hmem
    exact verified_of_mem_broadcastClients hmem
  | exited pid status channel hfind =>
    refine ⟨fun _ hv hv' => same hv hv', nofun, nofun, fun client req hmem => ?_⟩
    exact verified_of_mem_broadcastClients hmem
  | vodIgnored => exact ⟨fun _ hv hv' => same hv hv', nofun, nofun, nofun⟩
  | vodFull file args hlink s₁ hcheck =>
    obtain ⟨fds, -, rfl⟩ := hcheck.same
    exact ⟨fun _ hv hv' => same hv hv', nofun, nofun, nofun⟩
  | vodStarted file args hlink s₁ hcheck calls₁ hcalls₁ s' err hcreate =>
    obtain ⟨fds, -, rfl⟩ := hcheck.same
    obtain ⟨-, -, base, -, rfl, -⟩ := loop_createChildStream hcreate
    exact ⟨fun _ hv hv' => same hv hv', nofun, nofun, nofun⟩
  | pinged =>
    refine ⟨fun client hv hv' => ?_, nofun, nofun, fun client req hmem => ?_⟩
    · refine same hv (pingClients_cases
        (P := fun s₁ : Loop χ => s₁.isVerified client = true → s.isVerified client = true)
        s.clients.keys id (fun _ _ h => h) (fun _ _ h hv => h (isVerified_closeClient hv)) hv')
    · obtain ⟨c, id, text, heq⟩ := mem_pingClients hmem
      cases heq
  | nodeStats =>
    refine ⟨fun _ hv hv' => same hv hv', nofun, nofun, fun client req hmem => ?_⟩
    exact verified_of_mem_broadcastClients hmem
  | cleanupFiles =>
    refine ⟨fun _ hv hv' => same hv hv', nofun, nofun, fun client req hmem => ?_⟩
    obtain ⟨dir, -, heq⟩ := List.mem_map.1 hmem
    cases heq
  | quit => exact ⟨fun _ hv hv' => same hv hv', nofun, nofun, nofun⟩

/-- **Management authorization**: over every run of the loop, with any clients and any requests and
responses of theirs, each event is within the rights of the clients. -/
theorem authorized_along (env : Env χ δ) (fds : Finset Nat) (es : List Event) :
    Along (step env) (fun s e => ∀ s' outs, react env s e = some (s', outs) →
      Authorized env s e.input s' outs) (.init fds) es :=
  along_of_inv (I := fun _ => True) (fun _ _ _ _ _ => trivial)
    (fun _ _ _ _ _ h => authorized_react h) trivial

/-! ## Answers -/

/-- The responses that are written to the client. -/
def responsesTo (client : Nat) (outs : List Out) : List Response :=
  outs.filterMap fun
    | .response c resp => if c = client then some resp else none
    | _ => none

/-- The handler comes to its end, and exactly one response is written to the client: one with the id
of the request. -/
def RepliesOnce (client : Nat) (req : Request) (handled : Handled χ) : Prop :=
  ∃ s' outs reply, handled = some (s', outs) ∧ responsesTo client outs = [⟨req.id, reply⟩]

/-- The params are there, are JSON and are decoded. -/
def ParamsRead {α : Type} (env : Env χ δ) (doDeSerialize : Json → Decoded α) (req : Request)
    (P : α → Prop := fun _ => True) : Prop :=
  ∃ value, readParams env.cm doDeSerialize req = some (.read value) ∧ P value

/-- `CreateChildStream` returns: the configuration is read without a misuse, and the mapping does
not fail for a stream that is new. -/
def StartReturns (env : Env χ δ) (a : Answers) (s : Loop χ) (calls : SysCalls s.base)
    (config : String) : Prop :=
  ∃ args, env.validateConfig config = some args ∧
    isDefined (makeStreamInfo env.cm a.createAndCheckDir args true) = true ∧
    ∀ info, makeStreamInfo env.cm a.createAndCheckDir args true = .ok info →
      findChildByID s.base info.id = none → calls.mmap ≠ mapFailed

/-- `AddStreamLine` returns. -/
def LineReturns (env : Env χ δ) (a : Answers) (config : String) : Prop :=
  ∃ args, env.validateConfig config = some args ∧
    isDefined (makeStreamInfo env.cm a.createAndCheckDir args false) = true ∧
    ∀ info, makeStreamInfo env.cm a.createAndCheckDir args false = .ok info →
      info.type = .vodEncode ∨ info.type = .vodRelay → isDefined (readOutput env.cm args) = true

/-- The record of a subscriber is decoded without a misuse. -/
def SubscriberReturns (env : Env χ δ) (user : String) : Prop :=
  env.cm.tokenerParse user = .null ∨ isDefined (env.cm.deSerialize
    (UserInfo.doDeSerialize env.cm.co env.channels) (env.cm.tokenerParse user)) = true

/-- A request that is answered: its method is known, its params are read, and the handler comes to
its end. Only an activation is answered when the params are refused. -/
def Answerable (env : Env χ δ) (a : Answers) (s : Loop χ) (calls : SysCalls s.base)
    (req : Request) : Prop :=
  match req.method with
  | "start_stream" => ParamsRead env (StartInfo.doDeSerialize env.cm.co) req
      fun info => StartReturns env a s calls info.config
  | "stop_stream" | "restart_stream" => ParamsRead env (StreamIdInfo.doDeSerialize env.cm.co) req
  | "get_log_stream" | "get_pipeline_stream" =>
    ParamsRead env (GetLogStreamInfo.doDeSerialize env.cm) req
  | "prepare_service" => ParamsRead env (PrepareInfo.doDeSerialize env.cm.co) req
  | "sync_service" => ParamsRead env (SyncInfo.doDeSerialize env.cm.co) req fun info =>
      (∀ config ∈ info.streams, LineReturns env a config) ∧
        ∀ user ∈ info.users, SubscriberReturns env user
  | "stop_service" => ParamsRead env (StopServiceInfo.doDeSerialize env.cm.co) req
  | "activate_request" => ParamsRead env (ActivateInfo.doDeSerialize env.cm.co) req ∨
      ∃ err, readParams env.cm (ActivateInfo.doDeSerialize env.cm.co) req = some (.refused err)
  | "ping_service" => ParamsRead env env.clientPing req fun _ => a.serverPing.isSome = true
  | "get_log_service" => ParamsRead env (GetLogServiceInfo.doDeSerialize env.cm) req
  | _ => False

theorem responsesTo_append (client : Nat) (outs outs' : List Out) :
    responsesTo client (outs ++ outs') = responsesTo client outs ++ responsesTo client outs' :=
  List.filterMap_append

theorem responsesTo_eq_nil (h : ∀ out ∈ outs, ∀ resp, out ≠ .response client resp) :
    responsesTo client outs = [] := by
  refine List.filterMap_eq_nil_iff.2 fun out hout => ?_
  cases out with
  | response c resp =>
    refine if_neg ?_
    rintro rfl
    exact h _ hout resp rfl
  | broadcast | ping | toChild | postHttpFile | removeFiles => rfl

theorem repliesOnce_respond {reply : Reply} {sent : List Out}
    (h : ∀ out ∈ sent, ∀ resp, out ≠ .response client resp) :
    RepliesOnce client req (respond s client req reply sent) := by
  refine ⟨s, _, reply, rfl, ?_⟩
  rw [responsesTo_append, responsesTo_eq_nil h, List.nil_append, responsesTo]
  simp

theorem repliesOnce_respond_nil {reply : Reply} :
    RepliesOnce client req (respond s client req reply) :=
  repliesOnce_respond fun _ h => absurd h List.not_mem_nil

theorem repliesOnce_none : ¬ RepliesOnce client req (none : Handled χ) := by
  rintro ⟨_, _, _, h, _⟩
  cases h

theorem repliesOnce_silent : ¬ RepliesOnce client req (some (s, []) : Handled χ) := by
  rintro ⟨_, _, _, h, hresp⟩
  cases h
  cases hresp

theorem repliesOnce_onParams {α : Type} {params : Option (Params α)} {act : α → Handled χ} :
    RepliesOnce client req (onParams s params act) ↔
      ∃ value, params = some (.read value) ∧ RepliesOnce client req (act value) := by
  unfold onParams
  split
  · simp
  · rename_i hread
    refine iff_of_false repliesOnce_silent ?_
    rintro ⟨value, heq, -⟩
    exact hread value (Option.some.inj heq)
  · refine iff_of_false repliesOnce_none ?_
    rintro ⟨value, h, -⟩
    cases h

/-- A fold of partial steps whose failure does not depend on what was gathered. -/
theorem foldlM_isSome {α β : Type} {f : β → α → Option β} {Q : α → Prop}
    (hf : ∀ b x, (f b x).isSome = true ↔ Q x) (l : List α) (b : β) :
    (l.foldlM f b).isSome = true ↔ ∀ x ∈ l, Q x := by
  induction l generalizing b with
  | nil => simp
  | cons x l ih =>
    rw [List.foldlM_cons, List.forall_mem_cons, ← hf b x]
    cases f b x with
    | none => simp
    | some b' => simpa using ih b'

section
variable {calls : SysCalls s.base}

theorem createChild_isSome (info : Except Error String) :
    (s.createChild calls info).isSome = true ↔
      ∀ id, info = .ok id → findChildByID s.base id = none → calls.mmap ≠ mapFailed := by
  have hcrash : createChildStream s.base info calls = .crashed ↔ _ := createChildStream_crashed_iff
  unfold Loop.createChild
  split
  · rename_i h
    obtain ⟨id, hinfo, hfind, hm⟩ := hcrash.1 h
    simpa using ⟨id, hinfo, hfind, hm⟩
  · rename_i h
    refine iff_of_true rfl fun id hinfo hfind hm => ?_
    rw [hcrash.2 ⟨id, hinfo, hfind, hm⟩] at h
    cases h

theorem createChildStream_isSome (args : ArgsMap) :
    (s.createChildStream env a calls args).isSome = true ↔
      isDefined (makeStreamInfo env.cm a.createAndCheckDir args true) = true ∧
      ∀ info, makeStreamInfo env.cm a.createAndCheckDir args true = .ok info →
        findChildByID s.base info.id = none → calls.mmap ≠ mapFailed := by
  unfold Loop.createChildStream
  cases makeStreamInfo env.cm a.createAndCheckDir args true with
  | ok info => simp [createChild_isSome]
  | error failure =>
    cases failure with
    | refused err => simp [createChild_isSome]
    | nullString | notArray => simp [isDefined]

theorem addStreamLine_isSome (links : AList fun _ : String => ArgsMap) (config : String) :
    (addStreamLine env a links config).isSome = true ↔ LineReturns env a config := by
  unfold addStreamLine LineReturns
  cases env.validateConfig config with
  | none => simp
  | some args =>
    simp only [Option.some.injEq, exists_eq_left']
    cases makeStreamInfo env.cm a.createAndCheckDir args false with
    | ok info =>
      by_cases htype : info.type = .vodEncode ∨ info.type = .vodRelay
      · cases readOutput env.cm args with
        | ok output => simp [htype]
        | error failure =>
          cases failure with
          | refused err => simp [htype]
          | nullString | notArray => simp [htype, isDefined, ← or_iff_not_imp_left]
      · simp [htype]
    | error failure => cases failure <;> simp [isDefined]

theorem addSubscriber_isSome (users : SyncFinder χ) (user : String) :
    (addSubscriber env users user).isSome = true ↔ SubscriberReturns env user := by
  unfold addSubscriber SubscriberReturns
  split
  · rename_i h
    simp [h]
  · rename_i j hj
    split
    · rename_i info h
      simp [h]
    · rename_i err h
      simp [h]
    · rename_i failure hne h
      cases failure with
      | refused err => exact absurd rfl (hne err)
      | nullString | notArray => simpa [h, isDefined] using hj

/-! ## The handlers -/

variable (hv : s.isVerified client = true)
include hv

theorem repliesOnce_startStream :
    RepliesOnce client req (s.handleRequestClientStartStream env a client req calls) ↔
      ParamsRead env (StartInfo.doDeSerialize env.cm.co) req
        fun info => StartReturns env a s calls info.config := by
  rw [Loop.handleRequestClientStartStream, if_pos hv, repliesOnce_onParams, ParamsRead]
  refine exists_congr fun info => and_congr_right fun _ => ?_
  unfold StartReturns
  cases env.validateConfig info.config with
  | none => simpa using repliesOnce_none
  | some args =>
    simp only [Option.some.injEq, exists_eq_left', ← createChildStream_isSome]
    cases s.createChildStream env a calls args with
    | none => simpa using repliesOnce_none
    | some r =>
      obtain ⟨s', err⟩ := r
      refine iff_of_true ?_ rfl
      cases err with
      | none => exact repliesOnce_respond_nil
      | some err => exact repliesOnce_respond_nil

theorem repliesOnce_commandStream (command : Command) :
    RepliesOnce client req (commandStream env s client req command) ↔
      ParamsRead env (StreamIdInfo.doDeSerialize env.cm.co) req := by
  rw [commandStream, if_pos hv, repliesOnce_onParams, ParamsRead]
  refine exists_congr fun info => and_congr_right fun _ => iff_of_true ?_ trivial
  split
  · exact repliesOnce_respond_nil
  · refine repliesOnce_respond fun out hout resp => ?_
    obtain ⟨pipe, rfl⟩ := mem_send hout
    intro h
    cases h

theorem repliesOnce_getFileStream (name : String) :
    RepliesOnce client req (getFileStream env s client req name) ↔
      ParamsRead env (GetLogStreamInfo.doDeSerialize env.cm) req := by
  rw [getFileStream, if_pos hv, repliesOnce_onParams, ParamsRead]
  refine exists_congr fun info => and_congr_right fun _ => iff_of_true ?_ trivial
  refine repliesOnce_respond fun out hout resp => ?_
  unfold postStreamFile at hout
  split at hout
  · split at hout
    · rw [List.mem_singleton.1 hout]
      intro h
      cases h
    · cases hout
  · cases hout

theorem repliesOnce_prepareService :
    RepliesOnce client req (handleRequestClientPrepareService env a s client req) ↔
      ParamsRead env (PrepareInfo.doDeSerialize env.cm.co) req := by
  rw [handleRequestClientPrepareService, if_pos hv, repliesOnce_onParams, ParamsRead]
  exact exists_congr fun info => and_congr_right fun _ =>
    iff_of_true (repliesOnce_respond_nil) trivial

theorem repliesOnce_syncService :
    RepliesOnce client req (handleRequestClientSyncService env a s client req) ↔
      ParamsRead env (SyncInfo.doDeSerialize env.cm.co) req fun info =>
        (∀ config ∈ info.streams, LineReturns env a config) ∧
          ∀ user ∈ info.users, SubscriberReturns env user := by
  rw [handleRequestClientSyncService, if_pos hv, repliesOnce_onParams, ParamsRead]
  refine exists_congr fun info => and_congr_right fun _ => ?_
  rw [← foldlM_isSome addStreamLine_isSome info.streams ∅,
    ← foldlM_isSome addSubscriber_isSome info.users ∅]
  split
  · rename_i hlinks husers
    rw [hlinks, husers]
    exact iff_of_true (repliesOnce_respond_nil) ⟨rfl, rfl⟩
  · rename_i hnot
    refine iff_of_false repliesOnce_none ?_
    rintro ⟨hlinks, husers⟩
    obtain ⟨links, hlinks⟩ := Option.isSome_iff_exists.1 hlinks
    obtain ⟨users, husers⟩ := Option.isSome_iff_exists.1 husers
    exact hnot links users hlinks husers

theorem repliesOnce_stopService :
    RepliesOnce client req (handleRequestClientStopService env s client req) ↔
      ParamsRead env (StopServiceInfo.doDeSerialize env.cm.co) req := by
  rw [handleRequestClientStopService, repliesOnce_onParams, ParamsRead]
  refine exists_congr fun info => and_congr_right fun _ => iff_of_true ?_ trivial
  rw [if_pos (by simp [hv])]
  split
  · exact repliesOnce_respond_nil
  · refine repliesOnce_respond fun out hout resp => ?_
    obtain ⟨pipe, id, rfl⟩ := mem_sendStops hout
    intro h
    cases h

theorem repliesOnce_pingService :
    RepliesOnce client req (handleRequestClientPingService env a s client req) ↔
      ParamsRead env env.clientPing req fun _ => a.serverPing.isSome = true := by
  rw [handleRequestClientPingService, if_pos hv, repliesOnce_onParams, ParamsRead]
  refine exists_congr fun info => and_congr_right fun _ => ?_
  cases a.serverPing with
  | none => simpa using repliesOnce_silent
  | some text => exact iff_of_true (repliesOnce_respond_nil) rfl

theorem repliesOnce_getLogService :
    RepliesOnce client req (handleRequestClientGetLogService env s client req) ↔
      ParamsRead env (GetLogServiceInfo.doDeSerialize env.cm) req := by
  rw [handleRequestClientGetLogService, if_pos hv, repliesOnce_onParams, ParamsRead]
  refine exists_congr fun info => and_congr_right fun _ => iff_of_true ?_ trivial
  refine repliesOnce_respond fun out hout resp => ?_
  split at hout
  · rw [List.mem_singleton.1 hout]
    intro h
    cases h
  · cases hout

omit hv in
theorem repliesOnce_activate :
    RepliesOnce client req (handleRequestClientActivate env a s client req) ↔
      ParamsRead env (ActivateInfo.doDeSerialize env.cm.co) req ∨
        ∃ err, readParams env.cm (ActivateInfo.doDeSerialize env.cm.co) req =
          some (.refused err) := by
  unfold handleRequestClientActivate ParamsRead
  split
  · rename_i h
    simpa [h] using repliesOnce_none
  · rename_i err h
    exact iff_of_true (repliesOnce_respond_nil) (.inr ⟨err, h⟩)
  · rename_i info h
    refine iff_of_true ?_ (.inl ⟨info, h, trivial⟩)
    split
    · exact repliesOnce_respond_nil
    · exact repliesOnce_respond_nil
  · rename_i params hrefused hread h
    refine iff_of_false repliesOnce_silent ?_
    rintro (⟨info, heq, -⟩ | ⟨err, heq⟩)
    · exact hread info (Option.some.inj (h.symm.trans heq))
    · exact hrefused err (Option.some.inj (h.symm.trans heq))

end

/-- **Every request is answered once**: a request of a verified client, exactly when it is
answerable. -/
theorem answeredOnce_iff (env : Env χ δ) (a : Answers) (s : Loop χ) (calls : SysCalls s.base)
    {client : Nat} (hv : s.isVerified client = true) (req : Request) :
    RepliesOnce client req (handle env a s calls (.daemonData client (.request req))) ↔
      Answerable env a s calls req := by
  have hclient : client ∈ s.clients := by
    refine AList.lookup_isSome.1 ?_
    rw [show s.clients.lookup client = some true by simpa [Loop.isVerified] using hv]
    rfl
  have hhandle : handle env a s calls (.daemonData client (.request req)) =
      handleRequestServiceCommand env a s client req calls := if_pos hclient
  unfold Answerable
  split
  all_goals rw [hhandle, handleRequestServiceCommand]
  · rename_i hm
    simp only [hm, reduceIte]
    exact repliesOnce_startStream hv
  · rename_i hm
    simp only [hm, reduceIte, String.reduceEq]
    exact repliesOnce_commandStream hv .stop
  · rename_i hm
    simp only [hm, reduceIte, String.reduceEq]
    exact repliesOnce_commandStream hv .restart
  · rename_i hm
    simp only [hm, reduceIte, String.reduceEq]
    exact repliesOnce_getFileStream hv "logs"
  · rename_i hm
    simp only [hm, reduceIte, String.reduceEq]
    exact repliesOnce_getFileStream hv "dump.html"
  · rename_i hm
    simp only [hm, reduceIte, String.reduceEq]
    exact repliesOnce_prepareService hv
  · rename_i hm
    simp only [hm, reduceIte, String.reduceEq]
    exact repliesOnce_syncService hv
  · rename_i hm
    simp only [hm, reduceIte, String.reduceEq]
    exact repliesOnce_stopService hv
  · rename_i hm
    simp only [hm, reduceIte, String.reduceEq]
    exact repliesOnce_activate
  · rename_i hm
    simp only [hm, reduceIte, String.reduceEq]
    exact repliesOnce_pingService hv
  · rename_i hm
    simp only [hm, reduceIte, String.reduceEq]
    exact repliesOnce_getLogService hv
  · rename_i h1 h2 h3 h4 h5 h6 h7 h8 h9 h10 h11
    rw [if_neg h1, if_neg h2, if_neg h3, if_neg h4, if_neg h5, if_neg h6, if_neg h7, if_neg h8,
      if_neg h9, if_neg h10, if_neg h11]
    exact iff_of_false repliesOnce_silent id

/-- A loop with one client, which is verified. -/
def activeLoop : Loop Unit :=
  { Loop.init {0, 1, 2, 3} with clients := AList.insert 3 true ∅ }

/-- The request 1 of the client is handled, with a kernel that refuses everything. -/
def handleSample (method : String) (params : Option String) : Handled Unit :=
  handle sampleEnv {} activeLoop (failingCalls activeLoop.base)
    (.daemonData 3 (.request ⟨some "1", method, params⟩))

theorem answeredOnce_stopStream :
    RepliesOnce 3 ⟨some "1", "stop_stream", some idParams⟩
      (handleSample "stop_stream" (some idParams)) :=
  (answeredOnce_iff sampleEnv {} activeLoop (failingCalls activeLoop.base) (by decide)
    ⟨some "1", "stop_stream", some idParams⟩).2 ⟨⟨"stream"⟩, rfl, trivial⟩

/-- A `start_stream` without params, params without the config, and an unknown method get no
answer. -/
theorem answeredOnce_fails :
    ¬ RepliesOnce 3 ⟨some "1", "start_stream", none⟩ (handleSample "start_stream" none) ∧
    ¬ RepliesOnce 3 ⟨some "1", "start_stream", some idParams⟩
      (handleSample "start_stream" (some idParams)) ∧
    ¬ RepliesOnce 3 ⟨some "1", "stream_info", none⟩ (handleSample "stream_info" none) :=
  ⟨repliesOnce_silent, repliesOnce_silent, repliesOnce_silent⟩

end IptvCloud.Server.Daemon
