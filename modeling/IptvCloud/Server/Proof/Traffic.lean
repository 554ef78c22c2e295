import IptvCloud.Lib.Transcript
import IptvCloud.Server.Proof.Management

/-!
# What the daemon sends over a run

The requests of the daemon, to streams and to clients, carry ids in the order of a counter:
`requestIds_of_run` says that no id is sent twice and that they grow over a run, as long as the
counter does not go round. What the streams and the timers have to announce goes to every verified
client: `heard_of_run` says that a client hears all that is published while it is verified, once and
in order.
-/

namespace IptvCloud.Server.Daemon

open Run

variable {χ δ : Type} {env : Env χ δ} {a : Answers} {s s' : Loop χ} {client : Nat} {req : Request}
  {outs : List Out}

/-! ## Request ids -/

/-- The id of a request of the daemon. -/
def Out.requestId : Out → Option UInt64
  | .ping _ id _ => some id
  | .toChild _ _ id => some id
  | _ => none

/-- The ids of the requests that are sent, in order. -/
def requestIds (outs : List Out) : List UInt64 := outs.filterMap Out.requestId

/-- The counter does not go round, whatever the next event is. -/
def IdsLeft (s : Loop χ) : Prop :=
  s.nextId.toNat + s.base.children.length + s.clients.keys.length < 2 ^ 64

instance (s : Loop χ) : Decidable (IdsLeft s) := inferInstanceAs (Decidable (_ < _))

/-- The ids are some of those that the counter went through. -/
def Counted (n : UInt64) (outs : List Out) (n' : UInt64) : Prop :=
  n.toNat ≤ n'.toNat ∧
    ((requestIds outs).map UInt64.toNat).Sublist (List.range' n.toNat (n'.toNat - n.toNat))

theorem requestIds_append (outs outs' : List Out) :
    requestIds (outs ++ outs') = requestIds outs ++ requestIds outs' :=
  List.filterMap_append

theorem Counted.none {n : UInt64} (h : requestIds outs = []) : Counted n outs n :=
  ⟨le_rfl, by simp [h]⟩

theorem Counted.append {n n₁ n₂ : UInt64} {outs' : List Out} (h : Counted n outs n₁)
    (h' : Counted n₁ outs' n₂) : Counted n (outs ++ outs') n₂ := by
  obtain ⟨hle, hsub⟩ := h
  obtain ⟨hle', hsub'⟩ := h'
  refine ⟨hle.trans hle', ?_⟩
  have hrange : List.range' n.toNat (n₂.toNat - n.toNat) =
      List.range' n.toNat (n₁.toNat - n.toNat) ++ List.range' n₁.toNat (n₂.toNat - n₁.toNat) := by
    rw [show n₂.toNat - n.toNat = (n₁.toNat - n.toNat) + (n₂.toNat - n₁.toNat) by omega,
      ← List.range'_append_1, show n.toNat + (n₁.toNat - n.toNat) = n₁.toNat by omega]
  rw [requestIds_append, List.map_append, hrange]
  exact hsub.append hsub'

theorem Counted.skip {n n' : UInt64} (h : n.toNat ≤ n'.toNat) : Counted n [] n' :=
  ⟨h, List.nil_sublist _⟩

/-- The requests that were sent lie between the counters. -/
theorem Counted.between {n n' id : UInt64} (h : Counted n outs n') (hid : id ∈ requestIds outs) :
    n ≤ id ∧ id < n' := by
  have hmem := List.mem_range'_1.1 (h.2.subset (List.mem_map_of_mem hid))
  have hle := h.1
  rw [UInt64.le_iff_toNat_le, UInt64.lt_iff_toNat_lt]
  omega

theorem Counted.increasing {n n' : UInt64} (h : Counted n outs n') :
    (requestIds outs).Pairwise (· < ·) := by
  have hlt := List.Pairwise.sublist h.2 List.pairwise_lt_range'
  rw [List.pairwise_map] at hlt
  exact hlt.imp UInt64.lt_iff_toNat_lt.2

theorem toNat_add_ofNat {id : UInt64} {n : Nat} (h : id.toNat + n < 2 ^ 64) :
    (id + UInt64.ofNat n).toNat = id.toNat + n := by
  rw [UInt64.toNat_add, UInt64.toNat_ofNat', Nat.add_mod_mod, Nat.mod_eq_of_lt h]

/-- A request with the id of the counter. -/
theorem counted_one {id : UInt64} (h : id.toNat + 1 < 2 ^ 64) (hids : requestIds outs = [id]) :
    Counted id outs (id + 1) := by
  have hnext : (id + 1).toNat = id.toNat + 1 := toNat_add_ofNat (n := 1) h
  refine ⟨by omega, ?_⟩
  rw [hids, hnext, show id.toNat + 1 - id.toNat = 1 by omega]
  exact List.Sublist.refl _

theorem counted_send (child : Child) (command : Command) {id : UInt64}
    (h : id.toNat + 1 < 2 ^ 64) : Counted id (child.send command id) (id + 1) := by
  unfold Child.send
  split
  · exact counted_one h rfl
  · have hnext : (id + 1).toNat = id.toNat + 1 := toNat_add_ofNat (n := 1) h
    exact .skip (by omega)

theorem counted_sendStops (children : List Child) {id : UInt64}
    (h : id.toNat + children.length < 2 ^ 64) :
    Counted id (sendStops children id) (id + UInt64.ofNat children.length) := by
  induction children generalizing id with
  | nil =>
    show Counted id [] (id + 0)
    rw [UInt64.add_zero]
    exact .none rfl
  | cons child children ih =>
    rw [List.length_cons] at h ⊢
    have hnext : (id + 1).toNat = id.toNat + 1 := toNat_add_ofNat (n := 1) (by omega)
    have hlast : id + UInt64.ofNat (children.length + 1) =
        id + 1 + UInt64.ofNat children.length := by
      rw [UInt64.ofNat_add, UInt64.add_comm (UInt64.ofNat children.length), ← UInt64.add_assoc]
      rfl
    rw [sendStops, hlast]
    exact (counted_send child .stop (by omega)).append (ih (by omega))

theorem counted_pingClients (clients : List Nat) {s : Loop χ}
    (h : s.nextId.toNat + clients.length < 2 ^ 64) :
    Counted s.nextId (pingClients a clients s).2 (pingClients a clients s).1.nextId := by
  induction clients generalizing s with
  | nil => exact .none rfl
  | cons client clients ih =>
    rw [List.length_cons] at h
    unfold pingClients
    split
    · rename_i text _ _
      have hnext : (s.takeIds 1).nextId.toNat = s.nextId.toNat + 1 :=
        toNat_add_ofNat (n := 1) (by omega)
      have hping : Counted s.nextId [.ping client s.nextId text] (s.takeIds 1).nextId :=
        counted_one (by omega) rfl
      refine hping.append ?_
      split
      · exact ih (s := (s.takeIds 1).closeClient client) (by
          show (s.takeIds 1).nextId.toNat + _ < _
          omega)
      · exact ih (by omega)
    · exact ih (by omega)

theorem requestIds_broadcastClients (b : Broadcast) : requestIds (s.broadcastClients b) = [] := by
  simp [requestIds, Loop.broadcastClients, Out.requestId]

theorem nextId_of_createChildStream {calls : SysCalls s.base} {args : ArgsMap}
    {err : Option Error} (h : s.createChildStream env a calls args = some (s', err)) :
    s'.nextId = s.nextId := by
  obtain ⟨-, -, base, -, rfl, -⟩ := loop_createChildStream h
  rfl

theorem counted_requested {calls : SysCalls s.base} (hids : IdsLeft s)
    (h : Requested env a s calls client req s' outs) : Counted s.nextId outs s'.nextId := by
  unfold IdsLeft at hids
  have hresponse (n : UInt64) (resp : Response) : Counted n [.response client resp] n := .none rfl
  cases h with
  | silent => exact .none rfl
  | refused | activated | prepared | synced | stopping => exact hresponse _ _
  | answered hv files reply =>
    refine .append (.none ?_) (hresponse _ _)
    simp [requestIds, Out.requestId, List.filterMap_map, Function.comp_def]
  | started hv hmethod info hread args hargs s' err hcreate =>
    rw [nextId_of_createChildStream hcreate]
    exact hresponse _ _
  | commanded hv chan hchan command =>
    have hone := List.length_pos_of_mem hchan
    exact (counted_send chan command (by omega)).append (hresponse _ _)
  | stopped => exact (counted_sendStops s.base.children (by omega)).append (hresponse _ _)

theorem counted_react {e : Event} (hids : IdsLeft s) (h : react env s e = some (s', outs)) :
    Counted s.nextId outs s'.nextId := by
  obtain ⟨-, calls, -, h⟩ := reacted_of_react h
  generalize e.input = input at h
  cases h with
  | accepted | closed | responded | pipeClosed | vodIgnored | quit => exact .none rfl
  | requested client hclient req s' outs h => exact counted_requested hids h
  | piped pipe hpipe data hfails sent =>
    cases sent with
    | none => exact .none rfl
    | some b => exact .none (by simpa using requestIds_broadcastClients b)
  | exited | nodeStats => exact .none (requestIds_broadcastClients _)
  | vodFull file args hlink s₁ hcheck =>
    obtain ⟨fds, -, rfl⟩ := hcheck.same
    exact .none rfl
  | vodStarted file args hlink s₁ hcheck calls₁ hcalls₁ s' err hcreate =>
    obtain ⟨fds, -, rfl⟩ := hcheck.same
    rw [nextId_of_createChildStream hcreate]
    exact .none rfl
  | pinged =>
    unfold IdsLeft at hids
    exact counted_pingClients s.clients.keys (by omega)
  | cleanupFiles => exact .none (by simp [requestIds, Out.requestId])

/-- **Request ids**: over a run in which the counter does not go round, the ids of the requests of
the daemon grow, so that none is sent twice, and they lie between the counters. -/
theorem requestIds_of_run {es : List Event} (hids : Along (step env) (fun s _ => IdsLeft s) s es)
    (h : Transcript.run (react env) s es = some (s', outs)) :
    (requestIds outs).Pairwise (· < ·) ∧
      ∀ id ∈ requestIds outs, s.nextId ≤ id ∧ id < s'.nextId := by
  have hcounted : Counted s.nextId outs s'.nextId := by
    refine Transcript.run_rel (R := fun s outs s' => Counted s.nextId outs s'.nextId)
      (C := fun s _ => IdsLeft s) (fun s => .none rfl) ?_ hids h
    intro s e s₁ outs rest s' hids hreact hrest
    exact (counted_react hids hreact).append hrest
  exact ⟨hcounted.increasing, fun id hid => hcounted.between hid⟩

/-- A stream is restarted, the clients are pinged, and the stream is stopped. -/
def commandRun : List Event :=
  startRun ++ [sampleRequest "3" "restart_stream" idParams, ⟨.timerEmited .pingClient, {}⟩,
    sampleRequest "4" "stop_stream" idParams]

theorem requestIds_commandRun : ∃ s outs,
    Transcript.run (react sampleEnv) (.init {0, 1, 2}) commandRun = some (s, outs) ∧
      requestIds outs = [0, 1, 2] ∧ (requestIds outs).Pairwise (· < ·) ∧
      ∀ id ∈ requestIds outs, 0 ≤ id ∧ id < s.nextId := by
  have hleft : Along (step sampleEnv) (fun s _ => IdsLeft s) (.init {0, 1, 2}) commandRun := by
    decide
  have hrun : (Transcript.run (react sampleEnv) (.init {0, 1, 2}) commandRun).map
      (fun p => requestIds p.2) = some [0, 1, 2] := by
    decide
  obtain ⟨⟨s, outs⟩, hexec, hids⟩ := Option.map_eq_some_iff.1 hrun
  exact ⟨s, outs, hexec, hids, requestIds_of_run hleft hexec⟩

/-! ## Notifications -/

/-- The notifications to a client. -/
def notified (client : Nat) (outs : List Out) : List Broadcast :=
  outs.filterMap fun
    | .broadcast c b => if c = client then some b else none
    | _ => none

/-- Params that are read are announced. -/
def announced {α : Type} (b : α → Broadcast) : Option (Params α) → List Broadcast
  | some (.read info) => [b info]
  | _ => []

/-- What an event has to announce: what a stream says of its sources and of its statistics, the exit
of a child, and the statistics of the service. -/
def published (env : Env χ δ) (a : Answers) (s : Loop χ) : Input → List Broadcast
  | .pipeData _ (.request req) =>
    if req.method = "changed_source_stream" then
      announced .changedSources (readParams env.cm (ChangedSouresInfo.doDeSerialize env.cm) req)
    else if req.method = "statistic_stream" then
      announced .statisticStream (readParams env.cm
        (Stream.handleRequestStatisticStream env.cm.co env.desire a.clock) req)
    else []
  | .childStatusChanged pid status =>
    (s.base.children.find? (·.pid == pid)).toList.map fun child => quitStatus child.streamId status
  | .timerEmited .nodeStats => [.statisticService a.serviceStats]
  | _ => []

/-- What is announced over a run while the client is verified. -/
def heard (env : Env χ δ) (client : Nat) : Loop χ → List Event → List Broadcast
  | _, [] => []
  | s, e :: es =>
    (if s.isVerified client then published env e.answers s e.input else []) ++
      match step env s e with
      | some s' => heard env client s' es
      | none => []

theorem notified_append (client : Nat) (outs outs' : List Out) :
    notified client (outs ++ outs') = notified client outs ++ notified client outs' :=
  List.filterMap_append

theorem notified_eq_nil (h : ∀ b, .broadcast client b ∉ outs) : notified client outs = [] := by
  refine List.filterMap_eq_nil_iff.2 fun out hout => ?_
  cases out with
  | broadcast c b =>
    by_cases hc : c = client
    · subst hc
      exact absurd hout (h b)
    · exact if_neg hc
  | _ => rfl

/-- One entry of a list without duplicates. -/
theorem filterMap_entry {l : List Nat} (hl : l.Nodup) (client : Nat) (b : Broadcast) :
    (l.filterMap fun c => if c = client then some b else none) =
      if client ∈ l then [b] else [] := by
  induction l with
  | nil => rfl
  | cons c l ih =>
    obtain ⟨hc, hl⟩ := List.nodup_cons.1 hl
    by_cases heq : c = client
    · subst heq
      simp [ih hl, hc]
    · simp [ih hl, heq, Ne.symm heq]

/-- A verified client is notified once. -/
theorem notified_broadcastClients (s : Loop χ) (client : Nat) (b : Broadcast) :
    notified client (s.broadcastClients b) = if s.isVerified client then [b] else [] := by
  have hmem : client ∈ s.clients.keys.filter s.isVerified ↔ s.isVerified client = true := by
    rw [List.mem_filter]
    refine ⟨fun h => h.2, fun h => ⟨?_, h⟩⟩
    have hlookup : s.clients.lookup client = some true := by simpa [Loop.isVerified] using h
    exact AList.mem_keys.1 (AList.lookup_isSome.1 (by rw [hlookup]; rfl))
  have hentries := filterMap_entry (s.clients.keys_nodup.filter s.isVerified) client b
  simp only [hmem] at hentries
  rw [← hentries, notified, Loop.broadcastClients, List.filterMap_map]
  rfl

theorem notified_onParams {α : Type} {params : Option (Params α)} {b : α → Broadcast}
    (h : onParams s params (fun info => some (s, s.broadcastClients (b info))) = some (s', outs))
    (client : Nat) :
    notified client outs = if s.isVerified client then announced b params else [] := by
  unfold onParams at h
  split at h
  · cases h
    exact notified_broadcastClients s client _
  · rename_i params hread
    cases h
    cases params with
    | read info => exact absurd rfl (hread info)
    | absent | notJson | refused => exact (ite_self []).symm
  · cases h

theorem notified_streamsCommand (h : handleRequestStreamsCommand env a s req = some (s', outs))
    (pipe : PipeClient) (client : Nat) : notified client outs =
      if s.isVerified client then published env a s (.pipeData pipe (.request req)) else [] := by
  unfold handleRequestStreamsCommand at h
  show _ = if s.isVerified client then (if _ then _ else if _ then _ else []) else []
  split at h
  · rename_i hmethod
    rw [if_pos hmethod]
    exact notified_onParams h client
  · rename_i hmethod
    rw [if_neg hmethod]
    split at h
    · rename_i hmethod'
      rw [if_pos hmethod']
      exact notified_onParams h client
    · rename_i hmethod'
      cases h
      rw [if_neg hmethod', ite_self]
      rfl

theorem notified_pipeData {pipe : PipeClient} {data : Data}
    (h : pipeDataReceived env a s pipe data = some (s', outs)) (client : Nat) :
    notified client outs =
      if s.isVerified client then published env a s (.pipeData pipe data) else [] := by
  cases data with
  | readError | notJsonRpc | response =>
    cases h
    exact (ite_self []).symm
  | request req => exact notified_streamsCommand h pipe client

/-- An event notifies the verified clients of what it has to announce. -/
theorem notified_handle {calls : SysCalls s.base} {input : Input}
    (h : handle env a s calls input = some (s', outs)) (client : Nat) :
    notified client outs = if s.isVerified client then published env a s input else [] := by
  have hquiet (hbroadcast : ∀ b, .broadcast client b ∉ outs)
      (hnone : published env a s input = []) :
      notified client outs = if s.isVerified client then published env a s input else [] := by
    rw [notified_eq_nil hbroadcast, hnone, ite_self]
  cases input with
  | pipeData pipe data =>
    simp only [handle] at h
    split at h
    · exact notified_pipeData h client
    · cases h
  | accepted c =>
    cases reacted_of_handle h
    exact hquiet (fun _ => List.not_mem_nil) rfl
  | daemonData c data =>
    cases reacted_of_handle h with
    | closed | responded => exact hquiet (fun _ => List.not_mem_nil) rfl
    | requested _ _ _ _ _ h => exact hquiet (fun _ => no_broadcast_of_requested h) rfl
  | childStatusChanged pid status =>
    cases reacted_of_handle h with
    | exited _ _ channel hfind =>
      simp only [published, hfind, Option.toList_some, List.map_cons, List.map_nil]
      exact notified_broadcastClients s client _
  | httpRequest file =>
    cases reacted_of_handle h with
    | vodIgnored | vodFull | vodStarted => exact hquiet (fun _ => List.not_mem_nil) rfl
  | timerEmited timer =>
    cases reacted_of_handle h with
    | pinged =>
      refine hquiet (fun b hmem => ?_) rfl
      obtain ⟨c, id, text, heq⟩ := mem_pingClients hmem
      cases heq
    | nodeStats => exact notified_broadcastClients s client _
    | cleanupFiles => exact hquiet (by simp) rfl
    | quit => exact hquiet (fun _ => List.not_mem_nil) rfl

theorem notified_react {e : Event} (h : react env s e = some (s', outs)) (client : Nat) :
    notified client outs =
      if s.isVerified client then published env e.answers s e.input else [] := by
  unfold react at h
  split at h
  · split at h
    · exact notified_handle h client
    · cases h
  · cases h

/-- **Notifications**: over any run a client is notified of all that is announced while it is
verified, once and in order, and of nothing else. -/
theorem heard_of_run {es : List Event} (h : Transcript.run (react env) s es = some (s', outs))
    (client : Nat) : notified client outs = heard env client s es := by
  induction es generalizing s outs with
  | nil =>
    cases h
    rfl
  | cons e es ih =>
    obtain ⟨s₁, sent, rest, hreact, hrun, rfl⟩ := Transcript.run_cons h
    have hstep : step env s e = some s₁ := by rw [step, hreact, Option.map_some]
    rw [notified_append, notified_react hreact, ih hrun, heard, hstep]

/-- A stream is started and ends. -/
def exitRun : List Event := startRun ++ [⟨.childStatusChanged 77 (.signaled 9), {}⟩]

theorem heard_exitRun : ∃ s outs,
    Transcript.run (react sampleEnv) (.init {0, 1, 2}) exitRun = some (s, outs) ∧
      (notified 3 outs).length = 1 ∧
      notified 3 outs = heard sampleEnv 3 (.init {0, 1, 2}) exitRun := by
  have hrun : (Transcript.run (react sampleEnv) (.init {0, 1, 2}) exitRun).map
      (fun p => (notified 3 p.2).length) = some 1 := by
    decide
  obtain ⟨⟨s, outs⟩, hexec, hlength⟩ := Option.map_eq_some_iff.1 hrun
  exact ⟨s, outs, hexec, hlength, heard_of_run hexec 3⟩

end IptvCloud.Server.Daemon
