import IptvCloud.Server.Proof.DaemonLoop

/-!
# The end of a child and of the service

An observer of the loop keeps a record of every child that was started (`Watched`): which of its
events were delivered and whether a stop was written to its pipe. `tracked_observe`: the children
and the pipe clients of the loop are those of the records. `exitsClean_iff`: the exit of a child
finds its client null exactly when a read of its pipe has failed before. `stopReached_along`: when
the service quits, a stop was written to every child, if none was started while it was stopping and
none had lost its pipe when it began to.
-/

namespace IptvCloud.Server.Daemon

open Run

variable {χ δ : Type} {env : Env χ δ}

/-! ## The observer -/

/-- A child that was started: what it is, and whether a read of its pipe and a failed one were
delivered, whether its exit was, and whether a stop was written to its pipe. -/
structure Watched where
  streamId : String
  pid : Nat
  mem : Nat
  pipe : PipeClient
  read : Bool := false
  failed : Bool := false
  exited : Bool := false
  stopSent : Bool := false

/-- The registered child of a record. -/
def Watched.child (w : Watched) : Child :=
  ⟨w.streamId, w.pid, .stream w.mem, if w.failed then none else some w.pipe⟩

/-- The record of a new child. -/
def Child.watch : Child → Option Watched
  | ⟨streamId, pid, .stream mem, some pipe⟩ => some { streamId, pid, mem, pipe }
  | _ => none

/-- The record after an event. -/
def Watched.onInput (w : Watched) : Input → Watched
  | .pipeData pipe data =>
    if w.pipe = pipe && !w.failed then { w with read := true, failed := data.fails } else w
  | .childStatusChanged pid _ => if w.pid = pid && !w.exited then { w with exited := true } else w
  | _ => w

/-- The record after commands were written. -/
def Watched.onSent (w : Watched) (commands : List (PipeClient × Command)) : Watched :=
  if !w.failed && (w.pipe, .stop) ∈ commands then { w with stopSent := true } else w

/-- The loop with its observer. -/
structure Observed (χ : Type) where
  loop : Loop χ
  seen : List Watched := []

/-- The records after an event that sends `outs` and leads to `s'`. -/
def record (s : Loop χ) (input : Input) (s' : Loop χ) (outs : List Out) (seen : List Watched) :
    List Watched :=
  seen.map (fun w => (w.onInput input).onSent (commandsSent outs)) ++
    (s'.base.children.drop s.base.children.length).filterMap Child.watch

/-- `react` with the observer. -/
def observe (env : Env χ δ) (o : Observed χ) (e : Event) : Option (Observed χ) :=
  (react env o.loop e).map fun (s', outs) => ⟨s', record o.loop e.input s' outs o.seen⟩

/-- The children and the pipe clients of the loop are those of the records. -/
structure Tracked (s : Loop χ) (seen : List Watched) : Prop where
  children : s.base.children = (seen.filter (!·.exited)).map Watched.child
  pipes : s.base.pipeClients = (seen.filter (!·.failed)).map Watched.pipe
  named : ∀ w ∈ seen, w.pipe.name = w.streamId

/-! ## Records -/

section
variable {s s' : Loop χ} {seen : List Watched} {w : Watched}

/-- Commands change only `stopSent`. -/
theorem onSent_same (w : Watched) (commands : List (PipeClient × Command)) :
    (w.onSent commands).child = w.child ∧ (w.onSent commands).exited = w.exited ∧
      (w.onSent commands).failed = w.failed ∧ (w.onSent commands).read = w.read ∧
      (w.onSent commands).pipe = w.pipe := by
  unfold Watched.onSent
  split
  · exact ⟨rfl, rfl, rfl, rfl, rfl⟩
  · exact ⟨rfl, rfl, rfl, rfl, rfl⟩

theorem Tracked.mem_children (h : Tracked s seen) (hw : w ∈ seen) (hlive : w.exited = false) :
    w.child ∈ s.base.children := by
  rw [h.children]
  exact List.mem_map_of_mem (List.mem_filter.2 ⟨hw, by simp [hlive]⟩)

theorem Tracked.exists_of_child (h : Tracked s seen) {child : Child}
    (hc : child ∈ s.base.children) : ∃ w ∈ seen, w.exited = false ∧ w.child = child := by
  rw [h.children] at hc
  obtain ⟨w, hw, rfl⟩ := List.mem_map.1 hc
  obtain ⟨hw, hlive⟩ := List.mem_filter.1 hw
  exact ⟨w, hw, by simpa using hlive, rfl⟩

/-- The records change by `f`, as the children and the pipe clients do. -/
theorem Tracked.map (h : Tracked s seen) (f : Watched → Watched)
    (hchildren : s'.base.children = ((seen.map f).filter (!·.exited)).map Watched.child)
    (hpipes : s'.base.pipeClients = ((seen.map f).filter (!·.failed)).map Watched.pipe)
    (hname : ∀ w, (f w).pipe = w.pipe ∧ (f w).streamId = w.streamId) :
    Tracked s' (seen.map f) := by
  refine ⟨hchildren, hpipes, fun w hw => ?_⟩
  obtain ⟨w₀, hw₀, rfl⟩ := List.mem_map.1 hw
  rw [(hname w₀).1, (hname w₀).2]
  exact h.named w₀ hw₀

/-- The records change, the children and the pipe clients do not. -/
theorem Tracked.map_same (h : Tracked s seen) (f : Watched → Watched)
    (hf : ∀ w, (f w).child = w.child ∧ (f w).exited = w.exited ∧ (f w).failed = w.failed ∧
      (f w).pipe = w.pipe)
    (hchildren : s'.base.children = s.base.children)
    (hpipes : s'.base.pipeClients = s.base.pipeClients) : Tracked s' (seen.map f) := by
  refine h.map f ?_ ?_ fun w => ⟨(hf w).2.2.2, congrArg Child.streamId (hf w).1⟩
  · simp only [hchildren, h.children, List.filter_map, List.map_map, Function.comp_def, hf]
  · simp only [hpipes, h.pipes, List.filter_map, List.map_map, Function.comp_def, hf]

/-- The record of an event that starts no child. -/
theorem record_eq {input : Input} {outs : List Out}
    (hlen : s'.base.children.length ≤ s.base.children.length) :
    record s input s' outs seen =
      seen.map fun w => (w.onInput input).onSent (commandsSent outs) := by
  rw [record, List.drop_of_length_le hlen, List.filterMap_nil, List.append_nil]

/-- Events that are neither a read nor an exit. -/
def Input.isOther : Input → Bool
  | .pipeData _ _ | .childStatusChanged _ _ => false
  | _ => true

theorem onInput_other {input : Input} (h : input.isOther = true) (w : Watched) :
    w.onInput input = w := by
  cases input with
  | pipeData | childStatusChanged => cases h
  | accepted | daemonData | httpRequest | timerEmited => rfl

theorem Tracked.other (h : Tracked s seen) {input : Input} {outs : List Out}
    (hinput : input.isOther = true) (hchildren : s'.base.children = s.base.children)
    (hpipes : s'.base.pipeClients = s.base.pipeClients) :
    Tracked s' (record s input s' outs seen) := by
  rw [record_eq (by rw [hchildren])]
  refine h.map_same _ (fun w => ?_) hchildren hpipes
  rw [onInput_other hinput]
  obtain ⟨hc, he, hf, -, hp⟩ := onSent_same w (commandsSent outs)
  exact ⟨hc, he, hf, hp⟩

/-- A start. -/
theorem Tracked.create (h : Tracked s seen) {calls : SysCalls s.base} {args : ArgsMap}
    {err : Option Error} {input : Input} {outs : List Out} {a : Answers}
    (hinput : input.isOther = true)
    (hcreate : s.createChildStream env a calls args = some (s', err)) :
    Tracked s' (record s input s' outs seen) := by
  obtain ⟨info, started, base, hbase, rfl, -⟩ := loop_createChildStream hcreate
  obtain ⟨fds, mappings, rfl, -⟩ |
    ⟨id, pid, command, responce, -, -, -, -, -, -, -, heq⟩ := createChildStream_cases hbase
  · exact h.other hinput rfl rfl
  · have hold : Tracked s (seen.map fun w => (w.onInput input).onSent (commandsSent outs)) := by
      refine h.map_same _ (fun w => ?_) rfl rfl
      rw [onInput_other hinput]
      obtain ⟨hc, he, hf, -, hp⟩ := onSent_same w (commandsSent outs)
      exact ⟨hc, he, hf, hp⟩
    rw [heq, record]
    refine ⟨?_, ?_, fun w hw => ?_⟩
    · simp [hold.children, Child.watch, Watched.child]
    · simp [hold.pipes, Child.watch]
    · obtain hw | hw := List.mem_append.1 hw
      · exact hold.named w hw
      · simp only [List.drop_left, List.filterMap_cons, Child.watch, List.filterMap_nil,
          List.mem_singleton] at hw
        rw [hw]

/-- A failed read takes the pipe from the record. -/
theorem onInput_fails (pipe : PipeClient) {data : Data} (hfails : data.fails = true) (w : Watched) :
    (w.onInput (.pipeData pipe data)).child = w.child.dropClient pipe ∧
    (w.onInput (.pipeData pipe data)).exited = w.exited ∧
    (w.onInput (.pipeData pipe data)).failed = (w.failed || w.pipe = pipe) ∧
    (w.onInput (.pipeData pipe data)).pipe = w.pipe := by
  unfold Watched.onInput Watched.child Child.dropClient
  cases hf : w.failed with
  | true => simp [hf]
  | false =>
    by_cases hp : w.pipe = pipe
    · simp [hp, hfails]
    · simp [hp, hf]

theorem Tracked.closePipe (h : Tracked s seen) (pipe : PipeClient) {data : Data} {outs : List Out}
    (hfails : data.fails = true) :
    Tracked { s with base := s.base.closePipe pipe }
      (record s (.pipeData pipe data) { s with base := s.base.closePipe pipe } outs seen) := by
  rw [record_eq (by simp [State.closePipe, closeDescriptor])]
  have hf (w : Watched) :
      ((w.onInput (.pipeData pipe data)).onSent (commandsSent outs)).child =
        w.child.dropClient pipe ∧
      ((w.onInput (.pipeData pipe data)).onSent (commandsSent outs)).exited = w.exited ∧
      ((w.onInput (.pipeData pipe data)).onSent (commandsSent outs)).failed =
        (w.failed || w.pipe = pipe) ∧
      ((w.onInput (.pipeData pipe data)).onSent (commandsSent outs)).pipe = w.pipe := by
    obtain ⟨hc, he, hf, -, hp⟩ := onSent_same (w.onInput (.pipeData pipe data)) (commandsSent outs)
    rw [hc, he, hf, hp]
    exact onInput_fails pipe hfails w
  refine h.map _ ?_ ?_ fun w => ⟨(hf w).2.2.2, ?_⟩
  · simp only [State.closePipe, closeDescriptor, h.children, List.filter_map, List.map_map,
      Function.comp_def, hf]
  · simp only [State.closePipe, closeDescriptor, h.pipes, List.filter_map, List.map_map,
      Function.comp_def, hf, List.filter_filter]
    refine congrArg _ (List.filter_congr fun w _ => ?_)
    cases w.failed <;> simp
  · exact (congrArg Child.streamId (hf w).1).trans (dropClient_streamId pipe w.child)

/-- A read that does not fail leaves the record as it is, but for the read. -/
theorem onInput_reads (pipe : PipeClient) {data : Data} (hfails : data.fails = false)
    (w : Watched) :
    (w.onInput (.pipeData pipe data)).child = w.child ∧
    (w.onInput (.pipeData pipe data)).exited = w.exited ∧
    (w.onInput (.pipeData pipe data)).failed = w.failed ∧
    (w.onInput (.pipeData pipe data)).pipe = w.pipe := by
  unfold Watched.onInput Watched.child
  cases hf : w.failed with
  | true => simp [hf]
  | false =>
    by_cases hp : w.pipe = pipe
    · simp [hp, hfails]
    · simp [hp, hf]

theorem Tracked.piped (h : Tracked s seen) (pipe : PipeClient) {data : Data} {outs : List Out}
    (hfails : data.fails = false) :
    Tracked s (record s (.pipeData pipe data) s outs seen) := by
  rw [record_eq le_rfl]
  refine h.map_same _ (fun w => ?_) rfl rfl
  obtain ⟨hc, he, hf, -, hp⟩ := onSent_same (w.onInput (.pipeData pipe data)) (commandsSent outs)
  rw [hc, he, hf, hp]
  exact onInput_reads pipe hfails w

/-- An exit ends the record. -/
theorem onInput_exits (pid : Nat) (status : ExitStatus) (w : Watched) :
    (w.onInput (.childStatusChanged pid status)).child = w.child ∧
    (w.onInput (.childStatusChanged pid status)).exited = (w.exited || w.pid = pid) ∧
    (w.onInput (.childStatusChanged pid status)).failed = w.failed ∧
    (w.onInput (.childStatusChanged pid status)).pipe = w.pipe := by
  unfold Watched.onInput Watched.child
  cases he : w.exited with
  | true => simp [he]
  | false =>
    by_cases hp : w.pid = pid
    · simp [hp]
    · simp [hp, he]

theorem Tracked.removeChild (h : Tracked s seen) {pid : Nat} {status : ExitStatus} {channel : Child}
    {outs : List Out} (hpid : channel.pid = pid) :
    Tracked { s with base := s.base.removeChild channel }
      (record s (.childStatusChanged pid status) { s with base := s.base.removeChild channel } outs
        seen) := by
  obtain ⟨hchildren, hpipes⟩ := removeChild_children s.base channel
  rw [record_eq (by rw [hchildren]; exact List.length_filter_le _ _)]
  have hf (w : Watched) :
      ((w.onInput (.childStatusChanged pid status)).onSent (commandsSent outs)).child = w.child ∧
      ((w.onInput (.childStatusChanged pid status)).onSent (commandsSent outs)).exited =
        (w.exited || w.pid = pid) ∧
      ((w.onInput (.childStatusChanged pid status)).onSent (commandsSent outs)).failed = w.failed ∧
      ((w.onInput (.childStatusChanged pid status)).onSent (commandsSent outs)).pipe = w.pipe := by
    obtain ⟨hc, he, hf, -, hp⟩ :=
      onSent_same (w.onInput (.childStatusChanged pid status)) (commandsSent outs)
    rw [hc, he, hf, hp]
    exact onInput_exits pid status w
  refine h.map _ ?_ ?_ fun w => ⟨(hf w).2.2.2, congrArg Child.streamId (hf w).1⟩
  · simp only [hchildren, h.children, List.filter_map, List.map_map, Function.comp_def, hf, hpid,
      List.filter_filter]
    refine congrArg _ (List.filter_congr fun w _ => ?_)
    by_cases hw : w.pid = pid <;> simp [Watched.child, hw]
  · simp only [hpipes, h.pipes, List.filter_map, List.map_map, Function.comp_def, hf]

end

/-- The observer keeps track of the loop. -/
theorem tracked_react {s s' : Loop χ} {seen : List Watched} {e : Event} {outs : List Out}
    (hs : Tracked s seen) (h : react env s e = some (s', outs)) :
    Tracked s' (record s e.input s' outs seen) := by
  obtain ⟨-, calls, -, h⟩ := reacted_of_react h
  generalize e.input = input at h ⊢
  cases h with
  | accepted | closed => exact hs.other rfl rfl rfl
  | requested client hclient req s' outs h =>
    cases h with
    | started hv hmethod info hread args hargs s' err hcreate => exact hs.create rfl hcreate
    | silent | refused | activated | answered | commanded | prepared | synced | stopping
    | stopped =>
      exact hs.other rfl rfl rfl
  | responded | vodIgnored | nodeStats | cleanupFiles | quit => exact hs.other rfl rfl rfl
  | vodFull file args hlink s₁ hcheck =>
    obtain ⟨fds, -, rfl⟩ := hcheck.same
    exact hs.other rfl rfl rfl
  | pipeClosed pipe hpipe data hfails => exact hs.closePipe pipe hfails
  | piped pipe hpipe data hfails sent => exact hs.piped pipe hfails
  | exited pid status channel hfind =>
    exact hs.removeChild (by simpa using List.find?_some hfind)
  | vodStarted file args hlink s₁ hcheck calls₁ hcalls₁ s' err hcreate =>
    -- the check opens a file and starts nothing
    obtain ⟨fds, -, rfl⟩ := hcheck.same
    have hchecked : Tracked { s with base := { s.base with fds } } seen :=
      ⟨hs.children, hs.pipes, hs.named⟩
    exact hchecked.create rfl hcreate
  | pinged =>
    have hsame := pingClients_cases (a := e.answers) (s := s)
      (P := fun s₁ => s₁.base.children = s.base.children ∧ s₁.base.pipeClients = s.base.pipeClients)
      s.clients.keys ⟨rfl, rfl⟩ (fun _ _ h => h) fun _ _ h => h
    exact hs.other rfl hsame.1 hsame.2

theorem observe_eq_some {o o' : Observed χ} {e : Event} (h : observe env o e = some o') :
    ∃ s' outs, react env o.loop e = some (s', outs) ∧
      o' = ⟨s', record o.loop e.input s' outs o.seen⟩ := by
  obtain ⟨⟨s', outs⟩, hreact, rfl⟩ := Option.map_eq_some_iff.1 h
  exact ⟨s', outs, hreact, rfl⟩

/-- A record that was there before. -/
theorem record_getElem? {s s' : Loop χ} {input : Input} {outs : List Out} {seen : List Watched}
    {i : Nat} {w : Watched} (h : seen[i]? = some w) :
    (record s input s' outs seen)[i]? = some ((w.onInput input).onSent (commandsSent outs)) := by
  obtain ⟨hi, rfl⟩ := List.getElem?_eq_some_iff.1 h
  rw [record, List.getElem?_append_left (by simpa using hi), List.getElem?_map, h, Option.map_some]

/-! ## Exits -/

/-- Neither the child nor its pipe client is registered, and its memory is not mapped. -/
structure Gone (s : State) (w : Watched) : Prop where
  child : ∀ child ∈ s.children, child.pid ≠ w.pid
  pipe : w.pipe ∉ s.pipeClients
  mem : w.mem ∉ s.mappings

theorem Gone.congr {s : State} {w w' : Watched} (hchild : w'.child = w.child)
    (hpipe : w'.pipe = w.pipe) : Gone s w' ↔ Gone s w := by
  have hpid : w'.pid = w.pid := congrArg Child.pid hchild
  have hmem : w'.mem = w.mem := ChildKind.stream.inj (congrArg Child.kind hchild)
  constructor
  · intro h
    exact ⟨hpid ▸ h.child, hpipe ▸ h.pipe, hmem ▸ h.mem⟩
  · intro h
    exact ⟨hpid ▸ h.child, hpipe ▸ h.pipe, hmem ▸ h.mem⟩

/-- The exit of a child finds its client null, and a child is gone after the second of its exit and
a read of its pipe. -/
def ExitsClean (env : Env χ δ) (o : Observed χ) (e : Event) : Prop :=
  (∀ pid status, e.input = .childStatusChanged pid status → ∀ child ∈ o.loop.base.children,
    child.pid = pid → child.client = none) ∧
  ∀ o', observe env o e = some o' → ∀ (i : Nat) w w', o.seen[i]? = some w → o'.seen[i]? = some w' →
    (w.exited && w.read) = false → (w'.exited && w'.read) = true → Gone o'.loop.base w'

/-- A failed read of the pipe of a child is delivered before its exit. -/
def PipeFailsFirst (o : Observed χ) (e : Event) : Prop :=
  ∀ pid status, e.input = .childStatusChanged pid status → ∀ w ∈ o.seen, w.pid = pid →
    w.exited = false → w.failed = true

/-- What holds while every exit comes after a failed read. -/
structure ExitInv (o : Observed χ) : Prop where
  registered : Registered o.loop.base
  tracked : Tracked o.loop o.seen
  failed : ∀ w ∈ o.seen, w.exited = true → w.failed = true

section
variable {o o' : Observed χ} {e : Event} {w : Watched}

theorem child_client_eq_none : w.child.client = none ↔ w.failed = true := by
  unfold Watched.child
  split
  · rename_i h
    simp [h]
  · rename_i h
    simp [h]

/-- The pipe of a live child that has failed is not registered any more. -/
theorem ExitInv.pipe_not_mem (hI : ExitInv o) (hw : w ∈ o.seen) (hlive : w.exited = false)
    (hfailed : w.failed = true) : w.pipe ∉ o.loop.base.pipeClients := by
  rw [hI.tracked.pipes]
  intro hmem
  obtain ⟨w', hw', heq⟩ := List.mem_map.1 hmem
  obtain ⟨hw', hopen⟩ := List.mem_filter.1 hw'
  have hopen : w'.failed = false := by simpa using hopen
  -- the pipe that is registered belongs to a live child, and carries the id of that child
  have hlive' : w'.exited = false := by
    by_contra hexited
    rw [hI.failed w' hw' (by simpa using hexited)] at hopen
    cases hopen
  have hid : w'.child.streamId = w.child.streamId := by
    show w'.streamId = w.streamId
    rw [← hI.tracked.named w' hw', heq, hI.tracked.named w hw]
  have hsame : w'.child = w.child := List.inj_on_of_nodup_map hI.registered.ids
    (hI.tracked.mem_children hw' hlive') (hI.tracked.mem_children hw hlive) hid
  have hclient := child_client_eq_none.2 hfailed
  rw [← hsame, child_client_eq_none, hopen] at hclient
  cases hclient

theorem ExitInv.gone (hI : ExitInv o) {pid : Nat} {status : ExitStatus} {s' : Loop χ}
    {outs : List Out} (hinput : e.input = .childStatusChanged pid status)
    (hreact : react env o.loop e = some (s', outs)) (hw : w ∈ o.seen) (hpid : w.pid = pid)
    (hlive : w.exited = false) (hfailed : w.failed = true) : Gone s'.base w := by
  obtain ⟨-, calls, -, h⟩ := reacted_of_react hreact
  rw [hinput] at h
  cases h with
  | exited pid status channel hfind =>
    have hpid' : channel.pid = pid := by simpa using List.find?_some hfind
    have hchild := hI.tracked.mem_children hw hlive
    have hsame : channel = w.child := List.inj_on_of_nodup_map hI.registered.pids
      (List.mem_of_find?_eq_some hfind) hchild (hpid'.trans hpid.symm)
    obtain ⟨hchildren, hpipes⟩ := removeChild_children o.loop.base channel
    refine ⟨fun child hc => ?_, ?_, ?_⟩
    · rw [hchildren] at hc
      rw [hpid, ← hpid']
      simpa using (List.mem_filter.1 hc).2
    · rw [hpipes]
      exact hI.pipe_not_mem hw hlive hfailed
    · rw [hsame]
      exact Finset.notMem_erase _ _

theorem exitsClean_iff_pipeFailsFirst (hI : ExitInv o) (e : Event) :
    ExitsClean env o e ↔ PipeFailsFirst o e := by
  constructor
  · rintro ⟨hclean, -⟩ pid status hinput w hw hpid hlive
    exact child_client_eq_none.1 (hclean pid status hinput w.child
      (hI.tracked.mem_children hw hlive) hpid)
  · intro hfirst
    refine ⟨fun pid status hinput child hchild hpid => ?_,
      fun o' ho' i w w' hw hw' hbefore hafter => ?_⟩
    · obtain ⟨w, hw, hlive, rfl⟩ := hI.tracked.exists_of_child hchild
      exact child_client_eq_none.2 (hfirst pid status hinput w hw hpid hlive)
    · obtain ⟨s', outs, hreact, rfl⟩ := observe_eq_some ho'
      rw [record_getElem? hw] at hw'
      cases hw'
      have hmem := List.mem_of_getElem? hw
      obtain ⟨hc, he, hf, hr, hp⟩ := onSent_same (w.onInput e.input) (commandsSent outs)
      rw [he, hr] at hafter
      cases hinput : e.input with
      | accepted | daemonData | httpRequest | timerEmited =>
        rw [onInput_other (by rw [hinput]; rfl), hbefore] at hafter
        cases hafter
      | pipeData pipe data =>
        -- the pipe of a child that has exited is closed: its record does not change
        rw [hinput, Watched.onInput] at hafter
        split at hafter
        · rename_i hmatch
          simp only [Bool.and_true] at hafter
          simp [hI.failed w hmem hafter] at hmatch
        · rw [hbefore] at hafter
          cases hafter
      | childStatusChanged pid status =>
        have hexits := onInput_exits pid status w
        rw [hinput] at hc hp hafter
        rw [Gone.congr (hc.trans hexits.1) (hp.trans hexits.2.2.2)]
        rw [Watched.onInput] at hafter
        split at hafter
        · rename_i hmatch
          obtain ⟨hpid, hlive⟩ : w.pid = pid ∧ w.exited = false := by simpa using hmatch
          exact hI.gone hinput hreact hmem hpid hlive (hfirst pid status hinput w hmem hpid hlive)
        · rw [hbefore] at hafter
          cases hafter

/-- The records that an event adds are of children that have neither failed nor exited. -/
theorem mem_record {s s' : Loop χ} {input : Input} {outs : List Out} {seen : List Watched}
    (h : w ∈ record s input s' outs seen) :
    (∃ w₀ ∈ seen, w = (w₀.onInput input).onSent (commandsSent outs)) ∨
      ∃ child ∈ s'.base.children.drop s.base.children.length, child.watch = some w := by
  obtain h | h := List.mem_append.1 h
  · obtain ⟨w₀, hw₀, rfl⟩ := List.mem_map.1 h
    exact .inl ⟨w₀, hw₀, rfl⟩
  · exact .inr (List.mem_filterMap.1 h)

theorem watch_exited {child : Child} (h : child.watch = some w) : w.exited = false := by
  unfold Child.watch at h
  split at h
  · cases h
    rfl
  · cases h

theorem exitInv_observe (hI : ExitInv o) (hfirst : PipeFailsFirst o e)
    (h : observe env o e = some o') : ExitInv o' := by
  obtain ⟨s', outs, hreact, rfl⟩ := observe_eq_some h
  refine ⟨registered_react hI.registered hreact, tracked_react hI.tracked hreact,
    fun w hw hexited => ?_⟩
  obtain ⟨w₀, hw₀, rfl⟩ | ⟨child, -, hwatch⟩ := mem_record hw
  · obtain ⟨-, he, hf, -, -⟩ := onSent_same (w₀.onInput e.input) (commandsSent outs)
    rw [he] at hexited
    rw [hf]
    cases hinput : e.input with
    | accepted | daemonData | httpRequest | timerEmited =>
      rw [onInput_other (by rw [hinput]; rfl)] at hexited
      exact hI.failed w₀ hw₀ hexited
    | pipeData pipe data =>
      rw [hinput, Watched.onInput] at hexited
      rw [Watched.onInput]
      split
      · rename_i hmatch
        rw [if_pos hmatch] at hexited
        simp [hI.failed w₀ hw₀ hexited] at hmatch
      · rename_i hmatch
        rw [if_neg hmatch] at hexited
        exact hI.failed w₀ hw₀ hexited
    | childStatusChanged pid status =>
      obtain ⟨-, hexits, hsame, -⟩ := onInput_exits pid status w₀
      rw [hinput, hexits] at hexited
      rw [hsame]
      cases hlive : w₀.exited with
      | true => exact hI.failed w₀ hw₀ hlive
      | false => exact hfirst pid status hinput w₀ hw₀ (by simpa [hlive] using hexited) hlive
  · rw [watch_exited hwatch] at hexited
    cases hexited

end

/-- **Exit and pipe in any order**: over every run of the loop, each exit finds the client of its
child null and each child is gone after both of its events, exactly when a failed read of the pipe
is delivered before each exit. -/
theorem exitsClean_iff (env : Env χ δ) (fds : Finset Nat) (es : List Event) :
    Along (observe env) (ExitsClean env) ⟨.init fds, []⟩ es ↔
      Along (observe env) PipeFailsFirst ⟨.init fds, []⟩ es :=
  along_iff (I := ExitInv) (fun _ e hI => exitsClean_iff_pipeFailsFirst hI e)
    (fun _ _ _ hI hfirst h => exitInv_observe hI hfirst h)
    ⟨registered_init fds, ⟨rfl, rfl, nofun⟩, nofun⟩

/-- The stream is killed. -/
def streamKilled : Event := ⟨.childStatusChanged 77 (.signaled 9), {}⟩

/-- The exit of a stream is delivered before the end of its pipe. -/
theorem exitsClean_fails : ¬ Along (observe sampleEnv) (ExitsClean sampleEnv) ⟨.init {0, 1, 2}, []⟩
    (startRun ++ [streamKilled]) := by
  intro h
  have hrun : (exec (observe sampleEnv) ⟨.init {0, 1, 2}, []⟩ startRun).map
      (·.loop.base.children) = some [⟨"stream", 77, .stream 4096, some samplePipe⟩] := by
    decide
  obtain ⟨o, hexec, hchildren⟩ := Option.map_eq_some_iff.1 hrun
  have hclient := (h.append hexec).1.1 77 _ rfl _ (hchildren ▸ List.mem_singleton_self _) rfl
  cases hclient

/-! ## The end of the service -/

/-- When the quit timer fires, a stop was written to the pipe of every registered child. -/
def StopReached (o : Observed χ) (e : Event) : Prop :=
  e.input = .timerEmited .quitCleanup → o.loop.running = true → o.loop.quitTimer = true →
    ∀ child ∈ o.loop.base.children, ∃ w ∈ o.seen, w.exited = false ∧ w.child = child ∧
      w.stopSent = true

/-- The event asks for a stream with the argument map: a `start_stream` with the right to it, or the
playlist of a VOD that does not pass for a full one. -/
def AsksStream (env : Env χ δ) (s : Loop χ) (e : Event) (args : ArgsMap) : Prop :=
  (∃ client req info, e.input = .daemonData client (.request req) ∧ s.isVerified client = true ∧
    req.method = "start_stream" ∧
    readParams env.cm (StartInfo.doDeSerialize env.cm.co) req = some (.read info) ∧
    env.validateConfig info.config = some args) ∨
  ∃ file, e.input = .httpRequest file ∧
    s.vodsLinks.lookup (env.paths.getDirectory file) = some args ∧
    (Vods.checkIsFullVod env.convert env.paths e.answers.files file []).1 = false

/-- The stream is new and all calls for it succeed. -/
def StartsStream (env : Env χ δ) (s : Loop χ) (e : Event) : Prop :=
  ∃ args info command responce pid, AsksStream env s e args ∧
    makeStreamInfo env.cm e.answers.createAndCheckDir args true = .ok info ∧
    findChildByID s.base info.id = none ∧ e.answers.mmap ≠ mapFailed ∧
    e.answers.commandPipe = .ok command ∧ e.answers.responcePipe = .ok responce ∧
    e.answers.fork = some pid

/-- A `stop_service` with the right to it. -/
def StopsService (env : Env χ δ) (s : Loop χ) (input : Input) : Prop :=
  ∃ client req info, input = .daemonData client (.request req) ∧ req.method = "stop_service" ∧
    readParams env.cm (StopServiceInfo.doDeSerialize env.cm.co) req = some (.read info) ∧
    (info.license = env.licenseKey ∨ s.isVerified client = true)

/-- No stream starts while the service stops, and a child without its pipe was stopped before the
service is. -/
structure StopCovers (env : Env χ δ) (o : Observed χ) (e : Event) : Prop where
  starts : o.loop.quitTimer = true → ¬ StartsStream env o.loop e
  pipes : o.loop.quitTimer = false → StopsService env o.loop e.input →
    ∀ w ∈ o.seen, w.exited = false → w.failed = true → w.stopSent = true

/-- While the service stops, a stop was written to every live child. -/
structure StopInv (o : Observed χ) : Prop where
  tracked : Tracked o.loop o.seen
  stopSent : o.loop.quitTimer = true → ∀ w ∈ o.seen, w.exited = false → w.stopSent = true

section
variable {s s' : Loop χ} {o o' : Observed χ} {e : Event} {w : Watched} {outs : List Out}

theorem commandsSent_sendStops {children : List Child} {child : Child} {pipe : PipeClient}
    (hmem : child ∈ children) (hpipe : child.client = some pipe) (id : UInt64) :
    (pipe, .stop) ∈ commandsSent (sendStops children id) := by
  induction children generalizing id with
  | nil => cases hmem
  | cons c children ih =>
    rw [sendStops, commandsSent_append, commandsSent_send, List.mem_append]
    obtain rfl | hmem := List.mem_cons.1 hmem
    · simp [hpipe]
    · exact .inr (ih hmem (id + 1))

/-- A start that adds a child, with the descriptors that are open then. -/
theorem startsStream_of_create {fds : Finset Nat} {calls : SysCalls { s.base with fds }}
    (hcalls : e.answers.calls { s.base with fds } = some calls) {args : ArgsMap}
    {err : Option Error} (hasks : AsksStream env s e args)
    (hcreate : Loop.createChildStream env e.answers { s with base := { s.base with fds } } calls
      args = some (s', err)) {child : Child}
    (hnew : child ∈ s'.base.children.drop s.base.children.length) :
    StartsStream env s e ∧ s'.quitTimer = s.quitTimer := by
  obtain ⟨⟨hmmap, hcommand, hresponce, hfork⟩, -⟩ := calls_spec hcalls
  obtain ⟨info, started, base, hbase, rfl, hinfo⟩ := loop_createChildStream hcreate
  obtain ⟨fds, mappings, rfl, -⟩ |
    ⟨id, pid, command, responce, rfl, hfind, hm, -, hp, hq, hk, -⟩ := createChildStream_cases hbase
  · simp at hnew
  · obtain ⟨streamInfo, hmake, rfl⟩ := hinfo id rfl
    refine ⟨⟨args, streamInfo, command, responce, pid, hasks, hmake, hfind, ?_, ?_, ?_, ?_⟩, rfl⟩
    · rwa [← hmmap]
    · rwa [← hcommand]
    · rwa [← hresponce]
    · rwa [← hfork]

/-- A child is added only by a start. -/
theorem startsStream_of_new (h : react env s e = some (s', outs)) {child : Child}
    (hnew : child ∈ s'.base.children.drop s.base.children.length) :
    StartsStream env s e ∧ s'.quitTimer = s.quitTimer := by
  obtain ⟨-, calls, hcalls, h⟩ := reacted_of_react h
  have same (hlen : s'.base.children.length ≤ s.base.children.length) :
      StartsStream env s e ∧ s'.quitTimer = s.quitTimer := by
    rw [List.drop_of_length_le hlen] at hnew
    cases hnew
  generalize hinput : e.input = input at h
  cases h with
  | requested client hclient req s' outs h =>
    cases h with
    | started hv hmethod info hread args hargs s' err hcreate =>
      exact startsStream_of_create hcalls
        (.inl ⟨client, req, info, hinput, hv, hmethod, hread, hargs⟩) hcreate hnew
    | silent | refused | activated | answered | commanded | prepared | synced | stopping
    | stopped =>
      exact same le_rfl
  | vodFull file args hlink s₁ hcheck =>
    obtain ⟨fds, -, rfl⟩ := hcheck.same
    exact same le_rfl
  | vodStarted file args hlink s₁ hcheck calls₁ hcalls₁ s' err hcreate =>
    have hasks : AsksStream env s e args := .inr ⟨file, hinput, hlink, hcheck.answer⟩
    obtain ⟨fds, -, rfl⟩ := hcheck.same
    exact startsStream_of_create hcalls₁ hasks hcreate hnew
  | pipeClosed pipe => exact same (by simp [State.closePipe, closeDescriptor])
  | exited pid status channel =>
    refine same ?_
    rw [(removeChild_children s.base channel).1]
    exact List.length_filter_le _ _
  | accepted | closed | responded | piped | vodIgnored | nodeStats | cleanupFiles | quit =>
    exact same le_rfl
  | pinged =>
    refine same (pingClients_cases (P := fun s₁ => s₁.base.children.length ≤ s.base.children.length)
      s.clients.keys le_rfl (fun _ _ h => h) fun _ _ h => h)

/-- The timer is set by a `stop_service`, which writes a stop to every pipe. -/
theorem quitTimer_of_react (h : react env s e = some (s', outs)) :
    s'.quitTimer = s.quitTimer ∨ s.quitTimer = false ∧ StopsService env s e.input ∧
      ∀ child ∈ s.base.children, ∀ pipe, child.client = some pipe →
        (pipe, .stop) ∈ commandsSent outs := by
  obtain ⟨-, calls, -, h⟩ := reacted_of_react h
  generalize hinput : e.input = input at h
  cases h with
  | requested client hclient req s' outs h =>
    cases h with
    | stopped hmethod info hread hright hquit =>
      refine .inr ⟨hquit, ⟨client, req, info, rfl, hmethod, hread, hright⟩,
        fun child hc pipe hp => ?_⟩
      rw [commandsSent_append, List.mem_append]
      exact .inl (commandsSent_sendStops hc hp _)
    | started hv hmethod info hread args hargs s' err hcreate =>
      obtain ⟨-, -, -, -, rfl, -⟩ := loop_createChildStream hcreate
      exact .inl rfl
    | silent | refused | activated | answered | commanded | prepared | synced | stopping =>
      exact .inl rfl
  | vodFull file args hlink s₁ hcheck =>
    obtain ⟨fds, -, rfl⟩ := hcheck.same
    exact .inl rfl
  | vodStarted file args hlink s₁ hcheck calls₁ hcalls₁ s' err hcreate =>
    obtain ⟨fds, -, rfl⟩ := hcheck.same
    obtain ⟨-, -, -, -, rfl, -⟩ := loop_createChildStream hcreate
    exact .inl rfl
  | accepted | closed | responded | pipeClosed | piped | exited | vodIgnored | nodeStats |
      cleanupFiles | quit => exact .inl rfl
  | pinged =>
    exact .inl (pingClients_cases (P := fun s₁ => s₁.quitTimer = s.quitTimer) s.clients.keys rfl
      (fun _ _ h => h) fun _ _ h => h)

/-- What has exited stays so, and so does what was stopped. -/
theorem onInput_mono (w : Watched) (input : Input) :
    (w.exited = true → (w.onInput input).exited = true) ∧
      (w.onInput input).stopSent = w.stopSent := by
  unfold Watched.onInput
  split
  · split <;> exact ⟨id, rfl⟩
  · split
    · exact ⟨fun _ => rfl, rfl⟩
    · exact ⟨id, rfl⟩
  · exact ⟨id, rfl⟩

theorem onSent_stopSent {commands : List (PipeClient × Command)}
    (h : w.stopSent = true ∨ w.failed = false ∧ (w.pipe, .stop) ∈ commands) :
    (w.onSent commands).stopSent = true := by
  unfold Watched.onSent
  split
  · rfl
  · rename_i hnot
    obtain h | ⟨hopen, hmem⟩ := h
    · exact h
    · simp [hopen, hmem] at hnot

theorem stopInv_observe (hI : StopInv o) (hcovers : StopCovers env o e)
    (h : observe env o e = some o') : StopInv o' := by
  obtain ⟨s', outs, hreact, rfl⟩ := observe_eq_some h
  refine ⟨tracked_react hI.tracked hreact, fun hquit w hw hlive => ?_⟩
  obtain ⟨w₀, hw₀, rfl⟩ | ⟨child, hchild, -⟩ := mem_record hw
  · obtain ⟨-, he, -, -, -⟩ := onSent_same (w₀.onInput e.input) (commandsSent outs)
    obtain ⟨hexited, hstop⟩ := onInput_mono w₀ e.input
    have hlive₀ : w₀.exited = false := by
      by_contra hex
      rw [he, hexited (by simpa using hex)] at hlive
      cases hlive
    obtain hsame | ⟨hunset, hstops, hsent⟩ := quitTimer_of_react hreact
    · exact onSent_stopSent
        (.inl (hstop.trans (hI.stopSent (hsame.symm.trans hquit) w₀ hw₀ hlive₀)))
    · cases hfailed : w₀.failed with
      | true =>
        exact onSent_stopSent
          (.inl (hstop.trans (hcovers.pipes hunset hstops w₀ hw₀ hlive₀ hfailed)))
      | false =>
        -- a request changes no record, and the child has its pipe
        obtain ⟨client, req, -, hinput, -⟩ := hstops
        rw [onInput_other (by rw [hinput]; rfl)]
        refine onSent_stopSent (.inr ⟨hfailed, hsent w₀.child (hI.tracked.mem_children hw₀ hlive₀)
          w₀.pipe ?_⟩)
        simp [Watched.child, hfailed]
  · obtain ⟨hstarts, hsame⟩ := startsStream_of_new hreact hchild
    exact absurd hstarts (hcovers.starts (hsame.symm.trans hquit))

end

/-- **The stop of the service reaches every stream**: in every run in which no stream starts while
the service stops, and in which a child without its pipe was stopped before the service is, the quit
timer finds no child to which no stop was written. -/
theorem stopReached_along (env : Env χ δ) (fds : Finset Nat) {es : List Event}
    (h : Along (observe env) (StopCovers env) ⟨.init fds, []⟩ es) :
    Along (observe env) StopReached ⟨.init fds, []⟩ es := by
  refine h.inv (I := StopInv) (fun _ _ _ hI hC h => stopInv_observe hI hC h) ?_
    ⟨⟨rfl, rfl, nofun⟩, nofun⟩
  intro o e hI _ _ _ hquit child hchild
  obtain ⟨w, hw, hlive, hc⟩ := hI.tracked.exists_of_child hchild
  exact ⟨w, hw, hlive, hc, hI.stopSent hquit w hw hlive⟩

/-- The client stops the service. -/
def stopService : Event := sampleRequest "3" "stop_service" keyParams

def quitFires : Event := ⟨.timerEmited .quitCleanup, {}⟩

/-- An event that neither starts a stream nor stops the service. -/
theorem stopCovers_of_not {o : Observed χ} {e : Event}
    (hasks : ∀ args, ¬ AsksStream env o.loop e args)
    (hstops : ¬ StopsService env o.loop e.input) : StopCovers env o e := by
  refine ⟨fun _ hstarts => ?_, fun _ h => absurd h hstops⟩
  obtain ⟨args, -, -, -, -, h, -⟩ := hstarts
  exact hasks args h

/-- An event that no client and no VOD server causes. -/
theorem stopCovers_of_no_request {o : Observed χ} {e : Event}
    (hdata : ∀ client data, e.input ≠ .daemonData client data)
    (hvod : ∀ file, e.input ≠ .httpRequest file) :
    StopCovers env o e := by
  refine stopCovers_of_not (fun args hasks => ?_) fun hstops => ?_
  · obtain ⟨client, req, info, heq, -⟩ | ⟨file, heq, -⟩ := hasks
    · exact hdata client _ heq
    · exact hvod file heq
  · obtain ⟨client, req, info, heq, -⟩ := hstops
    exact hdata client _ heq

theorem not_asksStream_request {s : Loop χ} {id method params : String} {answers : Answers}
    (h : method ≠ "start_stream") (args : ArgsMap) :
    ¬ AsksStream env s (sampleRequest id method params answers) args := by
  rintro (⟨client, req, info, heq, -, hmethod, -⟩ | ⟨file, heq, -⟩)
  · cases heq
    exact h hmethod
  · cases heq

theorem not_stopsService_request {s : Loop χ} {id method params : String} {answers : Answers}
    (h : method ≠ "stop_service") :
    ¬ StopsService env s (sampleRequest id method params answers).input := by
  rintro ⟨client, req, info, heq, hmethod, -⟩
  cases heq
  exact h hmethod

/-- A stream is started, then the service is stopped. -/
theorem stopReached_startRun :
    Along (observe sampleEnv) StopReached ⟨.init {0, 1, 2}, []⟩
      (startRun ++ [stopService, quitFires]) := by
  have hactive : (exec (observe sampleEnv) ⟨.init {0, 1, 2}, []⟩ (startRun.take 2)).map
      (·.loop.quitTimer) = some false := by
    decide
  have hstarted : (exec (observe sampleEnv) ⟨.init {0, 1, 2}, []⟩ startRun).map
      (fun o => o.seen.map (·.failed)) = some [false] := by
    decide
  refine stopReached_along sampleEnv {0, 1, 2} ⟨?_, fun o₁ h₁ => ⟨?_, fun o₂ h₂ => ⟨?_, fun o₃ h₃ =>
    ⟨?_, fun o₄ _ => ⟨?_, fun _ _ => trivial⟩⟩⟩⟩⟩
  · refine stopCovers_of_no_request (fun _ _ heq => ?_) fun _ heq => ?_
    · cases heq
    · cases heq
  · exact stopCovers_of_not (not_asksStream_request (by decide))
      (not_stopsService_request (by decide))
  · have hexec : exec (observe sampleEnv) ⟨.init {0, 1, 2}, []⟩ (startRun.take 2) = some o₂ := by
      simp [startRun, exec, h₁, h₂]
    rw [hexec, Option.map_some, Option.some.injEq] at hactive
    refine ⟨fun hquit => ?_, fun _ h => absurd h (not_stopsService_request (by decide))⟩
    rw [hactive] at hquit
    cases hquit
  · have hexec : exec (observe sampleEnv) ⟨.init {0, 1, 2}, []⟩ startRun = some o₃ := by
      simp [startRun, exec, h₁, h₂, h₃]
    rw [hexec, Option.map_some, Option.some.injEq] at hstarted
    refine ⟨fun _ hstarts => ?_, fun _ _ w hw _ hfailed => ?_⟩
    · obtain ⟨args, -, -, -, -, h, -⟩ := hstarts
      exact not_asksStream_request (by decide) args h
    have hmem : w.failed ∈ o₃.seen.map (·.failed) := List.mem_map_of_mem hw
    rw [hstarted, hfailed] at hmem
    simp at hmem
  · refine stopCovers_of_no_request (fun _ _ heq => ?_) fun _ heq => ?_
    · cases heq
    · cases heq

/-- The service is stopped, then a stream is started. -/
def lateRun : List Event :=
  [⟨.accepted 3, {}⟩, sampleRequest "1" "activate_request" keyParams, stopService,
    sampleRequest "2" "start_stream" startParams startAnswers]

/-- A stream that is started while the service stops is never stopped. -/
theorem stopReached_fails : ¬ Along (observe sampleEnv) StopReached ⟨.init {0, 1, 2}, []⟩
    (lateRun ++ [quitFires]) := by
  intro h
  have hrun : (exec (observe sampleEnv) ⟨.init {0, 1, 2}, []⟩ lateRun).map (fun o =>
      (o.loop.running, o.loop.quitTimer, o.loop.base.children, o.seen.map (·.stopSent))) =
      some (true, true, [⟨"stream", 77, .stream 4096, some samplePipe⟩], [false]) := by
    decide
  obtain ⟨o, hexec, heq⟩ := Option.map_eq_some_iff.1 hrun
  simp only [Prod.mk.injEq] at heq
  obtain ⟨hrunning, hquit, hchildren, hseen⟩ := heq
  obtain ⟨w, hw, -, -, hstop⟩ := (h.append hexec).1 rfl hrunning hquit _
    (hchildren ▸ List.mem_singleton_self _)
  have hmem : w.stopSent ∈ o.seen.map (·.stopSent) := List.mem_map_of_mem hw
  rw [hseen, hstop] at hmem
  simp at hmem

end IptvCloud.Server.Daemon
