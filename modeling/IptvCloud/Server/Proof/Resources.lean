import IptvCloud.Lib.Ledger
import IptvCloud.Server.Proof.Lifecycle
import IptvCloud.Server.Proof.Vods

/-!
# The descriptors and the memories of the daemon

`Accounted` is the account of the loop: each descriptor that is open was so before the loop, is the
socket of a client, an end of the pipes of a stream, or was left open; each shared memory is that of
a child, or was left mapped; and nothing is held twice. `create_accounts` says what a start adds to
it, `Accounted.leaveOpen` what the check of a playlist adds, `accounted_react` what an event does.
`accounted_of_run`: over a whole run, descriptors were left open exactly when a start failed after
its first pipe or a playlist was checked that can be opened, memories exactly when a `fork` failed.
-/

namespace IptvCloud.Server.Daemon

open Run Ledger

variable {χ δ : Type} {env : Env χ δ}

/-! ## Starts -/

section
variable {s s' : State} {calls : SysCalls s} {info : Except Error String} {err : Option Error}
  {started : Option Nat} {command responce : Nat × Nat} {id : String}

/-- A start has left new descriptors and new memories behind, and has registered nothing. -/
structure Leaves (s s' : State) (fds mems : List Nat) : Prop where
  fds_nodup : fds.Nodup
  fds_new : ∀ fd ∈ fds, fd ∉ s.fds
  fds_mem : ∀ fd, fd ∈ s'.fds ↔ fd ∈ fds ∨ fd ∈ s.fds
  mems_nodup : mems.Nodup
  mems_new : ∀ mem ∈ mems, mem ∉ s.mappings
  mems_mem : ∀ mem, mem ∈ s'.mappings ↔ mem ∈ mems ∨ mem ∈ s.mappings
  pipeClients : s'.pipeClients = s.pipeClients
  children : s'.children = s.children

/-- The ends of the pipes that the daemon keeps. -/
def PipeClient.fds (pipe : PipeClient) : List Nat := [pipe.readFd, pipe.writeFd]

/-- The shared memory of a child. -/
def Child.memory (child : Child) : List Nat :=
  match child.kind with
  | .stream mem => [mem]
  | .vod => []

/-- A start has registered a stream with the ends of its pipes and its memory. -/
structure Registers (s s' : State) (pipe : PipeClient) (child : Child) : Prop where
  fds_nodup : pipe.fds.Nodup
  fds_new : ∀ fd ∈ pipe.fds, fd ∉ s.fds
  fds_mem : ∀ fd, fd ∈ s'.fds ↔ fd ∈ pipe.fds ∨ fd ∈ s.fds
  mems_nodup : child.memory.Nodup
  mems_new : ∀ mem ∈ child.memory, mem ∉ s.mappings
  mems_mem : ∀ mem, mem ∈ s'.mappings ↔ mem ∈ child.memory ∨ mem ∈ s.mappings
  pipeClients : s'.pipeClients = s.pipeClients ++ [pipe]
  children : s'.children = s.children ++ [child]

theorem leaves_firstPipe {code : Int} (hp : calls.commandPipe = .ok command)
    (hq : calls.responcePipe = .error code) :
    Leaves s { s with fds := insert command.1 (insert command.2 s.fds) } [command.1, command.2]
      [] := by
  have hnodup := calls.fds_nodup
  have hnew := calls.fds_new
  simp only [hp, hq, pipeFds, List.append_nil] at hnodup hnew
  exact ⟨hnodup, hnew, by simp [or_assoc], by simp, by simp, by simp, rfl, rfl⟩

/-- The state with both pipes and the memory of a start. -/
def State.withPipes (s : State) (mem : Nat) (command responce : Nat × Nat) : State :=
  { s with
    fds := insert responce.1 (insert responce.2 (insert command.1 (insert command.2 s.fds)))
    mappings := insert mem s.mappings }

theorem leaves_allPipes (hp : calls.commandPipe = .ok command)
    (hq : calls.responcePipe = .ok responce) (hmem : calls.mmap ∉ s.mappings) :
    Leaves s (s.withPipes calls.mmap command responce)
      [command.1, command.2, responce.1, responce.2] [calls.mmap] := by
  have hnodup := calls.fds_nodup
  have hnew := calls.fds_new
  simp only [hp, hq, pipeFds, List.cons_append, List.nil_append] at hnodup hnew
  refine ⟨hnodup, hnew, fun fd => ?_, by simp, by simpa using hmem, by simp [State.withPipes], rfl,
    rfl⟩
  simp only [State.withPipes, Finset.mem_insert, List.mem_cons, List.not_mem_nil, or_false]
  tauto

theorem registers_stream {pid : Nat} (hp : calls.commandPipe = .ok command)
    (hq : calls.responcePipe = .ok responce) (hmem : calls.mmap ∉ s.mappings) :
    Registers s (registerStream (s.withPipes calls.mmap command responce) id calls.mmap pid
        command.1 command.2 responce.1 responce.2) ⟨id, responce.1, command.2⟩
      ⟨id, pid, .stream calls.mmap, some ⟨id, responce.1, command.2⟩⟩ := by
  have hnodup := calls.fds_nodup
  have hnew := calls.fds_new
  simp only [hp, hq, pipeFds, List.cons_append, List.nil_append, List.nodup_cons, List.mem_cons,
    List.not_mem_nil, or_false, not_or, forall_eq_or_imp, forall_eq] at hnodup hnew
  obtain ⟨⟨hc₁₂, hcr₁, hcr₂⟩, ⟨hcr₃, hcr₄⟩, hr₁₂, -⟩ := hnodup
  obtain ⟨hc₁, hc₂, hr₁, hr₂⟩ := hnew
  refine ⟨?_, fun fd hfd => ?_, fun fd => ?_, by simp [Child.memory],
    by simpa [Child.memory] using hmem, by simp [registerStream, closeDescriptor, State.withPipes,
      Child.memory], rfl, rfl⟩
  · simpa [PipeClient.fds] using Ne.symm hcr₃
  · rcases List.mem_pair.1 hfd with rfl | rfl
    · exact hr₁
    · exact hc₂
  · simp only [registerStream, closeDescriptor, State.withPipes, PipeClient.fds, Finset.mem_erase,
      Finset.mem_insert, List.mem_pair]
    constructor
    · tauto
    · rintro ((rfl | rfl) | hfd)
      · exact ⟨hr₁₂, Ne.symm hcr₁, .inl rfl⟩
      · exact ⟨hcr₄, Ne.symm hc₁₂, .inr (.inr (.inr (.inl rfl)))⟩
      · refine ⟨fun heq => hr₂ (heq ▸ hfd), fun heq => hc₁ (heq ▸ hfd), ?_⟩
        tauto

/-- The second pipe of a start fails. -/
def ResponcePipeFails (commandPipe responcePipe : Except Int (Nat × Nat)) : Prop :=
  ∃ command code, commandPipe = .ok command ∧ responcePipe = .error code

/-- The pipes of a start are made, its `fork` fails. -/
def ForkFails (commandPipe responcePipe : Except Int (Nat × Nat)) (fork : Option Nat) : Prop :=
  ∃ command responce, commandPipe = .ok command ∧ responcePipe = .ok responce ∧ fork = none

/-- What a start of a new stream adds. -/
theorem create_accounts (hfind : findChildByID s id = none)
    (h : createChildStream s (.ok id) calls = .returned err started s') :
    (s' = s ∧ ∃ code, calls.commandPipe = .error code) ∨
    (ResponcePipeFails calls.commandPipe calls.responcePipe ∧
      ∃ fd fds, Leaves s s' (fd :: fds) []) ∨
    (ForkFails calls.commandPipe calls.responcePipe calls.fork ∧
      ∃ fd fds mem, Leaves s s' (fd :: fds) [mem]) ∨
    (¬ ResponcePipeFails calls.commandPipe calls.responcePipe ∧
      ¬ ForkFails calls.commandPipe calls.responcePipe calls.fork ∧
      ∃ pipe child, Registers s s' pipe child) := by
  by_cases hm : calls.mmap = mapFailed
  · rw [createChildStream_mapFailed hfind hm] at h
    cases h
  obtain ⟨hnew, heq⟩ := createChildStream_mapped hfind hm
  rw [heq] at h
  cases hp : calls.commandPipe with
  | error code =>
    simp only [hp, createPipesAndFork, createPipe, free_insert hnew] at h
    cases h
    exact .inl ⟨rfl, code, rfl⟩
  | ok command =>
    cases hq : calls.responcePipe with
    | error code =>
      simp only [hp, hq, createPipesAndFork, createPipe] at h
      cases h
      refine .inr (.inl ⟨⟨command, code, rfl, rfl⟩, command.1, [command.2], ?_⟩)
      rw [freeSharedStreamStruct, Finset.erase_insert hnew]
      exact leaves_firstPipe hp hq
    | ok responce =>
      cases hk : calls.fork with
      | none =>
        simp only [hp, hq, hk, createPipesAndFork, createPipe] at h
        cases h
        exact .inr (.inr (.inl ⟨⟨command, responce, rfl, rfl, rfl⟩, _, _, _,
          leaves_allPipes hp hq hnew⟩))
      | some pid =>
        simp only [hp, hq, hk, createPipesAndFork, createPipe] at h
        cases h
        exact .inr (.inr (.inr ⟨by simp [ResponcePipeFails], by simp [ForkFails], _, _,
          registers_stream hp hq hnew⟩))

end

/-! ## The account -/

/-- The descriptors that the loop knows: the clients and the pipes. -/
def Loop.descriptors (s : Loop χ) : List Nat :=
  s.clients.keys ++ s.base.pipeClients.flatMap PipeClient.fds

/-- The account of the loop: `leaked` descriptors and `lost` memories are held by nobody. -/
structure Accounted (fds : Finset Nat) (s : Loop χ) (leaked lost : List Nat) : Prop where
  fds : Holds fds (s.descriptors ++ leaked) s.base.fds
  mems : Holds ∅ (s.base.children.flatMap Child.memory ++ lost) s.base.mappings

section
variable {fds : Finset Nat} {s s' : Loop χ} {leaked lost : List Nat} {client : Nat}

theorem accounted_init (fds : Finset Nat) : Accounted fds (.init fds : Loop χ) [] [] :=
  ⟨.nil fds, .nil ∅⟩

/-- Only the clients, the pipes, the children and what is out matter. -/
theorem Accounted.mono (h : Accounted fds s leaked lost) (hclients : s'.clients = s.clients)
    (hbase : s'.base = s.base) : Accounted fds s' leaked lost := by
  refine ⟨?_, ?_⟩
  · rw [Loop.descriptors, hclients, hbase]
    exact h.fds
  · rw [hbase]
    exact h.mems

theorem Accounted.not_mem_clients (h : Accounted fds s leaked lost) (hnew : client ∉ s.base.fds) :
    client ∉ s.clients.keys := fun hmem =>
  hnew (h.fds.out (List.mem_append_left _ (List.mem_append_left _ hmem)))

theorem Accounted.accept (h : Accounted fds s leaked lost) (hnew : client ∉ s.base.fds) :
    Accounted fds { s with
      clients := s.clients.insert client false
      base := { s.base with fds := insert client s.base.fds } } leaked lost := by
  refine ⟨h.fds.take [client] ?_ (by simp) (by simpa using hnew) (by simp), h.mems⟩
  simp [Loop.descriptors, AList.keys_insert, List.erase_of_not_mem (h.not_mem_clients hnew)]

theorem Accounted.activate (h : Accounted fds s leaked lost) (hclient : client ∈ s.clients) :
    Accounted fds { s with clients := s.clients.insert client true } leaked lost := by
  refine ⟨h.fds.perm ?_, h.mems⟩
  simp only [Loop.descriptors, AList.keys_insert]
  exact ((List.perm_cons_erase (AList.mem_keys.1 hclient)).append_right _).append_right _

theorem Accounted.closeClient (h : Accounted fds s leaked lost) (hclient : client ∈ s.clients) :
    Accounted fds (s.closeClient client) leaked lost := by
  refine ⟨h.fds.give [client] ?_ (by simp [Loop.closeClient, closeDescriptor, and_comm]),
    h.mems⟩
  simp only [Loop.descriptors, Loop.closeClient, closeDescriptor, AList.keys_erase,
    List.singleton_append, ← List.cons_append]
  exact ((List.perm_cons_erase (AList.mem_keys.1 hclient)).append_right _).append_right _

/-- A member of a list is taken out of it by its key. -/
theorem perm_filter_ne {α β : Type} [DecidableEq α] [DecidableEq β] {l : List α} {f : α → β}
    (hl : (l.map f).Nodup) {x : α} (hx : x ∈ l) : l.Perm (x :: l.filter fun y => f y ≠ f x) := by
  have heq : l.filter (fun y => f y ≠ f x) = l.erase x := by
    rw [hl.of_map.erase_eq_filter]
    refine List.filter_congr fun y hy => ?_
    have hiff : f y = f x ↔ y = x := ⟨fun h => List.inj_on_of_nodup_map hl hy hx h, congrArg f⟩
    rw [Bool.eq_iff_iff]
    simp [hiff]
  rw [heq]
  exact List.perm_cons_erase hx

theorem Accounted.nodup_pipeClients (h : Accounted fds s leaked lost) :
    s.base.pipeClients.Nodup := by
  have hnodup := (List.nodup_append.1 (List.nodup_append.1 h.fds.nodup).1).2.1
  refine (List.nodup_flatMap.1 hnodup).2.imp fun {p q} hdisj heq => ?_
  subst heq
  exact hdisj (List.mem_cons_self ..) (List.mem_cons_self ..)

theorem Accounted.closePipe (h : Accounted fds s leaked lost) {pipe : PipeClient}
    (hpipe : pipe ∈ s.base.pipeClients) :
    Accounted fds { s with base := s.base.closePipe pipe } leaked lost := by
  have hperm := perm_filter_ne (f := id) (by simpa using h.nodup_pipeClients) hpipe
  refine ⟨h.fds.give pipe.fds ?_ fun fd => ?_, ?_⟩
  · rw [← List.append_assoc]
    refine List.Perm.append_right _ ?_
    have hpipes := (hperm.flatMap_right PipeClient.fds).append_left s.clients.keys
    exact hpipes.trans (List.perm_append_comm_assoc _ _ _)
  · simp only [State.closePipe, closeDescriptor, PipeClient.fds, Finset.mem_erase, List.mem_pair]
    tauto
  · have hmemory (child : Child) : (child.dropClient pipe).memory = child.memory := by
      rw [Child.memory, dropClient_kind, Child.memory]
    simpa [State.closePipe, closeDescriptor, List.flatMap_map, hmemory] using h.mems

theorem Accounted.removeChild (h : Accounted fds s leaked lost) (hs : Registered s.base)
    {channel : Child} (hchannel : channel ∈ s.base.children) :
    Accounted fds { s with base := s.base.removeChild channel } leaked lost := by
  obtain ⟨mem, -, hkind⟩ := hs.mapped channel hchannel
  have heq : s.base.removeChild channel = { s.base with
      children := s.base.children.filter (·.pid ≠ channel.pid)
      mappings := s.base.mappings.erase mem } := by
    simp [State.removeChild, hkind, freeSharedStreamStruct]
  rw [heq]
  refine ⟨h.fds, h.mems.give [mem] ?_ (by simp [and_comm])⟩
  have hperm := (perm_filter_ne hs.pids hchannel).flatMap_right Child.memory
  rw [List.flatMap_cons, Child.memory, hkind] at hperm
  simpa using hperm.append_right lost

/-- A ping closes only clients that are there. -/
theorem Accounted.pingClients {a : Answers} (clients : List Nat)
    (h : Accounted fds s leaked lost) : Accounted fds (pingClients a clients s).1 leaked lost := by
  induction clients generalizing s with
  | nil => exact h
  | cons client clients ih =>
    unfold Daemon.pingClients
    split
    · rename_i hv _
      have hclient : client ∈ s.clients := by
        refine AList.lookup_isSome.1 ?_
        simp only [Loop.isVerified, beq_iff_eq] at hv
        rw [hv]
        rfl
      refine ih ?_
      split
      · exact Accounted.closeClient (s := s.takeIds 1) (h.mono rfl rfl) hclient
      · exact h.mono rfl rfl
    · exact ih h

theorem Accounted.leaves (h : Accounted fds s leaked lost) {base : State} {new mems : List Nat}
    (hl : Leaves s.base base new mems) :
    Accounted fds { s with base } (new ++ leaked) (mems ++ lost) := by
  refine ⟨h.fds.take new ?_ hl.fds_nodup hl.fds_new hl.fds_mem,
    h.mems.take mems ?_ hl.mems_nodup hl.mems_new hl.mems_mem⟩
  · simp only [Loop.descriptors, hl.pipeClients]
    exact List.perm_append_comm_assoc _ _ _
  · simp only [hl.children]
    exact List.perm_append_comm_assoc _ _ _

theorem Accounted.registers (h : Accounted fds s leaked lost) {base : State} {pipe : PipeClient}
    {child : Child} (hr : Registers s.base base pipe child) :
    Accounted fds { s with base } leaked lost := by
  refine ⟨h.fds.take pipe.fds ?_ hr.fds_nodup hr.fds_new hr.fds_mem,
    h.mems.take child.memory ?_ hr.mems_nodup hr.mems_new hr.mems_mem⟩
  · simp only [Loop.descriptors, hr.pipeClients, List.flatMap_append, List.flatMap_singleton,
      ← List.append_assoc]
    exact List.perm_append_comm.append_right _
  · simp only [hr.children, List.flatMap_append, List.flatMap_singleton, ← List.append_assoc]
    exact List.perm_append_comm.append_right _

end

/-! ## Runs -/

/-- The argument map is that of a stream that is new. -/
def IsNew (env : Env χ δ) (a : Answers) (s : Loop χ) (args : ArgsMap) : Prop :=
  ∃ info, makeStreamInfo env.cm a.createAndCheckDir args true = .ok info ∧
    findChildByID s.base info.id = none

/-- The event starts a stream that is new. -/
def NewStream (env : Env χ δ) (s : Loop χ) (e : Event) : Prop :=
  ∃ args, AsksStream env s e args ∧ IsNew env e.answers s args

/-- The start fails after its first pipe. -/
def StartFails (a : Answers) : Prop :=
  ResponcePipeFails a.commandPipe a.responcePipe ∨
    ForkFails a.commandPipe a.responcePipe a.fork

/-- The event starts a new stream whose `fork` fails. -/
def LosesMemory (env : Env χ δ) (s : Loop χ) (e : Event) : Prop :=
  NewStream env s e ∧ ForkFails e.answers.commandPipe e.answers.responcePipe e.answers.fork

/-- The event checks the playlist of a VOD, which can be opened. -/
def LeavesOpen (env : Env χ δ) (s : Loop χ) (e : Event) : Prop :=
  ∃ file, e.input = .httpRequest file ∧
    (s.vodsLinks.lookup (env.paths.getDirectory file)).isSome ∧ (e.answers.files.text file).isSome

/-- The event starts a new stream that fails after its first pipe, or leaves a playlist open. -/
def LeaksDescriptors (env : Env χ δ) (s : Loop χ) (e : Event) : Prop :=
  NewStream env s e ∧ StartFails e.answers ∨ LeavesOpen env s e

section
variable {fds : Finset Nat} {s s₁ s' : Loop χ} {e : Event} {a : Answers} {args : ArgsMap}
  {outs : List Out} {leaked lost : List Nat} {file : String}

/-- What is added to an account: descriptors when `leaks` holds, memories when `loses` does. -/
def Adds (leaks loses : Prop) (fds : Finset Nat) (s' : Loop χ) (leaked lost : List Nat) : Prop :=
  ∃ new mems, Accounted fds s' (new ++ leaked) (mems ++ lost) ∧ (new = [] ↔ ¬ leaks) ∧
    (mems = [] ↔ ¬ loses)

theorem Accounted.nothing (h : Accounted fds s' leaked lost) {leaks loses : Prop}
    (hleaks : ¬ leaks) (hloses : ¬ loses) : Adds leaks loses fds s' leaked lost :=
  ⟨[], [], h, by simp [hleaks], by simp [hloses]⟩

/-! ### Starts -/

/-- The start of a new stream. -/
theorem accounted_new (h : Accounted fds s leaked lost) {calls : SysCalls s.base}
    (hcalls : a.calls s.base = some calls) {id : String} (hfind : findChildByID s.base id = none)
    {err : Option Error} {started : Option Nat} {base : State}
    (hcreate : createChildStream s.base (.ok id) calls = .returned err started base) :
    Adds (StartFails a) (ForkFails a.commandPipe a.responcePipe a.fork) fds { s with base }
      leaked lost := by
  obtain ⟨-, hcommand, hresponce, hfork⟩ := (calls_spec hcalls).1
  rw [StartFails, ← hcommand, ← hresponce, ← hfork]
  rcases create_accounts hfind hcreate with ⟨rfl, code, hp⟩ | ⟨hq, fd, new, hl⟩ |
    ⟨hk, fd, new, mem, hl⟩ | ⟨hq, hk, pipe, child, hr⟩
  · refine h.nothing ?_ ?_
    · simp [ResponcePipeFails, ForkFails, hp]
    · simp [ForkFails, hp]
  · have hk : ¬ ForkFails calls.commandPipe calls.responcePipe calls.fork := by
      obtain ⟨command, code, -, hq⟩ := hq
      simp [ForkFails, hq]
    exact ⟨fd :: new, [], h.leaves hl, by simp [hq], by simp [hk]⟩
  · exact ⟨fd :: new, [mem], h.leaves hl, by simp [hk], by simp [hk]⟩
  · exact (h.registers hr).nothing (by simp [hq, hk]) hk

/-- A start of the loop. -/
theorem accounted_create (h : Accounted fds s leaked lost) {calls : SysCalls s.base}
    (hcalls : a.calls s.base = some calls) {err : Option Error}
    (hcreate : s.createChildStream env a calls args = some (s', err)) :
    Adds (IsNew env a s args ∧ StartFails a)
      (IsNew env a s args ∧ ForkFails a.commandPipe a.responcePipe a.fork) fds s' leaked lost := by
  cases hmake : makeStreamInfo env.cm a.createAndCheckDir args true with
  | error err =>
    cases err with
    | refused err =>
      have hnew : ¬ IsNew env a s args := by
        rintro ⟨info, hinfo, -⟩
        cases hmake.symm.trans hinfo
      simp only [Loop.createChildStream, hmake, Loop.createChild, createChildStream] at hcreate
      cases hcreate
      exact h.nothing (fun hl => hnew hl.1) fun hl => hnew hl.1
    | nullString | notArray =>
      simp only [Loop.createChildStream, hmake] at hcreate
      cases hcreate
  | ok info =>
    simp only [Loop.createChildStream, hmake] at hcreate
    obtain ⟨started, base, hbase, rfl⟩ := createChild_cases hcreate
    by_cases hex : (findChildByID s.base info.id).isSome = true
    · have hnew : ¬ IsNew env a s args := by
        rintro ⟨info', hinfo, hnone⟩
        cases hmake.symm.trans hinfo
        rw [hnone] at hex
        cases hex
      obtain ⟨err, heq⟩ := createChildStream_exists calls hex
      rw [heq] at hbase
      cases hbase
      exact h.nothing (fun hl => hnew hl.1) fun hl => hnew hl.1
    · have hfind : findChildByID s.base info.id = none := by simpa using hex
      have hnew : IsNew env a s args := ⟨info, hmake, hfind⟩
      simp only [hnew, true_and]
      exact accounted_new h hcalls hfind hbase

/-! ### Checks -/

/-- A check adds the descriptor of the playlist, if it can be opened. -/
theorem Accounted.leaveOpen (h : Accounted fds s leaked lost) {isFullVod : Bool}
    (hcheck : VodChecked env a s file isFullVod s₁) :
    ∃ new, Accounted fds s₁ (new ++ leaked) lost ∧ (new = [] ↔ ¬ (a.files.text file).isSome) := by
  have hkept : (Vods.checkIsFullVod env.convert env.paths a.files file []).2 = [] ↔
      ¬ (a.files.text file).isSome := by
    rw [Vods.handles_kept_iff]
    simp
  rcases leaveOpen_cases hcheck.leftOpen with ⟨hnil, rfl⟩ | ⟨hopen, hnew, rfl⟩
  · exact ⟨[], h, by simp [← hkept, hnil]⟩
  · refine ⟨[a.fopenFd], ⟨?_, h.mems⟩, by simp [← hkept, hopen]⟩
    refine h.fds.take [a.fopenFd] ?_ (by simp) (by simpa using hnew) (by simp)
    exact List.perm_append_comm_assoc _ _ _

/-- The state in which a stream is started: that of the event, or that after the check. -/
def StartsFrom (env : Env χ δ) (s : Loop χ) (e : Event) (s₁ : Loop χ) : Prop :=
  (∀ file, e.input ≠ .httpRequest file) ∧ s₁ = s ∨
    ∃ file, e.input = .httpRequest file ∧ VodChecked env e.answers s file false s₁

/-- The loop starts the stream that is asked for. -/
theorem create_of_asks (hasks : AsksStream env s e args) (h : react env s e = some (s', outs)) :
    ∃ (s₁ : Loop χ) (calls : SysCalls s₁.base) (err : Option Error), StartsFrom env s e s₁ ∧
      e.answers.calls s₁.base = some calls ∧
      s₁.createChildStream env e.answers calls args = some (s', err) := by
  unfold react at h
  split at h
  · split at h
    · rename_i calls hcalls
      rcases hasks with ⟨client, req, info, hinput, hv, hmethod, hread, hargs⟩ |
        ⟨file, hinput, hlink, hanswer⟩
      · have hclient : client ∈ s.clients := by
          refine AList.lookup_isSome.1 ?_
          simp only [Loop.isVerified, beq_iff_eq] at hv
          rw [hv]
          rfl
        have hfrom : StartsFrom env s e s := by
          refine .inl ⟨fun file heq => ?_, rfl⟩
          cases hinput.symm.trans heq
        simp only [hinput, handle, hclient, if_true, daemonDataReceived,
          handleRequestServiceCommand, hmethod, Loop.handleRequestClientStartStream, hv, hread,
          onParams, hargs] at h
        split at h
        · cases h
        · rename_i s₁ err hcreate
          cases h
          exact ⟨s, calls, some err, hfrom, hcalls, hcreate⟩
        · rename_i s₁ hcreate
          cases h
          exact ⟨s, calls, none, hfrom, hcalls, hcreate⟩
      · simp only [hinput, handle, onHttpRequest, hlink] at h
        obtain ⟨s₁, hopen, h⟩ := Option.bind_eq_some_iff.1 h
        rw [if_neg (by simp [hanswer])] at h
        obtain ⟨calls₁, hcalls₁, h⟩ := Option.bind_eq_some_iff.1 h
        obtain ⟨⟨s₂, err⟩, hcreate, heq⟩ := Option.map_eq_some_iff.1 h
        cases heq
        exact ⟨s₁, calls₁, err, .inr ⟨file, hinput, hanswer, hopen⟩, hcalls₁, hcreate⟩
    · cases h
  · cases h

theorem accounted_startsFrom (h : Accounted fds s leaked lost) (hasks : AsksStream env s e args)
    (hfrom : StartsFrom env s e s₁) :
    ∃ new, Accounted fds s₁ (new ++ leaked) lost ∧ (new = [] ↔ ¬ LeavesOpen env s e) ∧
      s₁.base.children = s.base.children := by
  rcases hfrom with ⟨hinput, rfl⟩ | ⟨file, hinput, hcheck⟩
  · have hkept : ¬ LeavesOpen env s₁ e := fun ⟨file, heq, _⟩ => hinput file heq
    exact ⟨[], h, by simp [hkept], rfl⟩
  · obtain ⟨new, hnew, hiff⟩ := h.leaveOpen hcheck
    obtain ⟨fds, -, rfl⟩ := hcheck.same
    refine ⟨new, hnew, ?_, rfl⟩
    rcases hasks with ⟨client, req, info, heq, -⟩ | ⟨file', heq, hlink, -⟩
    · cases hinput.symm.trans heq
    · cases hinput.symm.trans heq
      rw [hiff]
      simp [LeavesOpen, hinput, hlink]

/-! ### Events -/

/-- The argument map that an event asks with is its own. -/
theorem asksStream_unique {args' : ArgsMap} (h : AsksStream env s e args)
    (h' : AsksStream env s e args') : args = args' := by
  rcases h with ⟨client, req, info, hinput, -, -, hread, hargs⟩ | ⟨file, hinput, hlink, -⟩
  · rcases h' with ⟨client', req', info', heq, -, -, hread', hargs'⟩ | ⟨file', heq, -⟩
    · cases hinput.symm.trans heq
      cases hread.symm.trans hread'
      exact Option.some.inj (hargs.symm.trans hargs')
    · cases hinput.symm.trans heq
  · rcases h' with ⟨client', req', info', heq, -⟩ | ⟨file', heq, hlink', -⟩
    · cases hinput.symm.trans heq
    · cases hinput.symm.trans heq
      exact Option.some.inj (hlink.symm.trans hlink')

theorem newStream_iff (hasks : AsksStream env s e args) :
    NewStream env s e ↔ IsNew env e.answers s args := by
  constructor
  · rintro ⟨args', hasks', hnew⟩
    rwa [asksStream_unique hasks hasks']
  · exact fun hnew => ⟨args, hasks, hnew⟩

/-- An event that asks for a stream. -/
theorem accounted_asks (h : Accounted fds s leaked lost) (hasks : AsksStream env s e args)
    (hreact : react env s e = some (s', outs)) :
    Adds (LeaksDescriptors env s e) (LosesMemory env s e) fds s' leaked lost := by
  obtain ⟨s₁, calls, err, hfrom, hcalls, hcreate⟩ := create_of_asks hasks hreact
  obtain ⟨opened, h₁, hopened, hchildren⟩ := accounted_startsFrom h hasks hfrom
  obtain ⟨new, mems, h', hnew, hmems⟩ := accounted_create h₁ hcalls hcreate
  have hsame : IsNew env e.answers s₁ args ↔ NewStream env s e := by
    rw [newStream_iff hasks, IsNew, IsNew]
    simp only [findChildByID, hchildren]
  rw [hsame] at hnew hmems
  refine ⟨new ++ opened, mems, by rwa [List.append_assoc], ?_, hmems⟩
  rw [List.append_eq_nil_iff, hnew, hopened, LeaksDescriptors, not_or]

theorem accounted_react (hs : Registered s.base) (h : Accounted fds s leaked lost)
    (hreact : react env s e = some (s', outs)) :
    Adds (LeaksDescriptors env s e) (LosesMemory env s e) fds s' leaked lost := by
  by_cases hasks : ∃ args, AsksStream env s e args
  · obtain ⟨args, hasks⟩ := hasks
    exact accounted_asks h hasks hreact
  have hnew : ¬ NewStream env s e := fun ⟨args, hargs, _⟩ => hasks ⟨args, hargs⟩
  have hloses : ¬ LosesMemory env s e := fun hl => hnew hl.1
  have hleaks : LeaksDescriptors env s e ↔ LeavesOpen env s e := by
    simp [LeaksDescriptors, hnew]
  rw [hleaks]
  obtain ⟨-, calls, -, hreacted⟩ := reacted_of_react hreact
  -- only the check of a playlist opens a file
  have nothing {s' : Loop χ} (hinput : ∀ file, e.input ≠ .httpRequest file)
      (h : Accounted fds s' leaked lost) :
      Adds (LeavesOpen env s e) (LosesMemory env s e) fds s' leaked lost :=
    h.nothing (fun ⟨file, heq, _⟩ => hinput file heq) hloses
  generalize hinput : e.input = input at hreacted nothing
  cases hreacted with
  | accepted client hclient => exact nothing nofun (h.accept hclient)
  | closed client hclient => exact nothing nofun (h.closeClient hclient)
  | requested client hclient req s' outs hreq =>
    refine nothing nofun ?_
    cases hreq with
    | started hv hmethod info hread args hargs =>
      exact absurd ⟨args, .inl ⟨client, req, info, hinput, hv, hmethod, hread, hargs⟩⟩ hasks
    | silent | refused | answered | commanded | prepared | synced | stopping | stopped =>
      exact h.mono rfl rfl
    | activated info => exact h.activate hclient
  | responded | piped | nodeStats | cleanupFiles | quit => exact nothing nofun (h.mono rfl rfl)
  | pipeClosed pipe hpipe => exact nothing nofun (h.closePipe hpipe)
  | exited pid status channel hfind =>
    exact nothing nofun (h.removeChild hs (List.mem_of_find?_eq_some hfind))
  | vodIgnored file hlink =>
    refine h.nothing ?_ hloses
    rintro ⟨file', heq, hsome, -⟩
    cases hinput.symm.trans heq
    rw [hlink] at hsome
    cases hsome
  | vodFull file args hlink s₁ hcheck =>
    obtain ⟨new, h', hiff⟩ := h.leaveOpen hcheck
    refine ⟨new, [], h', ?_, by simp [hloses]⟩
    rw [hiff]
    simp [LeavesOpen, hinput, hlink]
  | vodStarted file args hlink s₁ hcheck =>
    exact absurd ⟨args, .inr ⟨file, hinput, hlink, hcheck.answer⟩⟩ hasks
  | pinged => exact nothing nofun (h.pingClients _)

/-- The account over a run. -/
theorem accounted_exec {es : List Event} (hs : Registered s.base) (h : Accounted fds s leaked lost)
    (hexec : exec (step env) s es = some s') :
    ∃ new mems, Accounted fds s' (new ++ leaked) (mems ++ lost) ∧
      (new = [] ↔ Along (step env) (fun s e => ¬ LeaksDescriptors env s e) s es) ∧
      (mems = [] ↔ Along (step env) (fun s e => ¬ LosesMemory env s e) s es) := by
  induction es generalizing s leaked lost with
  | nil =>
    cases hexec
    exact ⟨[], [], h, by simp [Along], by simp [Along]⟩
  | cons e es ih =>
    obtain ⟨s₁, hstep, hexec⟩ := exec_cons hexec
    obtain ⟨⟨s₂, outs⟩, hreact, rfl⟩ := Option.map_eq_some_iff.1 hstep
    obtain ⟨new, mems, h₁, hleaks, hloses⟩ := accounted_react hs h hreact
    obtain ⟨new', mems', h', hleaks', hloses'⟩ := ih (registered_react hs hreact) h₁ hexec
    refine ⟨new' ++ new, mems' ++ mems, ?_, ?_, ?_⟩
    · rw [List.append_assoc, List.append_assoc]
      exact h'
    · rw [along_cons_of_step hstep, List.append_eq_nil_iff, hleaks, hleaks', and_comm]
    · rw [along_cons_of_step hstep, List.append_eq_nil_iff, hloses, hloses', and_comm]

/-- **The account of the daemon**: after every run, each open descriptor was open before the loop,
is that of a client or of the pipes of a stream, or is one of `leaked`; each shared memory is that
of a child, or is one of `lost`; nothing is held twice. There is something in `leaked` exactly when
a new stream failed after its first pipe or a playlist was checked that can be opened, and in `lost`
exactly when the `fork` of a new stream failed. -/
theorem accounted_of_run {es : List Event} (hexec : exec (step env) (.init fds) es = some s') :
    ∃ leaked lost, Accounted fds s' leaked lost ∧
      (leaked = [] ↔ Along (step env) (fun s e => ¬ LeaksDescriptors env s e) (.init fds) es) ∧
      (lost = [] ↔ Along (step env) (fun s e => ¬ LosesMemory env s e) (.init fds) es) := by
  obtain ⟨leaked, lost, h, hleaked, hlost⟩ :=
    accounted_exec (registered_init fds) (accounted_init fds) hexec
  rw [List.append_nil, List.append_nil] at h
  exact ⟨leaked, lost, h, hleaked, hlost⟩

end

/-- A client activates itself and starts a stream, whose `fork` fails. -/
def lossyRun : List Event :=
  [⟨.accepted 3, {}⟩, sampleRequest "1" "activate_request" keyParams,
    sampleRequest "2" "start_stream" startParams { startAnswers with fork := none }]

theorem accounted_lossyRun : ∃ s, exec (step sampleEnv) (.init {0, 1, 2}) lossyRun = some s ∧
    s.base.fds = {0, 1, 2, 3, 4, 5, 6, 7} ∧ ∃ leaked lost, Accounted {0, 1, 2} s leaked lost ∧
      (leaked = [] ↔ Along (step sampleEnv) (fun s e => ¬ LeaksDescriptors sampleEnv s e)
        (.init {0, 1, 2}) lossyRun) ∧
      (lost = [] ↔ Along (step sampleEnv) (fun s e => ¬ LosesMemory sampleEnv s e)
        (.init {0, 1, 2}) lossyRun) := by
  have hrun : (exec (step sampleEnv) (.init {0, 1, 2}) lossyRun).map (·.base.fds) =
      some {0, 1, 2, 3, 4, 5, 6, 7} := by
    decide
  obtain ⟨s, hexec, hfds⟩ := Option.map_eq_some_iff.1 hrun
  exact ⟨s, hexec, hfds, accounted_of_run hexec⟩

end IptvCloud.Server.Daemon
