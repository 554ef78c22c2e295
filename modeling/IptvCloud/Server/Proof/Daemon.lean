import IptvCloud.Server.Daemon

/-!
# What a failed start of a stream leaves

`CreateChildStream` takes a mapping, two pipes and a process, one after the other.
`allOrNothing_iff`: it starts a stream or leaves everything as it was, and the answer to
`start_stream` says which, exactly when the failure it meets is one it gives back: not `mmap`, whose
`MAP_FAILED` passes the test for a null pointer, not the second pipe, which leaves the descriptors
of the first one open, and not `fork`, which leaves all of it and is answered with success.
-/

namespace IptvCloud.Server.Daemon

variable {s s' : State} {info : Except Error String} {calls : SysCalls s}

/-- Without a child process an error is returned and nothing has changed; a success has registered
exactly one child with the id of the stream. -/
def AllOrNothing (s : State) (info : Except Error String) : Result → Prop
  | .crashed => False
  | .returned err started s' =>
    (started = none → err.isSome = true ∧ s' = s) ∧
    (err = none → ∃ id child, info = .ok id ∧ s'.children = s.children ++ [child] ∧
      (s'.children.filter fun c => c.streamId == id) = [child])

/-- The child process of a start. -/
def Result.started : Result → Option Nat
  | .crashed => none
  | .returned _ started _ => started

/-- The answer to `start_stream` is success exactly when the stream was started. -/
def AnswersTruly (s : State) (makeStreamInfo : String → Except Error String) (config : String)
    (calls : SysCalls s) : Prop :=
  (handleRequestClientStartStream s true makeStreamInfo (.read config) calls).2 =
      some .startStreamResponceSuccess ↔
    ((handleRequestClientStartStream s true makeStreamInfo (.read config) calls).1.bind
      Result.started).isSome = true

/-- The start is refused before it takes anything, or the mapping succeeds and the first pipe fails,
or all of it succeeds. -/
def FailsClean (s : State) (info : Except Error String) (calls : SysCalls s) : Prop :=
  (∃ err, info = .error err) ∨ ∃ id, info = .ok id ∧ ((findChildByID s id).isSome = true ∨
    calls.mmap ≠ mapFailed ∧ ((∃ code, calls.commandPipe = .error code) ∨
      (∃ fds, calls.responcePipe = .ok fds) ∧ calls.fork.isSome = true))

/-! ## The outcomes -/

/-- A failure of the first pipe gives the mapping back. -/
theorem free_insert {mem : Nat} (h : mem ∉ s.mappings) :
    freeSharedStreamStruct { s with mappings := insert mem s.mappings } mem = s := by
  simp only [freeSharedStreamStruct, Finset.erase_insert h]

/-- The descriptors of the first pipe stay open when the second one fails. -/
theorem free_fds_ne {mem readFd writeFd : Nat} {mappings : Finset Nat} (h : readFd ∉ s.fds) :
    freeSharedStreamStruct
      { s with fds := insert readFd (insert writeFd s.fds), mappings } mem ≠ s := by
  intro he
  have hfds : insert readFd (insert writeFd s.fds) = s.fds := congrArg State.fds he
  exact h (hfds ▸ Finset.mem_insert_self ..)

theorem filter_registered {id : String} (h : findChildByID s id = none) {child : Child}
    (hc : child.streamId = id) :
    ((s.children ++ [child]).filter fun c => c.streamId == id) = [child] := by
  have hnone : (s.children.filter fun c => c.streamId == id) = [] :=
    List.filter_eq_nil_iff.2 (List.find?_eq_none.1 h)
  rw [List.filter_append, hnone, List.nil_append, List.filter_singleton, hc, beq_self_eq_true]
  rfl

theorem createChildStream_exists (calls : SysCalls s) {id : String}
    (h : (findChildByID s id).isSome = true) :
    ∃ err, createChildStream s (.ok id) calls = .returned (some err) none s :=
  ⟨_, if_pos h⟩

section
variable {id : String} (hfind : findChildByID s id = none)
include hfind

theorem createChildStream_mapFailed (hm : calls.mmap = mapFailed) :
    createChildStream s (.ok id) calls = .crashed := by
  have halloc : allocSharedStreamStruct mapFailed = none := rfl
  simp only [createChildStream, hfind, hm, halloc, Option.isSome_none, Bool.false_eq_true, if_false]

variable (hm : calls.mmap ≠ mapFailed)
include hm

theorem createChildStream_mapped :
    calls.mmap ∉ s.mappings ∧ createChildStream s (.ok id) calls =
      createPipesAndFork { s with mappings := insert calls.mmap s.mappings } id calls.mmap
        calls.commandPipe calls.responcePipe calls.fork := by
  obtain ⟨h0, hnew⟩ := calls.mmap_new.resolve_left hm
  have halloc : allocSharedStreamStruct calls.mmap = some (.ok calls.mmap) := by
    rw [allocSharedStreamStruct, if_neg h0, if_neg hm]
  refine ⟨hnew, ?_⟩
  simp only [createChildStream, hfind, halloc, Option.isSome_none, Bool.false_eq_true, if_false]

theorem createChildStream_commandPipe {code : Int} (hp : calls.commandPipe = .error code) :
    ∃ err, createChildStream s (.ok id) calls = .returned (some err) none s := by
  obtain ⟨hnew, heq⟩ := createChildStream_mapped hfind hm
  refine ⟨.errno code, ?_⟩
  simp only [heq, hp, createPipesAndFork, createPipe, free_insert hnew]

theorem createChildStream_responcePipe {command : Nat × Nat} {code : Int}
    (hp : calls.commandPipe = .ok command) (hq : calls.responcePipe = .error code) :
    ∃ err s', createChildStream s (.ok id) calls = .returned (some err) none s' ∧ s' ≠ s := by
  obtain ⟨-, heq⟩ := createChildStream_mapped hfind hm
  have hr : command.1 ∉ s.fds := calls.fds_new _ (by simp [hp, pipeFds])
  rw [heq, hp, hq]
  exact ⟨.errno code, _, rfl, free_fds_ne hr⟩

theorem createChildStream_fork {command responce : Nat × Nat} (hp : calls.commandPipe = .ok command)
    (hq : calls.responcePipe = .ok responce) (hk : calls.fork = none) :
    ∃ s', createChildStream s (.ok id) calls = .returned none none s' := by
  obtain ⟨-, heq⟩ := createChildStream_mapped hfind hm
  rw [heq, hp, hq, hk]
  exact ⟨_, rfl⟩

theorem createChildStream_started {command responce : Nat × Nat} {pid : Nat}
    (hp : calls.commandPipe = .ok command) (hq : calls.responcePipe = .ok responce)
    (hk : calls.fork = some pid) :
    ∃ s' child, createChildStream s (.ok id) calls = .returned none (some pid) s' ∧
      s'.children = s.children ++ [child] ∧ child.streamId = id := by
  obtain ⟨-, heq⟩ := createChildStream_mapped hfind hm
  rw [heq, hp, hq, hk]
  exact ⟨_, _, rfl, rfl, rfl⟩

end

/-! ## All or nothing -/

theorem answersTruly_iff (makeStreamInfo : String → Except Error String) (config : String)
    (calls : SysCalls s) :
    AnswersTruly s makeStreamInfo config calls ↔
      ((∃ started s', createChildStream s (makeStreamInfo config) calls =
        .returned none started s') ↔
        (createChildStream s (makeStreamInfo config) calls).started.isSome = true) := by
  simp only [AnswersTruly, handleRequestClientStartStream, if_true, Option.bind_some]
  generalize createChildStream s (makeStreamInfo config) calls = result
  cases result with
  | crashed => simp
  | returned err started s' => cases err <;> simp

/-- **All or nothing**: for every daemon, configuration and answers of the kernel, exactly when the
start fails clean. -/
theorem allOrNothing_iff (s : State) (makeStreamInfo : String → Except Error String)
    (config : String) (calls : SysCalls s) :
    AllOrNothing s (makeStreamInfo config) (createChildStream s (makeStreamInfo config) calls) ∧
      AnswersTruly s makeStreamInfo config calls ↔
    FailsClean s (makeStreamInfo config) calls := by
  rw [answersTruly_iff, FailsClean]
  cases makeStreamInfo config with
  | error err => simp [createChildStream, AllOrNothing, Result.started]
  | ok id =>
    by_cases hex : (findChildByID s id).isSome = true
    · obtain ⟨err, heq⟩ := createChildStream_exists calls hex
      simp [heq, hex, AllOrNothing, Result.started]
    · have hfind : findChildByID s id = none := by simpa using hex
      by_cases hm : calls.mmap = mapFailed
      · simp [createChildStream_mapFailed hfind hm, hfind, hm, AllOrNothing]
      · cases hp : calls.commandPipe with
        | error code =>
          obtain ⟨err, heq⟩ := createChildStream_commandPipe hfind hm hp
          simp [heq, hm, AllOrNothing, Result.started]
        | ok command =>
          cases hq : calls.responcePipe with
          | error code =>
            obtain ⟨err, s', heq, hne⟩ := createChildStream_responcePipe hfind hm hp hq
            simp [heq, hfind, hne, AllOrNothing]
          | ok responce =>
            cases hk : calls.fork with
            | none =>
              obtain ⟨s', heq⟩ := createChildStream_fork hfind hm hp hq hk
              simp [heq, hfind, AllOrNothing]
            | some pid =>
              obtain ⟨s', child, heq, hc, hid⟩ := createChildStream_started hfind hm hp hq hk
              have hfilter := filter_registered hfind hid
              have hone : AllOrNothing s (.ok id) (.returned none (some pid) s') :=
                ⟨nofun, fun _ => ⟨id, child, rfl, hc, hc ▸ hfilter⟩⟩
              simp [heq, hm, hone, Result.started]

/-- A daemon without streams. -/
def idleDaemon : State := ⟨{0, 1, 2}, ∅, [], []⟩

/-- `fork` fails after the mapping and both pipes. -/
def forkFails : SysCalls idleDaemon :=
  ⟨4096, .ok (3, 4), .ok (5, 6), none, by decide, by decide, by decide⟩

/-- The second pipe fails with `EMFILE`. -/
def secondPipeFails : SysCalls idleDaemon :=
  ⟨4096, .ok (3, 4), .error 24, none, by decide, by decide, by decide⟩

/-- `mmap` returns `MAP_FAILED`. -/
def mmapFails : SysCalls idleDaemon :=
  ⟨mapFailed, .ok (3, 4), .ok (5, 6), some 77, by decide, by decide, by decide⟩

/-- A failed `fork` is answered with success and keeps a mapping and four descriptors, a failed
second pipe keeps two, and a failed `mmap` ends the daemon. -/
theorem allOrNothing_fails :
    (¬ AllOrNothing idleDaemon (.ok "stream")
        (createChildStream idleDaemon (.ok "stream") forkFails) ∧
      (handleRequestClientStartStream idleDaemon true .ok (.read "stream") forkFails).2 =
        some .startStreamResponceSuccess) ∧
    ¬ AllOrNothing idleDaemon (.ok "stream")
      (createChildStream idleDaemon (.ok "stream") secondPipeFails) ∧
    ¬ AllOrNothing idleDaemon (.ok "stream")
      (createChildStream idleDaemon (.ok "stream") mmapFails) := by
  refine ⟨⟨fun h => ?_, rfl⟩, fun h => ?_, fun h => h⟩
  · exact absurd (h.1 rfl).1 nofun
  · exact absurd (congrArg State.fds (h.1 rfl).2) (by decide)

end IptvCloud.Server.Daemon
