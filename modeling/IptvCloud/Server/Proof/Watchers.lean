import Mathlib.Data.Finset.Card
import IptvCloud.Lib.Transcript
import IptvCloud.Server.Proof.Service

/-!
# The watchers of a stream

An observer of the subscribers loop sees the clients come and go and what they are answered
(`Notice`), and keeps from this the last stream that each connected client was answered for
(`visited`). `watchers_of_run`: over every run, the watchers that an answer gives for a stream are
the clients whose last stream it is before the answer, and for the empty id those with none as well.
-/

namespace IptvCloud.Server.Subscribers

open Transcript

variable {χ : Type} {cfg : Config} {s s' : State χ} {c : ClientId} {reply : Option (Reply χ)}

/-! ## The observer -/

/-- What is seen of the clients. -/
inductive Notice (χ : Type)
  | accepted (c : ClientId)
  | closed (c : ClientId)
  | answered (c : ClientId) (reply : Reply χ)

/-- What is seen of an event. -/
def Event.notices (reply : Option (Reply χ)) : Event χ → List (Notice χ)
  | .accepted c => [.accepted c]
  | .request c _ _ _ => reply.toList.map (.answered c)
  | .closed c => [.closed c]
  | .sync _ => []

/-- `handle` with what is seen of it. -/
def report (cfg : Config) (s : State χ) (e : Event χ) : Option (State χ × List (Notice χ)) :=
  (handle cfg s e).map fun p => (p.1, e.notices p.2)

/-- The visit of a client, `none` while it is not connected, with the stream that it was last
answered for, if any; a client whose check fails is closed. -/
def visit (c : ClientId) (v : Option (Option String)) : Notice χ → Option (Option String)
  | .accepted c' => if c' = c then some none else v
  | .closed c' => if c' = c then none else v
  | .answered c' (.checkActivateFail _) => if c' = c then none else v
  | .answered c' (.getRuntimeChannelInfoSuccess sid _) => if c' = c then some (some sid) else v
  | .answered _ _ => v

/-- The visit of a client after all that was seen. -/
def visited (notices : List (Notice χ)) (c : ClientId) : Option (Option String) :=
  notices.foldl (visit c) none

/-- The current stream of a client as it is seen: a client comes with the empty id. -/
def watch (c : ClientId) (stream : Option String) : Notice χ → Option String
  | .accepted c' => if c' = c then some "" else stream
  | .closed c' => if c' = c then none else stream
  | .answered c' (.checkActivateFail _) => if c' = c then none else stream
  | .answered c' (.getRuntimeChannelInfoSuccess sid _) => if c' = c then some sid else stream
  | .answered _ _ => stream

theorem watch_visit (c : ClientId) (v : Option (Option String)) (n : Notice χ) :
    watch c (v.map (·.getD "")) n = (visit c v n).map (·.getD "") := by
  cases n with
  | accepted c' | closed c' =>
    simp only [watch, visit]
    split <;> rfl
  | answered c' reply =>
    cases reply with
    | checkActivateFail err | getRuntimeChannelInfoSuccess sid watchers =>
      simp only [watch, visit]
      split <;> rfl
    | _ => rfl

/-- The current stream of a client is that of its visit. -/
theorem foldl_watch (notices : List (Notice χ)) (c : ClientId) (v : Option (Option String)) :
    notices.foldl (watch c) (v.map (·.getD "")) = (notices.foldl (visit c) v).map (·.getD "") := by
  induction notices generalizing v with
  | nil => rfl
  | cons n notices ih =>
    rw [List.foldl_cons, watch_visit, ih]
    rfl

/-- The client is a watcher of the stream: it was last answered for it, or it had no answer and the
stream is the empty one. -/
def Watches (notices : List (Notice χ)) (sid : String) (c : ClientId) : Prop :=
  visited notices c = some (some sid) ∨ visited notices c = some none ∧ sid = ""

/-! ## The current streams -/

/-- `GetCurrentStreamID` of a connected client. -/
def currentStream (s : State χ) (c : ClientId) : Option String :=
  (s.clients.lookup c).map (·.currentStreamId)

/-- The current streams change as is seen. -/
def Sees (s : State χ) (notices : List (Notice χ)) (s' : State χ) : Prop :=
  ∀ c, currentStream s' c = notices.foldl (watch c) (currentStream s c)

theorem Sees.append {s₁ : State χ} {notices rest : List (Notice χ)} (h : Sees s notices s₁)
    (h' : Sees s₁ rest s') : Sees s (notices ++ rest) s' := by
  intro c
  rw [List.foldl_append, ← h c]
  exact h' c

/-- The record of one client changes. -/
theorem currentStream_insert (s : State χ) (c c' : ClientId) (client : SubscriberClient) :
    ((s.clients.insert c client).lookup c').map (·.currentStreamId) =
      if c = c' then some client.currentStreamId else currentStream s c' := by
  by_cases h : c = c'
  · subst h
    simp [AList.lookup_insert]
  · rw [AList.lookup_insert_ne (Ne.symm h), if_neg h]
    rfl

theorem currentStream_erase (s : State χ) (c c' : ClientId) :
    ((s.clients.erase c).lookup c').map (·.currentStreamId) =
      if c = c' then none else currentStream s c' := by
  by_cases h : c = c'
  · subst h
    simp [AList.lookup_erase]
  · rw [AList.lookup_erase_ne (Ne.symm h), if_neg h]
    rfl

/-- A client that fails the check is closed; the others are served. -/
theorem sees_withAuthClient {client : SubscriberClient}
    {serve : UserInfo χ → State χ × Option (Reply χ)}
    (h : withAuthClient cfg s c client serve = (s', reply))
    (hserve : ∀ user, Sees s ((serve user).2.toList.map (.answered c)) (serve user).1) :
    Sees s (reply.toList.map (.answered c)) s' := by
  unfold withAuthClient at h
  split at h
  · cases h
    exact fun c' => currentStream_erase s c c'
  · rename_i user _
    have hs := hserve user
    rw [h] at hs
    exact hs

theorem sees_activate {stale : ClientId → ServerAuthInfo} {sendOk : Bool}
    {client : SubscriberClient} {params : Params AuthInfo} (hc : s.clients.lookup c = some client)
    (h : handleRequestClientActivate cfg stale sendOk s c client params = some (s', reply)) :
    Sees s (reply.toList.map (.answered c)) s' := by
  have hans := answer_activate h
  cases hans with
  | silent | refused => exact fun _ => rfl
  | rejected _ err => exact fun c' => currentStream_erase s c c'
  | activated auth info =>
    intro c'
    refine (currentStream_insert s c c' _).trans ?_
    by_cases heq : c = c'
    · subst heq
      simp [watch, currentStream, hc]
    · simp [watch, heq]
  | served _ _ _ _ hreq => cases hreq

/-- What is seen of an event is what it does to the current streams. -/
theorem sees_handle {e : Event χ} (h : handle cfg s e = some (s', reply)) :
    Sees s (e.notices reply) s' := by
  cases e with
  | accepted c =>
    simp only [handle] at h
    split at h
    · cases h
    · cases h
      exact fun c' => currentStream_insert s c c' {}
  | closed c =>
    obtain ⟨client, hc, heq⟩ := Option.map_eq_some_iff.1 h
    cases heq
    exact fun c' => currentStream_erase s c c'
  | sync op =>
    cases h
    exact fun _ => rfl
  | request c req sendOk stale =>
    obtain ⟨client, hc, h⟩ := Option.bind_eq_some_iff.1 h
    cases req with
    | activate params => exact sees_activate hc h
    | ping params =>
      refine sees_withAuthClient (Option.some.inj h) fun user => ?_
      cases params <;> exact fun _ => rfl
    | getServerInfo | getChannels =>
      exact sees_withAuthClient (Option.some.inj h) fun _ _ => rfl
    | getRuntimeChannelInfo params =>
      refine sees_withAuthClient (Option.some.inj h) fun user => ?_
      cases params with
      | read sid => exact fun c' => currentStream_insert s c c' _
      | absent | notJson | refused => exact fun _ => rfl
    | unknown =>
      cases h
      exact fun _ => rfl

theorem sees_run {es : List (Event χ)} {notices : List (Notice χ)}
    (h : run (report cfg) s es = some (s', notices)) : Sees s notices s' := by
  induction es generalizing s notices with
  | nil =>
    cases h
    exact fun _ => rfl
  | cons e es ih =>
    obtain ⟨s₁, outs, rest, hreport, hrun, rfl⟩ := run_cons h
    obtain ⟨⟨s₂, reply⟩, hhandle, heq⟩ := Option.map_eq_some_iff.1 hreport
    cases heq
    exact (sees_handle hhandle).append (ih hrun)

/-! ## The count -/

/-- The count is that of the clients with this current stream. -/
theorem card_getAndUpdateOnlineUserByStreamID (s : State χ) (sid : String) :
    ∃ t : Finset ClientId, (∀ c, c ∈ t ↔ currentStream s c = some sid) ∧
      getAndUpdateOnlineUserByStreamID s sid = t.card := by
  let watching := s.clients.entries.filter fun client => client.2.currentStreamId = sid
  have hnodup : (watching.map (·.1)).Nodup :=
    List.Nodup.sublist (List.filter_sublist.map _) s.clients.nodupKeys
  refine ⟨(watching.map (·.1)).toFinset, fun c => ?_, ?_⟩
  · rw [List.mem_toFinset, List.mem_map, currentStream, Option.map_eq_some_iff]
    constructor
    · rintro ⟨⟨c', client⟩, hmem, rfl⟩
      obtain ⟨hentry, hsid⟩ := List.mem_filter.1 hmem
      exact ⟨client, AList.mem_lookup_iff.2 hentry, of_decide_eq_true hsid⟩
    · rintro ⟨client, hlookup, hsid⟩
      exact ⟨⟨c, client⟩, List.mem_filter.2 ⟨AList.mem_lookup_iff.1 hlookup, decide_eq_true hsid⟩,
        rfl⟩
  · rw [List.toFinset_card_of_nodup hnodup, List.length_map, getAndUpdateOnlineUserByStreamID,
      List.countP_eq_length_filter]

/-- Only a runtime channel request is answered with watchers, which are counted before. -/
theorem watchers_handle {req : Request} {sendOk : Bool} {stale : ClientId → ServerAuthInfo}
    {sid : String} {watchers : Nat}
    (h : handle cfg s (.request c req sendOk stale) =
      some (s', some (.getRuntimeChannelInfoSuccess sid watchers))) :
    watchers = getAndUpdateOnlineUserByStreamID s sid := by
  obtain ⟨client, -, h⟩ := Option.bind_eq_some_iff.1 h
  have served {serve : UserInfo χ → State χ × Option (Reply χ)}
      (h : withAuthClient cfg s c client serve =
        (s', some (.getRuntimeChannelInfoSuccess sid watchers))) :
      ∃ user, serve user = (s', some (.getRuntimeChannelInfoSuccess sid watchers)) := by
    unfold withAuthClient at h
    split at h
    · cases h
    · exact ⟨_, h⟩
  cases req with
  | activate params => cases answer_activate h with | served _ _ _ _ hreq => cases hreq
  | ping params =>
    obtain ⟨user, h⟩ := served (Option.some.inj h)
    cases params <;> cases h
  | getServerInfo | getChannels =>
    obtain ⟨user, h⟩ := served (Option.some.inj h)
    cases h
  | getRuntimeChannelInfo params =>
    obtain ⟨user, h⟩ := served (Option.some.inj h)
    cases params with
    | read sid =>
      cases h
      rfl
    | absent | notJson | refused => cases h
  | unknown => cases h

/-- **The watchers of a stream**: over every run, an answer to a runtime channel request gives the
number of the clients that are connected then and whose last such answer was for the same stream,
and for the empty id of those too that had no such answer. The client that asks is counted as it was
before. -/
theorem watchers_of_run {users : SyncFinder χ} {es : List (Event χ)} {notices : List (Notice χ)}
    (hrun : run (report cfg) (.init users) es = some (s, notices)) {req : Request} {sendOk : Bool}
    {stale : ClientId → ServerAuthInfo} {sid : String} {watchers : Nat}
    (h : handle cfg s (.request c req sendOk stale) =
      some (s', some (.getRuntimeChannelInfoSuccess sid watchers))) :
    ∃ t : Finset ClientId, (∀ c', c' ∈ t ↔ Watches notices sid c') ∧ watchers = t.card := by
  obtain ⟨t, hmem, hcard⟩ := card_getAndUpdateOnlineUserByStreamID s sid
  refine ⟨t, fun c' => ?_, (watchers_handle h).trans hcard⟩
  have hcurrent : currentStream s c' = (visited notices c').map (·.getD "") :=
    (sees_run hrun c').trans (foldl_watch notices c' none)
  rw [hmem, hcurrent, Watches]
  rcases visited notices c' with _ | _ | stream
  · simp
  · simp [eq_comm]
  · simp

/-- Client 1 asks for a stream. -/
def watchOne : Event Unit := .request 1 (.getRuntimeChannelInfo (.read "news")) true fun _ => {}

/-- A client that asks for a stream a second time counts itself. -/
theorem watchers_twice : ∃ s notices,
    run (report loginConfig) (.init (syncedUsers [userWith .active])) (activation ++ [watchOne]) =
      some (s, notices) ∧
    ∃ t : Finset ClientId, (∀ c, c ∈ t ↔ Watches notices "news" c) ∧ 1 = t.card := by
  obtain ⟨⟨s, notices⟩, hrun⟩ : ∃ r, run (report loginConfig)
      (.init (syncedUsers [userWith .active])) (activation ++ [watchOne]) = some r := ⟨_, rfl⟩
  have hagain : handle loginConfig s watchOne =
      some (s, some (.getRuntimeChannelInfoSuccess "news" 1)) := by
    cases hrun
    rfl
  exact ⟨s, notices, hrun, watchers_of_run hrun hagain⟩

end IptvCloud.Server.Subscribers
