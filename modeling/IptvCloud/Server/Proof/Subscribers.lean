import IptvCloud.Lib.Run
import IptvCloud.Server.Subscribers

/-!
# What the subscribers handler does

`Answer` lists what a request can do and be answered (`answer_handle`), and `Change` what any event
can do to the state (`change_step`); every invariant of the handler is one case split on these.
`HostInv`: the host info of a client is that of its last activation, and the empty one before.
-/

namespace IptvCloud.Server.Subscribers

open Run MultiMap

variable {χ : Type} {cfg : Config} {s s' : State χ} {e : Event χ}

/-! ## What an event does -/

theorem checkActivate_ok {stale : ClientId → ServerAuthInfo} {auth : AuthInfo}
    {info : ServerAuthInfo} (h : checkActivate cfg stale s auth = .ok info) :
    ∃ user device, s.users.findUser cfg.authValid auth = .ok user ∧ user.isBanned = false ∧
      user.findDevice auth.deviceId = .ok device ∧ info = ⟨auth, user.uid⟩ ∧
      (findInnerConnectionsByUser stale s info.makeUserRpc).length < device.connections := by
  simp only [checkActivate, bind, Except.bind] at h
  split at h
  · cases h
  · rename_i user huser
    split at h
    · cases h
    · rename_i hbanned
      simp only [pure, Except.pure] at h
      split at h
      · cases h
      · rename_i device hdevice
        split at h
        · cases h
        · rename_i hlimit
          cases h
          exact ⟨user, device, huser, by simpa using hbanned, hdevice, rfl, by omega⟩

/-- The effect of an event on the state. -/
inductive Change (cfg : Config) (s : State χ) : Event χ → State χ → Prop
  | none (e : Event χ) : Change cfg s e s
  | accepted (c : ClientId) (h : c ∉ s.clients) :
    Change cfg s (.accepted c) { s with clients := s.clients.insert c {} }
  | registered (c : ClientId) (client : SubscriberClient) (auth : AuthInfo)
    (stale : ClientId → ServerAuthInfo) (info : ServerAuthInfo)
    (hc : s.clients.lookup c = some client) (hcheck : checkActivate cfg stale s auth = .ok info)
    (hv : info.isValid cfg.authValid = true) :
    Change cfg s (.request c (.activate (.read auth)) true stale)
      (registerInnerConnectionByHost s c client info)
  | streamSet (e : Event χ) (c : ClientId) (client : SubscriberClient) (sid : String)
    (hc : s.clients.lookup c = some client) :
    Change cfg s e { s with clients := s.clients.insert c { client with currentStreamId := sid } }
  | closed (e : Event χ) (c : ClientId) (client : SubscriberClient)
    (hc : s.clients.lookup c = some client) : Change cfg s e (closeClient cfg s c client)
  | synced (op : FinderOp χ) : Change cfg s (.sync op) { s with users := op.apply s.users }

/-- The success answers to a ping, server info, channels or runtime channel request. -/
def Reply.isService : Reply χ → Bool
  | .pong | .getServerInfoSuccess _ | .getChannelsSuccess _ | .getRuntimeChannelInfoSuccess _ _ =>
    true
  | .activateSuccess | .activateFail _ | .checkActivateFail _ => false

/-- A request that is answered with success when its client passes the check. -/
def Request.isService : Request → Bool
  | .ping (.read _) | .getServerInfo | .getChannels | .getRuntimeChannelInfo (.read _) => true
  | _ => false

/-- The state after a request of a client and the answer to it. -/
inductive Answer (cfg : Config) (stale : ClientId → ServerAuthInfo) (sendOk : Bool) (s : State χ)
    (c : ClientId) (client : SubscriberClient) : Request → State χ → Option (Reply χ) → Prop
  | silent (req : Request) : Answer cfg stale sendOk s c client req s none
  | refused (req : Request) (err : Error) :
    Answer cfg stale sendOk s c client req s (some (.activateFail err))
  | activated (auth : AuthInfo) (info : ServerAuthInfo) (hsend : sendOk = true)
    (hcheck : checkActivate cfg stale s auth = .ok info) (hv : info.isValid cfg.authValid = true) :
    Answer cfg stale sendOk s c client (.activate (.read auth))
      (registerInnerConnectionByHost s c client info) (some .activateSuccess)
  | rejected (req : Request) (err : Error) :
    Answer cfg stale sendOk s c client req (closeClient cfg s c client)
      (some (.checkActivateFail err))
  | served (req : Request) (user : UserInfo χ) (reply : Reply χ)
    (hu : checkIsAuthClient cfg s client = .ok user) (hreq : req.isService = true)
    (hr : reply.isService = true) : Answer cfg stale sendOk s c client req s (some reply)
  | watched (sid : String) (user : UserInfo χ) (reply : Reply χ)
    (hu : checkIsAuthClient cfg s client = .ok user) (hr : reply.isService = true) :
    Answer cfg stale sendOk s c client (.getRuntimeChannelInfo (.read sid))
      { s with clients := s.clients.insert c { client with currentStreamId := sid } } (some reply)

section Answers

variable {stale : ClientId → ServerAuthInfo} {sendOk : Bool} {c : ClientId}
  {client : SubscriberClient} {req : Request} {reply : Option (Reply χ)}

theorem answer_activate {params : Params AuthInfo}
    (h : handleRequestClientActivate cfg stale sendOk s c client params = some (s', reply)) :
    Answer cfg stale sendOk s c client (.activate params) s' reply := by
  cases params with
  | absent | notJson => cases h; exact .silent _
  | refused err => cases h; exact .refused _ err
  | read auth =>
    simp only [handleRequestClientActivate] at h
    split at h
    · cases h
      exact .refused _ _
    · rename_i info hcheck
      split at h
      · rename_i hsend
        split at h
        · rename_i hv
          cases h
          exact .activated auth info hsend hcheck hv
        · cases h
      · cases h
        exact .silent _

/-- The shape of the handlers that start with the check. -/
theorem answer_withAuthClient {serve : UserInfo χ → State χ × Option (Reply χ)}
    (h : some (withAuthClient cfg s c client serve) = some (s', reply))
    (hserve : ∀ user, checkIsAuthClient cfg s client = .ok user →
      Answer cfg stale sendOk s c client req (serve user).1 (serve user).2) :
    Answer cfg stale sendOk s c client req s' reply := by
  unfold withAuthClient at h
  split at h
  · cases h
    exact .rejected req _
  · rename_i user hu
    have hs := hserve user hu
    rw [Option.some.inj h] at hs
    exact hs

theorem answer_handleRequestCommand
    (h : handleRequestCommand cfg stale sendOk s c client req = some (s', reply)) :
    Answer cfg stale sendOk s c client req s' reply := by
  cases req with
  | activate params => exact answer_activate h
  | ping params =>
    refine answer_withAuthClient h fun user hu => ?_
    cases params with
    | read _ => exact .served _ user _ hu rfl rfl
    | absent | notJson | refused => exact .silent _
  | getServerInfo => exact answer_withAuthClient h fun user hu => .served _ user _ hu rfl rfl
  | getChannels => exact answer_withAuthClient h fun user hu => .served _ user _ hu rfl rfl
  | getRuntimeChannelInfo params =>
    refine answer_withAuthClient h fun user hu => ?_
    cases params with
    | read sid => exact .watched sid user _ hu rfl
    | absent | notJson | refused => exact .silent _
  | unknown method => cases h; exact .silent _

/-- A request is that of a connected client. -/
theorem answer_handle (h : handle cfg s (.request c req sendOk stale) = some (s', reply)) :
    ∃ client, s.clients.lookup c = some client ∧
      Answer cfg stale sendOk s c client req s' reply := by
  obtain ⟨client, hc, hreq⟩ := Option.bind_eq_some_iff.1 h
  exact ⟨client, hc, answer_handleRequestCommand hreq⟩

end Answers

theorem change_handle {reply : Option (Reply χ)} (h : handle cfg s e = some (s', reply)) :
    Change cfg s e s' := by
  cases e with
  | accepted c =>
    simp only [handle] at h
    split at h
    · cases h
    · rename_i hc
      cases h
      exact .accepted c hc
  | closed c =>
    obtain ⟨client, hc, hclose⟩ := Option.map_eq_some_iff.1 h
    cases hclose
    exact .closed _ c client hc
  | sync op => cases h; exact .synced op
  | request c req sendOk stale =>
    obtain ⟨client, hc, hans⟩ := answer_handle h
    cases hans with
    | silent | refused | served => exact .none _
    | activated auth info hsend hcheck hv =>
      subst hsend
      exact .registered c client auth stale info hc hcheck hv
    | rejected => exact .closed _ c client hc
    | watched sid => exact .streamSet _ c client sid hc

theorem change_step (h : step cfg s e = some s') : Change cfg s e s' := by
  obtain ⟨⟨s₁, reply⟩, hs, rfl⟩ := Option.map_eq_some_iff.1 h
  exact change_handle hs

/-- An activation whose checks pass registers the client. -/
theorem step_registered {c : ClientId} {client : SubscriberClient} {auth : AuthInfo}
    {stale : ClientId → ServerAuthInfo} {info : ServerAuthInfo}
    (hc : s.clients.lookup c = some client) (hcheck : checkActivate cfg stale s auth = .ok info)
    (hv : info.isValid cfg.authValid = true) :
    step cfg s (.request c (.activate (.read auth)) true stale) =
      some (registerInnerConnectionByHost s c client info) := by
  simp only [step, handle, hc, Option.bind_some, handleRequestCommand, handleRequestClientActivate,
    hcheck, if_true, hv, Option.map_some]

/-- Only an activation whose checks pass is answered with success. -/
theorem handle_activateSuccess {c : ClientId} {req : Request} {sendOk : Bool}
    {stale : ClientId → ServerAuthInfo}
    (h : handle cfg s (.request c req sendOk stale) = some (s', some .activateSuccess)) :
    ∃ client auth info, s.clients.lookup c = some client ∧ req = .activate (.read auth) ∧
      checkActivate cfg stale s auth = .ok info ∧ info.isValid cfg.authValid = true ∧
      s' = registerInnerConnectionByHost s c client info := by
  obtain ⟨client, hc, hans⟩ := answer_handle h
  cases hans with
  | activated auth info hsend hcheck hv => exact ⟨client, auth, info, hc, rfl, hcheck, hv, rfl⟩
  | served _ _ _ _ _ hr | watched _ _ _ _ hr => cases hr

/-- Setting the stream of a client changes no host info. -/
theorem lookup_streamSet {c c' : ClientId} {client client' : SubscriberClient} {sid : String}
    (hc : s.clients.lookup c = some client)
    (hl : (s.clients.insert c { client with currentStreamId := sid }).lookup c' = some client') :
    ∃ client₀, s.clients.lookup c' = some client₀ ∧ client'.hinfo = client₀.hinfo := by
  by_cases hne : c' = c
  · subst hne
    rw [AList.lookup_insert] at hl
    cases hl
    exact ⟨client, hc, rfl⟩
  · rw [AList.lookup_insert_ne hne] at hl
    exact ⟨client', hl, rfl⟩

/-- The clients left by a close. -/
theorem lookup_closeClient {c c' : ClientId} {client client' : SubscriberClient}
    (hl : (closeClient cfg s c client).clients.lookup c' = some client') :
    c' ≠ c ∧ s.clients.lookup c' = some client' := by
  have hne : c' ≠ c := fun he => by
    rw [closeClient, he, AList.lookup_erase] at hl
    cases hl
  rw [closeClient, AList.lookup_erase_ne hne] at hl
  exact ⟨hne, hl⟩

/-! ## Host infos -/

/-- The host info of a client is what its last activation has set. -/
structure HostInv (cfg : Config) (s : State χ) : Prop where
  connected : ∀ c ∈ s.activated, c ∈ s.clients
  valid : ∀ c client, s.clients.lookup c = some client → c ∈ s.activated →
    client.hinfo.isValid cfg.authValid = true
  default : ∀ c client, s.clients.lookup c = some client → c ∉ s.activated → client.hinfo = {}

theorem hostInv_init (cfg : Config) (users : SyncFinder χ) : HostInv cfg (.init users) :=
  ⟨nofun, nofun, nofun⟩

theorem hostInv_step (hI : HostInv cfg s) (h : step cfg s e = some s') : HostInv cfg s' := by
  cases change_step h with
  | none | synced => exact ⟨hI.connected, hI.valid, hI.default⟩
  | accepted c hc =>
    have hact : c ∉ s.activated := fun h => hc (hI.connected c h)
    refine ⟨fun c' h' => (AList.mem_insert _).2 (.inr (hI.connected c' h')), ?_, ?_⟩
    · intro c' client hl ha
      have hne : c' ≠ c := fun he => hact (he ▸ ha)
      rw [AList.lookup_insert_ne hne] at hl
      exact hI.valid c' client hl ha
    · intro c' client hl ha
      by_cases hne : c' = c
      · subst hne
        rw [AList.lookup_insert] at hl
        cases hl
        rfl
      · rw [AList.lookup_insert_ne hne] at hl
        exact hI.default c' client hl ha
  | registered c client auth stale info hc hcheck hv =>
    refine ⟨fun c' h' => ?_, ?_, ?_⟩
    · refine (AList.mem_insert _).2 ?_
      rcases List.mem_cons.1 h' with rfl | h'
      · exact .inl rfl
      · exact .inr (hI.connected c' h')
    · intro c' client' hl ha
      by_cases hne : c' = c
      · subst hne
        rw [registerInnerConnectionByHost, AList.lookup_insert] at hl
        cases hl
        exact hv
      · rw [registerInnerConnectionByHost, AList.lookup_insert_ne hne] at hl
        exact hI.valid c' client' hl ((List.mem_cons.1 ha).resolve_left hne)
    · intro c' client' hl ha
      obtain ⟨hne, ha⟩ := not_or.1 (mt List.mem_cons.2 ha)
      rw [registerInnerConnectionByHost, AList.lookup_insert_ne hne] at hl
      exact hI.default c' client' hl ha
  | streamSet _ c client sid hc =>
    refine ⟨fun c' h' => (AList.mem_insert _).2 (.inr (hI.connected c' h')), ?_, ?_⟩
    · intro c' client' hl ha
      obtain ⟨client₀, hl, he⟩ := lookup_streamSet hc hl
      exact he ▸ hI.valid c' client₀ hl ha
    · intro c' client' hl ha
      obtain ⟨client₀, hl, he⟩ := lookup_streamSet hc hl
      exact he ▸ hI.default c' client₀ hl ha
  | closed _ c client hc =>
    refine ⟨fun c' h' => ?_, ?_, ?_⟩
    · obtain ⟨h', hne⟩ := List.mem_filter.1 h'
      exact AList.mem_erase.2 ⟨by simpa using hne, hI.connected c' h'⟩
    · intro c' client' hl ha
      obtain ⟨-, hl⟩ := lookup_closeClient hl
      exact hI.valid c' client' hl (List.mem_of_mem_filter ha)
    · intro c' client' hl ha
      obtain ⟨hne, hl⟩ := lookup_closeClient hl
      exact hI.default c' client' hl fun h => ha (List.mem_filter.2 ⟨h, by simpa using hne⟩)

end IptvCloud.Server.Subscribers
