import IptvCloud.Server.Proof.Subscribers

/-!
# Who is served

The requests after the activation are checked again by `CheckIsAuthClient`, which asks the table for
the login and the password of the host info. An activation also refuses banned users; this check
does not. `servesValid_iff_noBanned`: over every run the served clients are activated ones with a
current record that is not banned, exactly when no request comes from a client whose record, still
with its password, has been banned.
-/

namespace IptvCloud.Server.Subscribers

open Run

variable {χ : Type} {cfg : Config} {s s' : State χ} {e : Event χ}

/-- A served client has been activated, and its login has a record with its password that is not
banned. -/
def ServesValid (cfg : Config) (s : State χ) (e : Event χ) : Prop :=
  ∀ c req sendOk stale s' reply, e = .request c req sendOk stale →
    handle cfg s e = some (s', some reply) → reply.isService = true →
    c ∈ s.activated ∧ ∃ client user, s.clients.lookup c = some client ∧
      s.users.lookup client.hinfo.login = some user ∧ client.hinfo.password = user.password ∧
      user.isBanned = false

/-- The record that the check finds for a request is not banned. -/
def NoBanned (cfg : Config) (s : State χ) (e : Event χ) : Prop :=
  ∀ c req sendOk stale client user, e = .request c req sendOk stale → req.isService = true →
    s.clients.lookup c = some client → checkIsAuthClient cfg s client = .ok user →
    user.isBanned = false

theorem findUser_ok {authValid : AuthInfo → Bool} {users : SyncFinder χ} {auth : AuthInfo}
    {user : UserInfo χ} (h : users.findUser authValid auth = .ok user) :
    authValid auth = true ∧ users.lookup auth.login = some user ∧
      auth.password = user.password := by
  simp only [SyncFinder.findUser] at h
  split at h
  · rename_i hv
    split at h
    · cases h
    · rename_i found hl
      split at h
      · rename_i hp
        cases h
        exact ⟨hv, hl, hp⟩
      · cases h
  · cases h

/-! ## Answers -/

theorem withAuthClient_of_check {c : ClientId} {client : SubscriberClient} {user : UserInfo χ}
    {serve : UserInfo χ → State χ × Option (Reply χ)}
    (hu : checkIsAuthClient cfg s client = .ok user) :
    withAuthClient cfg s c client serve = serve user := by
  simp only [withAuthClient, hu]

/-- A service answer goes to a client that passes the check, for a service request. -/
theorem handle_service {c : ClientId} {req : Request} {sendOk : Bool}
    {stale : ClientId → ServerAuthInfo} {reply : Reply χ}
    (h : handle cfg s (.request c req sendOk stale) = some (s', some reply))
    (hr : reply.isService = true) :
    ∃ client user, s.clients.lookup c = some client ∧ checkIsAuthClient cfg s client = .ok user ∧
      req.isService = true := by
  obtain ⟨client, hc, hans⟩ := answer_handle h
  cases hans with
  | refused | activated | rejected => cases hr
  | served _ user _ hu hreq _ => exact ⟨client, user, hc, hu, hreq⟩
  | watched _ user _ hu _ => exact ⟨client, user, hc, hu, rfl⟩

/-- A service request of a client that passes the check is answered. -/
theorem handle_of_check {c : ClientId} {req : Request} (sendOk : Bool)
    (stale : ClientId → ServerAuthInfo) {client : SubscriberClient} {user : UserInfo χ}
    (hreq : req.isService = true) (hc : s.clients.lookup c = some client)
    (hu : checkIsAuthClient cfg s client = .ok user) :
    ∃ s' reply, handle cfg s (.request c req sendOk stale) = some (s', some reply) ∧
      reply.isService = true := by
  simp only [handle, hc, Option.bind_some]
  cases req with
  | activate | unknown => cases hreq
  | ping params =>
    cases params with
    | read _ => exact ⟨_, _, congrArg some (withAuthClient_of_check hu), rfl⟩
    | absent | notJson | refused => cases hreq
  | getServerInfo => exact ⟨_, _, congrArg some (withAuthClient_of_check hu), rfl⟩
  | getChannels => exact ⟨_, _, congrArg some (withAuthClient_of_check hu), rfl⟩
  | getRuntimeChannelInfo params =>
    cases params with
    | read _ => exact ⟨_, _, congrArg some (withAuthClient_of_check hu), rfl⟩
    | absent | notJson | refused => cases hreq

/-! ## Runs -/

/-- A client that was not activated fails the check, if the empty `AuthInfo` is not valid. -/
theorem activated_of_check (hdef : cfg.authValid {} = false) (hI : HostInv cfg s) {c : ClientId}
    {client : SubscriberClient} {user : UserInfo χ} (hc : s.clients.lookup c = some client)
    (hu : checkIsAuthClient cfg s client = .ok user) : c ∈ s.activated := by
  by_contra ha
  have hv := (findUser_ok hu).1
  rw [hI.default c client hc ha] at hv
  rw [hdef] at hv
  cases hv

theorem servesValid_iff (hdef : cfg.authValid {} = false) (hI : HostInv cfg s) :
    ServesValid cfg s e ↔ NoBanned cfg s e := by
  constructor
  · rintro h c req sendOk stale client user rfl hreq hc hu
    obtain ⟨s', reply, hs, hr⟩ := handle_of_check sendOk stale hreq hc hu
    obtain ⟨-, client', user', hc', hl, -, hb⟩ := h c req sendOk stale s' reply rfl hs hr
    rw [hc] at hc'
    cases hc'
    rw [(findUser_ok hu).2.1] at hl
    cases hl
    exact hb
  · rintro h c req sendOk stale s' reply rfl hs hr
    obtain ⟨client, user, hc, hu, hreq⟩ := handle_service hs hr
    obtain ⟨-, hl, hp⟩ := findUser_ok hu
    exact ⟨activated_of_check hdef hI hc hu, client, user, hc, hl, hp,
      h c req sendOk stale client user rfl hreq hc hu⟩

/-- **Who is served**: over every run of requests and synchronisations, activated clients with a
current record that is not banned, exactly when the check of no request finds a banned record. -/
theorem servesValid_iff_noBanned {cfg : Config} (hdef : cfg.authValid {} = false)
    (users : SyncFinder χ) (es : List (Event χ)) :
    Along (step cfg) (ServesValid cfg) (.init users) es ↔
      Along (step cfg) (NoBanned cfg) (.init users) es :=
  along_iff (I := HostInv cfg) (fun _ _ hI => servesValid_iff hdef hI)
    (fun _ _ _ hI _ h => hostInv_step hI h) (hostInv_init cfg users)

/-- A handler whose users are valid when they have a login. -/
def loginConfig : Config := ⟨fun auth => auth.login != "", ("localhost", 6000)⟩

/-- A user record with a status. -/
def userWith (status : Status) : UserInfo Unit := ⟨"u1", "user", "hash", (), [⟨"tv", 1⟩], status⟩

/-- Client 1 is accepted and activated as this user. -/
def activation : List (Event Unit) :=
  [.accepted 1, .request 1 (.activate (.read ⟨"user", "hash", "tv"⟩)) true fun _ => {}]

/-- The ping of client 1. -/
def pingOne : Event Unit := .request 1 (.ping (.read ())) true fun _ => {}

/-- A user that is banned after the activation is still served. -/
theorem servesValid_banned_fails :
    ¬ Along (step loginConfig) (ServesValid loginConfig) (.init (syncedUsers [userWith .active]))
      (activation ++ [.sync .clear, .sync (.addUser (userWith .banned)), pingOne]) := by
  intro h
  obtain ⟨-, client, user, hc, hl, -, hb⟩ :=
    ((((h.2 _ rfl).2 _ rfl).2 _ rfl).2 _ rfl).1 1 _ true (fun _ => {}) _ _ rfl rfl rfl
  cases hc
  cases hl
  exact absurd hb (by decide)

theorem servesValid_active :
    Along (step loginConfig) (ServesValid loginConfig) (.init (syncedUsers [userWith .active]))
      (activation ++ [pingOne]) := by
  have hdef : loginConfig.authValid {} = false := by decide
  apply (servesValid_iff_noBanned hdef _ _).2
  refine ⟨?_, fun s₁ h₁ => ⟨?_, fun s₂ h₂ => ⟨?_, fun _ _ => trivial⟩⟩⟩
  · intro c req sendOk stale client user he
    cases he
  · intro c req sendOk stale client user he hreq
    cases he
    cases hreq
  · cases h₁
    cases h₂
    intro c req sendOk stale client user he hreq hc hu
    cases he
    cases hc
    cases hu
    rfl

end IptvCloud.Server.Subscribers
