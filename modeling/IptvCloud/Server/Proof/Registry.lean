import IptvCloud.Server.Proof.Subscribers

/-!
# The registry of the subscribers

An activation pushes the client to the list of its user and never takes it out of the list it is
in. So `connections_` is exact as long as no activated client is activated again
(`registryExact_iff_noReactivation`), and in every run it misses no client (`Listed`), which is what
the connection limit of a device needs (`withinLimit_along`).
-/

namespace IptvCloud.Server.Subscribers

open Run MultiMap

variable {χ : Type} {cfg : Config} {s s' : State χ} {e : Event χ}

/-! ## Exactness -/

/-- `connections_` holds the activated clients, each once, in the list of the user of its host
info, and nothing else. -/
structure RegistryExact (s : State χ) : Prop where
  once : ∀ c client, s.clients.lookup c = some client → c ∈ s.activated →
    (values s.connections client.hinfo.uid).count c = 1
  only : ∀ uid c, c ∈ values s.connections uid →
    c ∈ s.activated ∧ ∃ client, s.clients.lookup c = some client ∧ client.hinfo.uid = uid

/-- The registry is exact after the event. -/
def KeepsRegistry (cfg : Config) (s : State χ) (e : Event χ) : Prop :=
  ∀ s', step cfg s e = some s' → RegistryExact s'

/-- No activated client passes the checks of another activation. -/
def NoReactivation (cfg : Config) (s : State χ) (e : Event χ) : Prop :=
  ∀ c auth stale info, e = .request c (.activate (.read auth)) true stale → c ∈ s.clients →
    checkActivate cfg stale s auth = .ok info → info.isValid cfg.authValid = true →
    c ∉ s.activated

theorem registryExact_init (users : SyncFinder χ) : RegistryExact (.init users) :=
  ⟨nofun, nofun⟩

theorem registryExact_accepted (hI : HostInv cfg s) (hR : RegistryExact s) {c : ClientId}
    (hc : c ∉ s.clients) : RegistryExact { s with clients := s.clients.insert c {} } := by
  have hne : ∀ c' ∈ s.activated, c' ≠ c := fun c' ha he => hc (he ▸ hI.connected c' ha)
  refine ⟨fun c' client hl ha => ?_, fun uid c' hm => ?_⟩
  · rw [AList.lookup_insert_ne (hne c' ha)] at hl
    exact hR.once c' client hl ha
  · obtain ⟨ha, client, hl, hu⟩ := hR.only uid c' hm
    exact ⟨ha, client, (AList.lookup_insert_ne (hne c' ha)).trans hl, hu⟩

theorem registryExact_registered (hR : RegistryExact s) {c : ClientId} (hc : c ∉ s.activated)
    (client : SubscriberClient) (info : ServerAuthInfo) :
    RegistryExact (registerInnerConnectionByHost s c client info) := by
  have hnone : ∀ uid, (values s.connections uid).count c = 0 := fun uid =>
    List.count_eq_zero.2 fun hm => hc (hR.only uid c hm).1
  refine ⟨fun c' client' hl ha => ?_, fun uid c' hm => ?_⟩
  · by_cases hne : c' = c
    · subst hne
      rw [registerInnerConnectionByHost, AList.lookup_insert] at hl
      cases hl
      rw [registerInnerConnectionByHost, count_push, hnone, if_pos ⟨rfl, rfl⟩]
    · rw [registerInnerConnectionByHost, AList.lookup_insert_ne hne] at hl
      rw [registerInnerConnectionByHost, count_push, if_neg (fun h => hne h.2)]
      exact hR.once c' client' hl ((List.mem_cons.1 ha).resolve_left hne)
  · have hpos := List.count_pos_iff.2 hm
    rw [registerInnerConnectionByHost, count_push] at hpos
    by_cases hnew : uid = info.uid ∧ c' = c
    · obtain ⟨rfl, rfl⟩ := hnew
      exact ⟨List.mem_cons_self .., _, AList.lookup_insert _, rfl⟩
    · rw [if_neg hnew, Nat.add_zero] at hpos
      obtain ⟨ha, client', hl, hu⟩ := hR.only uid c' (List.count_pos_iff.1 hpos)
      have hne : c' ≠ c := fun he => hc (he ▸ ha)
      exact ⟨List.mem_cons_of_mem _ ha, client', (AList.lookup_insert_ne hne).trans hl, hu⟩

/-- A close takes one entry of the client out of the list of its user, if it is activated. -/
theorem count_closeClient (hI : HostInv cfg s) {c : ClientId} {client : SubscriberClient}
    (hc : s.clients.lookup c = some client) (uid : String) (c' : ClientId) :
    (values (closeClient cfg s c client).connections uid).count c' =
      (values s.connections uid).count c' -
        if c ∈ s.activated ∧ uid = client.hinfo.uid ∧ c' = c then 1 else 0 := by
  rw [closeClient, unRegisterInnerConnectionByHost]
  by_cases ha : c ∈ s.activated
  · rw [if_pos (hI.valid c client hc ha), count_eraseFirst]
    simp only [ha, true_and]
  · have hinv : client.hinfo.isValid cfg.authValid = false := by
      rw [hI.default c client hc ha]
      rfl
    simp [ha, hinv]

theorem registryExact_closed (hI : HostInv cfg s) (hR : RegistryExact s) {c : ClientId}
    {client : SubscriberClient} (hc : s.clients.lookup c = some client) :
    RegistryExact (closeClient cfg s c client) := by
  refine ⟨fun c' client' hl ha => ?_, fun uid c' hm => ?_⟩
  · obtain ⟨hne, hl⟩ := lookup_closeClient hl
    rw [count_closeClient hI hc, if_neg (fun h => hne h.2.2)]
    exact hR.once c' client' hl (List.mem_of_mem_filter ha)
  · have hpos := List.count_pos_iff.2 hm
    rw [count_closeClient hI hc] at hpos
    obtain ⟨ha, client', hl, hu⟩ := hR.only uid c' (List.count_pos_iff.1 (by omega))
    have hne : c' ≠ c := by
      rintro rfl
      -- its only entry is the erased one
      rw [hc] at hl
      cases hl
      rw [if_pos ⟨ha, hu.symm, rfl⟩, ← hu, hR.once c' client hc ha] at hpos
      omega
    exact ⟨List.mem_filter.2 ⟨ha, by simpa using hne⟩, client',
      (AList.lookup_erase_ne hne).trans hl, hu⟩

theorem registryExact_step (hI : HostInv cfg s) (hR : RegistryExact s)
    (hn : NoReactivation cfg s e) (h : step cfg s e = some s') : RegistryExact s' := by
  cases change_step h with
  | none | synced => exact ⟨hR.once, hR.only⟩
  | accepted c hc => exact registryExact_accepted hI hR hc
  | registered c client auth stale info hc hcheck hv =>
    have hmem : c ∈ s.clients := AList.lookup_isSome.1 (by rw [hc]; rfl)
    exact registryExact_registered hR (hn c auth stale info rfl hmem hcheck hv) client info
  | streamSet _ c client sid hc =>
    refine ⟨fun c' client' hl ha => ?_, fun uid c' hm => ?_⟩
    · obtain ⟨client₀, hl, he⟩ := lookup_streamSet hc hl
      rw [he]
      exact hR.once c' client₀ hl ha
    · obtain ⟨ha, client', hl, hu⟩ := hR.only uid c' hm
      by_cases hne : c' = c
      · subst hne
        rw [hc] at hl
        cases hl
        exact ⟨ha, _, AList.lookup_insert _, hu⟩
      · exact ⟨ha, client', (AList.lookup_insert_ne hne).trans hl, hu⟩
  | closed _ c client hc => exact registryExact_closed hI hR hc

/-- A second activation leaves two entries of the client, in one list or in two. -/
theorem noReactivation_of_keepsRegistry (hR : RegistryExact s) (h : KeepsRegistry cfg s e) :
    NoReactivation cfg s e := by
  rintro c auth stale info rfl hmem hcheck hv ha
  obtain ⟨client, hc⟩ := Option.isSome_iff_exists.1 (AList.lookup_isSome.2 hmem)
  have hR' := h _ (step_registered hc hcheck hv)
  have hold := hR.once c client hc ha
  have hnew : (values (push s.connections info.uid c) info.uid).count c = 1 :=
    hR'.once c _ (AList.lookup_insert _) (List.mem_cons_self ..)
  rw [count_push, if_pos ⟨rfl, rfl⟩] at hnew
  have hother : client.hinfo.uid ≠ info.uid := fun he => by
    rw [he] at hold
    omega
  have hm : c ∈ values (registerInnerConnectionByHost s c client info).connections
      client.hinfo.uid := by
    refine List.count_pos_iff.1 ?_
    rw [registerInnerConnectionByHost, count_push, hold]
    omega
  obtain ⟨-, client', hl, hu⟩ := hR'.only _ c hm
  rw [registerInnerConnectionByHost, AList.lookup_insert] at hl
  cases hl
  exact hother hu.symm

/-- **When the registry is exact**: over every run, after every event, exactly when no activated
client is activated again. -/
theorem registryExact_iff_noReactivation (cfg : Config) (users : SyncFinder χ)
    (es : List (Event χ)) :
    Along (step cfg) (KeepsRegistry cfg) (.init users) es ↔
      Along (step cfg) (NoReactivation cfg) (.init users) es :=
  along_iff (I := fun s => HostInv cfg s ∧ RegistryExact s)
    (fun _ _ hI => ⟨noReactivation_of_keepsRegistry hI.2,
      fun hn _ h => registryExact_step hI.1 hI.2 hn h⟩)
    (fun _ _ _ hI hn h => ⟨hostInv_step hI.1 h, registryExact_step hI.1 hI.2 hn h⟩)
    ⟨hostInv_init cfg users, registryExact_init users⟩

/-- A handler whose users are valid when no field is empty. -/
def someConfig : Config :=
  ⟨fun auth => auth.login != "" && auth.password != "" && auth.deviceId != "", ("localhost", 6000)⟩

/-- A user with one device of two connections. -/
def twoConnections : UserInfo Unit := ⟨"u1", "user", "hash", (), [⟨"tv", 2⟩], .active⟩

/-- The activation of client 1 as this user. -/
def activateOne : Event Unit :=
  .request 1 (.activate (.read ⟨"user", "hash", "tv"⟩)) true fun _ => {}

/-- A client that is activated twice and closed stays in the list. -/
theorem registryExact_twice_fails :
    ((exec (step someConfig) (.init (syncedUsers [twoConnections]))
      [.accepted 1, activateOne, activateOne, .closed 1]).map fun s =>
        (values s.connections "u1", s.clients.keys)) = some ([1], []) ∧
    ¬ Along (step someConfig) (KeepsRegistry someConfig) (.init (syncedUsers [twoConnections]))
      [.accepted 1, activateOne, activateOne, .closed 1] := by
  refine ⟨by decide, fun h => ?_⟩
  obtain ⟨-, client, hl, -⟩ :=
    ((((h.2 _ rfl).2 _ rfl).2 _ rfl).1 _ rfl).only "u1" 1 (by decide)
  cases hl

/-! ## The connection limit -/

/-- The live clients whose host info is the user and the device. -/
def onlineAs (s : State χ) (user : UserRpcInfo) : List ClientId :=
  (s.clients.entries.filter fun client => client.2.hinfo.makeUserRpc = user).map (·.1)

/-- After a successful activation the live clients of its user and device are no more than the
record of the user allows the device. -/
def WithinLimit (cfg : Config) (s : State χ) (e : Event χ) : Prop :=
  ∀ c auth sendOk stale s', e = .request c (.activate (.read auth)) sendOk stale →
    handle cfg s e = some (s', some .activateSuccess) →
    ∃ user device, s.users.findUser cfg.authValid auth = .ok user ∧
      user.findDevice auth.deviceId = .ok device ∧
      (onlineAs s' ⟨user.uid, auth.deviceId⟩).length ≤ device.connections

/-- Every activated client is in the list of its user. -/
def Listed (s : State χ) : Prop :=
  ∀ c client, s.clients.lookup c = some client → client.hinfo.uid ≠ "" →
    c ∈ values s.connections client.hinfo.uid

theorem listed_init (users : SyncFinder χ) : Listed (.init users) := nofun

theorem listed_step (hL : Listed s) (h : step cfg s e = some s') : Listed s' := by
  cases change_step h with
  | none | synced => exact hL
  | accepted c hc =>
    intro c' client hl hu
    by_cases hne : c' = c
    · subst hne
      rw [AList.lookup_insert] at hl
      cases hl
      exact absurd rfl hu
    · rw [AList.lookup_insert_ne hne] at hl
      exact hL c' client hl hu
  | registered c client auth stale info hc hcheck hv =>
    intro c' client' hl hu
    refine List.count_pos_iff.1 ?_
    rw [registerInnerConnectionByHost, count_push]
    by_cases hne : c' = c
    · subst hne
      rw [registerInnerConnectionByHost, AList.lookup_insert] at hl
      cases hl
      rw [if_pos ⟨rfl, rfl⟩]
      omega
    · rw [registerInnerConnectionByHost, AList.lookup_insert_ne hne] at hl
      have := List.count_pos_iff.2 (hL c' client' hl hu)
      omega
  | streamSet _ c client sid hc =>
    intro c' client' hl hu
    obtain ⟨client₀, hl, he⟩ := lookup_streamSet hc hl
    rw [he] at hu ⊢
    exact hL c' client₀ hl hu
  | closed _ c client hc =>
    intro c' client' hl hu
    obtain ⟨hne, hl⟩ := lookup_closeClient hl
    have hm := hL c' client' hl hu
    rw [closeClient, unRegisterInnerConnectionByHost]
    split
    · rw [values_eraseFirst]
      split
      · rename_i he
        rw [← he]
        exact (List.mem_erase_of_ne hne).2 hm
      · exact hm
    · exact hm

theorem mem_onlineAs {user : UserRpcInfo} {c : ClientId} :
    c ∈ onlineAs s user ↔
      ∃ client, s.clients.lookup c = some client ∧ client.hinfo.makeUserRpc = user := by
  simp only [onlineAs, List.mem_map, List.mem_filter, decide_eq_true_eq]
  constructor
  · rintro ⟨⟨c', client⟩, ⟨hm, hu⟩, rfl⟩
    exact ⟨client, AList.mem_lookup_iff.2 hm, hu⟩
  · rintro ⟨client, hl, hu⟩
    exact ⟨⟨c, client⟩, ⟨AList.mem_lookup_iff.1 hl, hu⟩, rfl⟩

theorem nodup_onlineAs (s : State χ) (user : UserRpcInfo) : (onlineAs s user).Nodup :=
  s.clients.keys_nodup.sublist (List.filter_sublist.map _)

/-- The check of an activation counts every live client, whatever the stale entries read. -/
theorem onlineAs_length_le (hL : Listed s) (stale : ClientId → ServerAuthInfo)
    (user : UserRpcInfo) (hu : user.userId ≠ "") :
    (onlineAs s user).length ≤ (findInnerConnectionsByUser stale s user).length := by
  refine (List.subperm_of_subset (nodup_onlineAs s user) fun c hc => ?_).length_le
  obtain ⟨client, hl, rfl⟩ := mem_onlineAs.1 hc
  refine List.mem_filter.2 ⟨hL c client hl hu, ?_⟩
  rw [hostInfo, hl]
  exact decide_eq_true rfl

theorem onlineAs_registered_length_le (c : ClientId) (client : SubscriberClient)
    (info : ServerAuthInfo) (user : UserRpcInfo) :
    (onlineAs (registerInnerConnectionByHost s c client info) user).length ≤
      (onlineAs s user).length + 1 := by
  rw [← List.length_cons (a := c)]
  refine (List.subperm_of_subset (nodup_onlineAs _ user) fun c' hc => ?_).length_le
  obtain ⟨client', hl, hu⟩ := mem_onlineAs.1 hc
  by_cases hne : c' = c
  · exact hne ▸ List.mem_cons_self ..
  · rw [registerInnerConnectionByHost, AList.lookup_insert_ne hne] at hl
    exact List.mem_cons_of_mem c (mem_onlineAs.2 ⟨client', hl, hu⟩)

theorem withinLimit_of_listed (hL : Listed s) (e : Event χ) : WithinLimit cfg s e := by
  rintro c auth sendOk stale s' rfl h
  obtain ⟨client, auth', info, hc, hreq, hcheck, hv, rfl⟩ := handle_activateSuccess h
  cases hreq
  obtain ⟨user, device, huser, -, hdevice, rfl, hlimit⟩ := checkActivate_ok hcheck
  have hu : user.uid ≠ "" := fun he => by
    simp [ServerAuthInfo.isValid, he] at hv
  have hbefore := onlineAs_length_le hL stale ⟨user.uid, auth.deviceId⟩ hu
  have hafter := onlineAs_registered_length_le (s := s) c client ⟨auth, user.uid⟩
    ⟨user.uid, auth.deviceId⟩
  refine ⟨user, device, huser, hdevice, ?_⟩
  calc _ ≤ (onlineAs s ⟨user.uid, auth.deviceId⟩).length + 1 := hafter
    _ ≤ (findInnerConnectionsByUser stale s ⟨user.uid, auth.deviceId⟩).length + 1 := by omega
    _ ≤ device.connections := hlimit

/-- **The connection limit of a device** holds after every successful activation of every run. -/
theorem withinLimit_along (cfg : Config) (users : SyncFinder χ) (es : List (Event χ)) :
    Along (step cfg) (WithinLimit cfg) (.init users) es :=
  along_of_inv (I := Listed) (fun _ _ _ hL h => listed_step hL h)
    (fun _ e hL => withinLimit_of_listed hL e) (listed_init users)

end IptvCloud.Server.Subscribers
