import IptvCloud.Lib.Run
import IptvCloud.Server.SyncFinder

/-!
# What a reader sees of a synchronisation

`Clear` and the `AddUser` calls take the lock of the table one by one, so a reader sees the old
table or the synchronised prefix of the new one (`Visible`). A prefix knows a login as the new table
does or not at all: the answer is one of the complete tables unless the login is in both
(`findUser_atomic_iff`).
-/

namespace IptvCloud.Server

open Run

variable {χ : Type}

theorem lookup_addUser (users : SyncFinder χ) (user : UserInfo χ) (login : String) :
    (users.addUser user).lookup login =
      (users.lookup login).or (if user.login = login then some user else none) := by
  unfold SyncFinder.addUser
  split
  · rename_i h
    split
    · rename_i hl
      subst hl
      obtain ⟨found, hf⟩ := Option.isSome_iff_exists.1 (AList.lookup_isSome.2 h)
      rw [hf, Option.some_or]
    · rw [Option.or_none]
  · rename_i h
    split
    · rename_i hl
      subst hl
      rw [AList.lookup_insert, AList.lookup_eq_none.2 h, Option.none_or]
    · rename_i hl
      rw [AList.lookup_insert_ne (Ne.symm hl), Option.or_none]

theorem lookup_foldl_addUser (login : String) (added : List (UserInfo χ)) (users : SyncFinder χ) :
    (added.foldl SyncFinder.addUser users).lookup login =
      (users.lookup login).or (added.find? fun user => user.login == login) := by
  induction added generalizing users with
  | nil => rw [List.foldl_nil, List.find?_nil, Option.or_none]
  | cons user added ih =>
    rw [List.foldl_cons, ih, lookup_addUser, Option.or_assoc, List.find?_cons]
    by_cases h : user.login = login
    · simp [h]
    · rw [if_neg h, Option.none_or, beq_eq_false_iff_ne.2 h]

/-- The first record of every login is kept. -/
theorem lookup_syncedUsers (added : List (UserInfo χ)) (login : String) :
    (syncedUsers added).lookup login = added.find? fun user => user.login == login := by
  rw [syncedUsers, lookup_foldl_addUser, AList.lookup_empty, Option.none_or]

/-! ## The tables a reader can see -/

/-- The synchronisation has not started, or a prefix of the users has been added. -/
def Visible (old : SyncFinder χ) (added : List (UserInfo χ)) (s : Syncing χ) : Prop :=
  s = .start old added ∨
    ∃ done rest, added = done ++ rest ∧ s = ⟨syncedUsers done, rest.map .addUser⟩

theorem visible_step {old : SyncFinder χ} {added : List (UserInfo χ)} {s s' : Syncing χ}
    {e : SyncEvent} (hs : Visible old added s) (h : s.step e = some s') : Visible old added s' := by
  cases e with
  | findUser auth => cases h; exact hs
  | sync =>
    rcases hs with rfl | ⟨done, rest, rfl, rfl⟩
    · cases h
      exact .inr ⟨[], added, rfl, rfl⟩
    · cases rest with
      | nil => cases h
      | cons user rest =>
        cases h
        refine .inr ⟨done ++ [user], rest, by simp, ?_⟩
        simp only [syncedUsers, List.foldl_append]
        rfl

/-! ## Answers -/

/-- Every call of `FindUser` for `auth` has the answer of the old or of the new table. -/
def AnswersAtomically (authValid : AuthInfo → Bool) (old : SyncFinder χ)
    (added : List (UserInfo χ)) (auth : AuthInfo) (s : Syncing χ) (e : SyncEvent) : Prop :=
  e = .findUser auth →
    s.users.findUser authValid auth = old.findUser authValid auth ∨
      s.users.findUser authValid auth = (syncedUsers added).findUser authValid auth

theorem findUser_congr {authValid : AuthInfo → Bool} {users users' : SyncFinder χ} {auth : AuthInfo}
    (h : users.lookup auth.login = users'.lookup auth.login) :
    users.findUser authValid auth = users'.findUser authValid auth := by
  simp only [SyncFinder.findUser, h]

theorem findUser_ne_notFound {authValid : AuthInfo → Bool} {users : SyncFinder χ} {auth : AuthInfo}
    (hv : authValid auth = true) (h : auth.login ∈ users) :
    users.findUser authValid auth ≠ .error (.message "User not found") := by
  obtain ⟨found, hf⟩ := Option.isSome_iff_exists.1 (AList.lookup_isSome.2 h)
  simp only [SyncFinder.findUser, hv, if_true, hf]
  split
  · exact nofun
  · intro he
    injection he with he
    injection he with he
    exact absurd he (by decide)

/-- A login that one of the tables does not have is answered from one of them. -/
theorem answersAtomically_of_visible {authValid : AuthInfo → Bool} {old : SyncFinder χ}
    {added : List (UserInfo χ)} {auth : AuthInfo} {s : Syncing χ} (hs : Visible old added s)
    (hc : ¬ (authValid auth = true ∧ auth.login ∈ old ∧ auth.login ∈ syncedUsers added))
    (e : SyncEvent) : AnswersAtomically authValid old added auth s e := by
  rintro -
  by_cases hv : authValid auth = true
  · rcases hs with rfl | ⟨done, rest, rfl, rfl⟩
    · exact .inl rfl
    · cases hfind : done.find? fun user => user.login == auth.login with
      | some user =>
        -- the record is already there, and the new table keeps the first one
        refine .inr (findUser_congr ?_)
        rw [lookup_syncedUsers, lookup_syncedUsers, List.find?_append, hfind, Option.some_or]
      | none =>
        by_cases hold : auth.login ∈ old
        · have hnew : auth.login ∉ syncedUsers (done ++ rest) := fun h => hc ⟨hv, hold, h⟩
          refine .inr (findUser_congr ?_)
          rw [AList.lookup_eq_none.2 hnew, lookup_syncedUsers, hfind]
        · refine .inl (findUser_congr ?_)
          rw [AList.lookup_eq_none.2 hold, lookup_syncedUsers, hfind]
  · refine .inl ?_
    simp only [SyncFinder.findUser, hv]
    rfl

/-- **When a synchronisation is atomic for a reader**: over every interleaving with any calls of
`FindUser`, those for `auth` are answered from the old or the new table exactly when `auth` is
invalid or one of the tables does not have its login. -/
theorem findUser_atomic_iff (authValid : AuthInfo → Bool)
    (deSerializeFromString : String → Option (UserInfo χ)) (old : SyncFinder χ)
    (texts : List String) (auth : AuthInfo) :
    (∀ es, Along Syncing.step
      (AnswersAtomically authValid old (addedUsers deSerializeFromString texts) auth)
      (.start old (addedUsers deSerializeFromString texts)) es) ↔
    ¬ (authValid auth = true ∧ auth.login ∈ old ∧
      auth.login ∈ syncedUsers (addedUsers deSerializeFromString texts)) := by
  generalize addedUsers deSerializeFromString texts = added
  constructor
  · rintro h ⟨hv, hold, hnew⟩
    -- a reader between `Clear` and the first `AddUser`
    have hread := ((h [.sync, .findUser auth]).2 _ rfl).1 rfl
    have hempty : SyncFinder.findUser authValid (∅ : SyncFinder χ) auth =
        .error (.message "User not found") := by
      simp only [SyncFinder.findUser, hv, if_true, AList.lookup_empty]
    rcases hread with hread | hread
    · exact findUser_ne_notFound hv hold (hread.symm.trans hempty)
    · exact findUser_ne_notFound hv hnew (hread.symm.trans hempty)
  · intro hc es
    exact along_of_inv (I := Visible old added) (fun s e s' hs h => visible_step hs h)
      (fun s e hs => answersAtomically_of_visible hs hc e) (.inl rfl)

/-- A user record. -/
def someUser : UserInfo Unit := ⟨"u1", "user", "hash", (), [⟨"tv", 1⟩], .active⟩

/-- A subscriber of both tables is not found between `Clear` and its `AddUser`. -/
theorem findUser_atomic_fails :
    ¬ ∀ es, Along Syncing.step
      (AnswersAtomically (fun auth => auth.login != "") (syncedUsers [someUser])
        (addedUsers (fun _ => some someUser) ["record"]) ⟨"user", "hash", "tv"⟩)
      (.start (syncedUsers [someUser]) (addedUsers (fun _ => some someUser) ["record"])) es := by
  intro h
  rcases ((h [.sync, .findUser ⟨"user", "hash", "tv"⟩]).2 _ rfl).1 rfl with hread | hread
  · exact absurd hread (by decide)
  · exact absurd hread (by decide)

end IptvCloud.Server
