import Mathlib.Data.Set.Lattice
import Mathlib.Order.CompletePartialOrder

/-!
# Computations that add entries under keys

A computation that appends entries to a list, each with a key, and that can fail. `Adds T` says
which keys it adds: started where no key of `T` is taken, it adds entries with keys of `T` only, and
no two with the same key. Where keys that are taken twice are no concern (`D`), it may be started
anywhere. Two computations in sequence add
the keys of both when these are disjoint (`Adds.bind`), and so do the rounds of a loop
(`Adds.foldlM`). The failures and the value are carried along: a failure is one of `E`, a value one
of `Q`. `Leads` says where a computation that returns has led: a key that is taken stays taken
(`Adds.keeps`), and a computation that leads nowhere fails (`Adds.never`), such as one that adds a
key twice (`Adds.clash`).
-/

namespace Footprint

variable {α β γ ι κ ε : Type} {key : α → κ} {D : Prop} {T T' : Set κ} {E : ε → Prop}

/-- From entries without keys of `T`, entries with keys of `T` are added and a value of `Q` is
returned, or the computation fails with an error of `E`. -/
def Adds (key : α → κ) (D : Prop) (T : Set κ) (E : ε → Prop) (Q : β → Prop)
    (x : StateT (List α) (Except ε) β) : Prop :=
  ∀ s, (D ∨ ∀ a ∈ s, key a ∉ T) →
    match x.run s with
    | .ok (b, s') => Q b ∧ ∃ l, s' = s ++ l ∧ (∀ a ∈ l, key a ∈ T) ∧ (D ∨ (l.map key).Nodup)
    | .error e => E e

/-- When the computation returns from entries of `P`, its value and the entries are in `R`. -/
def Leads (P : List α → Prop) (x : StateT (List α) (Except ε) β) (R : β → List α → Prop) : Prop :=
  ∀ s b s', P s → x.run s = .ok (b, s') → R b s'

/-- There is an entry with the key. -/
def Taken (key : α → κ) (k : κ) (s : List α) : Prop := ∃ a ∈ s, key a = k

/-! ## Rules of `Adds` -/

theorem Adds.pure {Q : β → Prop} {b : β} (h : Q b) :
    Adds key D T E Q (Pure.pure b : StateT (List α) (Except ε) β) :=
  fun s _ => ⟨h, [], (List.append_nil s).symm, by simp, .inr List.nodup_nil⟩

theorem Adds.throw {Q : β → Prop} {e : ε} (h : E e) :
    Adds key D T E Q (MonadExcept.throw e : StateT (List α) (Except ε) β) :=
  fun _ _ => h

theorem Adds.mono {Q Q' : β → Prop} {x : StateT (List α) (Except ε) β} (h : Adds key D T E Q x)
    (hT : T ⊆ T') (hQ : ∀ b, Q b → Q' b) : Adds key D T' E Q' x := by
  intro s hs
  have hx := h s (hs.imp id fun hfree a ha hmem => hfree a ha (hT hmem))
  cases hr : x.run s with
  | error e =>
    rw [hr] at hx
    exact hx
  | ok p =>
    rw [hr] at hx
    obtain ⟨hb, l, hl, hkeys, hnodup⟩ := hx
    exact ⟨hQ _ hb, l, hl, fun a ha => hT (hkeys a ha), hnodup⟩

/-- Entries that are added under the keys of `T` take none of `T'`. -/
theorem free_append {s l : List α} (hs : ∀ a ∈ s, key a ∉ T ∪ T') (hl : ∀ a ∈ l, key a ∈ T)
    (hdisj : Disjoint T T') : ∀ a ∈ s ++ l, key a ∉ T' := by
  intro a ha hmem
  rcases List.mem_append.1 ha with ha | ha
  · exact hs a ha (.inr hmem)
  · exact Set.disjoint_left.1 hdisj (hl a ha) hmem

/-- Entries that are added under disjoint keys. -/
theorem nodup_append {l l' : List α} (hl : (l.map key).Nodup) (hl' : (l'.map key).Nodup)
    (hkeys : ∀ a ∈ l, key a ∈ T) (hkeys' : ∀ a ∈ l', key a ∈ T') (hdisj : Disjoint T T') :
    ((l ++ l').map key).Nodup := by
  rw [List.map_append, List.nodup_append]
  refine ⟨hl, hl', fun k hk k' hk' heq => ?_⟩
  obtain ⟨a, ha, rfl⟩ := List.mem_map.1 hk
  obtain ⟨a', ha', rfl⟩ := List.mem_map.1 hk'
  exact Set.disjoint_left.1 hdisj (hkeys a ha) (heq ▸ hkeys' a' ha')

/-- In sequence, over disjoint keys. -/
theorem Adds.bind {Q : β → Prop} {R : γ → Prop} {x : StateT (List α) (Except ε) β}
    {f : β → StateT (List α) (Except ε) γ} (hx : Adds key D T E Q x)
    (hf : ∀ b, Q b → Adds key D T' E R (f b)) (hdisj : D ∨ Disjoint T T') :
    Adds key D (T ∪ T') E R (x >>= f) := by
  intro s hs
  have hx := hx s (hs.imp id fun hfree a ha hmem => hfree a ha (.inl hmem))
  rw [StateT.run_bind]
  cases hr : x.run s with
  | error e =>
    rw [hr] at hx
    exact hx
  | ok p =>
    obtain ⟨b, s'⟩ := p
    rw [hr] at hx
    obtain ⟨hb, l, rfl, hl, hnodup⟩ := hx
    have hfree : D ∨ ∀ a ∈ s ++ l, key a ∉ T' := by
      rcases hs with hD | hs
      · exact .inl hD
      · exact hdisj.imp id fun hdisj => free_append hs hl hdisj
    have hf := hf b hb (s ++ l) hfree
    show match (f b).run (s ++ l) with
      | .ok (c, s') => R c ∧ ∃ l, s' = s ++ l ∧ (∀ a ∈ l, key a ∈ T ∪ T') ∧ (D ∨ (l.map key).Nodup)
      | .error e => E e
    cases hr' : (f b).run (s ++ l) with
    | error e =>
      rw [hr'] at hf
      exact hf
    | ok p =>
      rw [hr'] at hf
      obtain ⟨hc, l', hl', hkeys, hnodup'⟩ := hf
      refine ⟨hc, l ++ l', by rw [hl', List.append_assoc], fun a ha => ?_, ?_⟩
      · exact (List.mem_append.1 ha).imp (hl a) (hkeys a)
      · rcases hdisj with hD | hdisj
        · exact .inl hD
        · exact hnodup.elim .inl fun hn => hnodup'.imp id fun hn' =>
            nodup_append hn hn' hl hkeys hdisj

/-- Followed by a computation that adds nothing. -/
theorem Adds.bind_pure {Q : β → Prop} {R : γ → Prop} {x : StateT (List α) (Except ε) β} {g : β → γ}
    (hx : Adds key D T E Q x) (hR : ∀ b, Q b → R (g b)) :
    Adds key D T E R (x >>= fun b => Pure.pure (g b)) := by
  have hpure : ∀ b, Q b → Adds key D ∅ E R (Pure.pure (g b) : StateT (List α) (Except ε) γ) :=
    fun b hb => .pure (hR b hb)
  exact (hx.bind hpure (.inr (Set.disjoint_empty T))).mono (by simp) fun _ h => h

/-- What follows a computation that does not return. -/
theorem Adds.bind_never {R : γ → Prop} {x : StateT (List α) (Except ε) β}
    {f : β → StateT (List α) (Except ε) γ} (hx : Adds key D T E (fun _ => False) x) :
    Adds key D T E R (x >>= f) := by
  have hf : ∀ b, False → Adds key D ∅ E R (f b) := fun _ h => h.elim
  exact (hx.bind hf (.inr (Set.disjoint_empty T))).mono (by simp) fun _ h => h

/-- A loop whose rounds add disjoint keys. -/
theorem Adds.foldlM {F : ι → Set κ} {Q : β → Prop} {f : β → ι → StateT (List α) (Except ε) β}
    {l : List ι} (hdisj : l.Pairwise fun i j => Disjoint (F i) (F j))
    (hf : ∀ i b, Q b → Adds key D (F i) E Q (f b i)) {b : β} (hb : Q b) :
    Adds key D (⋃ i ∈ l, F i) E Q (l.foldlM f b) := by
  induction l generalizing b with
  | nil => exact .pure hb
  | cons i l ih =>
    obtain ⟨hi, hl⟩ := List.pairwise_cons.1 hdisj
    have hrest : Disjoint (F i) (⋃ j ∈ l, F j) :=
      Set.disjoint_iUnion₂_right.2 fun j hj => hi j hj
    refine ((hf i b hb).bind (fun b' hb' => ih hl hb') (.inr hrest)).mono ?_ (fun _ h => h)
    simp

/-- A run that starts without entries. -/
theorem Adds.run_nil {Q : β → Prop} {x : StateT (List α) (Except ε) β} (h : Adds key D T E Q x) :
    match x.run [] with
    | .ok (b, s) => Q b ∧ (D ∨ (s.map key).Nodup)
    | .error e => E e := by
  have hx := h [] (.inr (by simp))
  cases hr : x.run [] with
  | error e =>
    rw [hr] at hx
    exact hx
  | ok p =>
    rw [hr] at hx
    obtain ⟨hb, l, hl, -, hnodup⟩ := hx
    rw [List.nil_append] at hl
    exact ⟨hb, hl ▸ hnodup⟩

/-- A computation that never returns fails with an error of `E`. -/
theorem Adds.never {Q : β → Prop} {x : StateT (List α) (Except ε) β} (h : Adds key D T E Q x)
    (hnever : Leads (fun _ => True) x fun _ _ => False) :
    Adds key D T E (fun _ => False) x := by
  intro s hs
  have hx := h s hs
  cases hr : x.run s with
  | error e =>
    rw [hr] at hx
    exact hx
  | ok p => exact (hnever s p.1 p.2 trivial hr).elim

/-! ## Rules of `Leads` -/

theorem Leads.trivial {P : List α → Prop} {x : StateT (List α) (Except ε) β} :
    Leads P x fun _ _ => True :=
  fun _ _ _ _ _ => True.intro

theorem Leads.pure {P : List α → Prop} {b : β} :
    Leads P (Pure.pure b : StateT (List α) (Except ε) β) fun _ => P := by
  rintro s b' s' hs ⟨⟩
  exact hs

theorem Leads.ret {R : β → List α → Prop} {b : β} :
    Leads (R b) (Pure.pure b : StateT (List α) (Except ε) β) R := by
  rintro s b' s' hs ⟨⟩
  exact hs

theorem Leads.absurd {x : StateT (List α) (Except ε) β} {R : β → List α → Prop} :
    Leads (fun _ => False) x R :=
  fun _ _ _ h _ => h.elim

theorem Leads.bind {P : List α → Prop} {R : β → List α → Prop} {S : γ → List α → Prop}
    {x : StateT (List α) (Except ε) β} {f : β → StateT (List α) (Except ε) γ}
    (hx : Leads P x R) (hf : ∀ b, Leads (R b) (f b) S) : Leads P (x >>= f) S := by
  intro s c s' hs hrun
  rw [StateT.run_bind] at hrun
  cases hr : x.run s with
  | error e =>
    rw [hr] at hrun
    cases hrun
  | ok p =>
    rw [hr] at hrun
    exact hf p.1 p.2 c s' (hx s p.1 p.2 hs hr) hrun

/-- A key that is taken stays so, as entries are only added. -/
theorem Adds.keeps {Q : β → Prop} {x : StateT (List α) (Except ε) β} {k : κ}
    (h : Adds key True T E Q x) : Leads (Taken key k) x fun b s => Q b ∧ Taken key k s := by
  rintro s b s' ⟨a, ha, hkey⟩ hrun
  have hx := h s (.inl True.intro)
  rw [hrun] at hx
  obtain ⟨hb, l, rfl, -⟩ := hx
  exact ⟨hb, a, List.mem_append_left l ha, hkey⟩

/-- A key stays taken up to the next computation. -/
theorem Adds.keeps_bind {Q : β → Prop} {S : γ → List α → Prop}
    {x : StateT (List α) (Except ε) β} {f : β → StateT (List α) (Except ε) γ} {k : κ}
    (h : Adds key True T E Q x) (hf : ∀ b, Q b → Leads (Taken key k) (f b) S) :
    Leads (Taken key k) (x >>= f) S :=
  h.keeps.bind fun b s c s' ⟨hb, hs⟩ hrun => hf b hb s c s' hs hrun

/-- A computation that takes a key, before one that does not return where it is taken. -/
theorem Adds.clash {δ : Type} {Q : β → Prop} {R : γ → Prop} {S : δ → Prop}
    {x : StateT (List α) (Except ε) β} {y : StateT (List α) (Except ε) γ}
    {f : γ → StateT (List α) (Except ε) δ} {k : κ} (hx : Adds key True T E Q x)
    (hy : Adds key True T' E R y) (htakes : Leads (fun _ => True) x fun _ => Taken key k)
    (hrefuses : Leads (Taken key k) y fun _ _ => False) :
    Adds key True (T ∪ T') E S (x >>= fun _ => y >>= f) := by
  have hnever : Adds key True (T ∪ T') E (fun _ => False) (x >>= fun _ => y) :=
    (hx.bind (fun _ _ => hy) (.inl True.intro)).never (htakes.bind fun _ => hrefuses)
  rw [← bind_assoc]
  exact hnever.bind_never

end Footprint
