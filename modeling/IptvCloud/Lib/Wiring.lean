import Mathlib.Logic.Relation

/-!
# Entries that are linked while they are added

A computation appends entries to a list and links them; `L a b` says that `b` was linked behind `a`.
`Path` is a way along links between entries of a list, and `Between` says that entries lie on ways
from one to another. `Continues a x` is the rule of a computation that goes on from `a`: it returns
a new end, and what it adds lies between `a` and that end. `Carries x` is the rule of one that makes
a part of its own, with a first and a last entry, to be linked later, and `Finishes` that of the
rest of such a part; `Joins a d x` is the rule of a computation that ends at an entry that is there,
and `Enters a d x` that of one that also adds the entry `a` it begins with.
Parts in sequence are parts again (`Continues.bind`, `Carries.bind`, `Continues.foldlM`).
-/

namespace Wiring

variable {α β γ ι ε : Type} {L : α → α → Prop} {s s' l l' : List α} {a b c : α}

/-! ## Paths -/

/-- A link between two entries. -/
def Link (L : α → α → Prop) (s : List α) (a b : α) : Prop := a ∈ s ∧ b ∈ s ∧ L a b

/-- A way along the links. -/
def Path (L : α → α → Prop) (s : List α) : α → α → Prop := Relation.ReflTransGen (Link L s)

theorem Path.refl (a : α) : Path L s a a := Relation.ReflTransGen.refl

theorem Path.trans (h : Path L s a b) (h' : Path L s b c) : Path L s a c :=
  Relation.ReflTransGen.trans h h'

theorem Path.single (ha : a ∈ s) (hb : b ∈ s) (h : L a b) : Path L s a b :=
  Relation.ReflTransGen.single ⟨ha, hb, h⟩

/-- More entries leave the ways there are. -/
theorem Path.mono (h : Path L s a b) (hs : s ⊆ s') : Path L s' a b := by
  induction h with
  | refl => exact .refl a
  | tail _ hlink ih => exact ih.tail ⟨hs hlink.1, hs hlink.2.1, hlink.2.2⟩

theorem Path.append (h : Path L s a b) : Path L (s ++ l) a b :=
  h.mono (List.subset_append_left s l)

/-- The entries of `l` lie on ways from `a` to `b`. -/
structure Between (L : α → α → Prop) (s : List α) (a b : α) (l : List α) : Prop where
  path : Path L s a b
  through : ∀ e ∈ l, Path L s a e ∧ Path L s e b

theorem Between.refl (a : α) : Between L s a a [] := ⟨.refl a, by simp⟩

theorem Between.mono (h : Between L s a b l) (hs : s ⊆ s') : Between L s' a b l :=
  ⟨h.path.mono hs, fun e he => ⟨(h.through e he).1.mono hs, (h.through e he).2.mono hs⟩⟩

theorem Between.trans (h : Between L s a b l) (h' : Between L s b c l') :
    Between L s a c (l ++ l') := by
  refine ⟨h.path.trans h'.path, fun e he => ?_⟩
  rcases List.mem_append.1 he with he | he
  · exact ⟨(h.through e he).1, (h.through e he).2.trans h'.path⟩
  · exact ⟨h.path.trans (h'.through e he).1, (h'.through e he).2⟩

/-- An entry that is linked behind `a`. -/
theorem Between.single (ha : a ∈ s) (hb : b ∈ s) (h : L a b) : Between L s a b [b] := by
  refine ⟨.single ha hb h, fun e he => ?_⟩
  rw [List.mem_singleton.1 he]
  exact ⟨.single ha hb h, .refl b⟩

/-- A part that is linked behind `a`. -/
theorem Between.link (ha : a ∈ s) (hb : b ∈ s) (h : L a b) (hl : Between L s b c l) :
    Between L s a c l := by
  have hab : Path L s a b := .single ha hb h
  exact ⟨hab.trans hl.path, fun e he => ⟨hab.trans (hl.through e he).1, (hl.through e he).2⟩⟩

/-! ## Computations -/

/-- Of two computations in sequence both have returned. -/
theorem run_bind_ok {x : StateT (List α) (Except ε) β} {f : β → StateT (List α) (Except ε) γ}
    {r : γ × List α} (h : (x >>= f).run s = .ok r) :
    ∃ b s₁, x.run s = .ok (b, s₁) ∧ (f b).run s₁ = .ok r := by
  rw [StateT.run_bind] at h
  cases hx : x.run s with
  | error e =>
    rw [hx] at h
    cases h
  | ok p =>
    rw [hx] at h
    exact ⟨p.1, p.2, rfl, h⟩

/-- From an entry `a` the computation returns an end, and what it adds lies between the two. -/
def Continues (L : α → α → Prop) (a : α) (x : StateT (List α) (Except ε) (Option α)) : Prop :=
  ∀ s r, a ∈ s → x.run s = .ok r →
    ∃ b l, r = (some b, s ++ l) ∧ b ∈ s ++ l ∧ Between L (s ++ l) a b l

/-- The computation returns the first and the last entry of what it adds, and the rest lies
between them. -/
def Carries (L : α → α → Prop) (x : StateT (List α) (Except ε) (Option α × Option α)) : Prop :=
  ∀ s r, x.run s = .ok r →
    ∃ a b l, r = ((some a, some b), s ++ l) ∧ a ∈ s ++ l ∧ b ∈ s ++ l ∧ Between L (s ++ l) a b l

theorem Continues.pure (a : α) :
    Continues L a (Pure.pure (some a) : StateT (List α) (Except ε) (Option α)) := by
  rintro s r ha ⟨⟩
  exact ⟨a, [], by rw [List.append_nil], by simpa using ha, .refl a⟩

theorem Continues.bind {x : StateT (List α) (Except ε) (Option α)}
    {f : Option α → StateT (List α) (Except ε) (Option α)} (hx : Continues L a x)
    (hf : ∀ b, Continues L b (f (some b))) : Continues L a (x >>= f) := by
  intro s r ha h
  obtain ⟨_, s₁, h₁, h₂⟩ := run_bind_ok h
  obtain ⟨b, l, heq, hb, hl⟩ := hx s _ ha h₁
  cases heq
  obtain ⟨c, l', rfl, hc, hl'⟩ := hf b _ r hb h₂
  rw [List.append_assoc] at hc hl' ⊢
  refine ⟨c, l ++ l', rfl, hc, (hl.mono ?_).trans hl'⟩
  rw [← List.append_assoc]
  exact List.subset_append_left _ l'

theorem Continues.ite {holds : Bool} {x y : StateT (List α) (Except ε) (Option α)}
    (hx : holds = true → Continues L a x) (hy : holds = false → Continues L a y) :
    Continues L a (if holds then x else y) := by
  cases holds with
  | true => exact hx rfl
  | false => exact hy rfl

/-- A loop whose rounds go on from the end they are given. -/
theorem Continues.foldlM {f : Option α → ι → StateT (List α) (Except ε) (Option α)}
    (hf : ∀ b i, Continues L b (f (some b) i)) (is : List ι) (a : α) :
    Continues L a (is.foldlM f (some a)) := by
  induction is generalizing a with
  | nil => exact .pure a
  | cons i is ih => exact (hf a i).bind ih

/-- A computation that adds nothing stands in front. -/
theorem Continues.after {x : StateT (List α) (Except ε) β}
    {f : β → StateT (List α) (Except ε) (Option α)} (hx : ∀ s r, x.run s = .ok r → r.2 = s)
    (hf : ∀ b, Continues L a (f b)) : Continues L a (x >>= f) := by
  intro s r ha h
  obtain ⟨b, s₁, h₁, h₂⟩ := run_bind_ok h
  obtain rfl : s₁ = s := hx s _ h₁
  exact hf b _ r ha h₂

/-- The rest of a part that begins with `a` and has come to `b`. -/
def Finishes (L : α → α → Prop) (a b : α) (x : StateT (List α) (Except ε) (Option α × Option α)) :
    Prop :=
  ∀ s r, a ∈ s → b ∈ s → x.run s = .ok r →
    ∃ c l, r = ((some a, some c), s ++ l) ∧ c ∈ s ++ l ∧ Between L (s ++ l) b c l

theorem Finishes.pure (a b : α) : Finishes L a b
    (Pure.pure (some a, some b) : StateT (List α) (Except ε) (Option α × Option α)) := by
  rintro s r ha hb ⟨⟩
  exact ⟨b, [], by rw [List.append_nil], by simpa using hb, .refl b⟩

theorem Finishes.bind {x : StateT (List α) (Except ε) (Option α)}
    {f : Option α → StateT (List α) (Except ε) (Option α × Option α)} (hx : Continues L b x)
    (hf : ∀ c, Finishes L a c (f (some c))) : Finishes L a b (x >>= f) := by
  intro s r ha hb h
  obtain ⟨_, s₁, h₁, h₂⟩ := run_bind_ok h
  obtain ⟨c, l, heq, hc, hl⟩ := hx s _ hb h₁
  cases heq
  obtain ⟨d, l', rfl, hd, hl'⟩ := hf c _ r (List.mem_append_left l ha) hc h₂
  rw [List.append_assoc] at hd hl' ⊢
  refine ⟨d, l ++ l', rfl, hd, (hl.mono ?_).trans hl'⟩
  rw [← List.append_assoc]
  exact List.subset_append_left _ l'

/-- A part that begins with an entry that is added. -/
theorem Finishes.carries {add : StateT (List α) (Except ε) β}
    {f : β → StateT (List α) (Except ε) (Option α × Option α)}
    (hadd : ∀ s r, add.run s = .ok r → r.2 = s ++ [a]) (hf : ∀ b, Finishes L a a (f b)) :
    Carries L (add >>= f) := by
  intro s r h
  obtain ⟨b, s₁, h₁, h₂⟩ := run_bind_ok h
  obtain rfl : s₁ = s ++ [a] := hadd s _ h₁
  obtain ⟨c, l, rfl, hc, hl⟩ := hf b _ r (by simp) (by simp) h₂
  rw [List.append_assoc] at hc hl ⊢
  refine ⟨a, c, a :: l, rfl, by simp, hc, hl.path, fun e he => ?_⟩
  rcases List.mem_cons.1 he with rfl | he
  · exact ⟨.refl _, hl.path⟩
  · exact hl.through e he

theorem Carries.bind {x : StateT (List α) (Except ε) (Option α × Option α)}
    {f : Option α × Option α → StateT (List α) (Except ε) (Option α × Option α)}
    (hx : Carries L x) (hf : ∀ a b, Finishes L a b (f (some a, some b))) :
    Carries L (x >>= f) := by
  intro s r h
  obtain ⟨_, s₁, h₁, h₂⟩ := run_bind_ok h
  obtain ⟨a, b, l, heq, ha, hb, hl⟩ := hx s _ h₁
  cases heq
  obtain ⟨c, l', rfl, hc, hl'⟩ := hf a b _ r ha hb h₂
  rw [List.append_assoc] at hc hl' ⊢
  have hsub : s ++ l ⊆ s ++ (l ++ l') := by
    rw [← List.append_assoc]
    exact List.subset_append_left _ l'
  exact ⟨a, c, l ++ l', rfl, hsub ha, hc, (hl.mono hsub).trans hl'⟩

/-- A computation that adds nothing stands in front. -/
theorem Carries.after {x : StateT (List α) (Except ε) β}
    {f : β → StateT (List α) (Except ε) (Option α × Option α)}
    (hx : ∀ s r, x.run s = .ok r → r.2 = s) (hf : ∀ b, Carries L (f b)) :
    Carries L (x >>= f) := by
  intro s r h
  obtain ⟨b, s₁, h₁, h₂⟩ := run_bind_ok h
  obtain rfl : s₁ = s := hx s _ h₁
  exact hf b _ r h₂

/-- From an entry `a` that is there, what the computation adds lies between `a` and an entry `d`
that is there. -/
def Joins (L : α → α → Prop) (a d : α) (x : StateT (List α) (Except ε) β) : Prop :=
  ∀ s r, a ∈ s → d ∈ s → x.run s = .ok r → ∃ l, r.2 = s ++ l ∧ Between L (s ++ l) a d l

theorem Joins.single {x : StateT (List α) (Except ε) β}
    (hx : ∀ s r, x.run s = .ok r → L a c ∧ r.2 = s) : Joins L a c x := by
  intro s r ha hc h
  obtain ⟨hlink, hr⟩ := hx s r h
  rw [hr]
  exact ⟨[], (List.append_nil s).symm,
    .single (by simpa using ha) (by simpa using hc) hlink, by simp⟩

theorem Joins.bind {x : StateT (List α) (Except ε) (Option α)}
    {f : Option α → StateT (List α) (Except ε) β} (hx : Continues L a x)
    (hf : ∀ b, Joins L b c (f (some b))) : Joins L a c (x >>= f) := by
  intro s r ha hc h
  obtain ⟨_, s₁, h₁, h₂⟩ := run_bind_ok h
  obtain ⟨b, l, heq, hb, hl⟩ := hx s _ ha h₁
  cases heq
  obtain ⟨l', hr, hl'⟩ := hf b _ r hb (List.mem_append_left l hc) h₂
  rw [List.append_assoc] at hr hl'
  refine ⟨l ++ l', hr, (hl.mono ?_).trans hl'⟩
  rw [← List.append_assoc]
  exact List.subset_append_left _ l'

/-- The computation adds a part that begins with `a` and ends at an entry `d` that is there. -/
def Enters (L : α → α → Prop) (a d : α) (x : StateT (List α) (Except ε) β) : Prop :=
  ∀ s r, d ∈ s → x.run s = .ok r → ∃ l, r.2 = s ++ l ∧ a ∈ l ∧ Between L (s ++ l) a d l

theorem Joins.enters {add : StateT (List α) (Except ε) γ}
    {f : γ → StateT (List α) (Except ε) β}
    (hadd : ∀ s r, add.run s = .ok r → r.2 = s ++ [a]) (hf : ∀ b, Joins L a c (f b)) :
    Enters L a c (add >>= f) := by
  intro s r hc h
  obtain ⟨b, s₁, h₁, h₂⟩ := run_bind_ok h
  obtain rfl : s₁ = s ++ [a] := hadd s _ h₁
  obtain ⟨l, hr, hl⟩ := hf b _ r (by simp) (List.mem_append_left _ hc) h₂
  rw [List.append_assoc] at hr hl
  refine ⟨[a] ++ l, hr, by simp, hl.path, fun e he => ?_⟩
  rcases List.mem_append.1 he with he | he
  · rw [List.mem_singleton.1 he]
    exact ⟨.refl a, hl.path⟩
  · exact hl.through e he

end Wiring
