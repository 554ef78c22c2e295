import Mathlib.Data.List.Basic

/-!
# Regular expressions matched by backtracking

Expressions of character classes, sequences, greedy repetitions and capture groups. `Expr.all` is
the search of a backtracking matcher: every way to match at the front of a text, in the order in
which the matcher tries them. `Expr.Takes` says what an expression matches without an order, and
`mem_all` that the search finds exactly that. `fullMatch` is the first way that uses up the text.
Every expression takes at least one character, so that a repetition ends.
-/

namespace Regexp

/-- A greedy regular expression. -/
inductive Expr
  | cls (p : Char → Bool)
  | seq (r t : Expr)
  | plus (r : Expr)
  | group (k : Nat) (r : Expr)

/-- What the groups have captured, the last capture first. -/
abbrev Captures := List (Nat × List Char)

/-- A literal. -/
def Expr.lit (c : Char) : Expr := .cls (· == c)

/-- Ways to match, one after the other: the text left and the captures. -/
def thenAll (next : List Char → List (List Char × Captures)) (m : List Char × Captures) :
    List (List Char × Captures) := (next m.1).map fun n => (n.1, n.2 ++ m.2)

/-- At most `fuel` iterations of `step`, at least one: the longer ways first. -/
def repeatAll (step : List Char → List (List Char × Captures)) :
    Nat → List Char → List (List Char × Captures)
  | 0, _ => []
  | fuel + 1, s => (step s).flatMap fun m => thenAll (repeatAll step fuel) m ++ [m]

/-- The ways to match at the front of a text, in the order they are tried. -/
def Expr.all : Expr → List Char → List (List Char × Captures)
  | .cls _, [] => []
  | .cls p, c :: s => if p c then [(s, [])] else []
  | .seq r t, s => (r.all s).flatMap (thenAll t.all)
  | .plus r, s => repeatAll r.all s.length s
  | .group k r, s => (r.all s).map fun m => (m.1, (k, s.take (s.length - m.1.length)) :: m.2)

/-- A match of a whole text: its captures. -/
def Expr.fullMatch (r : Expr) (s : List Char) : Option Captures :=
  ((r.all s).find? fun m => m.1.isEmpty).map (·.2)

/-- The text of a group, empty when the group has captured nothing. -/
def str (caps : Captures) (k : Nat) : List Char := (caps.lookup k).getD []

/-- The expression can take the text with these captures. -/
inductive Expr.Takes : Expr → List Char → Captures → Prop
  | cls {p c} : p c = true → Takes (.cls p) [c] []
  | seq {r t u v a b} : Takes r u a → Takes t v b → Takes (.seq r t) (u ++ v) (b ++ a)
  | once {r u a} : Takes r u a → Takes (.plus r) u a
  | more {r u v a b} : Takes r u a → Takes (.plus r) v b → Takes (.plus r) (u ++ v) (b ++ a)
  | group {k r u a} : Takes r u a → Takes (.group k r) u ((k, u) :: a)

variable {r t : Expr} {p : Char → Bool} {u v w s : List Char} {a : Captures} {k : Nat}

theorem Expr.Takes.ne_nil (h : r.Takes w a) : w ≠ [] := by
  induction h with
  | cls _ => exact List.cons_ne_nil _ _
  | seq _ _ ih _ => exact fun he => ih (List.append_eq_nil_iff.1 he).1
  | once _ ih => exact ih
  | more _ _ ih _ => exact fun he => ih (List.append_eq_nil_iff.1 he).1
  | group _ ih => exact ih

/-! ## The search is complete and sound -/

theorem mem_thenAll {next : List Char → List (List Char × Captures)}
    {m n : List Char × Captures} :
    n ∈ thenAll next m ↔ ∃ b, (n.1, b) ∈ next m.1 ∧ n.2 = b ++ m.2 := by
  rw [thenAll, List.mem_map]
  constructor
  · rintro ⟨l, hl, rfl⟩
    exact ⟨l.2, hl, rfl⟩
  · rintro ⟨b, hb, he⟩
    exact ⟨_, hb, Prod.ext rfl he.symm⟩

/-- What a repetition finds, when its body finds what it takes. -/
theorem mem_repeatAll (hr : ∀ s m, m ∈ r.all s ↔ ∃ w, s = w ++ m.1 ∧ r.Takes w m.2) (fuel : Nat) :
    ∀ s m, s.length ≤ fuel →
      (m ∈ repeatAll r.all fuel s ↔ ∃ w, s = w ++ m.1 ∧ (Expr.plus r).Takes w m.2) := by
  induction fuel with
  | zero =>
    intro s m hs
    obtain rfl := List.length_eq_zero_iff.1 (Nat.le_zero.1 hs)
    refine iff_of_false (List.not_mem_nil) ?_
    rintro ⟨w, hw, ht⟩
    exact ht.ne_nil (List.append_eq_nil_iff.1 hw.symm).1
  | succ fuel ih =>
    intro s m hs
    -- an iteration takes a character, so that the rest is within the bound
    have hrest : ∀ w rest, s = w ++ rest → w ≠ [] → rest.length ≤ fuel := by
      intro w rest he hw
      have := List.length_pos_iff.2 hw
      rw [he, List.length_append] at hs
      omega
    simp only [repeatAll, List.mem_flatMap, List.mem_append, mem_thenAll, List.mem_singleton]
    constructor
    · rintro ⟨m₁, h₁, ⟨b, hb, he⟩ | rfl⟩
      · obtain ⟨u, hu, htu⟩ := (hr _ _).1 h₁
        obtain ⟨v, hv, htv⟩ := (ih _ _ (hrest u _ hu htu.ne_nil)).1 hb
        refine ⟨u ++ v, by rw [hu, hv, List.append_assoc], ?_⟩
        rw [he]
        exact .more htu htv
      · obtain ⟨u, hu, htu⟩ := (hr _ _).1 h₁
        exact ⟨u, hu, .once htu⟩
    · obtain ⟨rest, caps⟩ := m
      rintro ⟨w, hw, ht⟩
      cases ht with
      | once ht => exact ⟨(rest, caps), (hr _ _).2 ⟨w, hw, ht⟩, .inr rfl⟩
      | @more _ u v a b htu htv =>
        rw [List.append_assoc] at hw
        refine ⟨(v ++ rest, a), (hr _ _).2 ⟨u, hw, htu⟩, .inl ⟨b, ?_, rfl⟩⟩
        exact (ih _ _ (hrest u _ hw htu.ne_nil)).2 ⟨v, rfl, htv⟩

/-- The search finds what the expression takes. -/
theorem mem_all (r : Expr) (s : List Char) (m : List Char × Captures) :
    m ∈ r.all s ↔ ∃ w, s = w ++ m.1 ∧ r.Takes w m.2 := by
  induction r generalizing s m with
  | cls p =>
    obtain ⟨rest, caps⟩ := m
    constructor
    · intro h
      cases s with
      | nil => cases h
      | cons c s =>
        rw [Expr.all] at h
        split at h
        · rename_i hc
          cases List.mem_singleton.1 h
          exact ⟨[c], rfl, .cls hc⟩
        · cases h
    · rintro ⟨w, rfl, ht⟩
      cases ht with
      | cls hc => simp [Expr.all, hc]
  | seq r t ihr iht =>
    simp only [Expr.all, List.mem_flatMap, mem_thenAll]
    constructor
    · rintro ⟨m₁, h₁, b, hb, he⟩
      obtain ⟨u, hu, htu⟩ := (ihr _ _).1 h₁
      obtain ⟨v, hv, htv⟩ := (iht _ _).1 hb
      refine ⟨u ++ v, by rw [hu, hv, List.append_assoc], ?_⟩
      rw [he]
      exact .seq htu htv
    · obtain ⟨rest, caps⟩ := m
      rintro ⟨w, hw, ht⟩
      cases ht with
      | @seq _ _ u v a b htu htv =>
        rw [List.append_assoc] at hw
        exact ⟨(v ++ rest, a), (ihr _ _).2 ⟨u, hw, htu⟩, b, (iht _ _).2 ⟨v, rfl, htv⟩, rfl⟩
  | plus r ih => exact mem_repeatAll ih s.length s m (Nat.le_refl _)
  | group k r ih =>
    have htake : ∀ w rest : List Char, (w ++ rest).take ((w ++ rest).length - rest.length) = w := by
      intro w rest
      rw [List.length_append, Nat.add_sub_cancel]
      exact List.take_left
    rw [Expr.all, List.mem_map]
    constructor
    · rintro ⟨m₁, h₁, rfl⟩
      obtain ⟨u, hu, htu⟩ := (ih _ _).1 h₁
      refine ⟨u, hu, ?_⟩
      dsimp only
      rw [hu, htake]
      exact .group htu
    · obtain ⟨rest, caps⟩ := m
      rintro ⟨w, hw, ht⟩
      cases ht with
      | @group _ _ _ a htu =>
        refine ⟨(rest, a), (ih _ _).2 ⟨w, hw, htu⟩, ?_⟩
        dsimp only
        rw [hw, htake]

theorem takes_of_fullMatch (h : r.fullMatch s = some a) : r.Takes s a := by
  obtain ⟨⟨rest, caps⟩, hm, rfl⟩ := Option.map_eq_some_iff.1 h
  have hrest := List.find?_some hm
  obtain ⟨w, hw, ht⟩ := (mem_all _ _ _).1 (List.mem_of_find?_eq_some hm)
  rw [hw, List.isEmpty_iff.1 hrest, List.append_nil]
  exact ht

theorem fullMatch_eq_none (h : ∀ a, ¬ r.Takes s a) : r.fullMatch s = none := by
  cases hm : r.fullMatch s with
  | none => rfl
  | some a => exact absurd (takes_of_fullMatch hm) (h a)

theorem fullMatch_isSome_of_takes (h : r.Takes s a) : (r.fullMatch s).isSome := by
  rw [Expr.fullMatch, Option.isSome_map, List.find?_isSome]
  exact ⟨([], a), (mem_all _ _ _).2 ⟨s, (List.append_nil s).symm, h⟩, rfl⟩

/-- A group whose text is the same in every match of the text. -/
theorem fullMatch_str (h : r.Takes s a) (hu : ∀ b, r.Takes s b → str b k = w) :
    ∃ b, r.fullMatch s = some b ∧ str b k = w := by
  obtain ⟨b, hb⟩ := Option.isSome_iff_exists.1 (fullMatch_isSome_of_takes h)
  exact ⟨b, hb, hu b (takes_of_fullMatch hb)⟩

/-! ## What the expressions take -/

@[simp] theorem takes_cls : (Expr.cls p).Takes w a ↔ ∃ c, p c = true ∧ w = [c] ∧ a = [] := by
  constructor
  · rintro ⟨hc⟩
    exact ⟨_, hc, rfl, rfl⟩
  · rintro ⟨c, hc, rfl, rfl⟩
    exact .cls hc

@[simp] theorem takes_lit {c : Char} : (Expr.lit c).Takes w a ↔ w = [c] ∧ a = [] := by
  simp [Expr.lit]

theorem takes_seq :
    (Expr.seq r t).Takes w a ↔ ∃ u v b c, r.Takes u b ∧ t.Takes v c ∧ w = u ++ v ∧ a = c ++ b := by
  constructor
  · intro h
    cases h with
    | seq hr ht => exact ⟨_, _, _, _, hr, ht, rfl, rfl⟩
  · rintro ⟨u, v, b, c, hr, ht, rfl, rfl⟩
    exact .seq hr ht

theorem takes_cls_seq :
    (Expr.seq (.cls p) t).Takes w a ↔ ∃ c v, p c = true ∧ w = c :: v ∧ t.Takes v a := by
  rw [takes_seq]
  constructor
  · rintro ⟨u, v, b, c, hu, hv, rfl, rfl⟩
    obtain ⟨d, hd, rfl, rfl⟩ := takes_cls.1 hu
    exact ⟨d, v, hd, rfl, by rwa [List.append_nil]⟩
  · rintro ⟨d, v, hd, rfl, hv⟩
    exact ⟨[d], v, [], a, .cls hd, hv, rfl, (List.append_nil a).symm⟩

theorem takes_lit_seq {c : Char} :
    (Expr.seq (.lit c) t).Takes w a ↔ ∃ v, w = c :: v ∧ t.Takes v a := by
  simp [Expr.lit, takes_cls_seq]

theorem takes_group :
    (Expr.group k r).Takes w a ↔ ∃ b, r.Takes w b ∧ a = (k, w) :: b := by
  constructor
  · intro h
    cases h with
    | group h => exact ⟨_, h, rfl⟩
  · rintro ⟨b, h, rfl⟩
    exact .group h

/-- A repetition takes a concatenation of what its body takes. -/
theorem takes_plus : (Expr.plus r).Takes w a ↔ ∃ ms : List (List Char × Captures), ms ≠ [] ∧
    (∀ m ∈ ms, r.Takes m.1 m.2) ∧ w = ms.flatMap (·.1) ∧ a = ms.reverse.flatMap (·.2) := by
  constructor
  · intro h
    generalize he : Expr.plus r = e at h
    induction h with
    | cls _ | seq _ _ | group _ => cases he
    | @once _ u a h =>
      cases he
      exact ⟨[(u, a)], List.cons_ne_nil _ _, by simpa using h, by simp, by simp⟩
    | @more _ u v a b h _ _ ih =>
      cases he
      obtain ⟨ms, -, hms, rfl, rfl⟩ := ih rfl
      refine ⟨(u, a) :: ms, List.cons_ne_nil _ _, ?_, by simp, by simp⟩
      exact List.forall_mem_cons.2 ⟨h, hms⟩
  · rintro ⟨ms, hne, hms, rfl, rfl⟩
    induction ms with
    | nil => exact absurd rfl hne
    | cons m ms ih =>
      obtain ⟨hm, hms⟩ := List.forall_mem_cons.1 hms
      cases ms with
      | nil => simpa using Expr.Takes.once hm
      | cons n ms =>
        have := Expr.Takes.more hm (ih (List.cons_ne_nil _ _) hms)
        simpa using this

theorem takes_plus_cls :
    (Expr.plus (.cls p)).Takes w a ↔ w ≠ [] ∧ (∀ c ∈ w, p c = true) ∧ a = [] := by
  rw [takes_plus]
  constructor
  · rintro ⟨ms, hne, hms, rfl, rfl⟩
    simp only [takes_cls] at hms
    refine ⟨?_, ?_, ?_⟩
    · obtain ⟨m, ms, rfl⟩ := List.exists_cons_of_ne_nil hne
      obtain ⟨c, -, hm, -⟩ := hms m List.mem_cons_self
      simp [hm]
    · intro c hc
      obtain ⟨m, hm, hc⟩ := List.mem_flatMap.1 hc
      obtain ⟨d, hd, he, -⟩ := hms m hm
      rw [he, List.mem_singleton] at hc
      rwa [hc]
    · refine List.flatMap_eq_nil_iff.2 fun m hm => ?_
      obtain ⟨-, -, -, he⟩ := hms m (List.mem_reverse.1 hm)
      exact he
  · rintro ⟨hne, hp, rfl⟩
    refine ⟨w.map fun c => ([c], []), by simpa using hne, ?_, ?_, ?_⟩
    · simpa using hp
    · simp [List.flatMap_map]
    · simp [List.flatMap]

end Regexp
