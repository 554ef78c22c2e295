import Mathlib.Data.List.Basic

/-!
# Latches

A fold over events with one latch for each key. The first event under a key fires its latch and is
noted; the later events under the key find the latch fired and leave it (`Fires`). Over a run, what
is noted under a key is the first event under it, and the latch has fired exactly when there was
one (`Fires.run`).
-/

namespace Latch

variable {σ ε κ τ : Type*}

/-- The step of a fold, under an invariant `I`: `fired` are the latches, `noted` what is noted under
a key, and `emit` what is noted of an event. -/
structure Fires (step : σ → ε → σ) (key : ε → Option κ) (emit : ε → τ) (I : σ → Prop)
    (fired : σ → κ → Bool) (noted : σ → κ → List τ) : Prop where
  keeps : ∀ s e, I s → I (step s e)
  fire : ∀ s e k, I s → key e = some k → fired s k = false →
    fired (step s e) k = true ∧ noted (step s e) k = noted s k ++ [emit e]
  idle : ∀ s e k, I s → (key e ≠ some k ∨ fired s k = true) →
    fired (step s e) k = fired s k ∧ noted (step s e) k = noted s k

variable {step : σ → ε → σ} {key : ε → Option κ} {emit : ε → τ} {I : σ → Prop}
  {fired : σ → κ → Bool} {noted : σ → κ → List τ} {s : σ} {k : κ}

theorem Fires.inv (h : Fires step key emit I fired noted) (es : List ε) (hs : I s) :
    I (es.foldl step s) := by
  induction es generalizing s with
  | nil => exact hs
  | cons e es ih => exact ih (h.keeps s e hs)

/-- A latch that has fired stays so, and nothing more is noted under its key. -/
theorem Fires.stays (h : Fires step key emit I fired noted) (es : List ε) (hs : I s)
    (hfired : fired s k = true) :
    fired (es.foldl step s) k = true ∧ noted (es.foldl step s) k = noted s k := by
  induction es generalizing s with
  | nil => exact ⟨hfired, rfl⟩
  | cons e es ih =>
    obtain ⟨hfired', hnoted⟩ := h.idle s e k hs (.inr hfired)
    obtain ⟨hrun, hnoted'⟩ := ih (h.keeps s e hs) (hfired'.trans hfired)
    exact ⟨hrun, hnoted'.trans hnoted⟩

variable [DecidableEq κ]

/-- The first event under the key, if there is one. -/
def first (key : ε → Option κ) (k : κ) (es : List ε) : List ε :=
  (es.filter fun e => key e = some k).take 1

theorem first_cons_self {e : ε} (es : List ε) (h : key e = some k) :
    first key k (e :: es) = [e] := by
  simp [first, h]

theorem first_cons_of_ne {e : ε} (es : List ε)
    (h : key e ≠ some k) : first key k (e :: es) = first key k es := by
  simp [first, h]

theorem eq_of_mem_first {e : ε} {es : List ε} (h : e ∈ first key k es) : first key k es = [e] := by
  unfold first at h ⊢
  cases hfilter : es.filter fun e => key e = some k with
  | nil =>
    rw [hfilter] at h
    cases h
  | cons e' rest =>
    rw [hfilter, List.take_succ_cons, List.take_zero] at h
    rw [List.mem_singleton.1 h, List.take_succ_cons, List.take_zero]

/-- Of the events under a key the first one is noted. -/
theorem Fires.run (h : Fires step key emit I fired noted) (es : List ε) (hs : I s)
    (hfired : fired s k = false) :
    noted (es.foldl step s) k = noted s k ++ (first key k es).map emit ∧
      (fired (es.foldl step s) k = true ↔ ∃ e ∈ es, key e = some k) := by
  induction es generalizing s with
  | nil => simp [first, hfired]
  | cons e es ih =>
    by_cases hkey : key e = some k
    · obtain ⟨hfired', hnoted⟩ := h.fire s e k hs hkey hfired
      obtain ⟨hrun, hnoted'⟩ := h.stays es (h.keeps s e hs) hfired'
      refine ⟨?_, fun _ => ⟨e, by simp, hkey⟩, fun _ => hrun⟩
      rw [List.foldl_cons, hnoted', hnoted, first_cons_self es hkey]
      rfl
    · obtain ⟨hfired', hnoted⟩ := h.idle s e k hs (.inl hkey)
      obtain ⟨hnoted', hrun⟩ := ih (h.keeps s e hs) (hfired'.trans hfired)
      rw [List.foldl_cons, hnoted', hnoted, first_cons_of_ne es hkey, hrun]
      refine ⟨rfl, ?_⟩
      simp [hkey]

/-- The events that are the first ones under their keys, from latches some of which have fired. -/
def firsts (key : ε → Option κ) : (κ → Bool) → List ε → List ε
  | _, [] => []
  | latches, e :: es =>
    match key e with
    | none => firsts key latches es
    | some k =>
      if latches k then firsts key latches es
      else e :: firsts key (Function.update latches k true) es

/-- A step that acts on the first event under a key and does nothing else. -/
structure Guards (step act : σ → ε → σ) (key : ε → Option κ) (fired : σ → κ → Bool) : Prop where
  fire : ∀ s e k, key e = some k → fired s k = false →
    step s e = act s e ∧ fired (act s e) = Function.update (fired s) k true
  idle : ∀ s e, (∀ k, key e = some k → fired s k = true) → step s e = s

/-- The guarded steps are the actions of the first events. -/
theorem Guards.foldl {act : σ → ε → σ} (h : Guards step act key fired) (es : List ε) (s : σ) :
    es.foldl step s = (firsts key (fired s) es).foldl act s := by
  induction es generalizing s with
  | nil => rfl
  | cons e es ih =>
    rw [List.foldl_cons, firsts]
    cases hkey : key e with
    | none =>
      rw [h.idle s e (by simp [hkey])]
      exact ih s
    | some k =>
      cases hfired : fired s k with
      | true =>
        rw [h.idle s e (by simp [hkey, hfired])]
        simp only [hfired, if_true]
        exact ih s
      | false =>
        obtain ⟨hstep, hact⟩ := h.fire s e k hkey hfired
        simp only [hfired, Bool.false_eq_true, if_false, List.foldl_cons]
        rw [hstep, ← hact]
        exact ih (act s e)

end Latch
