import Mathlib.Logic.Basic

/-!
# While loops

A loop whose body, run in a state, either goes on with another state or leaves the loop with a
value. `loop` runs it with a bound on the number of turns; it `Returns` from a state when some bound
is enough. A property of the value left with comes from an invariant (`loop_inv`), termination from
an invariant with a measure (`Returns.of_measure`), non-termination from an invariant under which
no turn leaves (`not_returns_of_inv`).
-/

namespace While

/-- What one turn of the loop does. -/
inductive Turn (σ β : Type)
  | again (s : σ)
  | done (b : β)
  deriving DecidableEq, Repr

variable {σ β : Type}

/-- The value the loop is left with after at most `fuel` turns. -/
def loop (turn : σ → Turn σ β) : Nat → σ → Option β
  | 0, _ => none
  | fuel + 1, s =>
    match turn s with
    | .again s' => loop turn fuel s'
    | .done b => some b

/-- The loop is left after finitely many turns. -/
def Returns (turn : σ → Turn σ β) (s : σ) : Prop := ∃ fuel, (loop turn fuel s).isSome

variable {turn : σ → Turn σ β} {I : σ → Prop} {s s' : σ} {b : β}

theorem loop_done (h : turn s = .done b) (fuel : Nat) : loop turn (fuel + 1) s = some b := by
  rw [loop, h]

theorem loop_again (h : turn s = .again s') (fuel : Nat) :
    loop turn (fuel + 1) s = loop turn fuel s' := by
  rw [loop, h]

/-- A larger bound gives the same value. -/
theorem loop_mono {fuel fuel' : Nat} (hle : fuel ≤ fuel') (h : loop turn fuel s = some b) :
    loop turn fuel' s = some b := by
  induction fuel generalizing s fuel' with
  | zero => simp [loop] at h
  | succ fuel ih =>
    obtain ⟨n, rfl⟩ : ∃ n, fuel' = n + 1 := ⟨fuel' - 1, by omega⟩
    cases ht : turn s with
    | again s₁ =>
      rw [loop_again ht] at h ⊢
      exact ih (by omega) h
    | done b₁ => rwa [loop_done ht] at h ⊢

/-- The value of a loop whose turns keep `I`. -/
theorem loop_inv {Q : β → Prop} (hI : ∀ s s', I s → turn s = .again s' → I s')
    (hQ : ∀ s b, I s → turn s = .done b → Q b) {fuel : Nat} (hs : I s)
    (h : loop turn fuel s = some b) : Q b := by
  induction fuel generalizing s with
  | zero => simp [loop] at h
  | succ fuel ih =>
    cases ht : turn s with
    | again s₁ => exact ih (hI s s₁ hs ht) (by rwa [loop_again ht] at h)
    | done b₁ =>
      rw [loop_done ht] at h
      exact Option.some.inj h ▸ hQ s b₁ hs ht

theorem Returns.done (h : turn s = .done b) : Returns turn s := ⟨1, by simp [loop_done h]⟩

theorem Returns.again (h : turn s = .again s') (hs : Returns turn s') : Returns turn s := by
  obtain ⟨fuel, hs⟩ := hs
  exact ⟨fuel + 1, by rwa [loop_again h]⟩

/-- A loop is left when its turns keep `I` and make `μ` smaller. -/
theorem Returns.of_measure (μ : σ → Nat)
    (h : ∀ s s', I s → turn s = .again s' → I s' ∧ μ s' < μ s) (hs : I s) : Returns turn s := by
  induction hn : μ s using Nat.strongRecOn generalizing s with
  | ind n ih =>
    cases ht : turn s with
    | again s₁ =>
      obtain ⟨hs₁, hlt⟩ := h s s₁ hs ht
      exact .again ht (ih _ (hn ▸ hlt) hs₁ rfl)
    | done b => exact .done ht

/-- A loop is never left when no turn under `I` leaves it and each keeps `I`. -/
theorem not_returns_of_inv (h : ∀ s, I s → ∃ s', turn s = .again s' ∧ I s') (hs : I s) :
    ¬ Returns turn s := by
  rintro ⟨fuel, hf⟩
  induction fuel generalizing s with
  | zero => simp [loop] at hf
  | succ fuel ih =>
    obtain ⟨s', ht, hs'⟩ := h s hs
    exact ih hs' (by rwa [loop_again ht] at hf)

end While
