import Mathlib.Logic.Basic

/-!
# Runs of a guarded step function

A system is a step function `step : σ → ε → Option σ`: `step s e` is the state after the event `e`,
`none` when `e` cannot happen in `s`. `exec` runs a list of events, `Reaches` is reachability, and
`Along P` says that `P` holds of every state a run goes through together with the event taken
there. A property of every run is an `Along` statement; `along_of_inv`, `along_iff` and
`exec_of_inv` and their conditional forms reduce it to one step.
-/

namespace Run

variable {σ ε : Type*}

/-- The state after the events; `none` when one of them cannot happen. -/
def exec (step : σ → ε → Option σ) : σ → List ε → Option σ
  | s, [] => some s
  | s, e :: es => (step s e).bind fun s' => exec step s' es

/-- `P` holds of every state the run goes through and the event taken there. -/
def Along (step : σ → ε → Option σ) (P : σ → ε → Prop) : σ → List ε → Prop
  | _, [] => True
  | s, e :: es => P s e ∧ ∀ s', step s e = some s' → Along step P s' es

/-- `P` holds of every state the run goes through, the last one included. -/
def Always (step : σ → ε → Option σ) (P : σ → Prop) : σ → List ε → Prop
  | s, [] => P s
  | s, e :: es => P s ∧ ∀ s', step s e = some s' → Always step P s' es

instance Along.decidable {step : σ → ε → Option σ} {P : σ → ε → Prop} [∀ s e, Decidable (P s e)] :
    (s : σ) → (es : List ε) → Decidable (Along step P s es)
  | _, [] => isTrue trivial
  | s, e :: es =>
    match h : step s e with
    | none => decidable_of_iff (P s e) (by simp [Along, h])
    | some s' =>
      have : Decidable (Along step P s' es) := Along.decidable s' es
      decidable_of_iff (P s e ∧ Along step P s' es) (by simp [Along, h])

/-- `s'` is reached from `s` by some events. -/
def Reaches (step : σ → ε → Option σ) (s s' : σ) : Prop := ∃ es, exec step s es = some s'

variable {step : σ → ε → Option σ}

theorem exec_cons {s s' : σ} {e : ε} {es : List ε} (h : exec step s (e :: es) = some s') :
    ∃ s₁, step s e = some s₁ ∧ exec step s₁ es = some s' :=
  Option.bind_eq_some_iff.1 h

theorem Reaches.refl (s : σ) : Reaches step s s := ⟨[], rfl⟩

theorem Reaches.head {s s₁ s' : σ} {e : ε} (h : step s e = some s₁) (hr : Reaches step s₁ s') :
    Reaches step s s' := by
  obtain ⟨es, hr⟩ := hr
  exact ⟨e :: es, by simp [exec, h, hr]⟩

theorem along_cons_of_step {P : σ → ε → Prop} {s s' : σ} {e : ε} {es : List ε}
    (h : step s e = some s') : Along step P s (e :: es) ↔ P s e ∧ Along step P s' es := by
  simp [Along, h]

/-- The rest of a run after its first events. -/
theorem Along.append {P : σ → ε → Prop} {es es' : List ε} {s s' : σ}
    (h : Along step P s (es ++ es')) (he : exec step s es = some s') : Along step P s' es' := by
  induction es generalizing s with
  | nil => cases he; exact h
  | cons e es ih =>
    obtain ⟨s₁, hstep, he⟩ := exec_cons he
    exact ih (h.2 s₁ hstep) he

/-- An invariant that every step meeting `C` keeps, and that gives `P` at such a step. -/
theorem Along.inv {I : σ → Prop} {C P : σ → ε → Prop}
    (hI : ∀ s e s', I s → C s e → step s e = some s' → I s') (hP : ∀ s e, I s → C s e → P s e)
    {es : List ε} {s : σ} (hs : I s) (h : Along step C s es) : Along step P s es := by
  induction es generalizing s with
  | nil => trivial
  | cons e es ih =>
    refine ⟨hP s e hs h.1, fun s' he => ?_⟩
    exact ih (hI s e s' hs h.1 he) (h.2 s' he)

/-- An invariant that every step keeps, and that gives `P`. -/
theorem along_of_inv {I : σ → Prop} {P : σ → ε → Prop}
    (hI : ∀ s e s', I s → step s e = some s' → I s') (hP : ∀ s e, I s → P s e)
    {es : List ε} {s : σ} (hs : I s) : Along step P s es := by
  induction es generalizing s with
  | nil => trivial
  | cons e es ih => exact ⟨hP s e hs, fun s' he => ih (hI s e s' hs he)⟩

/-- In the runs meeting `B`, `P` holds throughout exactly when `C` does, if they agree at every
step under an invariant that the steps meeting `C` keep. -/
theorem along_iff_under {I : σ → Prop} {B P C : σ → ε → Prop}
    (h : ∀ s e, I s → B s e → (P s e ↔ C s e))
    (hI : ∀ s e s', I s → B s e → C s e → step s e = some s' → I s')
    {es : List ε} {s : σ} (hs : I s) (hB : Along step B s es) :
    Along step P s es ↔ Along step C s es := by
  induction es generalizing s with
  | nil => exact Iff.rfl
  | cons e es ih =>
    have step_iff := h s e hs hB.1
    have rest := fun hC s' he => ih (hI s e s' hs hB.1 hC he) (hB.2 s' he)
    constructor
    · intro hP
      have hC := step_iff.1 hP.1
      exact ⟨hC, fun s' he => (rest hC s' he).1 (hP.2 s' he)⟩
    · intro hC
      exact ⟨step_iff.2 hC.1, fun s' he => (rest hC.1 s' he).2 (hC.2 s' he)⟩

/-- `along_iff_under` for all runs. -/
theorem along_iff {I : σ → Prop} {P C : σ → ε → Prop} (h : ∀ s e, I s → (P s e ↔ C s e))
    (hI : ∀ s e s', I s → C s e → step s e = some s' → I s') {es : List ε} {s : σ} (hs : I s) :
    Along step P s es ↔ Along step C s es :=
  along_iff_under (B := fun _ _ => True) (fun s e hs _ => h s e hs)
    (fun s e s' hs _ => hI s e s' hs) hs
    (along_of_inv (I := fun _ => True) (fun _ _ _ _ _ => trivial) (fun _ _ _ => trivial) trivial)

/-- A property that a step keeps exactly when it meets `C` holds throughout a run exactly when it
holds at its start and every step meets `C`. -/
theorem always_iff {P : σ → Prop} {C : σ → ε → Prop}
    (h : ∀ s e, P s → ((∀ s', step s e = some s' → P s') ↔ C s e)) {es : List ε} {s : σ} :
    Always step P s es ↔ P s ∧ Along step C s es := by
  induction es generalizing s with
  | nil => exact ⟨fun h => ⟨h, trivial⟩, fun h => h.1⟩
  | cons e es ih =>
    constructor
    · rintro ⟨hs, hrest⟩
      refine ⟨hs, (h s e hs).1 fun s' he => (ih.1 (hrest s' he)).1, fun s' he => ?_⟩
      exact (ih.1 (hrest s' he)).2
    · rintro ⟨hs, hC, hrest⟩
      exact ⟨hs, fun s' he => ih.2 ⟨(h s e hs).2 hC s' he, hrest s' he⟩⟩

/-- `always_iff` in the runs meeting `B`, under an invariant that gives the property. -/
theorem always_iff_under {I P : σ → Prop} {B C : σ → ε → Prop} (hP : ∀ s, I s → P s)
    (h : ∀ s e, I s → B s e → ((∀ s', step s e = some s' → P s') ↔ C s e))
    (hI : ∀ s e s', I s → B s e → C s e → step s e = some s' → I s') {es : List ε} {s : σ}
    (hs : I s) (hB : Along step B s es) : Always step P s es ↔ Along step C s es := by
  induction es generalizing s with
  | nil => exact ⟨fun _ => trivial, fun _ => hP s hs⟩
  | cons e es ih =>
    have rest := fun hC s' he => ih (hI s e s' hs hB.1 hC he) (hB.2 s' he)
    constructor
    · rintro ⟨-, hrest⟩
      have hC : C s e := (h s e hs hB.1).1 fun s' he => by
        have := hrest s' he
        cases es with
        | nil => exact this
        | cons _ _ => exact this.1
      exact ⟨hC, fun s' he => (rest hC s' he).1 (hrest s' he)⟩
    · intro hC
      exact ⟨hP s hs, fun s' he => (rest hC.1 s' he).2 (hC.2 s' he)⟩

/-- A run that fails after a step fails before it. -/
theorem exists_not_along {P : σ → ε → Prop} {s s' : σ} {e : ε} (h : step s e = some s')
    (hn : ∃ es, ¬ Along step P s' es) : ∃ es, ¬ Along step P s es := by
  obtain ⟨es, hn⟩ := hn
  exact ⟨e :: es, fun hA => hn (hA.2 s' h)⟩

/-- The state after a run whose steps meet `C`. -/
theorem exec_inv {I : σ → Prop} {C : σ → ε → Prop}
    (hI : ∀ s e s', I s → C s e → step s e = some s' → I s') {es : List ε} {s s' : σ} (hs : I s)
    (hC : Along step C s es) (h : exec step s es = some s') : I s' := by
  induction es generalizing s with
  | nil => cases h; exact hs
  | cons e es ih =>
    obtain ⟨s₁, he, h'⟩ := exec_cons h
    exact ih (hI s e s₁ hs hC.1 he) (hC.2 s₁ he) h'

/-- The state after any run. -/
theorem exec_of_inv {I : σ → Prop} (hI : ∀ s e s', I s → step s e = some s' → I s') {es : List ε}
    {s s' : σ} (hs : I s) (h : exec step s es = some s') : I s' := by
  induction es generalizing s with
  | nil => cases h; exact hs
  | cons e es ih =>
    obtain ⟨s₁, he, h'⟩ := exec_cons h
    exact ih (hI s e s₁ hs he) h'

end Run
