import IptvCloud.Lib.Run
import Mathlib.Data.List.Basic

/-!
# Runs and the events before them

Invariants that relate the state of a run to all the events that led to it (`Keeps`). Such an
invariant holds at the end of a run (`Keeps.exec`), and where it says which events can happen, it
says which runs there are (`Keeps.isSome_iff`).
-/

namespace Run

variable {σ ε : Type*} {step : σ → ε → Option σ} {I : List ε → σ → Prop} {s s' : σ}
  {past es : List ε}

theorem Always.imp {P Q : σ → Prop} (h : Always step P s es) (hPQ : ∀ s, P s → Q s) :
    Always step Q s es := by
  induction es generalizing s with
  | nil => exact hPQ s h
  | cons e es ih => exact ⟨hPQ s h.1, fun s' he => ih (h.2 s' he)⟩

theorem Always.init {P : σ → Prop} (h : Always step P s es) : P s := by
  cases es with
  | nil => exact h
  | cons e es => exact h.1

/-- Each step keeps the invariant of the past events and the state. -/
def Keeps (step : σ → ε → Option σ) (I : List ε → σ → Prop) : Prop :=
  ∀ past s e s', I past s → step s e = some s' → I (past ++ [e]) s'

theorem Keeps.exec_append (h : Keeps step I) (hs : I past s) (hrun : exec step s es = some s') :
    I (past ++ es) s' := by
  induction es generalizing past s with
  | nil =>
    cases hrun
    rwa [List.append_nil]
  | cons e es ih =>
    obtain ⟨s₁, he, hrun⟩ := exec_cons hrun
    have hrest := ih (h past s e s₁ hs he) hrun
    rwa [List.append_assoc] at hrest

theorem Keeps.exec (h : Keeps step I) (hs : I [] s) (hrun : Run.exec step s es = some s') :
    I es s' :=
  h.exec_append hs hrun

theorem Keeps.isSome_append_iff {C : List ε → ε → Prop} (h : Keeps step I)
    (hC : ∀ past s e, I past s → ((step s e).isSome = true ↔ C past e)) (hs : I past s) :
    (Run.exec step s es).isSome = true ↔
      ∀ done e rest, es = done ++ e :: rest → C (past ++ done) e := by
  induction es generalizing past s with
  | nil => simp [Run.exec]
  | cons e es ih =>
    cases he : step s e with
    | none =>
      have hnot : ¬ C past e := by rw [← hC past s e hs, he]; exact Bool.noConfusion
      rw [Run.exec, he]
      refine ⟨fun hrun => Bool.noConfusion hrun, fun hall => absurd ?_ hnot⟩
      have hfirst := hall [] e es rfl
      rwa [List.append_nil] at hfirst
    | some s₁ =>
      have hfirst : C past e := by rw [← hC past s e hs, he]; rfl
      rw [Run.exec, he, Option.bind_some, ih (h past s e s₁ hs he)]
      constructor
      · intro hall done e' rest heq
        cases done with
        | nil =>
          cases heq
          rwa [List.append_nil]
        | cons d done =>
          cases heq
          have hlater := hall done e' rest rfl
          rwa [List.append_assoc] at hlater
      · intro hall done e' rest heq
        have hlater := hall (e :: done) e' rest (by rw [heq]; rfl)
        rwa [List.append_assoc]

/-- The runs are those whose events can each happen after the events before it. -/
theorem Keeps.isSome_iff {C : List ε → ε → Prop} (h : Keeps step I)
    (hC : ∀ past s e, I past s → ((step s e).isSome = true ↔ C past e)) (hs : I [] s) :
    (Run.exec step s es).isSome = true ↔ ∀ done e rest, es = done ++ e :: rest → C done e :=
  h.isSome_append_iff hC hs

end Run
