import IptvCloud.Lib.Run

/-!
# Runs of a step function with output

A system `react : σ → ε → Option (σ × List ω)` gives the state after an event and what it sends.
`run` handles a list of events and gives the last state and all that was sent, in order, and
`run_rel` carries a relation between the first state, what was sent and the last state through a
run.
-/

namespace Transcript

variable {σ ε ω : Type*}

/-- The state after the events and what was sent; `none` when one of them cannot happen. -/
def run (react : σ → ε → Option (σ × List ω)) : σ → List ε → Option (σ × List ω)
  | s, [] => some (s, [])
  | s, e :: es => (react s e).bind fun p => (run react p.1 es).map fun q => (q.1, p.2 ++ q.2)

/-- The step without what is sent. -/
def step (react : σ → ε → Option (σ × List ω)) (s : σ) (e : ε) : Option σ := (react s e).map (·.1)

variable {react : σ → ε → Option (σ × List ω)} {s s' : σ} {e : ε} {es : List ε}
  {sent : List ω}

theorem run_cons (h : run react s (e :: es) = some (s', sent)) :
    ∃ s₁ outs rest, react s e = some (s₁, outs) ∧ run react s₁ es = some (s', rest) ∧
      sent = outs ++ rest := by
  obtain ⟨⟨s₁, outs⟩, hreact, h⟩ := Option.bind_eq_some_iff.1 h
  obtain ⟨⟨s₂, rest⟩, hrun, heq⟩ := Option.map_eq_some_iff.1 h
  cases heq
  exact ⟨s₁, outs, rest, hreact, hrun, rfl⟩

/-- A relation that holds of no events and goes on over each event, under a condition that holds
along the run. -/
theorem run_rel {R : σ → List ω → σ → Prop} {C : σ → ε → Prop} (hnil : ∀ s, R s [] s)
    (hcons : ∀ s e s₁ outs rest s', C s e → react s e = some (s₁, outs) → R s₁ rest s' →
      R s (outs ++ rest) s')
    (hC : Run.Along (step react) C s es) (h : run react s es = some (s', sent)) :
    R s sent s' := by
  induction es generalizing s sent with
  | nil =>
    cases h
    exact hnil _
  | cons e es ih =>
    obtain ⟨s₁, outs, rest, hreact, hrun, rfl⟩ := run_cons h
    have hstep : step react s e = some s₁ := by rw [step, hreact, Option.map_some]
    exact hcons s e s₁ outs rest s' hC.1 hreact (ih (hC.2 s₁ hstep) hrun)

end Transcript
