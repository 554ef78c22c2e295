import Mathlib.Logic.Basic

/-!
# Computations that index vectors

A computation that reads elements of vectors by their position ends with a value, with an index that
is not below the size of the vector (`Fault.outOfRange`, with the place where it was used), or for
another cause. `InRange` says that no index of the computation is out of range. It is computed along
the computation: `inRange_bind` for a sequence, `inRange_elemAt` for one access, and
`InRange.foldlM` for a loop with an invariant.
-/

namespace Checked

/-- Why a computation gives no value. -/
inductive Fault (σ κ : Type)
  | outOfRange (site : σ) (index size : Nat)
  | stopped (cause : κ)
  deriving DecidableEq, Repr

variable {σ κ α β : Type}

/-- `v[i]`, used at `site`. -/
def elemAt (site : σ) (v : List α) (i : Nat) : Except (Fault σ κ) α :=
  match v[i]? with
  | some a => .ok a
  | none => .error (.outOfRange site i v.length)

/-- No index of the computation is out of range. -/
def InRange : Except (Fault σ κ) α → Prop
  | .error (.outOfRange _ _ _) => False
  | _ => True

/-! ## Rules -/

@[simp] theorem inRange_ok (a : α) : InRange (.ok a : Except (Fault σ κ) α) := trivial

@[simp] theorem inRange_pure (a : α) : InRange (pure a : Except (Fault σ κ) α) := trivial

@[simp] theorem inRange_stopped (cause : κ) :
    InRange (.error (.stopped cause) : Except (Fault σ κ) α) := trivial

@[simp] theorem not_inRange_outOfRange (site : σ) (index size : Nat) :
    ¬ InRange (.error (.outOfRange site index size) : Except (Fault σ κ) α) := id

theorem bind_eq_ok_iff {ε : Type} {x : Except ε α} {f : α → Except ε β} {b : β} :
    x >>= f = .ok b ↔ ∃ a, x = .ok a ∧ f a = .ok b := by
  cases x <;> simp [bind, Except.bind]

theorem inRange_bind (x : Except (Fault σ κ) α) (f : α → Except (Fault σ κ) β) :
    InRange (x >>= f) ↔ InRange x ∧ ∀ a, x = .ok a → InRange (f a) := by
  cases x with
  | ok a => simp [bind, Except.bind]
  | error fault => cases fault <;> simp [bind, Except.bind]

@[simp] theorem inRange_map (f : α → β) (x : Except (Fault σ κ) α) :
    InRange (f <$> x) ↔ InRange x := by
  cases x with
  | ok a => exact Iff.rfl
  | error fault => cases fault <;> exact Iff.rfl

theorem map_eq_ok_iff {ε : Type} {x : Except ε α} {f : α → β} {b : β} :
    f <$> x = .ok b ↔ ∃ a, x = .ok a ∧ f a = b := by
  cases x <;> simp [Functor.map, Except.map]

theorem elemAt_eq_ok_iff {site : σ} {v : List α} {i : Nat} {a : α} :
    (elemAt site v i : Except (Fault σ κ) α) = .ok a ↔ v[i]? = some a := by
  unfold elemAt
  cases v[i]? <;> simp

@[simp] theorem inRange_elemAt (site : σ) (v : List α) (i : Nat) :
    InRange (elemAt site v i : Except (Fault σ κ) α) ↔ i < v.length := by
  unfold elemAt
  cases h : v[i]? with
  | some a => simpa using (List.getElem?_eq_some_iff.1 h).1
  | none => simpa using List.getElem?_eq_none_iff.1 h

/-- A loop whose steps keep an invariant under which their indices are in range. -/
theorem InRange.foldlM {f : β → α → Except (Fault σ κ) β} {l : List α} {I : β → Prop}
    (hf : ∀ b a, a ∈ l → I b → InRange (f b a))
    (hI : ∀ b a b', a ∈ l → I b → f b a = .ok b' → I b') {b : β} (hb : I b) :
    InRange (l.foldlM f b) := by
  induction l generalizing b with
  | nil => simp
  | cons a l ih =>
    rw [List.foldlM_cons, inRange_bind]
    refine ⟨hf b a List.mem_cons_self hb, fun b' h => ?_⟩
    refine ih (fun b a ha => hf b a (List.mem_cons_of_mem _ ha)) (fun b a b' ha => ?_)
      (hI b a b' List.mem_cons_self hb h)
    exact hI b a b' (List.mem_cons_of_mem _ ha)

end Checked
