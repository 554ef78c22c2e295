import Mathlib.Data.List.Nodup
import Mathlib.Data.Option.Basic

/-!
# Slots

A list of keys that each hold one value. A value is taken up under a key that holds none, and a
value that is released frees the keys that hold it. Over a run each key is a slot of its own
(`mem_foldl_iff`), and no key holds two values (`nodup_foldl`).
-/

namespace Slots

variable {κ ν : Type*} [DecidableEq κ] [DecidableEq ν]

inductive Op (κ ν : Type*)
  | take (k : κ) (v : ν)
  | release (v : ν)
  | skip

/-- An operation on all keys. -/
def step (held : List (κ × ν)) : Op κ ν → List (κ × ν)
  | .take k v => if held.any fun p => p.1 = k then held else held ++ [(k, v)]
  | .release v => held.filter fun p => p.2 ≠ v
  | .skip => held

/-- An operation on the slot of one key. -/
def slot (k : κ) (o : Option ν) : Op κ ν → Option ν
  | .take k' v => if k' = k then some (o.getD v) else o
  | .release v => o.filter fun v' => v' ≠ v
  | .skip => o

variable {held : List (κ × ν)} {k k' : κ} {v v' : ν}

theorem step_take : step held (.take k v) =
    if k ∈ held.map Prod.fst then held else held ++ [(k, v)] := by
  show (if held.any fun p => p.1 = k then held else held ++ [(k, v)]) = _
  refine if_congr ?_ rfl rfl
  simp

theorem nodup_step (h : (held.map Prod.fst).Nodup) (op : Op κ ν) :
    ((step held op).map Prod.fst).Nodup := by
  cases op with
  | take k v =>
    rw [step_take]
    split_ifs with hk
    · exact h
    · rw [List.map_append]
      exact List.Nodup.append h (List.nodup_singleton k) (by simpa using hk)
  | release v => exact h.sublist (List.filter_sublist.map Prod.fst)
  | skip => exact h

/-- No key holds two values. -/
theorem nodup_foldl (h : (held.map Prod.fst).Nodup) (ops : List (Op κ ν)) :
    ((ops.foldl step held).map Prod.fst).Nodup := by
  induction ops generalizing held with
  | nil => exact h
  | cons op ops ih => exact ih (nodup_step h op)

theorem mem_take_iff : (k, v) ∈ step held (.take k' v') ↔
    (k, v) ∈ held ∨ k' ∉ held.map Prod.fst ∧ k = k' ∧ v = v' := by
  rw [step_take]
  split_ifs with hk <;> simp [hk]

/-- The slot of a key follows what the list says of the key. -/
theorem mem_step_iff {o : Option ν} (h : ∀ v, (k, v) ∈ held ↔ o = some v) (op : Op κ ν) (v : ν) :
    (k, v) ∈ step held op ↔ slot k o op = some v := by
  cases op with
  | take k' v' =>
    rw [mem_take_iff, h v]
    show _ ↔ (if k' = k then some (o.getD v') else o) = some v
    by_cases hk : k' = k
    · subst hk
      have hfree : k' ∉ held.map Prod.fst ↔ o = none := by
        simp [h, Option.eq_none_iff_forall_ne_some]
      rw [if_pos rfl, hfree]
      cases o <;> simp [eq_comm]
    · simp [hk, Ne.symm hk]
  | release v' =>
    show (k, v) ∈ held.filter _ ↔ o.filter _ = some v
    rw [List.mem_filter, h v, Option.filter_eq_some_iff]
  | skip => exact h v

/-- Over a run each key is a slot of its own. -/
theorem mem_foldl_iff {o : Option ν} (h : ∀ v, (k, v) ∈ held ↔ o = some v) (ops : List (Op κ ν))
    (v : ν) : (k, v) ∈ ops.foldl step held ↔ ops.foldl (slot k) o = some v := by
  induction ops generalizing held o with
  | nil => exact h v
  | cons op ops ih => exact ih (mem_step_iff h op)

/-- A value that a key holds was taken up under it. -/
theorem take_mem_of_mem_foldl {ops : List (Op κ ν)} (h : (k, v) ∈ ops.foldl step held) :
    (k, v) ∈ held ∨ .take k v ∈ ops := by
  induction ops generalizing held with
  | nil => exact .inl h
  | cons op ops ih =>
    rcases ih h with hmem | hmem
    · cases op with
      | take k' v' =>
        rcases mem_take_iff.1 hmem with hmem | ⟨-, rfl, rfl⟩
        · exact .inl hmem
        · exact .inr List.mem_cons_self
      | release v' => exact .inl (List.mem_filter.1 hmem).1
      | skip => exact .inl hmem
    · exact .inr (List.mem_cons_of_mem op hmem)

end Slots
