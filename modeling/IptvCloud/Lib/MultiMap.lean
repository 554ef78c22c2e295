import Mathlib.Data.List.AList

/-!
# Maps from keys to lists of values

An associative container of lists: a value is pushed at the end of the list of its key, the first
occurrence of a value is erased, and a key whose list becomes empty is removed. `values` reads an
absent key as the empty list; the two lemmas about it determine both operations.
-/

/-- A map from keys to lists of values. -/
abbrev MultiMap (α β : Type*) := AList fun _ : α => List β

namespace MultiMap

variable {α β : Type*} [DecidableEq α]

/-- The values of a key. -/
def values (m : MultiMap α β) (k : α) : List β := (m.lookup k).getD []

/-- Push a value at the end of the list of a key. -/
def push (m : MultiMap α β) (k : α) (v : β) : MultiMap α β := m.insert k (values m k ++ [v])

theorem values_push (m : MultiMap α β) (k k' : α) (v : β) :
    values (push m k v) k' = if k' = k then values m k ++ [v] else values m k' := by
  unfold push
  split
  · rename_i h
    rw [h, values, AList.lookup_insert, Option.getD_some]
  · rename_i h
    rw [values, AList.lookup_insert_ne h, values]

variable [DecidableEq β]

/-- Erase the first occurrence of a value from the list of a key. -/
def eraseFirst (m : MultiMap α β) (k : α) (v : β) : MultiMap α β :=
  match m.lookup k with
  | none => m
  | some vs => if (vs.erase v).isEmpty then m.erase k else m.insert k (vs.erase v)

theorem values_eraseFirst (m : MultiMap α β) (k k' : α) (v : β) :
    values (eraseFirst m k v) k' = if k' = k then (values m k).erase v else values m k' := by
  unfold eraseFirst
  split
  · rename_i hm
    split
    · rename_i h
      rw [h, values, hm, Option.getD_none, List.erase_nil]
    · rfl
  · rename_i vs hm
    have hk : values m k = vs := by rw [values, hm, Option.getD_some]
    rw [hk]
    by_cases h : k' = k
    · subst h
      rw [if_pos rfl]
      split
      · rename_i he
        rw [values, AList.lookup_erase, Option.getD_none, List.isEmpty_iff.1 he]
      · rw [values, AList.lookup_insert, Option.getD_some]
    · rw [if_neg h]
      split
      · rw [values, AList.lookup_erase_ne h, values]
      · rw [values, AList.lookup_insert_ne h, values]

theorem count_push (m : MultiMap α β) (k k' : α) (v v' : β) :
    (values (push m k v) k').count v' =
      (values m k').count v' + if k' = k ∧ v' = v then 1 else 0 := by
  rw [values_push]
  by_cases h : k' = k
  · subst h
    by_cases hv : v' = v
    · subst hv
      simp
    · simp [hv, List.count_eq_zero]
  · simp [h]

theorem count_eraseFirst (m : MultiMap α β) (k k' : α) (v v' : β) :
    (values (eraseFirst m k v) k').count v' =
      (values m k').count v' - if k' = k ∧ v' = v then 1 else 0 := by
  rw [values_eraseFirst]
  by_cases h : k' = k
  · subst h
    by_cases hv : v' = v
    · subst hv
      simp
    · simp [hv, List.count_erase_of_ne hv]
  · simp [h]

end MultiMap
