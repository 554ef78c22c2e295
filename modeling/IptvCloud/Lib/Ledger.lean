import Mathlib.Data.Finset.Basic
import Mathlib.Data.List.Perm.Basic

/-!
# Ledgers of resources

`Holds base held all` says that the resources that are out, `all`, are those that were out from the
beginning, `base`, and those that are held, each of which is held once. Resources that are taken are
new ones, and resources that are given back are held ones; the order of the holders does not matter.
-/

namespace Ledger

variable {ρ : Type*}

/-- Each resource that is out is one of the base or is held once. -/
structure Holds (base : Finset ρ) (held : List ρ) (all : Finset ρ) : Prop where
  nodup : held.Nodup
  apart : ∀ r ∈ held, r ∉ base
  mem : ∀ r, r ∈ all ↔ r ∈ base ∨ r ∈ held

variable {base all all' : Finset ρ} {held held' : List ρ}

theorem Holds.nil (base : Finset ρ) : Holds base [] base := ⟨.nil, by simp, by simp⟩

theorem Holds.perm (h : Holds base held all) (hperm : held.Perm held') : Holds base held' all :=
  ⟨hperm.nodup_iff.1 h.nodup, fun r hr => h.apart r (hperm.mem_iff.2 hr),
    fun r => by rw [h.mem, hperm.mem_iff]⟩

/-- New resources are taken. -/
theorem Holds.take (h : Holds base held all) (new : List ρ) (hperm : held'.Perm (new ++ held))
    (hnodup : new.Nodup) (hnew : ∀ r ∈ new, r ∉ all) (hall : ∀ r, r ∈ all' ↔ r ∈ new ∨ r ∈ all) :
    Holds base held' all' := by
  suffices htaken : Holds base (new ++ held) all' from htaken.perm hperm.symm
  refine ⟨?_, fun r hr => ?_, fun r => ?_⟩
  · refine List.nodup_append.2 ⟨hnodup, h.nodup, fun r hr r' hr' heq => ?_⟩
    subst heq
    exact hnew r hr ((h.mem r).2 (.inr hr'))
  · rcases List.mem_append.1 hr with hr | hr
    · exact fun hbase => hnew r hr ((h.mem r).2 (.inl hbase))
    · exact h.apart r hr
  · rw [hall, h.mem, List.mem_append]
    tauto

/-- Resources that are held are given back. -/
theorem Holds.give (h : Holds base held all) (gone : List ρ) (hperm : held.Perm (gone ++ held'))
    (hall : ∀ r, r ∈ all' ↔ r ∈ all ∧ r ∉ gone) : Holds base held' all' := by
  have hgone := h.perm hperm
  obtain ⟨-, hnodup, hdisj⟩ := List.nodup_append.1 hgone.nodup
  refine ⟨hnodup, fun r hr => hgone.apart r (List.mem_append_right _ hr), fun r => ?_⟩
  have hbase : r ∈ base → r ∉ gone := fun hbase hr =>
    hgone.apart r (List.mem_append_left _ hr) hbase
  have hheld : r ∈ held' → r ∉ gone := fun hheld hr => hdisj r hr r hheld rfl
  rw [hall, hgone.mem, List.mem_append]
  tauto

/-- What is held is out. -/
theorem Holds.out (h : Holds base held all) {r : ρ} (hr : r ∈ held) : r ∈ all :=
  (h.mem r).2 (.inr hr)

end Ledger
