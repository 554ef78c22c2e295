import Mathlib.Data.List.Nodup
import IptvCloud.Lib.Json

/-!
# Decoders of encoded objects

`Reads decode fields a` says that a decoder gives `a` for every value that has the fields, whatever
else it has. Decoders are put together by `Reads.bind`; a decoder that reads the fields of an object
with distinct keys decodes the object (`Reads.object`), also one to which a derived class has added
its own fields (`Reads.mono`).
-/

namespace JsonC

variable {ε α β : Type} {decode : Json → Except (Failure ε) α}
  {fields fields' : List (String × Json)}
  {a : α} {key : String} {v : Json}

/-- The value has the fields. -/
def Json.Has (j : Json) (fields : List (String × Json)) : Prop :=
  ∀ f ∈ fields, j.getEx f.1 = some f.2

/-- The decoder reads `a` off the fields. -/
def Reads (decode : Json → Except (Failure ε) α) (fields : List (String × Json)) (a : α) : Prop :=
  ∀ j : Json, j.Has fields → decode j = .ok a

theorem lookup_of_mem (hkeys : (fields.map (·.1)).Nodup) (h : (key, v) ∈ fields) :
    fields.lookup key = some v := by
  induction fields with
  | nil => cases h
  | cons f fields ih =>
    obtain ⟨key', v'⟩ := f
    rw [List.map_cons, List.nodup_cons] at hkeys
    rcases List.mem_cons.1 h with heq | h
    · cases heq
      simp
    · have hne : key ≠ key' := fun heq => hkeys.1 (List.mem_map.2 ⟨(key, v), h, heq⟩)
      rw [List.lookup_cons, beq_eq_false_iff_ne.2 hne]
      exact ih hkeys.2 h

theorem has_object (hkeys : (fields.map (·.1)).Nodup) : (Json.object fields).Has fields :=
  fun _ hf => lookup_of_mem hkeys hf

theorem Reads.mono (h : Reads decode fields a) (hsub : fields ⊆ fields') : Reads decode fields' a :=
  fun j hj => h j fun f hf => hj f (hsub hf)

theorem Reads.object (h : Reads decode fields a) (hkeys : (fields.map (·.1)).Nodup) :
    decode (.object fields) = .ok a := h _ (has_object hkeys)

theorem Reads.pure (a : α) : Reads (fun _ => (.ok a : Except (Failure ε) α)) fields a :=
  fun _ _ => rfl

theorem Reads.bind {next : α → Json → Except (Failure ε) β} {b : β} (h : Reads decode fields a)
    (hnext : Reads (next a) fields b) : Reads (fun j => decode j >>= fun a => next a j) fields b :=
  fun j hj => by
    show (decode j >>= fun a => next a j) = .ok b
    rw [h j hj]
    exact hnext j hj

/-- One field. -/
theorem Reads.field (hmem : (key, v) ∈ fields) (h : ∀ j, j.getEx key = some v → decode j = .ok a) :
    Reads decode fields a := fun j hj => h j (hj _ hmem)

end JsonC
