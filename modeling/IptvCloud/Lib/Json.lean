import Mathlib.Logic.Basic
import IptvCloud.Lib.Stdio

/-!
# JSON values of json-c

The values of the C library json-c and the accessors that decoders use. A JSON null is the null
pointer, which is also what the parser returns for a text that is no JSON. The accessors convert a
value of another type than the one asked for (`Coercions`), except where the library leaves the call
undefined: `Failure` names the two misuses a decoder can commit, next to an error that it returns.
`isDefined` says that neither is committed; `collect` is the loop over an array that skips the
elements whose decoding fails.
-/

namespace JsonC

/-- A `json_object *`; a double is given by its bits. -/
inductive Json
  | null
  | bool (b : Bool)
  | int (n : Int64)
  | double (bits : BitVec 64)
  | string (s : String)
  | array (elems : List Json)
  | object (fields : List (String × Json))

/-- What json-c makes of a value of another type than the one asked for. -/
structure Coercions where
  text : Json → String
  intOfDouble : BitVec 64 → Int64
  intOfText : String → Int64
  doubleOfInt : Int64 → BitVec 64
  doubleOfText : String → BitVec 64

/-- Why a decoder does not return a value: it returns an error, or it makes a `std::string` of a
null pointer, or it asks for the length of something that is no array. -/
inductive Failure (ε : Type)
  | refused (err : ε)
  | nullString
  | notArray

variable {ε α β : Type}

/-- `json_object_object_get_ex`. -/
def Json.getEx (j : Json) (key : String) : Option Json :=
  match j with
  | .object fields => fields.lookup key
  | _ => none

/-- A string up to its first NUL, as a `const char *` is read. -/
def cstring (s : String) : String := String.ofList (Stdio.cstr s.toList)

/-- `json_object_new_string` of a `c_str()`. -/
def Json.newString (s : String) : Json := .string (cstring s)

/-- `json_object_get_string`; `none` is the null pointer. -/
def Json.getString (co : Coercions) : Json → Option String
  | .null => none
  | .string s => some (cstring s)
  | j => some (co.text j)

/-- The result of `json_object_get_string` as a `std::string`. -/
def Json.toStdString (co : Coercions) (j : Json) : Except (Failure ε) String :=
  match j.getString co with
  | some s => .ok s
  | none => .error .nullString

/-- `json_object_get_int64`. -/
def Json.getInt64 (co : Coercions) : Json → Int64
  | .null | .array _ | .object _ => 0
  | .bool b => if b then 1 else 0
  | .int n => n
  | .double bits => co.intOfDouble bits
  | .string s => co.intOfText s

/-- `json_object_get_int`: the nearest `int`. -/
def Json.getInt (co : Coercions) (j : Json) : Int64 :=
  let n := j.getInt64 co
  if n ≤ -2147483648 then -2147483648 else if 2147483647 ≤ n then 2147483647 else n

/-- `json_object_get_double`. -/
def Json.getDouble (co : Coercions) : Json → BitVec 64
  | .null | .array _ | .object _ => 0
  | .bool b => co.doubleOfInt (if b then 1 else 0)
  | .int n => co.doubleOfInt n
  | .double bits => bits
  | .string s => co.doubleOfText s

/-- The elements that `json_object_array_length` and `json_object_array_get_idx` give. -/
def Json.elements : Json → Except (Failure ε) (List Json)
  | .array elems => .ok elems
  | _ => .error .notArray

/-- A loop that keeps what is decoded and skips what is refused. -/
def collect (read : α → Except (Failure ε) β) : List α → Except (Failure ε) (List β)
  | [] => .ok []
  | a :: l =>
    match read a with
    | .ok b => (collect read l).map (b :: ·)
    | .error (.refused _) => collect read l
    | .error failure => .error failure

/-- A value or an error was returned. -/
def isDefined : Except (Failure ε) α → Bool
  | .ok _ | .error (.refused _) => true
  | .error .nullString | .error .notArray => false

/-! ## Rules -/

@[simp] theorem isDefined_ok (a : α) : isDefined (.ok a : Except (Failure ε) α) = true := rfl

@[simp] theorem isDefined_pure (a : α) : isDefined (pure a : Except (Failure ε) α) = true := rfl

@[simp] theorem isDefined_refused (err : ε) :
    isDefined (.error (.refused err) : Except (Failure ε) α) = true := rfl

theorem isDefined_bind (x : Except (Failure ε) α) (f : α → Except (Failure ε) β) :
    isDefined (x >>= f) = true ↔ isDefined x = true ∧ ∀ a, x = .ok a → isDefined (f a) = true := by
  cases x with
  | ok a => simp [bind, Except.bind]
  | error failure => cases failure <;> simp [bind, Except.bind, isDefined]

@[simp] theorem isDefined_map (f : α → β) (x : Except (Failure ε) α) :
    isDefined (x.map f) = isDefined x := by
  cases x with
  | ok a => rfl
  | error failure => cases failure <;> rfl

@[simp] theorem isDefined_toStdString (co : Coercions) (j : Json) :
    isDefined (j.toStdString co : Except (Failure ε) String) = true ↔ j ≠ .null := by
  cases j <;> simp [Json.toStdString, Json.getString, isDefined]

@[simp] theorem isDefined_elements (j : Json) :
    isDefined (j.elements : Except (Failure ε) (List Json)) = true ↔ ∃ elems, j = .array elems := by
  cases j <;> simp [Json.elements, isDefined]

theorem isDefined_collect (read : α → Except (Failure ε) β) (l : List α) :
    isDefined (collect read l) = true ↔ ∀ a ∈ l, isDefined (read a) = true := by
  induction l with
  | nil => simp [collect]
  | cons a l ih =>
    rw [List.forall_mem_cons, ← ih, collect]
    split
    · rename_i b h
      simp [h]
    · rename_i err h
      simp [h]
    · rename_i failure hne h
      cases failure with
      | refused err => exact absurd rfl (hne err)
      | nullString | notArray => simp [h, isDefined]

/-- The loop itself refuses nothing. -/
theorem collect_of_isDefined {read : α → Except (Failure ε) β} {l : List α}
    (h : isDefined (collect read l) = true) : ∃ bs, collect read l = .ok bs := by
  induction l with
  | nil => exact ⟨[], rfl⟩
  | cons a l ih =>
    rw [collect] at h ⊢
    split at h
    · obtain ⟨bs, hbs⟩ := ih (by simpa using h)
      exact ⟨_, by rw [hbs]; rfl⟩
    · exact ih h
    · rename_i failure hne _
      cases failure with
      | refused err => exact absurd rfl (hne err)
      | nullString | notArray => cases h

/-- An array whose elements all decode. -/
theorem collect_map {γ : Type} {read : α → Except (Failure ε) β} {g : γ → α} {f : γ → β}
    {l : List γ} (h : ∀ c ∈ l, read (g c) = .ok (f c)) :
    collect read (l.map g) = .ok (l.map f) := by
  induction l with
  | nil => rfl
  | cons c l ih =>
    obtain ⟨hc, hl⟩ := List.forall_mem_cons.1 h
    rw [List.map_cons, List.map_cons, collect, hc, ih hl]
    rfl

end JsonC
