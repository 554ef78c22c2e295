import Mathlib.Data.List.DropRight

/-!
# Reading a text file line by line

`fgetsLines n text` are the strings that successive calls of `fgets(buf, n, file)` read from a file
positioned at `text`: up to `n - 1` characters each, a newline included. A `Clean` line (no white
space, no NUL, short enough for the buffer) is read back as it was written.
-/

namespace Stdio

/-- `isspace` of the C locale. -/
def isspace (c : Char) : Bool :=
  c == ' ' || c == '\t' || c == '\n' || c == '\x0b' || c == '\x0c' || c == '\r'

theorem isspace_of_isDigit {c : Char} (h : c.isDigit = true) : isspace c = false := by
  have hne : ∀ d : Char, d.isDigit = false → c ≠ d := by
    rintro d hd rfl
    rw [h] at hd
    cases hd
  simp [isspace, hne]

/-- The string at a buffer: up to the first NUL. -/
def cstr (buf : List Char) : List Char := buf.takeWhile (· != '\x00')

/-- `fgetsLines` in the middle of a line: the characters read so far, last first, and the room
left in the buffer. -/
def fgetsLines.go (n : Nat) : List Char → Nat → List Char → List (List Char)
  | acc, _, [] => if acc.isEmpty then [] else [acc.reverse]
  | acc, room, c :: cs =>
    if c = '\n' ∨ room ≤ 1 then (c :: acc).reverse :: go n [] (n - 1) cs
    else go n (c :: acc) (room - 1) cs

/-- The strings `fgets(buf, n, file)` reads one after the other. -/
def fgetsLines (n : Nat) (text : List Char) : List (List Char) := fgetsLines.go n [] (n - 1) text

/-- A line that `fgets` with a buffer of `n` characters reads whole, without white space. -/
structure Clean (n : Nat) (l : List Char) : Prop where
  ne_nil : l ≠ []
  not_space : ∀ c ∈ l, isspace c = false
  not_nul : '\x00' ∉ l
  short : l.length + 2 ≤ n

variable {n : Nat} {l : List Char}

theorem Clean.not_newline (h : Clean n l) : '\n' ∉ l := fun hm => by
  have := h.not_space _ hm
  revert this
  decide

theorem fgetsLines.go_append (rest acc : List Char) {l : List Char} {room : Nat} (hn : '\n' ∉ l)
    (hr : l.length < room) :
    go n acc room (l ++ rest) = go n (l.reverse ++ acc) (room - l.length) rest := by
  induction l generalizing acc room with
  | nil => rfl
  | cons c l ih =>
    rw [List.mem_cons, not_or] at hn
    simp only [List.length_cons] at hr
    have hc : ¬ (c = '\n' ∨ room ≤ 1) := fun h => h.elim (fun h => hn.1 h.symm) (by omega)
    rw [List.cons_append, go, if_neg hc, ih _ hn.2 (by omega), List.reverse_cons,
      List.append_assoc, List.singleton_append, List.length_cons]
    congr 1
    omega

/-- A line and its newline are read by one call. -/
theorem fgetsLines_line (hn : '\n' ∉ l) (hs : l.length + 2 ≤ n) (rest : List Char) :
    fgetsLines n (l ++ '\n' :: rest) = (l ++ ['\n']) :: fgetsLines n rest := by
  rw [fgetsLines, fgetsLines.go_append _ _ hn (by omega), fgetsLines.go, if_pos (.inl rfl)]
  simp [fgetsLines]

/-- A last line without a newline. -/
theorem fgetsLines_last (h : Clean n l) : fgetsLines n l = [l] := by
  have hs := h.short
  have hgo := fgetsLines.go_append (n := n) [] [] h.not_newline
    (show l.length < n - 1 by omega)
  rw [List.append_nil] at hgo
  rw [fgetsLines, hgo, fgetsLines.go]
  simp [h.ne_nil]

/-- No call reads on behind a newline. -/
theorem fgetsLines_append_newline (n : Nat) (l rest : List Char) :
    fgetsLines n (l ++ '\n' :: rest) = fgetsLines n (l ++ ['\n']) ++ fgetsLines n rest := by
  suffices h : ∀ acc room, fgetsLines.go n acc room (l ++ '\n' :: rest) =
      fgetsLines.go n acc room (l ++ ['\n']) ++ fgetsLines n rest from h [] (n - 1)
  induction l with
  | nil =>
    intro acc room
    rw [List.nil_append, List.nil_append, fgetsLines.go, fgetsLines.go, if_pos (.inl rfl),
      if_pos (.inl rfl), fgetsLines.go]
    rfl
  | cons c l ih =>
    intro acc room
    rw [List.cons_append, List.cons_append, fgetsLines.go, fgetsLines.go]
    split
    · rw [ih, List.cons_append]
    · exact ih _ _

/-- The calls read the whole text. -/
theorem fgetsLines_flatten (n : Nat) (text : List Char) : (fgetsLines n text).flatten = text := by
  suffices h : ∀ acc room, (fgetsLines.go n acc room text).flatten = acc.reverse ++ text by
    simpa [fgetsLines] using h [] (n - 1)
  induction text with
  | nil =>
    intro acc room
    rw [fgetsLines.go]
    cases acc <;> simp
  | cons c text ih =>
    intro acc room
    rw [fgetsLines.go]
    split <;> simp [ih]

theorem fgetsLines_newline (n : Nat) (rest : List Char) :
    fgetsLines n ('\n' :: rest) = ['\n'] :: fgetsLines n rest := by
  rw [fgetsLines, fgetsLines.go, if_pos (.inl rfl)]
  rfl

theorem cstr_append_newline (h : '\x00' ∉ l) : cstr (l ++ ['\n']) = l ++ ['\n'] := by
  refine List.takeWhile_eq_self_iff.2 fun c hc => ?_
  rcases List.mem_append.1 hc with hc | hc
  · simpa using fun he : c = '\x00' => h (he ▸ hc)
  · rw [List.mem_singleton.1 hc]; decide

theorem cstr_self (h : '\x00' ∉ l) : cstr l = l :=
  List.takeWhile_eq_self_iff.2 fun c hc => by simpa using fun he : c = '\x00' => h (he ▸ hc)

/-- The trailing white space of a clean line is its newline. -/
theorem Clean.rdropWhile_newline (h : Clean n l) : (l ++ ['\n']).rdropWhile isspace = l := by
  rw [List.rdropWhile_concat_pos _ _ _ (by decide)]
  exact List.rdropWhile_eq_self_iff.2 fun hl => by simp [h.not_space _ (List.getLast_mem hl)]

theorem Clean.rdropWhile_self (h : Clean n l) : l.rdropWhile isspace = l :=
  List.rdropWhile_eq_self_iff.2 fun hl => by simp [h.not_space _ (List.getLast_mem hl)]

end Stdio
