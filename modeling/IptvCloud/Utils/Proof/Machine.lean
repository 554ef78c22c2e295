import Mathlib.Algebra.Order.BigOperators.Group.List
import Mathlib.Algebra.Order.Field.Basic
import Mathlib.Tactic.Linarith
import Mathlib.Tactic.Ring
import IptvCloud.Utils.Machine

/-!
# The counters of well-formed files

What the machine's counters are read as from a cpu line of `/proc/stat` (`getMachineCpuShot_line`)
and from the interfaces of `/proc/net/dev` (`getMachineNetShot_text`), whatever the variables held
before. The time a processor waits for its disks is not stored, so that the load is right when this
time has stood still or nothing was busy (`load_iff`); and an interface is taken for the loopback
when its name begins like it (`netShot_iff`).
-/

namespace IptvCloud.Machine

open Stdio Scanf Printf

theorem length_digits_le {n : Nat} (h : n < 10 ^ 16) : (digits n).length ≤ 16 :=
  (Nat.length_toDigits_le_iff (by decide) (by decide)).2 h

/-! ## A cpu line -/

/-- The counters of a cpu line: the kernel prints the first four to ten of user, nice, system, idle,
iowait, irq, softirq, steal, guest and guest_nice. -/
structure CpuLine where
  fields : List Nat
  four_le : 4 ≤ fields.length
  le_ten : fields.length ≤ 10
  lt : ∀ f ∈ fields, f < 10 ^ 16

namespace CpuLine

/-- The line as the kernel prints it. -/
def text (l : CpuLine) : Text := "cpu ".toList ++ fieldsText (l.fields.map fun n => ([' '], n))

/-- A counter; one that is not printed is zero. -/
def field (l : CpuLine) (i : Nat) : Nat := l.fields.getD i 0

def user (l : CpuLine) : Int := l.field 0 - l.field 8
def nice (l : CpuLine) : Int := l.field 1 - l.field 9
def system (l : CpuLine) : Int := l.field 2
def idle (l : CpuLine) : Int := l.field 3
def iowait (l : CpuLine) : Int := l.field 4
def irq (l : CpuLine) : Int := l.field 5
def softirq (l : CpuLine) : Int := l.field 6
def steal (l : CpuLine) : Int := l.field 7

/-- The time a processor was busy. -/
def busy (l : CpuLine) : Int := l.user + l.nice + l.system + l.irq + l.softirq + l.steal

def total (l : CpuLine) : Int := l.busy + (l.idle + l.iowait)

theorem field_lt (l : CpuLine) (i : Nat) : l.field i < 10 ^ 16 := by
  rw [field, List.getD_eq_getElem?_getD]
  cases h : l.fields[i]? with
  | none => decide
  | some f => exact l.lt f (List.mem_of_getElem? h)

theorem isField (l : CpuLine) : ∀ f ∈ l.fields.map fun n => ([' '], n), IsField 16 f := by
  intro f hf
  obtain ⟨n, hn, rfl⟩ := List.mem_map.1 hf
  have hlt := l.lt n hn
  exact ⟨List.cons_ne_nil _ _, List.forall_mem_singleton.2 (by decide), length_digits_le hlt,
    by dsimp only; omega⟩

theorem length_fieldsText_le {fields : List Nat} (h : ∀ f ∈ fields, f < 10 ^ 16) :
    (fieldsText (fields.map fun n => ([' '], n))).length ≤ 17 * fields.length := by
  induction fields with
  | nil => exact Nat.le_refl 0
  | cons n fields ih =>
    obtain ⟨hn, h⟩ := List.forall_mem_cons.1 h
    have hrest := ih h
    have hdigits := length_digits_le hn
    simp only [fieldsText, List.map_cons, List.flatMap_cons, List.length_append, List.length_cons,
      List.length_nil] at hrest ⊢
    omega

/-- The line is read by one call of `fgets`. -/
theorem length_text (l : CpuLine) : l.text.length + 2 ≤ 255 := by
  have hfields := length_fieldsText_le l.lt
  have hten := l.le_ten
  have hcpu : "cpu ".toList.length = 4 := by decide
  rw [text, List.length_append]
  omega

theorem notMem_text (l : CpuLine) {c : Char} (hcpu : c ∉ "cpu ".toList) (hd : c.isDigit = false) :
    c ∉ l.text := by
  intro hm
  rcases List.mem_append.1 hm with hm | hm
  · exact hcpu hm
  rcases mem_fieldsText hm with ⟨f, hf, hc⟩ | hc
  · obtain ⟨n, -, rfl⟩ := List.mem_map.1 hf
    rw [List.mem_singleton.1 hc] at hcpu
    exact hcpu (by decide)
  · rw [hd] at hc
    cases hc

/-- The values that the conversions assign. -/
theorem scan_text (l : CpuLine) : scan cpuFormat (l.text ++ ['\n']) = l.fields.map .number := by
  obtain ⟨k, hk⟩ := Nat.exists_eq_add_of_le l.le_ten
  have hnewline : EndsNumber ['\n'] := endsNumber_of_isspace (by decide)
  have hnumbers := scan_numbers l.isField hnewline k
  have hend : scan (numbers 16 k) ['\n'] = [] :=
    scan_numbers_blanks (List.forall_mem_singleton.2 (by decide)) k
  rw [List.length_map, ← hk, hend, List.append_nil, List.map_map] at hnumbers
  have htext : l.text ++ ['\n'] = 'c' :: 'p' :: 'u' ::
      ([' '] ++ (fieldsText (l.fields.map fun n => ([' '], n)) ++ ['\n'])) := by
    have hcpu : "cpu ".toList = ['c', 'p', 'u', ' '] := by decide
    rw [text, hcpu]
    rfl
  have hformat : scan cpuFormat (l.text ++ ['\n']) = scan (.blank :: numbers 16 10)
      ([' '] ++ (fieldsText (l.fields.map fun n => ([' '], n)) ++ ['\n'])) := by
    rw [htext]
    rfl
  have hblank : ∀ c ∈ [' '], isspace c = true := List.forall_mem_singleton.2 (by decide)
  rw [hformat, scan_blank_numbers, scan_numbers_blanks_append hblank, hnumbers]
  rfl

/-- What `GetMachineCpuShot` makes of the line. -/
def shot (l : CpuLine) : CpuShot where
  user := .ofNat (l.field 0) - .ofNat (l.field 8)
  nice := .ofNat (l.field 1) - .ofNat (l.field 9)
  system := .ofNat (l.field 2)
  idle := .ofNat (l.field 3)
  irq := .ofNat (l.field 5)
  softirq := .ofNat (l.field 6)
  steal := .ofNat (l.field 7)
  guest := .ofNat (l.field 8)
  guestNice := .ofNat (l.field 9)

end CpuLine

theorem number_map (fields : List Nat) (i : Nat) (old : UInt64) :
    number (fields.map .number) i old = (fields[i]?.map .ofNat).getD old := by
  rw [number, List.getElem?_map]
  cases fields[i]? <;> rfl

/-- A variable that is zero, or whose counter is printed. -/
theorem number_field (l : CpuLine) {i : Nat} {old : UInt64} (h : i < 4 ∨ old = 0) :
    number (l.fields.map .number) i old = .ofNat (l.field i) := by
  rw [number_map, CpuLine.field, List.getD_eq_getElem?_getD]
  cases hi : l.fields[i]? with
  | some f => rfl
  | none =>
    have hlen := List.getElem?_eq_none_iff.1 hi
    have hfour := l.four_le
    rcases h with h | rfl
    · omega
    · rfl

theorem getMachineCpuShot_line (l : CpuLine) (vars : CpuVars) (rest : Text) :
    getMachineCpuShot vars (some (l.text ++ '\n' :: rest)) = l.shot := by
  have hnewline : '\n' ∉ l.text := l.notMem_text (by decide) (by decide)
  have hnul : '\x00' ∉ l.text := l.notMem_text (by decide) (by decide)
  have hline := fgetsLines_line hnewline l.length_text rest
  have hcstr := cstr_append_newline hnul
  simp only [getMachineCpuShot, hline, List.head?_cons, Option.getD_some, hcstr, l.scan_text,
    number_field l (.inl (show 0 < 4 by decide)), number_field l (.inl (show 1 < 4 by decide)),
    number_field l (.inl (show 2 < 4 by decide)), number_field l (.inl (show 3 < 4 by decide)),
    number_field l (.inr rfl), CpuLine.shot]

/-! ## The load -/

/-- No time runs back from `l` to `l'`, and some time passes. -/
structure Advances (l l' : CpuLine) : Prop where
  user : l.user ≤ l'.user
  nice : l.nice ≤ l'.nice
  system : l.system ≤ l'.system
  idle : l.idle ≤ l'.idle
  iowait : l.iowait ≤ l'.iowait
  irq : l.irq ≤ l'.irq
  softirq : l.softirq ≤ l'.softirq
  steal : l.steal ≤ l'.steal
  total : l.total < l'.total

/-- The load is one less the part of the time that the processor was idle or waited. -/
def IsLoad (l l' : CpuLine) (load : Option ℚ) : Prop :=
  ∃ q, load = some q ∧
    q = 1 - (((l'.idle - l.idle) + (l'.iowait - l.iowait) : Int) : ℚ) /
      ((l'.total - l.total : Int) : ℚ) ∧
    0 ≤ q ∧ q ≤ 1

theorem toNat_idle (l : CpuLine) : ((l.shot.idle + l.shot.iowait).toNat : Int) = l.idle := by
  have := l.field_lt 3
  simp only [CpuLine.shot, CpuLine.idle, UInt64.toNat_add, UInt64.toNat_ofNat']
  show (((l.field 3) % 2 ^ 64 + 0) % 2 ^ 64 : Nat) = ((l.field 3 : Nat) : Int)
  omega

theorem toNat_nonIdle (l : CpuLine) :
    ((l.shot.user + l.shot.nice + l.shot.system + l.shot.irq + l.shot.softirq +
      l.shot.steal).toNat : Int) = l.busy % 2 ^ 64 := by
  simp only [CpuLine.shot, CpuLine.busy, CpuLine.user, CpuLine.nice, CpuLine.system, CpuLine.irq,
    CpuLine.softirq, CpuLine.steal, UInt64.toNat_add, UInt64.toNat_sub, UInt64.toNat_ofNat']
  omega

theorem busy_le {l l' : CpuLine} (h : Advances l l') : l.busy ≤ l'.busy := by
  have h1 := h.user
  have h2 := h.nice
  have h3 := h.system
  have h4 := h.irq
  have h5 := h.softirq
  have h6 := h.steal
  simp only [CpuLine.busy]
  omega

theorem busy_lt (l : CpuLine) : -2 ^ 56 < l.busy ∧ l.busy < 2 ^ 57 := by
  have h := l.field_lt
  have h0 := h 0
  have h1 := h 1
  have h2 := h 2
  have h5 := h 5
  have h6 := h 6
  have h7 := h 7
  have h8 := h 8
  have h9 := h 9
  simp only [CpuLine.busy, CpuLine.user, CpuLine.nice, CpuLine.system, CpuLine.irq,
    CpuLine.softirq, CpuLine.steal]
  omega

/-- The load that is computed leaves the waiting time out of the total. -/
theorem load_shot {l l' : CpuLine} (h : Advances l l') : getCpuMachineLoad l.shot l'.shot =
    if l'.busy - l.busy + (l'.idle - l.idle) = 0 then none
    else some (((l'.busy - l.busy : Int) : ℚ) /
      ((l'.busy - l.busy + (l'.idle - l.idle) : Int) : ℚ)) := by
  have hidle := h.idle
  have hbusy := busy_le h
  have hb := busy_lt l
  have hb' := busy_lt l'
  have hi : 0 ≤ l.idle ∧ l'.idle < 10 ^ 16 := by
    have := l'.field_lt 3
    simp only [CpuLine.idle]
    omega
  -- the counters of the two shots, modulo the size of the type
  have hI := toNat_idle l
  have hI' := toNat_idle l'
  have hN := toNat_nonIdle l
  have hN' := toNat_nonIdle l'
  simp only [getCpuMachineLoad]
  generalize l.shot.idle + l.shot.iowait = prevIdle at hI ⊢
  generalize l'.shot.idle + l'.shot.iowait = idle at hI' ⊢
  generalize l.shot.user + l.shot.nice + l.shot.system + l.shot.irq + l.shot.softirq +
    l.shot.steal = prevNonIdle at hN ⊢
  generalize l'.shot.user + l'.shot.nice + l'.shot.system + l'.shot.irq + l'.shot.softirq +
    l'.shot.steal = nonIdle at hN' ⊢
  have htotal : ((idle + nonIdle - (prevIdle + prevNonIdle)).toNat : Int) =
      l'.busy - l.busy + (l'.idle - l.idle) := by
    simp only [UInt64.toNat_sub, UInt64.toNat_add]
    omega
  have hidled : ((idle - prevIdle).toNat : Int) = l'.idle - l.idle := by
    simp only [UInt64.toNat_sub]
    omega
  have htotald : ((idle + nonIdle - (prevIdle + prevNonIdle)).toNat : ℚ) =
      ((l'.busy - l.busy + (l'.idle - l.idle) : Int) : ℚ) := by
    rw [← htotal]
    rfl
  have hidledq : ((idle - prevIdle).toNat : ℚ) = ((l'.idle - l.idle : Int) : ℚ) := by
    rw [← hidled]
    rfl
  rw [htotald, hidledq]
  simp only [Int.cast_eq_zero]
  split
  · rfl
  · congr 2
    push_cast
    ring

/-- A part of the time left out of the total: `b` busy, `i` idle, `w` waiting. -/
theorem fraction_iff {b i w : Int} (hbi : 0 < b + i) (hw : 0 ≤ w) :
    (b : ℚ) / ((b + i : Int) : ℚ) = 1 - ((i + w : Int) : ℚ) / ((b + i + w : Int) : ℚ) ↔
      w = 0 ∨ b = 0 := by
  have hleft : ((b + i : Int) : ℚ) ≠ 0 := by
    rw [Int.cast_ne_zero]
    omega
  have hright : ((b + i + w : Int) : ℚ) ≠ 0 := by
    rw [Int.cast_ne_zero]
    omega
  rw [eq_sub_iff_add_eq, div_add_div _ _ hleft hright, div_eq_one_iff_eq (mul_ne_zero hleft hright)]
  have hcast : (b : ℚ) * ((b + i + w : Int) : ℚ) + ((b + i : Int) : ℚ) * ((i + w : Int) : ℚ) =
      ((b + i : Int) : ℚ) * ((b + i + w : Int) : ℚ) ↔ w * b = 0 := by
    constructor
    · intro he
      have hint : b * (b + i + w) + (b + i) * (i + w) = (b + i) * (b + i + w) := by
        exact_mod_cast he
      linarith
    · intro he
      have hint : b * (b + i + w) + (b + i) * (i + w) = (b + i) * (b + i + w) := by linarith
      exact_mod_cast hint
  rw [hcast, mul_eq_zero]

theorem fraction_mem {b i : Int} (hb : 0 ≤ b) (hi : 0 ≤ i) (hbi : 0 < b + i) :
    0 ≤ (b : ℚ) / ((b + i : Int) : ℚ) ∧ (b : ℚ) / ((b + i : Int) : ℚ) ≤ 1 := by
  have hpos : (0 : ℚ) < ((b + i : Int) : ℚ) := Int.cast_pos.2 hbi
  have hle : (b : ℚ) ≤ ((b + i : Int) : ℚ) := Int.cast_le.2 (by omega)
  exact ⟨div_nonneg (Int.cast_nonneg hb) hpos.le, (div_le_one hpos).2 hle⟩

/-- The load is right when no time was spent waiting, or none busy and some idle. -/
theorem isLoad_iff {l l' : CpuLine} (h : Advances l l') :
    IsLoad l l' (getCpuMachineLoad l.shot l'.shot) ↔
      l'.iowait = l.iowait ∨ l'.busy = l.busy ∧ l.idle < l'.idle := by
  have hidle := h.idle
  have hiowait := h.iowait
  have hbusy := busy_le h
  have htotal := h.total
  rw [load_shot h, IsLoad]
  simp only [CpuLine.total] at htotal ⊢
  split
  · rename_i hzero
    simp only [reduceCtorEq, false_and, exists_false, false_iff]
    omega
  · rename_i hpos
    have hsum : l'.busy + (l'.idle + l'.iowait) - (l.busy + (l.idle + l.iowait)) =
        l'.busy - l.busy + (l'.idle - l.idle) + (l'.iowait - l.iowait) := by omega
    simp only [Option.some.injEq, exists_eq_left', hsum]
    rw [fraction_iff (by omega) (by omega)]
    have hmem := fraction_mem (b := l'.busy - l.busy) (i := l'.idle - l.idle) (by omega) (by omega)
      (by omega)
    simp only [hmem, and_true]
    omega

/-- The load between two cpu lines, whatever follows them. -/
theorem cpuLoad_iff {l l' : CpuLine} (h : Advances l l') (vars vars' : CpuVars)
    (rest rest' : Text) :
    IsLoad l l' (getCpuMachineLoad (getMachineCpuShot vars (some (l.text ++ '\n' :: rest)))
      (getMachineCpuShot vars' (some (l'.text ++ '\n' :: rest')))) ↔
      l'.iowait = l.iowait ∨ l'.busy = l.busy ∧ l.idle < l'.idle := by
  rw [getMachineCpuShot_line, getMachineCpuShot_line]
  exact isLoad_iff h

/-- Half of the time busy or idle, and as much again waiting. -/
def bootLine : CpuLine := ⟨[0, 0, 0, 0, 0], by decide, by decide, by decide⟩

def diskLine : CpuLine := ⟨[1, 0, 0, 1, 2], by decide, by decide, by decide⟩

def busyLine : CpuLine := ⟨[3, 0, 0, 1, 0, 0, 0, 0, 1, 0], by decide, by decide, by decide⟩

def noVars : CpuVars := ⟨[], 0, 0, 0, 0⟩

theorem advances_busyLine : Advances bootLine busyLine :=
  ⟨by decide, by decide, by decide, by decide, by decide, by decide, by decide, by decide,
    by decide⟩

theorem cpuLoad_busyLine :
    IsLoad bootLine busyLine
      (getCpuMachineLoad (getMachineCpuShot noVars (some (bootLine.text ++ '\n' :: [])))
        (getMachineCpuShot noVars (some (busyLine.text ++ '\n' :: [])))) :=
  (cpuLoad_iff advances_busyLine noVars noVars [] []).2 (.inl (by decide))

/-- A quarter of the time was busy, the load is a half. -/
theorem cpuLoad_diskLine :
    Advances bootLine diskLine ∧
    getCpuMachineLoad (getMachineCpuShot noVars (some "cpu  0 0 0 0 0\n".toList))
      (getMachineCpuShot noVars (some "cpu  1 0 0 1 2\n".toList)) = some (1 / 2) ∧
    bootLine.text ++ ['\n'] = "cpu  0 0 0 0 0\n".toList ∧
    diskLine.text ++ ['\n'] = "cpu  1 0 0 1 2\n".toList ∧
    ¬ IsLoad bootLine diskLine (some (1 / 2)) := by
  refine ⟨?_, by decide +kernel, by decide +kernel, by decide +kernel, ?_⟩
  · exact ⟨by decide, by decide, by decide, by decide, by decide, by decide, by decide, by decide,
      by decide⟩
  · rintro ⟨q, hq, he, -⟩
    cases hq
    revert he
    decide +kernel

/-! ## The interfaces -/

/-- A blank inside a line. -/
def isblank (c : Char) : Bool := c == ' ' || c == '\t'

/-- A line of `/proc/net/dev`: a name, a colon and sixteen counters, separated by blanks, in a line
that the buffer of the reader holds. -/
structure Interface where
  lead : Text
  name : Text
  counters : List (Text × Nat)
  lead_blank : ∀ c ∈ lead, isblank c = true
  name_word : ∀ c ∈ name, isspace c = false ∧ c ≠ '\x00'
  name_short : name.length ≤ 100
  sixteen : counters.length = 16
  separated : ∀ f ∈ counters, f.1 ≠ [] ∧ ∀ c ∈ f.1, isblank c = true
  lt : ∀ f ∈ counters, f.2 < 10 ^ 16
  short : (lead ++ (name ++ ':' :: fieldsText counters)).length ≤ 510

namespace Interface

def text (i : Interface) : Text := i.lead ++ (i.name ++ ':' :: fieldsText i.counters)

/-- The bytes received. -/
def recv (i : Interface) : Nat := (i.counters.getD 0 ([], 0)).2

/-- The bytes sent. -/
def sent (i : Interface) : Nat := (i.counters.getD 8 ([], 0)).2

end Interface

theorem isspace_of_isblank {c : Char} (h : isblank c = true) : isspace c = true := by
  simp only [isblank, Bool.or_eq_true, beq_iff_eq] at h
  rcases h with rfl | rfl <;> decide

theorem isblank_ne {c d : Char} (h : isblank c = true) (hd : isblank d = false) : c ≠ d := by
  rintro rfl
  rw [hd] at h
  cases h

namespace Interface

variable (i : Interface)

/-- A character that is neither a blank nor in the name, nor a digit or the colon. -/
theorem notMem_text {c : Char} (hb : isblank c = false) (hn : c ∉ i.name) (hc : c ≠ ':')
    (hd : c.isDigit = false) : c ∉ i.text := by
  intro hm
  rcases List.mem_append.1 hm with hm | hm
  · exact isblank_ne (i.lead_blank c hm) hb rfl
  rcases List.mem_append.1 hm with hm | hm
  · exact hn hm
  rcases List.mem_cons.1 hm with hm | hm
  · exact hc hm
  rcases mem_fieldsText hm with ⟨f, hf, hm⟩ | hm
  · exact isblank_ne ((i.separated f hf).2 c hm) hb rfl
  · rw [hd] at hm
    cases hm

theorem newline_notMem : '\n' ∉ i.text := by
  refine i.notMem_text (by decide) (fun hm => ?_) (by decide) (by decide)
  have := (i.name_word _ hm).1
  revert this
  decide

theorem nul_notMem : '\x00' ∉ i.text :=
  i.notMem_text (by decide) (fun hm => (i.name_word _ hm).2 rfl) (by decide) (by decide)

theorem isField : ∀ f ∈ i.counters, IsField 16 f := fun f hf =>
  ⟨(i.separated f hf).1, fun c hc => isspace_of_isblank ((i.separated f hf).2 c hc),
    length_digits_le (i.lt f hf), Nat.lt_trans (i.lt f hf) (by decide)⟩

/-- The values that the conversions assign. -/
theorem scan_text : scan netFormat (i.text ++ ['\n']) =
    .word (i.name ++ [':']) :: i.counters.map fun f => .number f.2 := by
  have hne : i.counters ≠ [] := by
    intro he
    have := i.sixteen
    rw [he] at this
    cases this
  obtain ⟨f, fields, hcounters⟩ := List.exists_cons_of_ne_nil hne
  obtain ⟨hf, hblank⟩ := i.separated f (hcounters ▸ List.mem_cons_self)
  obtain ⟨c, blanks, hb⟩ := List.exists_cons_of_ne_nil hf
  have hc : isspace c = true := isspace_of_isblank (hblank c (hb ▸ List.mem_cons_self))
  have hhead : ∃ rest, fieldsText i.counters ++ ['\n'] = c :: rest := by
    rw [hcounters, fieldsText, List.flatMap_cons, hb]
    exact ⟨_, rfl⟩
  obtain ⟨rest, hrest⟩ := hhead
  have hword : ∀ c ∈ i.name ++ [':'], isspace c = false := by
    intro c hc
    rcases List.mem_append.1 hc with hc | hc
    · exact (i.name_word c hc).1
    · rw [List.mem_singleton.1 hc]
      decide
  have htext : i.text ++ ['\n'] = i.lead ++ ((i.name ++ [':']) ++ c :: rest) := by
    rw [← hrest]
    simp [text]
  have hlead : ∀ c ∈ i.lead, isspace c = true := fun c hc => isspace_of_isblank (i.lead_blank c hc)
  have hnewline : EndsNumber ['\n'] := endsNumber_of_isspace (by decide)
  have hnumbers := scan_numbers i.isField hnewline 0
  have hempty : scan (numbers 16 0) ['\n'] = [] := rfl
  rw [hempty, i.sixteen, List.append_nil] at hnumbers
  have hformat : netFormat = .word :: .blank :: numbers 16 16 := rfl
  rw [htext, hformat, scan_word hlead (by simp) hword hc, scan_blank_numbers, ← hrest, ← hnumbers]

/-- The test of the source on the name and its colon. -/
theorem take_two : (i.name ++ [':']).take 2 = ['l', 'o'] ↔ ['l', 'o'] <+: i.name := by
  rcases i.name with _ | ⟨c, _ | ⟨d, name⟩⟩
  · simp
  · simp
  · simp [eq_comm]

/-- What the line adds to the totals. -/
theorem addLine_text (old : UInt64 × UInt64) (shot : NetShot) :
    addLine old (i.text ++ ['\n']) shot =
      if ['l', 'o'] <+: i.name then shot
      else ⟨shot.bytesRecv + .ofNat i.recv, shot.bytesSend + .ofNat i.sent⟩ := by
  have hnumber : ∀ k, k < 16 → ∀ old, number (i.counters.map fun f => .number f.2) k old =
      .ofNat (i.counters.getD k ([], 0)).2 := by
    intro k hk old
    have hlt : k < i.counters.length := by
      rw [i.sixteen]
      exact hk
    rw [number, List.getElem?_map, List.getD_eq_getElem?_getD, List.getElem?_eq_getElem hlt]
    rfl
  have hrecv : number (.word (i.name ++ [':']) :: i.counters.map fun f => .number f.2) 1 old.1 =
      .ofNat i.recv := hnumber 0 (by decide) old.1
  have hsent : number (.word (i.name ++ [':']) :: i.counters.map fun f => .number f.2) 9 old.2 =
      .ofNat i.sent := hnumber 8 (by decide) old.2
  have hword : word (.word (i.name ++ [':']) :: i.counters.map fun f => .number f.2) 0 [] =
      i.name ++ [':'] := rfl
  simp only [addLine, cstr_append_newline i.nul_notMem, i.scan_text, hrecv, hsent, hword, ne_eq,
    i.take_two, ite_not]

/-- The field widths of the kernel, which prints `%6s: %7llu %7llu … %10llu`. -/
def widths : List Nat := [7, 7, 4, 4, 4, 5, 10, 9, 8, 7, 4, 4, 4, 5, 7, 10]

/-- A counter aligned to the right of its field. -/
def aligned (width n : Nat) : Text × Nat :=
  (' ' :: List.replicate (width - (digits n).length) ' ', n)

theorem length_aligned_le {width n : Nat} (hw : width ≤ 16) (hn : n < 10 ^ 16) :
    ((aligned width n).1 ++ digits (aligned width n).2).length ≤ 17 := by
  have := length_digits_le hn
  simp only [aligned, List.length_append, List.length_cons, List.length_replicate]
  omega

theorem length_alignedFields_le {ws counters : List Nat} (hw : ∀ w ∈ ws, w ≤ 16)
    (hn : ∀ n ∈ counters, n < 10 ^ 16) :
    (fieldsText (List.zipWith aligned ws counters)).length ≤ 17 * ws.length := by
  induction ws generalizing counters with
  | nil => simp [fieldsText]
  | cons w ws ih =>
    cases counters with
    | nil => simp [fieldsText]
    | cons n counters =>
      obtain ⟨hw0, hw⟩ := List.forall_mem_cons.1 hw
      obtain ⟨hn0, hn⟩ := List.forall_mem_cons.1 hn
      have hrest := ih hw hn
      have hfield := length_aligned_le hw0 hn0
      rw [List.zipWith_cons_cons, fieldsText, List.flatMap_cons, List.length_append,
        List.length_cons, ← fieldsText]
      omega

theorem mem_alignedFields {counters : List Nat} {f : Text × Nat}
    (h : f ∈ List.zipWith aligned widths counters) : ∃ w, ∃ n ∈ counters, f = aligned w n := by
  obtain ⟨k, hk, rfl⟩ := List.getElem_of_mem h
  rw [List.getElem_zipWith]
  exact ⟨_, _, List.getElem_mem _, rfl⟩

/-- The lines that the kernel prints fit the buffer. -/
def printed (name : Text) (counters : List Nat)
    (hname : ∀ c ∈ name, isspace c = false ∧ c ≠ '\x00') (hshort : name.length ≤ 100)
    (hsixteen : counters.length = 16) (hlt : ∀ n ∈ counters, n < 10 ^ 16) : Interface where
  lead := List.replicate (6 - name.length) ' '
  name := name
  counters := List.zipWith aligned widths counters
  lead_blank c hc := by
    rw [(List.mem_replicate.1 hc).2]
    decide
  name_word := hname
  name_short := hshort
  sixteen := by
    rw [List.length_zipWith, hsixteen]
    decide
  separated f hf := by
    obtain ⟨w, n, -, rfl⟩ := mem_alignedFields hf
    refine ⟨List.cons_ne_nil _ _, fun c hc => ?_⟩
    rcases List.mem_cons.1 hc with hc | hc
    · rw [hc]
      decide
    · rw [(List.mem_replicate.1 hc).2]
      decide
  lt f hf := by
    obtain ⟨w, n, hn, rfl⟩ := mem_alignedFields hf
    exact hlt n hn
  short := by
    have hfields := length_alignedFields_le (show ∀ w ∈ widths, w ≤ 16 by decide) hlt
    have hwidths : widths.length = 16 := by decide
    rw [List.length_append, List.length_append, List.length_cons, List.length_replicate]
    omega

end Interface

/-- The contents of `/proc/net/dev`: two header lines, and a line for each interface. -/
structure NetDev where
  headers : Fin 2 → Text
  interfaces : List Interface
  header_line : ∀ k, '\n' ∉ headers k ∧ (headers k).length ≤ 510

namespace NetDev

def text (dev : NetDev) : Text :=
  dev.headers 0 ++ '\n' :: (dev.headers 1 ++ '\n' ::
    dev.interfaces.flatMap fun i => i.text ++ ['\n'])

/-- The interfaces that are not the loopback. -/
def external (dev : NetDev) : List Interface := dev.interfaces.filter fun i => i.name ≠ ['l', 'o']

end NetDev

/-- The interfaces that the code counts. -/
def countedOf (is : List Interface) : List Interface := is.filter fun i => ¬ ['l', 'o'] <+: i.name

/-- The interfaces that are taken for the loopback. -/
def omittedOf (is : List Interface) : List Interface :=
  is.filter fun i => i.name ≠ ['l', 'o'] ∧ ['l', 'o'] <+: i.name

theorem fgetsLines_interfaces (is : List Interface) :
    fgetsLines 512 (is.flatMap fun i => i.text ++ ['\n']) = is.map fun i => i.text ++ ['\n'] := by
  induction is with
  | nil => rfl
  | cons i is ih =>
    have hshort := i.short
    rw [List.flatMap_cons, List.append_assoc, List.singleton_append,
      fgetsLines_line i.newline_notMem (Nat.add_le_add_right hshort 2), ih, List.map_cons]

/-- The loop behind the header lines. -/
theorem go_interfaces (vars : NetVars) (is : List Interface) (pos : Nat) (hpos : 1 < pos)
    (shot : NetShot) :
    getMachineNetShot.go vars (is.map fun i => i.text ++ ['\n']) pos shot =
      ⟨shot.bytesRecv + .ofNat ((countedOf is).map Interface.recv).sum,
        shot.bytesSend + .ofNat ((countedOf is).map Interface.sent).sum⟩ := by
  induction is generalizing pos shot with
  | nil => simp [getMachineNetShot.go, countedOf]
  | cons i is ih =>
    rw [List.map_cons, getMachineNetShot.go, if_pos hpos, i.addLine_text, ih _ (by omega)]
    by_cases hlo : ['l', 'o'] <+: i.name
    · rw [if_pos hlo, countedOf, countedOf, List.filter_cons_of_neg (by simpa using hlo)]
    · rw [if_neg hlo, countedOf, countedOf, List.filter_cons_of_pos (by simpa using hlo)]
      simp [UInt64.add_assoc, UInt64.ofNat_add]

/-- The totals that are read, whatever the variables held. -/
theorem getMachineNetShot_text (vars : NetVars) (dev : NetDev) :
    getMachineNetShot vars (some dev.text) =
      ⟨.ofNat ((countedOf dev.interfaces).map Interface.recv).sum,
        .ofNat ((countedOf dev.interfaces).map Interface.sent).sum⟩ := by
  obtain ⟨hn0, hl0⟩ := dev.header_line 0
  obtain ⟨hn1, hl1⟩ := dev.header_line 1
  have hlines : fgetsLines 512 dev.text = (dev.headers 0 ++ ['\n']) :: (dev.headers 1 ++ ['\n']) ::
      dev.interfaces.map fun i => i.text ++ ['\n'] := by
    rw [NetDev.text, fgetsLines_line hn0 (by omega), fgetsLines_line hn1 (by omega),
      fgetsLines_interfaces]
  have hgo := go_interfaces vars dev.interfaces 2 (by decide) {}
  simp only [getMachineNetShot, hlines, getMachineNetShot.go]
  rw [if_neg (by decide), if_neg (by decide), hgo]
  simp

/-- The sums over the interfaces that are not the loopback. -/
structure IsTotals (dev : NetDev) (shot : NetShot) : Prop where
  recv : shot.bytesRecv.toNat = (dev.external.map Interface.recv).sum
  sent : shot.bytesSend.toNat = (dev.external.map Interface.sent).sum

/-- What is not counted is missing in the sum. -/
theorem sum_external (dev : NetDev) (bytes : Interface → Nat) :
    (dev.external.map bytes).sum =
      ((countedOf dev.interfaces).map bytes).sum + ((omittedOf dev.interfaces).map bytes).sum := by
  rw [NetDev.external, countedOf, omittedOf]
  induction dev.interfaces with
  | nil => rfl
  | cons i is ih =>
    by_cases hlo : ['l', 'o'] <+: i.name
    · by_cases he : i.name = ['l', 'o']
      · rw [List.filter_cons_of_neg (by simpa using he),
          List.filter_cons_of_neg (by simpa using hlo), List.filter_cons_of_neg (by simp [he]), ih]
      · rw [List.filter_cons_of_pos (by simpa using he),
          List.filter_cons_of_neg (by simpa using hlo),
          List.filter_cons_of_pos (by simpa using ⟨he, hlo⟩), List.map_cons, List.sum_cons, ih,
          List.map_cons, List.sum_cons]
        omega
    · have he : i.name ≠ ['l', 'o'] := by
        intro he
        exact hlo (he ▸ List.prefix_rfl)
      rw [List.filter_cons_of_pos (by simpa using he), List.filter_cons_of_pos (by simpa using hlo),
        List.filter_cons_of_neg (by simp [hlo]), List.map_cons, List.sum_cons, ih, List.map_cons,
        List.sum_cons]
      omega

theorem toNat_counted_iff (dev : NetDev) (bytes : Interface → Nat) :
    (UInt64.ofNat ((countedOf dev.interfaces).map bytes).sum).toNat =
        (dev.external.map bytes).sum ↔
      (∀ i ∈ omittedOf dev.interfaces, bytes i = 0) ∧ (dev.external.map bytes).sum < 2 ^ 64 := by
  have hzero : (∀ i ∈ omittedOf dev.interfaces, bytes i = 0) ↔
      ((omittedOf dev.interfaces).map bytes).sum = 0 := by
    rw [List.sum_eq_zero_iff, List.forall_mem_map]
  rw [hzero, UInt64.toNat_ofNat', sum_external]
  omega

/-- The totals are right when the interfaces that are taken for the loopback have seen no traffic,
and the sums fit the type. -/
theorem netShot_iff (vars : NetVars) (dev : NetDev) :
    IsTotals dev (getMachineNetShot vars (some dev.text)) ↔
      (∀ i ∈ dev.interfaces, i.name ≠ ['l', 'o'] → ['l', 'o'] <+: i.name →
        i.recv = 0 ∧ i.sent = 0) ∧
      (dev.external.map Interface.recv).sum < 2 ^ 64 ∧
      (dev.external.map Interface.sent).sum < 2 ^ 64 := by
  have hmem : ∀ i, i ∈ omittedOf dev.interfaces ↔
      i ∈ dev.interfaces ∧ i.name ≠ ['l', 'o'] ∧ ['l', 'o'] <+: i.name := fun i => by
    simp [omittedOf]
  rw [getMachineNetShot_text]
  constructor
  · intro h
    obtain ⟨hr, hrlt⟩ := (toNat_counted_iff dev Interface.recv).1 h.recv
    obtain ⟨hs, hslt⟩ := (toNat_counted_iff dev Interface.sent).1 h.sent
    exact ⟨fun i hi hne hlo =>
      ⟨hr i ((hmem i).2 ⟨hi, hne, hlo⟩), hs i ((hmem i).2 ⟨hi, hne, hlo⟩)⟩, hrlt, hslt⟩
  · rintro ⟨hzero, hrlt, hslt⟩
    constructor
    · refine (toNat_counted_iff dev Interface.recv).2 ⟨fun i hi => ?_, hrlt⟩
      obtain ⟨hi, hne, hlo⟩ := (hmem i).1 hi
      exact (hzero i hi hne hlo).1
    · refine (toNat_counted_iff dev Interface.sent).2 ⟨fun i hi => ?_, hslt⟩
      obtain ⟨hi, hne, hlo⟩ := (hmem i).1 hi
      exact (hzero i hi hne hlo).2

theorem word_of_all {name : Text} (h : name.all (fun c => !isspace c && c != '\x00') = true) :
    ∀ c ∈ name, isspace c = false ∧ c ≠ '\x00' := by
  simpa using h

/-- An interface of a low-power network. -/
def lowpan : Interface :=
  .printed "lowpan0".toList [5, 1, 0, 0, 0, 0, 0, 0, 6, 1, 0, 0, 0, 0, 0, 0]
    (word_of_all (by decide +kernel)) (by decide +kernel) (by decide) (by decide)

def devOf (interfaces : List Interface) : NetDev :=
  ⟨fun _ => "face |bytes".toList, interfaces, fun _ => ⟨by decide +kernel, by decide +kernel⟩⟩

/-- Its traffic is left out. -/
theorem netShot_lowpan :
    getMachineNetShot (fun _ => (0, 0)) (some (devOf [lowpan]).text) = ⟨0, 0⟩ ∧
    ((devOf [lowpan]).external.map Interface.recv).sum = 5 ∧
    ¬ IsTotals (devOf [lowpan])
      (getMachineNetShot (fun _ => (0, 0)) (some (devOf [lowpan]).text)) := by
  have hshot : getMachineNetShot (fun _ => (0, 0)) (some (devOf [lowpan]).text) = ⟨0, 0⟩ := by
    decide +kernel
  have hsum : ((devOf [lowpan]).external.map Interface.recv).sum = 5 := by decide +kernel
  refine ⟨hshot, hsum, fun h => ?_⟩
  have hrecv := h.recv
  rw [hshot, hsum] at hrecv
  cases hrecv

end IptvCloud.Machine
