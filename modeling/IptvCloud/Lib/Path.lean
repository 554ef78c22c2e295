import IptvCloud.Lib.Stdio
import Mathlib.Data.List.TakeWhile

/-!
# Paths with `.` and `..`

A path is a text whose components are its non-empty parts between slashes. `walk` follows
components from a directory, given by its names from the top on: `.` stays, `..` goes to the
parent (at the top it stays), and any other name goes down. A relative path is summed up by its
`Climb`, how far it goes up and the names it then goes down; `below_walk_iff` says when it ends
below the directory it started in. A system call sees a text up to its first NUL (`cstr`), and
`components_cstr` says what that makes of the components.
-/

namespace Path

open Stdio (cstr cstr_self)

abbrev Name := List Char

/-- The non-empty parts between slashes. -/
def components (path : List Char) : List Name := (path.splitOn '/').filter (· ≠ [])

def isAbsolute (path : List Char) : Bool := path.head? = some '/'

/-- Where a component leads from a directory. -/
def enter (dir : List Name) (name : Name) : List Name :=
  if name = ['.'] then dir else if name = ['.', '.'] then dir.dropLast else dir ++ [name]

def walk (dir : List Name) (names : List Name) : List Name := names.foldl enter dir

/-- The names of a path from the top on; a relative one starts in `cwd`. -/
def resolve (cwd : List Name) (path : List Char) : List Name :=
  walk (if isAbsolute path then [] else cwd) (components path)

/-- `path` lies strictly below `dir`. -/
def Below (dir path : List Name) : Prop := dir <+: path ∧ dir ≠ path

instance (dir path : List Name) : Decidable (Below dir path) :=
  inferInstanceAs (Decidable (_ ∧ _))

/-! ## Joining -/

theorem components_append_slash (dir rel : List Char) :
    components (dir ++ '/' :: rel) = components dir ++ components rel := by
  simp [components, List.splitOn_append_cons_self]

/-- `path` is `rel` put behind `dir`. -/
structure Joined (dir rel path : List Char) : Prop where
  absolute : isAbsolute path = isAbsolute dir
  components : components path = components dir ++ components rel

theorem joined_slash (dir rel : List Char) :
    Joined (dir ++ ['/']) rel (dir ++ '/' :: rel) where
  absolute := by cases dir <;> rfl
  components := by
    rw [components_append_slash dir rel, components_append_slash dir []]
    simp [components]

/-- `rel` behind `dir`, with a slash between them where `dir` has none at its end. -/
def join (dir rel : List Char) : List Char :=
  if dir.getLast? = some '/' then dir ++ rel else dir ++ '/' :: rel

theorem joined_join {dir : List Char} (h : dir ≠ []) (rel : List Char) :
    Joined dir rel (join dir rel) := by
  unfold join
  split
  case isTrue hlast =>
    obtain ⟨d, rfl⟩ := List.getLast?_eq_some_iff.1 hlast
    simpa using joined_slash d rel
  case isFalse =>
    refine ⟨?_, components_append_slash dir rel⟩
    obtain ⟨c, dir, rfl⟩ := List.exists_cons_of_ne_nil h
    rfl

theorem walk_append (dir names names' : List Name) :
    walk dir (names ++ names') = walk (walk dir names) names' :=
  List.foldl_append

theorem resolve_join {dir path : List Char} {names : List Name}
    (ha : isAbsolute path = isAbsolute dir) (hc : components path = components dir ++ names)
    (cwd : List Name) : resolve cwd path = walk (resolve cwd dir) names := by
  rw [resolve, resolve, ha, hc, walk_append]

/-! ## Texts for the system -/

/-- The names up to the first NUL in them. -/
def cutNames : List Name → List Name
  | [] => []
  | name :: names =>
    if '\x00' ∈ name then [cstr name].filter (· ≠ []) else name :: cutNames names

theorem cstr_append (path rest : List Char) :
    cstr (path ++ rest) = if '\x00' ∈ path then cstr path else path ++ cstr rest := by
  induction path with
  | nil => rfl
  | cons c path ih =>
    by_cases hc : c = '\x00'
    · simp [cstr, hc]
    · have hcons (text : List Char) : cstr (c :: text) = c :: cstr text :=
        List.takeWhile_cons_of_pos (by simpa using hc)
      rw [List.cons_append, hcons, hcons, ih]
      by_cases hpath : '\x00' ∈ path
      · rw [if_pos hpath, if_pos (List.mem_cons_of_mem c hpath)]
      · rw [if_neg hpath, if_neg (by simp [Ne.symm hc, hpath]), List.cons_append]

theorem isAbsolute_cstr (path : List Char) : isAbsolute (cstr path) = isAbsolute path := by
  cases path with
  | nil => rfl
  | cons c path =>
    by_cases hc : c = '\x00'
    · subst hc
      rfl
    · rw [cstr, List.takeWhile_cons_of_pos (by simpa using hc)]
      rfl

/-- A text is a name, or a name, a slash and a text. -/
theorem slash_induction {motive : List Char → Prop} (name : ∀ path, '/' ∉ path → motive path)
    (slash : ∀ path rest, '/' ∉ path → motive rest → motive (path ++ '/' :: rest))
    (path : List Char) : motive path := by
  induction hn : path.length using Nat.strongRecOn generalizing path with
  | ind n ih =>
    by_cases h : '/' ∈ path
    · obtain ⟨first, rest, rfl, hfirst⟩ := List.eq_append_cons_of_mem h
      refine slash first rest hfirst (ih rest.length ?_ rest rfl)
      rw [← hn, List.length_append, List.length_cons]
      omega
    · exact name path h

theorem components_name {path : List Char} (h : '/' ∉ path) :
    components path = [path].filter (· ≠ []) := by
  rw [components, List.splitOn_eq_singleton h]

/-- A NUL is in a name. -/
theorem nul_mem_iff (path : List Char) :
    '\x00' ∈ path ↔ ∃ name ∈ components path, '\x00' ∈ name := by
  have ofName {path : List Char} (h : '/' ∉ path) :
      '\x00' ∈ path ↔ ∃ name ∈ components path, '\x00' ∈ name := by
    rw [components_name h]
    cases path <;> simp
  induction path using slash_induction with
  | name path h => exact ofName h
  | slash path rest h ih =>
    rw [components_append_slash]
    simp only [List.mem_append, List.mem_cons, ofName h, ih, or_and_right, exists_or]
    simp

theorem cutNames_append (names rest : List Name) :
    cutNames (names ++ rest) =
      if ∃ name ∈ names, '\x00' ∈ name then cutNames names else names ++ cutNames rest := by
  induction names with
  | nil => simp
  | cons name names ih =>
    by_cases h : '\x00' ∈ name
    · simp [cutNames, h]
    · simp only [List.cons_append, cutNames, h, if_false, ih, List.exists_mem_cons_iff, false_or]
      split <;> rfl

/-- The components of what a system call sees. -/
theorem components_cstr (path : List Char) :
    components (cstr path) = cutNames (components path) := by
  have ofName {path : List Char} (h : '/' ∉ path) :
      components (cstr path) = cutNames (components path) := by
    have hcut : '/' ∉ cstr path := fun hs => h ((List.takeWhile_prefix _).subset hs)
    rw [components_name hcut, components_name h]
    by_cases hnul : '\x00' ∈ path
    · simp [cutNames, hnul, List.ne_nil_of_mem hnul]
    · rw [cstr_self hnul]
      cases path <;> simp_all [cutNames]
  induction path using slash_induction with
  | name path h => exact ofName h
  | slash path rest h ih =>
    rw [cstr_append, components_append_slash, cutNames_append]
    by_cases hnul : '\x00' ∈ path
    · rw [if_pos hnul, if_pos ((nul_mem_iff path).1 hnul), ofName h]
    · rw [if_neg hnul, if_neg (mt (nul_mem_iff path).2 hnul)]
      have hslash : cstr ('/' :: rest) = '/' :: cstr rest :=
        List.takeWhile_cons_of_pos (by decide)
      rw [hslash, components_append_slash, ih]

/-- Where the system follows a path to that starts with the components of `dir`. -/
theorem resolve_cstr {dir path : List Char} {names : List Name}
    (ha : isAbsolute path = isAbsolute dir) (hc : components path = components dir ++ names)
    (cwd : List Name) :
    resolve cwd (cstr path) =
      walk (resolve cwd (cstr dir)) (if '\x00' ∈ dir then [] else cutNames names) := by
  have hcut : components (cstr path) = components (cstr dir) ++
      if '\x00' ∈ dir then [] else cutNames names := by
    rw [components_cstr, hc, cutNames_append]
    by_cases hnul : '\x00' ∈ dir
    · rw [if_pos ((nul_mem_iff dir).1 hnul), if_pos hnul, List.append_nil, components_cstr]
    · rw [if_neg (mt (nul_mem_iff dir).2 hnul), if_neg hnul, cstr_self hnul]
  exact resolve_join (by rw [isAbsolute_cstr, isAbsolute_cstr, ha]) hcut cwd

/-! ## Climbing -/

/-- A relative path: `ups` directories up, then the names of `down`. -/
structure Climb where
  ups : Nat
  down : List Name
  deriving DecidableEq

def Climb.enter (c : Climb) (name : Name) : Climb :=
  if name = ['.'] then c
  else if name = ['.', '.'] then
    if c.down = [] then { c with ups := c.ups + 1 } else { c with down := c.down.dropLast }
  else { c with down := c.down ++ [name] }

def climb (names : List Name) : Climb := names.foldl Climb.enter ⟨0, []⟩

/-- Where the path leads from `dir`. -/
def Climb.from (c : Climb) (dir : List Name) : List Name :=
  dir.take (dir.length - c.ups) ++ c.down

theorem Climb.enter_from (c : Climb) (dir : List Name) (name : Name) :
    (c.enter name).from dir = Path.enter (c.from dir) name := by
  unfold Climb.enter Path.enter
  split
  · rfl
  split
  · by_cases hd : c.down = []
    · rw [if_pos hd]
      simp only [Climb.from, hd, List.append_nil, List.dropLast_eq_take, List.take_take,
        List.length_take]
      congr 1
      omega
    · simp [Climb.from, hd, List.dropLast_append_of_ne_nil]
  · simp [Climb.from]

theorem walk_eq_climb (dir names : List Name) : walk dir names = (climb names).from dir := by
  suffices h : ∀ c : Climb, names.foldl Path.enter (c.from dir) =
      (names.foldl Climb.enter c).from dir by
    simpa [walk, climb, Climb.from] using h ⟨0, []⟩
  induction names with
  | nil => exact fun c => rfl
  | cons name names ih =>
    intro c
    rw [List.foldl_cons, List.foldl_cons, ← Climb.enter_from]
    exact ih _

/-- The path goes up no further than it comes down again through the last names of `dir`, and
then goes on. -/
def Descends (dir : List Name) (c : Climb) : Prop :=
  Below (dir.drop (dir.length - c.ups)) c.down

instance (dir : List Name) (c : Climb) : Decidable (Descends dir c) :=
  inferInstanceAs (Decidable (Below _ _))

theorem below_append (dir names path : List Name) :
    Below (dir ++ names) (dir ++ path) ↔ Below names path := by
  simp [Below, List.prefix_append_right_inj]

theorem below_walk_iff (dir names : List Name) :
    Below dir (walk dir names) ↔ Descends dir (climb names) := by
  rw [walk_eq_climb, Climb.from, Descends]
  generalize hk : dir.length - (climb names).ups = k
  have h := below_append (dir.take k) (dir.drop k) (climb names).down
  rwa [List.take_append_drop] at h

/-- Without `..` a path never goes up, and every name of it is gone down. -/
theorem climb_down {names : List Name} (h : ['.', '.'] ∉ names) :
    climb names = ⟨0, names.filter (· ≠ ['.'])⟩ := by
  suffices hc : ∀ c : Climb, names.foldl Climb.enter c =
      { c with down := c.down ++ names.filter (· ≠ ['.']) } by
    simpa [climb] using hc ⟨0, []⟩
  induction names with
  | nil => intro c; simp
  | cons name names ih =>
    intro c
    simp only [List.mem_cons, not_or] at h
    obtain ⟨hname, hnames⟩ := h
    rw [List.foldl_cons, ih hnames, Climb.enter]
    by_cases hdot : name = ['.']
    · simp [hdot]
    · simp [hdot, Ne.symm hname]

end Path
