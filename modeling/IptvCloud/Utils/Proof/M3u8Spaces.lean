import IptvCloud.Utils.M3u8Grammar
import IptvCloud.Utils.Proof.M3u8RoundTrip

/-!
# White space in a playlist

`parse_spaced`: on a text of short lines the reader depends on the lines without the white space at
their ends, and on the white space of one of them. `ParseFile` seeks back over the trimmed length of
the first line that is no header line, so `ParseChunks` misses as many characters at the start of
this line as there was white space at its end (`handedOver`). `parse_respaced_iff` says which
changes of white space the reader notices.
-/

namespace IptvCloud.M3u8

open Stdio

/-! ## The end of a line -/

/-- A line without the white space at its end. -/
def trim (l : Text) : Text := l.rdropWhile isspace

/-- How many characters of white space a line ends with. -/
def trailing (l : Text) : Nat := (l.rtakeWhile isspace).length

theorem trim_append_trailing (l : Text) : trim l ++ l.rtakeWhile isspace = l :=
  List.rdropWhile_append_rtakeWhile ..

theorem trim_append {l pad : Text} (h : pad.all isspace = true) : trim (l ++ pad) = trim l := by
  induction pad using List.reverseRecOn with
  | nil => rw [List.append_nil]
  | append_singleton pad c ih =>
    rw [List.all_append, Bool.and_eq_true] at h
    rw [← List.append_assoc, trim, List.rdropWhile_concat_pos _ _ _ (by simpa using h.2)]
    exact ih h.1

theorem trim_eq_nil_iff {l : Text} : trim l = [] ↔ l.all isspace = true := by
  rw [trim, List.rdropWhile_eq_nil_iff, List.all_eq_true]

@[simp] theorem trim_trim (l : Text) : trim (trim l) = trim l := List.rdropWhile_idempotent ..

/-- What is cut off a line at its start does not matter at its end. -/
theorem trim_drop (l : Text) (k : Nat) : trim (l.drop k) = (trim l).drop k := by
  have hspaces : ((l.rtakeWhile isspace).drop (k - (trim l).length)).all isspace = true :=
    List.all_eq_true.2 fun _ hc => List.mem_rtakeWhile_imp (List.mem_of_mem_drop hc)
  have htrim : trim ((trim l).drop k) = (trim l).drop k := by
    refine List.rdropWhile_eq_self_iff.2 fun hne => ?_
    rw [List.getLast_drop hne]
    exact List.rdropWhile_last_not _ _ fun h => hne (by rw [trim, h, List.drop_nil])
  calc trim (l.drop k) = trim ((trim l ++ l.rtakeWhile isspace).drop k) := by
        rw [trim_append_trailing]
    _ = trim ((trim l).drop k) := by rw [List.drop_append, trim_append hspaces]
    _ = (trim l).drop k := htrim

theorem length_eq_trim_add_trailing (l : Text) : l.length = (trim l).length + trailing l := by
  rw [trailing, ← List.length_append, trim_append_trailing]

/-! ## Short lines -/

/-- A line of a text without a newline or a NUL, which is blank or fits the buffer. -/
structure Fits (l : Text) : Prop where
  not_newline : '\n' ∉ l
  not_nul : '\x00' ∉ l
  short : l.all isspace = true ∨ l.length ≤ 253

theorem Fits.drop {l : Text} (h : Fits l) (k : Nat) : Fits (l.drop k) where
  not_newline hm := h.not_newline (List.mem_of_mem_drop hm)
  not_nul hm := h.not_nul (List.mem_of_mem_drop hm)
  short := h.short.imp
    (fun hb => List.all_eq_true.2 fun c hc => List.all_eq_true.1 hb c (List.mem_of_mem_drop hc))
    (fun hs => by rw [List.length_drop]; omega)

/-- However many calls a blank line takes, each reads white space. -/
theorem isBlank_of_blank_line {l : Text} (hb : l.all isspace = true) :
    ∀ buf ∈ fgetsLines maxLine (line l), isBlank buf = true := by
  intro buf hbuf
  refine List.all_eq_true.2 fun c hc => ?_
  have hmem : c ∈ line l := by
    rw [← fgetsLines_flatten maxLine (line l)]
    exact List.mem_flatten.2 ⟨buf, hbuf, (List.takeWhile_sublist _).mem hc⟩
  rcases List.mem_append.1 hmem with hc | hc
  · exact List.all_eq_true.1 hb c hc
  · rw [List.mem_singleton.1 hc]
    decide

section Fits

variable {l : Text} (h : Fits l)
include h

theorem Fits.removeTrailingSpaces_line : removeTrailingSpaces (line l) = trim l := by
  rw [removeTrailingSpaces, line, cstr_append_newline h.not_nul,
    List.rdropWhile_concat_pos _ _ _ (by decide), trim]

theorem Fits.isBlank_line : isBlank (line l) = l.all isspace := by
  rw [isBlank, line, cstr_append_newline h.not_nul, List.all_append]
  exact Bool.and_true _

/-- A line that is not blank is read by one call. -/
theorem Fits.fgetsLines_line (hb : l.all isspace = false) :
    fgetsLines maxLine (line l) = [line l] := by
  have hs : l.length ≤ 253 := h.short.resolve_left (by rw [hb]; decide)
  rw [line, Stdio.fgetsLines_line h.not_newline (by unfold maxLine; omega)]
  rfl

theorem Fits.nonEmptyLines_line : nonEmptyLines (line l) = (nonBlank [l]).map line := by
  cases hb : l.all isspace with
  | true =>
    rw [nonBlank, List.filter_cons_of_neg (by simp [hb])]
    refine List.filter_eq_nil_iff.2 fun buf hbuf => ?_
    simp [isBlank_of_blank_line hb buf hbuf]
  | false =>
    rw [nonEmptyLines, h.fgetsLines_line hb, nonBlank,
      List.filter_cons_of_pos (by simp [h.isBlank_line, hb]),
      List.filter_cons_of_pos (by simp [hb])]
    rfl

end Fits

theorem nonEmptyLines_append_line (l rest : Text) :
    nonEmptyLines (line l ++ rest) = nonEmptyLines (line l) ++ nonEmptyLines rest := by
  rw [nonEmptyLines, line, List.append_assoc, List.singleton_append, fgetsLines_append_newline,
    List.filter_append]
  rfl

theorem nonEmptyLines_lines {lines : List Text} (h : ∀ l ∈ lines, Fits l) :
    nonEmptyLines (lines.flatMap line) = (nonBlank lines).map line := by
  induction lines with
  | nil => rfl
  | cons l lines ih =>
    obtain ⟨hl, hlines⟩ := List.forall_mem_cons.1 h
    rw [List.flatMap_cons, nonEmptyLines_append_line, ih hlines, hl.nonEmptyLines_line,
      ← List.map_append]
    congr 1
    exact (@List.filter_append _ _ [l] lines).symm

/-! ## The reader on short lines -/

/-- `ParseChunks` depends on its lines without the white space at their ends. -/
theorem parseChunks_congr (cv : Convert) {ls ls' : List Text}
    (h : ls.map removeTrailingSpaces = ls'.map removeTrailingSpaces) (r : M3u8Reader) :
    parseChunks cv ls r = parseChunks cv ls' r := by
  induction ls using List.twoStepInduction generalizing ls' r with
  | nil =>
    rw [List.map_nil, eq_comm, List.map_eq_nil_iff] at h
    rw [h]
  | singleton l =>
    obtain ⟨l', rfl, hl⟩ := List.map_eq_singleton_iff.1 h.symm
    simp only [parseChunks, hl]
  | cons_cons header chunk rest ih _ =>
    obtain ⟨header', ls', rfl, hheader, h⟩ := List.map_eq_cons_iff.1 h.symm
    obtain ⟨chunk', rest', rfl, hchunk, hrest⟩ := List.map_eq_cons_iff.1 h
    simp only [parseChunks, hheader, hchunk, ih hrest.symm]

/-- The lines from the character `k` of the line `t` on. -/
def linesFrom (k : Nat) (t : Text) (rest : List Text) : List Text :=
  if k < t.length then t.drop k :: rest else rest

/-- The lines that `ParseChunks` finds when the line `l` is handed over to it. -/
def handedOver (l : Text) (rest : List Text) : List Text :=
  linesFrom (trailing l) (trim l) (rest.map trim)

/-- The two phases of the reader on the lines that are not blank. -/
def readSpaced (cv : Convert) : List Text → M3u8Reader → Bool × M3u8Reader
  | [], r => (false, r)
  | l :: rest, r =>
    match readHeaderLine cv (trim l) r with
    | .next r => readSpaced cv rest r
    | .fail => (false, r)
    | .notHeader => parseChunks cv ((handedOver l rest).map line) r

theorem seekBack_spaced (pre l rest : Text) :
    seekBack (pre ++ (line l ++ rest)) (pre.length + (line l).length) (trim l).length =
      line (l.drop (trailing l)) ++ rest := by
  have hl := length_eq_trim_add_trailing l
  have hlen : (line l).length = l.length + 1 := by simp [line]
  have hdrop : (line l).drop (trailing l) = line (l.drop (trailing l)) :=
    List.drop_append_of_le_length (by omega)
  rw [seekBack, if_pos (by omega), show pre.length + (line l).length - (trim l).length - 1 =
    pre.length + trailing l by omega, List.drop_length_add_append,
    List.drop_append_of_le_length (by omega), hdrop]

theorem map_removeTrailingSpaces {lines : List Text} (h : ∀ l ∈ lines, Fits l) :
    (lines.map line).map removeTrailingSpaces = lines.map trim := by
  rw [List.map_map]
  exact List.map_congr_left fun l hl => (h l hl).removeTrailingSpaces_line

theorem Fits.trim {l : Text} (h : Fits l) : Fits (trim l) where
  not_newline hm := h.not_newline ((List.rdropWhile_prefix ..).mem hm)
  not_nul hm := h.not_nul ((List.rdropWhile_prefix ..).mem hm)
  short := h.short.imp
    (fun hb => by rw [trim_eq_nil_iff.2 hb]; rfl)
    (fun hs => (List.rdropWhile_prefix ..).length_le.trans hs)

theorem nonBlank_handedOver (l : Text) (rest : List Text) :
    (nonBlank (l.drop (trailing l) :: rest)).map M3u8.trim = handedOver l (nonBlank rest) := by
  have hblank : (l.drop (trailing l)).all isspace = true ↔ (M3u8.trim l).length ≤ trailing l := by
    rw [← trim_eq_nil_iff, trim_drop, List.drop_eq_nil_iff]
  unfold handedOver linesFrom
  split
  case isTrue hlt =>
    have hb : (l.drop (trailing l)).all isspace = false :=
      Bool.eq_false_iff.2 fun hb => Nat.not_le.2 hlt (hblank.1 hb)
    rw [nonBlank, List.filter_cons_of_pos (by rw [hb]; rfl), List.map_cons, trim_drop]
    rfl
  case isFalse hle =>
    have hb := hblank.2 (Nat.not_lt.1 hle)
    rw [nonBlank, List.filter_cons_of_neg (by rw [hb]; decide)]
    rfl

theorem removeTrailingSpaces_handedOver {l : Text} {rest : List Text} (hl : Fits l)
    (hrest : ∀ l ∈ rest, Fits l) :
    ∀ l' ∈ handedOver l rest, removeTrailingSpaces (line l') = l' := by
  have htrim {l' : Text} (h : Fits l') :
      removeTrailingSpaces (line (M3u8.trim l')) = M3u8.trim l' :=
    h.trim.removeTrailingSpaces_line.trans (trim_trim l')
  have hmap : ∀ l' ∈ rest.map M3u8.trim, removeTrailingSpaces (line l') = l' := by
    intro l' h
    obtain ⟨l'', h'', rfl⟩ := List.mem_map.1 h
    exact htrim (hrest l'' h'')
  unfold handedOver linesFrom
  split
  · exact List.forall_mem_cons.2 ⟨trim_drop l _ ▸ htrim (hl.drop _), hmap⟩
  · exact hmap

/-- `ParseChunks` on what it is handed over. -/
theorem parseChunks_handedOver (cv : Convert) {l : Text} {rest : List Text} (hl : Fits l)
    (hrest : ∀ l ∈ rest, Fits l) (r : M3u8Reader) :
    parseChunks cv (nonEmptyLines (line (l.drop (trailing l)) ++ rest.flatMap line)) r =
      parseChunks cv ((handedOver l (nonBlank rest)).map line) r := by
  have hlines : ∀ l' ∈ l.drop (trailing l) :: rest, Fits l' :=
    List.forall_mem_cons.2 ⟨hl.drop _, hrest⟩
  have hnb : ∀ l' ∈ nonBlank (l.drop (trailing l) :: rest), Fits l' := fun l' h =>
    hlines l' (List.mem_of_mem_filter h)
  have htrim : ∀ l' ∈ handedOver l (nonBlank rest), removeTrailingSpaces (line l') = l' :=
    removeTrailingSpaces_handedOver hl fun l' h => hrest l' (List.mem_of_mem_filter h)
  refine parseChunks_congr cv ?_ r
  rw [← List.flatMap_cons, nonEmptyLines_lines hlines, map_removeTrailingSpaces hnb,
    nonBlank_handedOver, List.map_map]
  exact ((List.map_congr_left htrim).trans (List.map_id' _)).symm

theorem go_blank (cv : Convert) (text : Text) {bufs : List Text}
    (h : ∀ buf ∈ bufs, isBlank buf = true) (rest : List Text) (off : Nat) (r : M3u8Reader) :
    parseFile.go cv text (bufs ++ rest) off r =
      parseFile.go cv text rest (off + bufs.flatten.length) r := by
  induction bufs generalizing off with
  | nil => rfl
  | cons buf bufs ih =>
    obtain ⟨hbuf, hbufs⟩ := List.forall_mem_cons.1 h
    rw [List.cons_append, parseFile.go, if_pos hbuf, ih hbufs, List.flatten_cons,
      List.length_append, Nat.add_assoc]

theorem go_spaced (cv : Convert) {lines : List Text} (h : ∀ l ∈ lines, Fits l) (pre : Text)
    (r : M3u8Reader) :
    parseFile.go cv (pre ++ lines.flatMap line) (fgetsLines maxLine (lines.flatMap line))
      pre.length r = readSpaced cv (nonBlank lines) r := by
  induction lines generalizing pre r with
  | nil => rfl
  | cons l lines ih =>
    obtain ⟨hl, hlines⟩ := List.forall_mem_cons.1 h
    have hnext (r : M3u8Reader) : parseFile.go cv (pre ++ (l :: lines).flatMap line)
        (fgetsLines maxLine (lines.flatMap line)) (pre.length + (line l).length) r =
          readSpaced cv (nonBlank lines) r := by
      have := ih hlines (pre ++ line l) r
      rwa [List.append_assoc, List.length_append] at this
    have hcalls : fgetsLines maxLine ((l :: lines).flatMap line) =
        fgetsLines maxLine (line l) ++ fgetsLines maxLine (lines.flatMap line) := by
      rw [List.flatMap_cons, line, List.append_assoc]
      exact fgetsLines_append_newline ..
    rw [hcalls]
    cases hb : l.all isspace with
    | true =>
      rw [go_blank cv _ (isBlank_of_blank_line hb), fgetsLines_flatten, hnext, nonBlank, nonBlank,
        List.filter_cons_of_neg (by simp [hb])]
    | false =>
      have hnb : nonBlank (l :: lines) = l :: nonBlank lines :=
        List.filter_cons_of_pos (by simp [hb])
      rw [hl.fgetsLines_line hb, List.singleton_append, parseFile.go, hl.isBlank_line, hb,
        if_neg (by decide), hl.removeTrailingSpaces_line, hnb, readSpaced]
      cases readHeaderLine cv (M3u8.trim l) r with
      | next r' => exact hnext r'
      | fail => rfl
      | notHeader =>
        show parseChunks cv (nonEmptyLines (seekBack _ _ _)) r = _
        rw [List.flatMap_cons, seekBack_spaced, parseChunks_handedOver cv hl hlines]

/-- **The reader on a text of short lines.** -/
theorem parse_spaced (cv : Convert) {lines : List Text} (h : ∀ l ∈ lines, Fits l) :
    parse cv (some (lines.flatMap line)) = readSpaced cv (nonBlank lines) {} :=
  go_spaced cv h [] {}

/-! ## How the chunk lines start -/

/-- The footer, the two lines of a chunk, or neither. -/
inductive Start
  | endlist
  | chunk
  | neither
  deriving DecidableEq

def isChunk (cv : Convert) (header path : Text) : Bool :=
  ((matchChunkHeader header).bind cv.toDouble).isSome &&
    ((matchChunk path).bind cv.toUInt64).isSome

def start (cv : Convert) : List Text → Start
  | [] => .neither
  | [header] => if header = writeFooter then .endlist else .neither
  | header :: path :: _ =>
    if header = writeFooter then .endlist
    else if isChunk cv header path then .chunk else .neither

theorem start_eq_chunk {cv : Convert} {ls : List Text} (h : start cv ls = .chunk) :
    ∃ header path rest, ls = header :: path :: rest ∧ isChunk cv header path = true := by
  match ls with
  | [] => cases h
  | [header] =>
    rw [start] at h
    split at h <;> cases h
  | header :: path :: rest =>
    refine ⟨header, path, rest, rfl, ?_⟩
    rw [start] at h
    split at h
    · cases h
    split at h
    case isTrue hc => exact hc
    case isFalse => cases h

theorem parseChunks_chunks (cv : Convert) (ls : List Text) {r : M3u8Reader} (hr : r.chunks ≠ []) :
    (parseChunks cv ls r).2.chunks ≠ [] := by
  induction ls using List.twoStepInduction generalizing r with
  | nil => exact hr
  | singleton l => exact hr
  | cons_cons header chunk rest ih _ =>
    rw [parseChunks]
    split
    · exact hr
    split
    · exact hr
    split
    · exact hr
    · exact ih (by simp)

/-- What `ParseChunks` makes of its first lines. -/
theorem parseChunks_start (cv : Convert) {ls : List Text}
    (hls : ∀ l ∈ ls, removeTrailingSpaces (line l) = l) {r : M3u8Reader} (hr : r.chunks = []) :
    match start cv ls with
    | .endlist => parseChunks cv (ls.map line) r = (true, r)
    | .chunk => (parseChunks cv (ls.map line) r).2.chunks ≠ []
    | .neither => parseChunks cv (ls.map line) r = (false, r) := by
  match ls with
  | [] => simp [start, parseChunks, hr]
  | [header] =>
    rw [List.map_singleton, parseChunks, hls header (by simp), start]
    by_cases hfoot : header = writeFooter
    · rw [if_pos hfoot]
      simp [hfoot]
    · rw [if_neg hfoot]
      simp [hfoot]
  | header :: path :: rest =>
    rw [List.map_cons, List.map_cons, parseChunks, hls header (by simp), hls path (by simp), start]
    by_cases hfoot : header = writeFooter
    · rw [if_pos hfoot, if_pos hfoot]
    rw [if_neg hfoot, if_neg hfoot]
    cases hd : (matchChunkHeader header).bind cv.toDouble with
    | none => simp [isChunk, hd]
    | some duration =>
      cases hi : (matchChunk path).bind cv.toUInt64 with
      | none => simp [isChunk, hd, hi]
      | some index =>
        rw [if_pos (by simp [isChunk, hd, hi])]
        exact parseChunks_chunks cv _ (by simp)

/-- The start of the lines can be told from what `ParseChunks` makes of them. -/
theorem start_congr {cv : Convert} {ls ls' : List Text}
    (hls : ∀ l ∈ ls, removeTrailingSpaces (line l) = l)
    (hls' : ∀ l ∈ ls', removeTrailingSpaces (line l) = l) {r : M3u8Reader} (hr : r.chunks = [])
    (h : parseChunks cv (ls'.map line) r = parseChunks cv (ls.map line) r) :
    start cv ls' = start cv ls := by
  have hstart := parseChunks_start cv hls hr
  have hstart' := parseChunks_start cv hls' hr
  rw [h] at hstart'
  cases hs : start cv ls <;> cases hs' : start cv ls' <;> simp_all

/-! ### The first line of a chunk is found in one place only -/

theorem isChunk_header {cv : Convert} {header path : Text} (h : isChunk cv header path = true) :
    ∃ n, matchChunkHeader header = some n := by
  rw [isChunk, Bool.and_eq_true] at h
  obtain ⟨duration, hd⟩ := Option.isSome_iff_exists.1 h.1
  obtain ⟨n, hn, -⟩ := Option.bind_eq_some_iff.1 hd
  exact ⟨n, hn⟩

theorem isChunk_path {cv : Convert} {header path : Text} (h : isChunk cv header path = true) :
    ∃ ds, matchChunk path = some ds := by
  rw [isChunk, Bool.and_eq_true] at h
  obtain ⟨index, hi⟩ := Option.isSome_iff_exists.1 h.2
  obtain ⟨ds, hds, -⟩ := Option.bind_eq_some_iff.1 hi
  exact ⟨ds, hds⟩

theorem hash_mem {l n : Text} (h : matchChunkHeader l = some n) : '#' ∈ l := by
  rw [(matchChunkHeader_iff.1 h).1]
  exact List.mem_append_left _ (List.mem_append_left _ (by decide))

theorem hash_not_mem_drop {l n : Text} (h : matchChunkHeader l = some n) : '#' ∉ l.drop 1 := by
  obtain ⟨rfl, -, hn⟩ := matchChunkHeader_iff.1 h
  show '#' ∉ "EXTINF:".toList ++ n ++ [',']
  simp only [List.mem_append, not_or]
  refine ⟨⟨by decide, fun hmem => ?_⟩, by decide⟩
  obtain hd | hd := hn _ hmem <;> cases hd

theorem hash_not_mem_chunk {l ds : Text} (h : matchChunk l = some ds) : '#' ∉ l := by
  obtain ⟨name, rfl, hname, -, -, hds⟩ := matchChunk_iff.1 h
  simp only [List.mem_append, not_or]
  refine ⟨⟨fun hmem => ?_, fun hmem => ?_⟩, by decide⟩
  · obtain hc | hc := hname _ hmem <;> cases hc
  · cases hds _ hmem

/-- Two places of a line from which on the lines start with a chunk. -/
theorem linesFrom_unique {cv : Convert} {t : Text} {rest : List Text} {k k' : Nat} (hk : k ≤ k')
    (h : start cv (linesFrom k t rest) = .chunk) (h' : start cv (linesFrom k' t rest) = .chunk) :
    k = k' ∨ t.length ≤ k := by
  obtain ⟨header, path, tail, hls, hc⟩ := start_eq_chunk h
  obtain ⟨header', path', tail', hls', hc'⟩ := start_eq_chunk h'
  obtain ⟨n, hn⟩ := isChunk_header hc
  obtain ⟨n', hn'⟩ := isChunk_header hc'
  unfold linesFrom at hls hls'
  by_cases hlt : k < t.length
  · refine .inl (Nat.le_antisymm hk (Nat.not_lt.1 fun hkk => ?_))
    rw [if_pos hlt] at hls
    obtain ⟨rfl, hrest⟩ := List.cons.inj hls
    split at hls'
    case isTrue =>
      -- the second one starts behind the only `#` of the first
      obtain ⟨rfl, -⟩ := List.cons.inj hls'
      have hdrop : t.drop k' = ((t.drop k).drop 1).drop (k' - k - 1) := by
        rw [List.drop_drop, List.drop_drop]
        congr 1
        omega
      refine hash_not_mem_drop hn (List.mem_of_mem_drop (i := k' - k - 1) ?_)
      rw [← hdrop]
      exact hash_mem hn'
    case isFalse =>
      -- the line after the first one would be both a path and a header
      obtain ⟨rfl, -⟩ := List.cons.inj (hrest.symm.trans hls')
      obtain ⟨ds, hds⟩ := isChunk_path hc
      exact hash_not_mem_chunk hds (hash_mem hn')
  · exact .inr (Nat.not_lt.1 hlt)

/-! ## Changes of white space -/

/-- The reader does not notice that the line handed over is `l'` instead of `l`: it ends with as
much white space, or in both places all of it is lost, or the lines left over start alike, and not
with a chunk. -/
def SameStart (cv : Convert) (l : Text) (rest : List Text) (l' : Text) (rest' : List Text) : Prop :=
  trailing l' = trailing l ∨
    (trim l).length ≤ trailing l ∧ (trim l).length ≤ trailing l' ∨
    start cv (handedOver l' rest') = start cv (handedOver l rest) ∧
      start cv (handedOver l rest) ≠ .chunk

theorem sameStart_iff (cv : Convert) {l l' : Text} {rest rest' : List Text}
    (hl : Fits l) (hrest : ∀ l ∈ rest, Fits l) (hl' : Fits l') (hrest' : ∀ l ∈ rest', Fits l)
    (htrim : trim l' = trim l) (htrims : rest'.map trim = rest.map trim) {r : M3u8Reader}
    (hr : r.chunks = []) :
    parseChunks cv ((handedOver l' rest').map line) r =
        parseChunks cv ((handedOver l rest).map line) r ↔ SameStart cv l rest l' rest' := by
  have hstart := parseChunks_start cv (removeTrailingSpaces_handedOver hl hrest) hr
  have hstart' := parseChunks_start cv (removeTrailingSpaces_handedOver hl' hrest') hr
  constructor
  · intro h
    have hsame := start_congr (removeTrailingSpaces_handedOver hl hrest)
      (removeTrailingSpaces_handedOver hl' hrest') hr h
    by_cases hchunk : start cv (handedOver l rest) = .chunk
    · have hchunk' := hsame.trans hchunk
      rw [handedOver] at hchunk hchunk'
      rw [htrim, htrims] at hchunk'
      rcases Nat.le_total (trailing l) (trailing l') with hk | hk
      · rcases linesFrom_unique hk hchunk hchunk' with heq | hlost
        · exact .inl heq.symm
        · exact .inr (.inl ⟨hlost, hlost.trans hk⟩)
      · rcases linesFrom_unique hk hchunk' hchunk with heq | hlost
        · exact .inl heq
        · exact .inr (.inl ⟨hlost.trans hk, hlost⟩)
    · exact .inr (.inr ⟨hsame, hchunk⟩)
  · rintro (hk | ⟨hlost, hlost'⟩ | ⟨hsame, hne⟩)
    · rw [handedOver, handedOver, hk, htrim, htrims]
    · rw [handedOver, handedOver, htrim, htrims, linesFrom, linesFrom, if_neg (by omega),
        if_neg (by omega)]
    · cases hs : start cv (handedOver l rest) with
      | endlist =>
        simp only [hsame, hs] at hstart hstart'
        rw [hstart, hstart']
      | neither =>
        simp only [hsame, hs] at hstart hstart'
        rw [hstart, hstart']
      | chunk => exact absurd hs hne

theorem readHeaderLine_chunks {cv : Convert} {l : Text} {r r' : M3u8Reader}
    (h : readHeaderLine cv l r = .next r') : r'.chunks = r.chunks := by
  have hnumber {n : Option Int} {store : Int → M3u8Reader} (hn : storeNumber n store = .next r')
      (hstore : ∀ k, (store k).chunks = r.chunks) : r'.chunks = r.chunks := by
    cases n with
    | none => cases hn
    | some k =>
      cases hn
      exact hstore k
  unfold readHeaderLine at h
  split at h
  · cases h
    rfl
  split at h
  · exact hnumber h fun _ => rfl
  split at h
  · split at h
    · cases h
      rfl
    split at h
    · cases h
      rfl
    · cases h
  split at h
  · exact hnumber h fun _ => rfl
  split at h
  · exact hnumber h fun _ => rfl
  · cases h

/-- The reader does not notice the white space in which two lists of lines differ: if it comes to a
line that is no header line, the white space at the end of this line does not matter. -/
def Unaffected (cv : Convert) : List Text → List Text → M3u8Reader → Prop
  | l :: rest, l' :: rest', r =>
    match readHeaderLine cv (trim l) r with
    | .next r => Unaffected cv rest rest' r
    | .fail => True
    | .notHeader => SameStart cv l rest l' rest'
  | _, _, _ => True

theorem readSpaced_eq_iff (cv : Convert) {lines lines' : List Text} (h : ∀ l ∈ lines, Fits l)
    (h' : ∀ l ∈ lines', Fits l) (htrim : lines'.map trim = lines.map trim) {r : M3u8Reader}
    (hr : r.chunks = []) :
    readSpaced cv lines' r = readSpaced cv lines r ↔ Unaffected cv lines lines' r := by
  induction lines generalizing lines' r with
  | nil =>
    rw [List.map_nil, List.map_eq_nil_iff] at htrim
    rw [htrim]
    exact iff_of_true rfl trivial
  | cons l rest ih =>
    obtain ⟨l', rest', rfl, htrim, htrims⟩ := List.map_eq_cons_iff.1 htrim
    obtain ⟨hl, hrest⟩ := List.forall_mem_cons.1 h
    obtain ⟨hl', hrest'⟩ := List.forall_mem_cons.1 h'
    rw [readSpaced, readSpaced, Unaffected, htrim]
    cases hread : readHeaderLine cv (trim l) r with
    | next r' => exact ih hrest hrest' htrims ((readHeaderLine_chunks hread).trans hr)
    | fail => exact iff_of_true rfl trivial
    | notHeader => exact sameStart_iff cv hl hrest hl' hrest' htrim htrims hr

/-- Lines with white space at their ends that was not there, and with blank lines between them. -/
inductive Respaced : List Text → List Text → Prop
  | nil : Respaced [] []
  /-- Up to 50 blanks, tabs and carriage returns are appended to a line. -/
  | append {lines lines' : List Text} (l pad : Text)
      (hpad : ∀ c ∈ pad, c = ' ' ∨ c = '\t' ∨ c = '\r') (hlen : pad.length ≤ 50)
      (h : Respaced lines lines') : Respaced (l :: lines) ((l ++ pad) :: lines')
  /-- A blank line is inserted. -/
  | insert {lines lines' : List Text} (blank : Text) (hblank : blank.all isspace = true)
      (hline : '\n' ∉ blank) (h : Respaced lines lines') : Respaced lines (blank :: lines')

/-- A line of the text before white space is added. -/
structure ShortLine (l : Text) : Prop where
  not_newline : '\n' ∉ l
  not_nul : '\x00' ∉ l
  short : l.length ≤ 200

theorem ShortLine.fits {l : Text} (h : ShortLine l) : Fits l :=
  ⟨h.not_newline, h.not_nul, .inr (h.short.trans (by decide))⟩

theorem isspace_pad {pad : Text} (h : ∀ c ∈ pad, c = ' ' ∨ c = '\t' ∨ c = '\r') :
    pad.all isspace = true :=
  List.all_eq_true.2 fun c hc => by
    obtain rfl | rfl | rfl := h c hc <;> rfl

theorem Respaced.fits {lines lines' : List Text} (hr : Respaced lines lines')
    (h : ∀ l ∈ lines, ShortLine l) : ∀ l ∈ lines', Fits l := by
  induction hr with
  | nil => exact fun _ h => (nomatch h)
  | append l pad hpad hlen _ ih =>
    obtain ⟨hl, hlines⟩ := List.forall_mem_cons.1 h
    refine List.forall_mem_cons.2 ⟨⟨fun hm => ?_, fun hm => ?_, .inr ?_⟩, ih hlines⟩
    · rcases List.mem_append.1 hm with hm | hm
      · exact hl.not_newline hm
      · obtain hc | hc | hc := hpad _ hm <;> cases hc
    · rcases List.mem_append.1 hm with hm | hm
      · exact hl.not_nul hm
      · obtain hc | hc | hc := hpad _ hm <;> cases hc
    · have := hl.short
      rw [List.length_append]
      omega
  | insert blank hblank hline _ ih =>
    refine List.forall_mem_cons.2 ⟨⟨hline, fun hm => ?_, .inl hblank⟩, ih h⟩
    cases List.all_eq_true.1 hblank _ hm

/-- The lines that are not blank are the same but for the white space at their ends. -/
theorem Respaced.trims {lines lines' : List Text} (hr : Respaced lines lines') :
    (nonBlank lines').map trim = (nonBlank lines).map trim := by
  induction hr with
  | nil => rfl
  | append l pad hpad hlen _ ih =>
    have hblank : (l ++ pad).all isspace = l.all isspace := by
      rw [List.all_append, isspace_pad hpad, Bool.and_true]
    cases hb : l.all isspace with
    | true =>
      rw [nonBlank, nonBlank, List.filter_cons_of_neg (by simp [hblank, hb]),
        List.filter_cons_of_neg (by simp [hb])]
      exact ih
    | false =>
      rw [nonBlank, nonBlank, List.filter_cons_of_pos (by rw [hblank, hb]; rfl),
        List.filter_cons_of_pos (by rw [hb]; rfl), List.map_cons, List.map_cons,
        trim_append (isspace_pad hpad)]
      exact congrArg _ ih
  | insert blank hblank hline _ ih =>
    rw [nonBlank, List.filter_cons_of_neg (by simp [hblank])]
    exact ih

/-- Adding white space changes nothing of what the reader holds exactly when the line that is handed
over to `ParseChunks` gets none, or none that matters. -/
theorem parse_respaced_iff (cv : Convert) {lines lines' : List Text}
    (h : ∀ l ∈ lines, ShortLine l) (hr : Respaced lines lines') :
    parse cv (some (lines'.flatMap line)) = parse cv (some (lines.flatMap line)) ↔
      Unaffected cv (nonBlank lines) (nonBlank lines') {} := by
  have hfits : ∀ l ∈ lines, Fits l := fun l hl => (h l hl).fits
  have hfits' := hr.fits h
  rw [parse_spaced cv hfits, parse_spaced cv hfits']
  exact readSpaced_eq_iff cv (fun l hl => hfits l (List.mem_of_mem_filter hl))
    (fun l hl => hfits' l (List.mem_of_mem_filter hl)) hr.trims rfl

/-- A playlist of one chunk. -/
def oneChunkLines : List Text :=
  ["#EXTM3U".toList, "#EXTINF:1.00,".toList, "1.ts".toList, "#EXT-X-ENDLIST".toList]

/-- The same with a blank line and a tab after the name of the chunk. -/
def paddedPath : List Text :=
  ["#EXTM3U".toList, [], "#EXTINF:1.00,".toList, "1.ts\t".toList, "#EXT-X-ENDLIST".toList]

/-- The same with a blank after the first line of the chunk. -/
def paddedHeader : List Text :=
  ["#EXTM3U".toList, "#EXTINF:1.00, ".toList, "1.ts".toList, "#EXT-X-ENDLIST".toList]

theorem oneChunkLines_short : ∀ l ∈ oneChunkLines, ShortLine l := by
  have h : ∀ l ∈ oneChunkLines, '\n' ∉ l ∧ '\x00' ∉ l ∧ l.length ≤ 200 := by decide
  exact fun l hl => ⟨(h l hl).1, (h l hl).2.1, (h l hl).2.2⟩

theorem respaced_self (lines : List Text) : Respaced lines lines := by
  induction lines with
  | nil => exact .nil
  | cons l lines ih =>
    have := Respaced.append l [] (by simp) (by simp) ih
    rwa [List.append_nil] at this

theorem paddedPath_respaced : Respaced oneChunkLines paddedPath :=
  .append _ [] (by simp) (by simp) <| .insert [] rfl (by simp) <|
    .append _ [] (by simp) (by simp) <| .append _ ['\t'] (by simp) (by simp) (respaced_self _)

theorem paddedHeader_respaced : Respaced oneChunkLines paddedHeader :=
  .append _ [] (by simp) (by simp) <| .append _ [' '] (by simp) (by simp) (respaced_self _)

theorem parse_respaced_iff_sample :
    parse decimalConvert (some (paddedPath.flatMap line)) =
      parse decimalConvert (some (oneChunkLines.flatMap line)) :=
  (parse_respaced_iff decimalConvert oneChunkLines_short paddedPath_respaced).2 (.inl rfl)

/-- A blank after the first line of the first chunk makes the reader fail. -/
theorem padded_header_fails :
    (∀ l ∈ oneChunkLines, ShortLine l) ∧ Respaced oneChunkLines paddedHeader ∧
      (parse decimalConvert (some (oneChunkLines.flatMap line))).1 = true ∧
      (parse decimalConvert (some (paddedHeader.flatMap line))).1 = false :=
  ⟨oneChunkLines_short, paddedHeader_respaced, by decide, by decide⟩

end IptvCloud.M3u8
