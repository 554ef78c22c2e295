import Mathlib.Data.List.Induction
import IptvCloud.Utils.M3u8Grammar
import IptvCloud.Utils.Proof.M3u8Spaces

/-!
# The reader accepts exactly its grammar

One equivalence for a header line (`readHeaderLine_iff`) and one for the lines of the chunks
(`parseChunks_iff`). Where no line ends with white space, the position that `ParseFile` seeks back
to is the start of the first line that is no header line, so the two phases see the lines that are
not blank one after the other (`parse_lines`). `parse_iff_playlist` puts them together.
-/

namespace IptvCloud.M3u8

open Stdio

/-- `ConvertFromString` of a run of digits to `int` and to `uint64_t`; the conversion to `double`
may be any. -/
structure Convert.LawfulIntegers (cv : Convert) : Prop where
  toInt_digits : ∀ t, IsDigits t → cv.toInt t =
    if digitsValue t < 2 ^ 31 then some (digitsValue t : Int) else none
  toUInt64_digits : ∀ t, IsDigits t → cv.toUInt64 t =
    if digitsValue t < 2 ^ 64 then some (digitsValue t) else none

/-! ## Header lines -/

/-- The reader after a header line. -/
def Header.store (r : M3u8Reader) : Header → M3u8Reader
  | .extm3u => r
  | .version digits => { r with version := digitsValue digits }
  | .allowCache allowed => { r with allowCache := allowed }
  | .mediaSequence digits => { r with mediaSequence := digitsValue digits }
  | .targetDuration digits => { r with targetDuration := digitsValue digits }

theorem store_chunks (h : Header) (r : M3u8Reader) : (h.store r).chunks = r.chunks := by
  cases h <;> rfl

theorem storeNumber_eq_next {n : Option Int} {store : Int → M3u8Reader} {r : M3u8Reader} :
    storeNumber n store = .next r ↔ ∃ k, n = some k ∧ r = store k := by
  cases n with
  | none => simp [storeNumber]
  | some k => simp [storeNumber, eq_comm]

section Header

variable {cv : Convert} (hcv : cv.LawfulIntegers)
include hcv

theorem toInt_eq_some {ds : Text} (hd : IsDigits ds) {k : Int} :
    cv.toInt ds = some k ↔ IsIntDigits ds ∧ k = digitsValue ds := by
  rw [hcv.toInt_digits ds hd, Option.ite_none_right_eq_some, Option.some.injEq, IsIntDigits,
    and_iff_right hd, eq_comm (a := k)]

/-- A header line of the grammar is read. -/
theorem readHeaderLine_text {h : Header} (hv : h.Valid) (r : M3u8Reader) :
    readHeaderLine cv h.text r = .next (h.store r) := by
  have hstore : ∀ {ds : Text} {store : Int → M3u8Reader}, IsIntDigits ds →
      storeNumber (cv.toInt ds) store = .next (store (digitsValue ds)) := fun hds =>
    storeNumber_eq_next.2 ⟨_, (toInt_eq_some hcv hds.1).2 ⟨hds, rfl⟩, rfl⟩
  cases h with
  | extm3u => exact readHeaderLine_extm3u cv r
  | version ds => exact (readHeaderLine_version cv hv.1 r).trans (hstore hv)
  | allowCache allowed => cases allowed <;> rfl
  | mediaSequence ds => exact (readHeaderLine_sequence cv hv.1 r).trans (hstore hv)
  | targetDuration ds => exact (readHeaderLine_target cv hv.1 r).trans (hstore hv)

/-- **The header lines** that are read are those of the grammar. -/
theorem readHeaderLine_iff {l : Text} {r r' : M3u8Reader} :
    readHeaderLine cv l r = .next r' ↔ ∃ h : Header, h.Valid ∧ h.text = l ∧ r' = h.store r := by
  refine ⟨fun hread => ?_, ?_⟩
  · have hnumber : ∀ {pre : String} {ds : Text} {store : Int → M3u8Reader},
        matchNumber pre l = some ds → storeNumber (cv.toInt ds) store = .next r' →
        l = pre.toList ++ ds ∧ IsIntDigits ds ∧ r' = store (digitsValue ds) := by
      intro pre ds store hm hs
      obtain ⟨rfl, hd⟩ := matchNumber_iff.1 hm
      obtain ⟨k, hk, rfl⟩ := storeNumber_eq_next.1 hs
      obtain ⟨hint, rfl⟩ := (toInt_eq_some hcv hd).1 hk
      exact ⟨rfl, hint, rfl⟩
    rw [readHeaderLine] at hread
    split at hread
    · rename_i hl
      cases hread
      exact ⟨.extm3u, trivial, hl.symm, rfl⟩
    split at hread
    · rename_i ds hm
      obtain ⟨rfl, hint, rfl⟩ := hnumber hm hread
      exact ⟨.version ds, hint, rfl, rfl⟩
    split at hread
    · rename_i w hm
      obtain ⟨rfl, -⟩ := matchAllowCache_iff.1 hm
      split at hread
      · rename_i hw
        cases hread
        exact ⟨.allowCache true, trivial, by rw [hw]; rfl, rfl⟩
      · split at hread
        · rename_i hw
          cases hread
          exact ⟨.allowCache false, trivial, by rw [hw]; rfl, rfl⟩
        · cases hread
    split at hread
    · rename_i ds hm
      obtain ⟨rfl, hint, rfl⟩ := hnumber hm hread
      exact ⟨.mediaSequence ds, hint, rfl, rfl⟩
    split at hread
    · rename_i ds hm
      obtain ⟨rfl, hint, rfl⟩ := hnumber hm hread
      exact ⟨.targetDuration ds, hint, rfl, rfl⟩
    · cases hread
  · rintro ⟨h, hv, rfl, rfl⟩
    exact readHeaderLine_text hcv hv r

end Header

/-! ## Chunks -/

theorem extinf_ne_footer (t : Text) : "#EXTINF:".toList ++ t ≠ writeFooter := fun he =>
  absurd (congrArg (·[4]?) he) (show ¬ some 'I' = some '-' by decide)

theorem Entry.header_eq (e : Entry) : e.header = "#EXTINF:".toList ++ (e.number ++ [',']) :=
  List.append_assoc _ _ _

theorem Entry.header_ne_footer (e : Entry) : e.header ≠ writeFooter := fun he =>
  extinf_ne_footer _ (e.header_eq.symm.trans he)

/-- The reader after some chunks. -/
def M3u8Reader.add (r : M3u8Reader) (chunks : List ChunkInfo) : M3u8Reader :=
  { r with chunks := r.chunks ++ chunks }

theorem M3u8Reader.add_nil (r : M3u8Reader) : r.add [] = r := by
  simp [M3u8Reader.add]

theorem M3u8Reader.add_add (r : M3u8Reader) (cs cs' : List ChunkInfo) :
    (r.add cs).add cs' = r.add (cs ++ cs') := by
  simp [M3u8Reader.add]

section Chunks

variable {cv : Convert} (hcv : cv.LawfulIntegers)
include hcv

theorem toUInt64_eq_some {ds : Text} (hd : IsDigits ds) {n : Nat} :
    cv.toUInt64 ds = some n ↔ digitsValue ds < 2 ^ 64 ∧ n = digitsValue ds := by
  rw [hcv.toUInt64_digits ds hd, Option.ite_none_right_eq_some, Option.some.injEq,
    eq_comm (a := n)]

/-- **The two lines of a chunk** that are read are those of the grammar. -/
theorem chunkLines_iff {header path : Text} {duration : ℚ} {index : Nat} :
    (matchChunkHeader header).bind cv.toDouble = some duration ∧
        (matchChunk path).bind cv.toUInt64 = some index ↔
      ∃ e : Entry, e.Valid cv ∧ e.header = header ∧ e.path = path ∧
        cv.toDouble e.number = some duration ∧ index = digitsValue e.digits := by
  simp only [Option.bind_eq_some_iff, matchChunkHeader_iff, matchChunk_iff]
  constructor
  · rintro ⟨⟨n, ⟨rfl, hn⟩, hd⟩, ds, ⟨name, rfl, hname, hmax, hds⟩, hi⟩
    obtain ⟨hlt, rfl⟩ := (toUInt64_eq_some hcv hds).1 hi
    exact ⟨⟨n, name, ds⟩, ⟨hn, by rw [hd]; rfl, hname, hmax, hds, hlt⟩, rfl, rfl, hd, rfl⟩
  · rintro ⟨e, he, rfl, rfl, hd, rfl⟩
    exact ⟨⟨e.number, ⟨rfl, he.number⟩, hd⟩, e.digits,
      ⟨e.name, rfl, he.name, he.maximal, he.digits⟩,
      (toUInt64_eq_some hcv he.digits).2 ⟨he.index, rfl⟩⟩

/-- The first chunk of the lines that are left. -/
theorem parseChunks_cons_iff {header path : Text} {rest : List Text} {r r' : M3u8Reader}
    (hheader : removeTrailingSpaces (line header) = header)
    (hpath : removeTrailingSpaces (line path) = path) (hfoot : header ≠ writeFooter) :
    parseChunks cv ((header :: path :: rest).map line) r = (true, r') ↔
      ∃ e : Entry, e.Valid cv ∧ e.header = header ∧ e.path = path ∧
        parseChunks cv (rest.map line) (r.add [e.chunk cv]) = (true, r') := by
  have hchunk : ∀ {e : Entry} {duration : ℚ}, cv.toDouble e.number = some duration →
      e.chunk cv = ⟨e.path, cv.ofDouble (Binary64.round (duration * 1000000000)),
        digitsValue e.digits⟩ := fun hd => by rw [Entry.chunk, hd, Option.getD_some]
  rw [List.map_cons, List.map_cons, parseChunks, hheader, hpath, if_neg hfoot]
  constructor
  · intro h
    split at h
    · cases h
    rename_i duration hduration
    split at h
    · cases h
    rename_i index hindex
    obtain ⟨e, he, rfl, rfl, hd, rfl⟩ := (chunkLines_iff hcv).1 ⟨hduration, hindex⟩
    refine ⟨e, he, rfl, rfl, ?_⟩
    rw [hchunk hd]
    exact h
  · rintro ⟨e, he, rfl, rfl, h⟩
    obtain ⟨duration, hd⟩ := Option.isSome_iff_exists.1 he.converts
    obtain ⟨hduration, hindex⟩ := (chunkLines_iff hcv).2 ⟨e, he, rfl, rfl, hd, rfl⟩
    rw [hduration, hindex]
    rw [hchunk hd] at h
    exact h

/-- **The chunk lines** that are read are those of the grammar. -/
theorem parseChunks_iff {ls : List Text} (hls : ∀ l ∈ ls, removeTrailingSpaces (line l) = l)
    {r r' : M3u8Reader} :
    parseChunks cv (ls.map line) r = (true, r') ↔
      ∃ (entries : List Entry) (ending : Ending), (∀ e ∈ entries, Entry.Valid cv e) ∧
        ls = entries.flatMap Entry.lines ++ ending.lines ∧
        (ending = .endOfText → r'.chunks ≠ []) ∧ r' = r.add (entries.map (Entry.chunk cv)) := by
  induction ls using List.twoStepInduction generalizing r with
  | nil =>
    rw [List.map_nil, parseChunks, Prod.mk.injEq, Bool.not_eq_true', List.isEmpty_eq_false_iff]
    constructor
    · rintro ⟨hr, rfl⟩
      exact ⟨[], .endOfText, by simp, rfl, fun _ => hr, r.add_nil.symm⟩
    · rintro ⟨entries, ending, -, hlines, hend, rfl⟩
      cases entries with
      | nil =>
        cases ending with
        | endlist rest => cases hlines
        | endOfText =>
          have hr := hend rfl
          rw [List.map_nil, M3u8Reader.add_nil] at hr ⊢
          exact ⟨hr, rfl⟩
      | cons e entries => cases hlines
  | singleton l =>
    rw [List.map_singleton, parseChunks, hls l (List.mem_singleton_self l), Prod.mk.injEq,
      beq_iff_eq]
    constructor
    · rintro ⟨rfl, rfl⟩
      exact ⟨[], .endlist [], by simp, rfl, fun h => (by cases h), r.add_nil.symm⟩
    · rintro ⟨entries, ending, -, hlines, -, rfl⟩
      cases entries with
      | nil =>
        cases ending with
        | endlist rest => exact ⟨(List.cons.inj hlines).1, r.add_nil.symm⟩
        | endOfText => cases hlines
      | cons e entries => cases (List.cons.inj hlines).2
  | cons_cons header path rest ih _ =>
    have hheader := hls header (by simp)
    have hpath := hls path (by simp)
    have hrest : ∀ l ∈ rest, removeTrailingSpaces (line l) = l := fun l hl => hls l (by simp [hl])
    by_cases hfoot : header = writeFooter
    · rw [List.map_cons, List.map_cons, parseChunks, hheader, if_pos hfoot, Prod.mk.injEq,
        and_iff_right rfl]
      constructor
      · rintro rfl
        exact ⟨[], .endlist (path :: rest), by simp, by rw [hfoot]; rfl, fun h => (by cases h),
          r.add_nil.symm⟩
      · rintro ⟨entries, ending, -, hlines, -, rfl⟩
        cases entries with
        | nil => exact r.add_nil.symm
        | cons e entries =>
          exact absurd ((List.cons.inj hlines).1.symm.trans hfoot) e.header_ne_footer
    · rw [parseChunks_cons_iff hcv hheader hpath hfoot]
      constructor
      · rintro ⟨e, he, rfl, rfl, h⟩
        obtain ⟨entries, ending, hvalid, rfl, hend, rfl⟩ := (ih hrest).1 h
        exact ⟨e :: entries, ending, List.forall_mem_cons.2 ⟨he, hvalid⟩, rfl, hend,
          r.add_add _ _⟩
      · rintro ⟨entries, ending, hvalid, hlines, hend, rfl⟩
        cases entries with
        | nil =>
          cases ending with
          | endlist rest => exact absurd (List.cons.inj hlines).1 hfoot
          | endOfText => cases hlines
        | cons e entries =>
          obtain ⟨he, hentries⟩ := List.forall_mem_cons.1 hvalid
          obtain ⟨hheader', hlines⟩ := List.cons.inj hlines
          obtain ⟨hpath', hlines⟩ := List.cons.inj hlines
          exact ⟨e, he, hheader'.symm, hpath'.symm, (ih hrest).2
            ⟨entries, ending, hentries, hlines, hend, (r.add_add [e.chunk cv] _).symm⟩⟩

end Chunks

/-! ## Lines of a text -/

section Lines

variable {l : Text} (h : IsLine l)
include h

theorem IsLine.fits : Fits l := ⟨h.not_newline, h.not_nul, .inr h.short⟩

theorem IsLine.trim_eq (hb : l.all isspace = false) : trim l = l := by
  have hlast : ∀ c, l.getLast? = some c → isspace c = false := by
    rcases h.trimmed with hall | hlast
    · rw [hall] at hb
      cases hb
    · exact hlast
  refine List.rdropWhile_eq_self_iff.2 fun hl => ?_
  simp [hlast _ (List.getLast?_eq_some_getLast hl)]

theorem IsLine.removeTrailingSpaces_line (hb : l.all isspace = false) :
    removeTrailingSpaces (line l) = l :=
  h.fits.removeTrailingSpaces_line.trans (h.trim_eq hb)

end Lines

/-- The two phases of the reader on the lines that are not blank. -/
def readLines (cv : Convert) : List Text → M3u8Reader → Bool × M3u8Reader
  | [], r => (false, r)
  | l :: rest, r =>
    match readHeaderLine cv l r with
    | .next r => readLines cv rest r
    | .fail => (false, r)
    | .notHeader => parseChunks cv ((l :: rest).map line) r

/-- Without white space at its end a line is handed over whole. -/
theorem handedOver_trimmed {l : Text} {rest : List Text} (hl : trim l = l) (hne : l ≠ [])
    (hrest : ∀ l ∈ rest, trim l = l) : handedOver l rest = l :: rest := by
  have htrailing : trailing l = 0 := by
    have := length_eq_trim_add_trailing l
    rw [hl] at this
    omega
  have hmap : rest.map trim = rest := (List.map_congr_left hrest).trans (List.map_id' _)
  rw [handedOver, linesFrom, htrailing, hl, hmap, if_pos (List.length_pos_iff.2 hne),
    List.drop_zero]

theorem readSpaced_trimmed (cv : Convert) {lines : List Text}
    (h : ∀ l ∈ lines, trim l = l ∧ l ≠ []) (r : M3u8Reader) :
    readSpaced cv lines r = readLines cv lines r := by
  induction lines generalizing r with
  | nil => rfl
  | cons l rest ih =>
    obtain ⟨⟨hl, hne⟩, hrest⟩ := List.forall_mem_cons.1 h
    rw [readSpaced, readLines, handedOver_trimmed hl hne fun l hl => (hrest l hl).1, hl]
    cases readHeaderLine cv l r with
    | next r' => exact ih hrest r'
    | fail => rfl
    | notHeader => rfl

/-- **The reader on a text of lines.** -/
theorem parse_lines (cv : Convert) {lines : List Text} (h : ∀ l ∈ lines, IsLine l) :
    parse cv (some (lines.flatMap line)) = readLines cv (nonBlank lines) {} := by
  rw [parse_spaced cv fun l hl => (h l hl).fits]
  refine readSpaced_trimmed cv (fun l hl => ?_) {}
  obtain ⟨hmem, hb⟩ := List.mem_filter.1 hl
  rw [Bool.not_eq_true'] at hb
  exact ⟨(h l hmem).trim_eq hb, fun hnil => by rw [hnil] at hb; cases hb⟩

/-! ## The grammar -/

/-- The fields of a reader after the header lines. -/
theorem foldl_store (r : M3u8Reader) (headers : List Header) :
    headers.foldl Header.store r =
      ⟨lastField Header.version? headers r.version,
        lastField Header.allowCache? headers r.allowCache,
        lastField Header.mediaSequence? headers r.mediaSequence,
        lastField Header.targetDuration? headers r.targetDuration, r.chunks⟩ := by
  induction headers generalizing r with
  | nil => rfl
  | cons h headers ih =>
    have hlast : ∀ {α : Type} (field : Header → Option α) (default : α),
        lastField field (h :: headers) default =
          lastField field headers ((field h).getD default) := by
      intro α field default
      unfold lastField
      cases hf : field h with
      | none => rw [List.filterMap_cons_none hf, Option.getD_none]
      | some a =>
        rw [List.filterMap_cons_some hf, List.getLast?_cons, Option.getD_some, Option.getD_some]
    rw [List.foldl_cons, ih]
    simp only [hlast]
    cases h <;> rfl

/-- The first line after the headers of a playlist is no header line. -/
theorem readHeaderLine_rest (cv : Convert) {entries : List Entry} {ending : Ending} {l : Text}
    {rest : List Text} (h : l :: rest = entries.flatMap Entry.lines ++ ending.lines)
    (r : M3u8Reader) : readHeaderLine cv l r = .notHeader := by
  cases entries with
  | nil =>
    cases ending with
    | endlist rest =>
      rw [(List.cons.inj h).1]
      exact readHeaderLine_footer cv r
    | endOfText => cases h
  | cons e entries =>
    rw [(List.cons.inj h).1, e.header_eq]
    exact readHeaderLine_extinf cv _ r

section Grammar

variable {cv : Convert} (hcv : cv.LawfulIntegers)
include hcv

/-- **The lines** that are read are those of the grammar. -/
theorem readLines_iff {ls : List Text} (hls : ∀ l ∈ ls, removeTrailingSpaces (line l) = l)
    {r r' : M3u8Reader} (hr : r.chunks = []) :
    readLines cv ls r = (true, r') ↔
      ∃ p : Playlist, p.Valid cv ∧ ls = p.lines ∧
        r' = (p.headers.foldl Header.store r).add (p.entries.map (Entry.chunk cv)) := by
  induction ls generalizing r with
  | nil =>
    refine iff_of_false (fun h => by cases h) ?_
    rintro ⟨⟨headers, entries, ending⟩, hv, hlines, -⟩
    obtain ⟨-, hrest⟩ := List.append_eq_nil_iff.1 hlines.symm
    obtain ⟨hentries, hending⟩ := List.append_eq_nil_iff.1 hrest
    cases ending with
    | endlist rest => cases hending
    | endOfText =>
      cases entries with
      | nil => exact hv.ending rfl rfl
      | cons e entries => cases hentries
  | cons l rest ih =>
    have hrest : ∀ l ∈ rest, removeTrailingSpaces (line l) = l := fun l hl => hls l (by simp [hl])
    rw [readLines]
    constructor
    · intro h
      cases hread : readHeaderLine cv l r with
      | next r₁ =>
        rw [hread] at h
        obtain ⟨header, hheader, rfl, rfl⟩ := (readHeaderLine_iff hcv).1 hread
        obtain ⟨p, hp, rfl, rfl⟩ := (ih hrest ((store_chunks header r).trans hr)).1 h
        exact ⟨⟨header :: p.headers, p.entries, p.ending⟩,
          ⟨List.forall_mem_cons.2 ⟨hheader, hp.headers⟩, hp.entries, hp.ending⟩, rfl, rfl⟩
      | fail =>
        rw [hread] at h
        cases h
      | notHeader =>
        rw [hread] at h
        obtain ⟨entries, ending, hvalid, hlines, hend, rfl⟩ := (parseChunks_iff hcv hls).1 h
        refine ⟨⟨[], entries, ending⟩, ⟨by simp, hvalid, fun he hnil => ?_⟩, hlines, rfl⟩
        subst hnil
        exact hend he (by rw [List.map_nil, r.add_nil, hr])
    · rintro ⟨⟨headers, entries, ending⟩, hp, hlines, rfl⟩
      cases headers with
      | nil =>
        rw [readHeaderLine_rest cv hlines r]
        refine (parseChunks_iff hcv hls).2 ⟨entries, ending, hp.entries, hlines, fun he => ?_, rfl⟩
        simpa [M3u8Reader.add, hr] using hp.ending he
      | cons header headers =>
        obtain ⟨hheader, hheaders⟩ := List.forall_mem_cons.1 hp.headers
        obtain ⟨hl, htail⟩ := List.cons.inj hlines
        rw [hl, readHeaderLine_text hcv hheader]
        exact (ih hrest ((store_chunks header r).trans hr)).2
          ⟨⟨headers, entries, ending⟩, ⟨hheaders, hp.entries, hp.ending⟩, htail, rfl⟩

/-- **The reader accepts exactly the playlists** of the grammar, and holds the chunks in order and
the last of each header field. -/
theorem parse_iff_playlist {lines : List Text} (h : ∀ l ∈ lines, IsLine l) {r : M3u8Reader} :
    parse cv (some (lines.flatMap line)) = (true, r) ↔
      ∃ p : Playlist, p.Valid cv ∧ nonBlank lines = p.lines ∧ r = p.reader cv := by
  have htrim : ∀ l ∈ nonBlank lines, removeTrailingSpaces (line l) = l := by
    intro l hl
    obtain ⟨hmem, hb⟩ := List.mem_filter.1 hl
    exact (h l hmem).removeTrailingSpaces_line (by simpa using hb)
  rw [parse_lines cv h, readLines_iff hcv htrim rfl]
  simp only [foldl_store]
  rfl

end Grammar

/-- A header, a blank line, a version and a chunk. -/
def sampleLines : List Text :=
  ["#EXTM3U".toList, [], "#EXT-X-VERSION:3".toList, "#EXTINF:12.00,".toList, "ab_07.ts".toList]

def samplePlaylist : Playlist where
  headers := [.extm3u, .version ['3']]
  entries := [⟨['1', '2', '.', '0', '0'], ['a', 'b', '_'], ['0', '7']⟩]
  ending := .endOfText

theorem parse_sampleLines :
    parse decimalConvert (some (sampleLines.flatMap line)) =
      (true, samplePlaylist.reader decimalConvert) := by
  have hcv : decimalConvert.LawfulIntegers :=
    ⟨decimalConvert_lawful.toInt_digits, decimalConvert_lawful.toUInt64_digits⟩
  have hlines : ∀ l ∈ sampleLines, '\n' ∉ l ∧ '\x00' ∉ l ∧ l.length ≤ 253 ∧
      (l.getLast?.all fun c => !isspace c) = true := by decide
  refine (parse_iff_playlist hcv fun l hl => ?_).2 ⟨samplePlaylist, ⟨?_, ?_, ?_⟩, rfl, rfl⟩
  · obtain ⟨hn, h0, hs, hlast⟩ := hlines l hl
    exact ⟨hn, h0, hs, .inr fun c hc => by simpa [hc] using hlast⟩
  · refine List.forall_mem_cons.2 ⟨trivial, List.forall_mem_singleton.2 ⟨⟨by simp, ?_⟩, by decide⟩⟩
    simp
  · refine List.forall_mem_singleton.2
      ⟨⟨by simp, ?_⟩, rfl, ?_, fun c hc => ?_, ⟨by simp, ?_⟩, by decide⟩
    · simp
    · simp
    · cases hc
      rfl
    · simp
  · exact fun _ h => (by cases h)

end IptvCloud.M3u8
