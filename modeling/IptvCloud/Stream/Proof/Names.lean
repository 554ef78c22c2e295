import Mathlib.Data.List.DropRight
import IptvCloud.Stream.Names
import IptvCloud.Stream.Proof.Builders
import IptvCloud.Utils.M3u8Grammar
import IptvCloud.Utils.Proof.M3u8RoundTrip

/-!
# The numbers of names

`Numbered` and `ChunkName` are the texts that the functions of `stypes.cpp` are for. A match of
either regular expression determines the number it captures (`takes_digitEnd_iff`,
`takes_chunkIndex_iff`), so that the search order of the matcher does not matter.
`getElementId_getPadId_iff` and `getIndexFromHttpTsTemplate_iff` say for which texts the functions
do what their names promise, and that the names the templates expand to are among these.
-/

namespace IptvCloud.Streams

open M3u8 Regexp Printf

/-! ## Texts -/

/-- Segments, each closed by a `_`, and digits. -/
def Numbered (name ds : Text) : Prop :=
  ∃ segs : List Text, segs ≠ [] ∧ (∀ seg ∈ segs, seg ≠ [] ∧ '_' ∉ seg) ∧ IsDigits ds ∧
    name = segs.flatMap (· ++ ['_']) ++ ds

/-- Digits, `_`, digits, the character `c` and `ts`. -/
def DottedName (c : Char) (name ds : Text) : Prop :=
  ∃ a, IsDigits a ∧ IsDigits ds ∧ name = a ++ '_' :: (ds ++ [c, 't', 's'])

/-- A character that `.` matches. -/
def IsAnyChar (c : Char) : Prop := c ≠ '\n' ∧ c ≠ '\r'

/-- Digits, `_`, digits and `.ts`. -/
def ChunkName (name ds : Text) : Prop := DottedName '.' name ds

theorem takes_digits {w : Text} {caps : Captures} :
    (Expr.plus digit).Takes w caps ↔ IsDigits w ∧ caps = [] := by
  rw [digit, takes_plus_cls, IsDigits, and_assoc]

theorem not_mem_digits {ds : Text} (h : IsDigits ds) : '_' ∉ ds := fun hm => by
  have := h.2 _ hm
  revert this
  decide

theorem isDigits_digits (n : Nat) : IsDigits (digits n) :=
  ⟨digits_ne_nil n, fun _ h => isDigit_of_mem_digits h⟩

/-- What stands behind the last `_`. -/
theorem rtakeWhile_digits (a : Text) {ds : Text} (h : IsDigits ds) :
    (a ++ '_' :: ds).rtakeWhile (· != '_') = ds := by
  have hall : ∀ c ∈ ds.reverse, (c != '_') = true := fun c hc => by
    simpa using fun he : c = '_' => not_mem_digits h (he ▸ List.mem_reverse.1 hc)
  rw [List.rtakeWhile, List.reverse_append, List.reverse_cons, List.append_assoc,
    List.takeWhile_append_of_pos hall, List.singleton_append, List.takeWhile_cons_of_neg (by simp),
    List.append_nil, List.reverse_reverse]

/-- What stands before the first `_`, and behind it. -/
theorem digits_cons_inj {a b s t : Text} (ha : IsDigits a) (hb : IsDigits b)
    (h : a ++ '_' :: s = b ++ '_' :: t) : a = b ∧ s = t := by
  have htake : ∀ {l : Text} (r : Text), IsDigits l →
      (l ++ '_' :: r).takeWhile (· != '_') = l := by
    intro l r hl
    have hall : ∀ c ∈ l, (c != '_') = true := fun c hc => by
      simpa using fun he : c = '_' => not_mem_digits hl (he ▸ hc)
    rw [List.takeWhile_append_of_pos hall, List.takeWhile_cons_of_neg (by simp), List.append_nil]
  have hab : a = b := by
    rw [← htake s ha, h, htake t hb]
  subst hab
  exact ⟨rfl, (List.cons.inj (List.append_cancel_left h)).2⟩

theorem Numbered.isDigits {name ds : Text} (h : Numbered name ds) : IsDigits ds := by
  obtain ⟨-, -, -, hd, -⟩ := h
  exact hd

theorem Numbered.eq_append {name ds : Text} (h : Numbered name ds) :
    ∃ a, name = a ++ '_' :: ds := by
  obtain ⟨segs, hne, -, -, rfl⟩ := h
  obtain ⟨init, last, rfl⟩ := List.eq_nil_or_concat segs |>.resolve_left hne
  refine ⟨init.flatMap (· ++ ['_']) ++ last, ?_⟩
  simp

/-- A name has one number. -/
theorem Numbered.unique {name ds ds' : Text} (h : Numbered name ds) (h' : Numbered name ds') :
    ds = ds' := by
  obtain ⟨a, ha⟩ := h.eq_append
  obtain ⟨b, hb⟩ := h'.eq_append
  rw [← rtakeWhile_digits a h.isDigits, ← ha, hb, rtakeWhile_digits b h'.isDigits]

/-! ## The regular expressions -/

/-- A segment of a name and its `_`. -/
theorem takes_segment {w : Text} {caps : Captures} :
    (Expr.seq (.plus (.cls (· != '_'))) (.lit '_')).Takes w caps ↔
      ∃ seg, seg ≠ [] ∧ '_' ∉ seg ∧ w = seg ++ ['_'] ∧ caps = [] := by
  simp only [takes_seq, takes_plus_cls, takes_lit]
  constructor
  · rintro ⟨u, v, b, c, ⟨hu, hall, rfl⟩, ⟨rfl, rfl⟩, rfl, rfl⟩
    exact ⟨u, hu, fun hm => by simpa using hall _ hm, rfl, rfl⟩
  · rintro ⟨seg, hne, hseg, rfl, rfl⟩
    refine ⟨seg, ['_'], [], [], ⟨hne, fun c hc => ?_, rfl⟩, ⟨rfl, rfl⟩, rfl, rfl⟩
    simpa using fun he : c = '_' => hseg (he ▸ hc)

/-- The segments of a name. -/
theorem takes_segments {w : Text} :
    (∃ caps, (Expr.plus (.group 1 (.seq (.plus (.cls (· != '_'))) (.lit '_')))).Takes w caps) ↔
      ∃ segs : List Text, segs ≠ [] ∧ (∀ seg ∈ segs, seg ≠ [] ∧ '_' ∉ seg) ∧
        w = segs.flatMap (· ++ ['_']) := by
  constructor
  · rintro ⟨caps, h⟩
    obtain ⟨ms, hne, hms, rfl, -⟩ := takes_plus.1 h
    have hsegs : ∀ m ∈ ms, ∃ seg : Text, seg ≠ [] ∧ '_' ∉ seg ∧ m.1 = seg ++ ['_'] := by
      intro m hm
      obtain ⟨b, hb, -⟩ := takes_group.1 (hms m hm)
      obtain ⟨seg, h1, h2, h3, -⟩ := takes_segment.1 hb
      exact ⟨seg, h1, h2, h3⟩
    refine ⟨ms.map fun m => m.1.dropLast, by simpa using hne, ?_, ?_⟩
    · intro seg hseg
      obtain ⟨m, hm, rfl⟩ := List.mem_map.1 hseg
      obtain ⟨seg, h1, h2, h3⟩ := hsegs m hm
      rw [h3, List.dropLast_concat]
      exact ⟨h1, h2⟩
    · rw [List.flatMap_map]
      refine List.flatMap_congr fun m hm => ?_
      obtain ⟨seg, -, -, h3⟩ := hsegs m hm
      rw [h3, List.dropLast_concat]
  · rintro ⟨segs, hne, hsegs, rfl⟩
    refine ⟨_, takes_plus.2 ⟨segs.map fun seg => (seg ++ ['_'], [(1, seg ++ ['_'])]),
      by simpa using hne, ?_, ?_, rfl⟩⟩
    · intro m hm
      obtain ⟨seg, hseg, rfl⟩ := List.mem_map.1 hm
      obtain ⟨h1, h2⟩ := hsegs seg hseg
      exact takes_group.2 ⟨[], takes_segment.2 ⟨seg, h1, h2, rfl, rfl⟩, rfl⟩
    · rw [List.flatMap_map]

/-- The number of a name is what the second group captures. -/
theorem takes_digitEnd_iff {w ds : Text} :
    (∃ caps, digitEnd.Takes w caps ∧ str caps 2 = ds) ↔ Numbered w ds := by
  constructor
  · rintro ⟨caps, h, rfl⟩
    obtain ⟨u, v, b, c, hu, hv, rfl, rfl⟩ := takes_seq.1 h
    obtain ⟨d, hd, rfl⟩ := takes_group.1 hv
    obtain ⟨segs, hne, hsegs, rfl⟩ := takes_segments.1 ⟨b, hu⟩
    exact ⟨segs, hne, hsegs, (takes_digits.1 hd).1, rfl⟩
  · rintro ⟨segs, hne, hsegs, hd, rfl⟩
    obtain ⟨b, hb⟩ := takes_segments.2 ⟨segs, hne, hsegs, rfl⟩
    exact ⟨_, .seq hb (takes_group.2 ⟨[], takes_digits.2 ⟨hd, rfl⟩, rfl⟩), rfl⟩

/-- What `chunkIndex` takes: any character stands where the dot of `.ts` is meant. -/
theorem takes_chunkIndex_iff {w : Text} {caps : Captures} :
    chunkIndex.Takes w caps ↔ ∃ c ds, IsAnyChar c ∧ DottedName c w ds ∧ caps = [(1, ds)] := by
  have htail : ∀ {v : Text} {b : Captures},
      (Expr.seq anyChar (.seq (.lit 't') (.lit 's'))).Takes v b ↔
        ∃ c, IsAnyChar c ∧ v = [c, 't', 's'] ∧ b = [] := by
    intro v b
    simp [anyChar, takes_cls_seq, takes_lit_seq, takes_lit, IsAnyChar]
  constructor
  · intro h
    obtain ⟨a, _, _, _, hfirst, hrest, rfl, rfl⟩ := takes_seq.1 h
    obtain ⟨_, rfl, hindex⟩ := takes_lit_seq.1 hrest
    obtain ⟨ds, _, _, _, hgroup, hsuffix, rfl, rfl⟩ := takes_seq.1 hindex
    obtain ⟨_, hnumber, rfl⟩ := takes_group.1 hgroup
    obtain ⟨c, hc, rfl, rfl⟩ := htail.1 hsuffix
    obtain ⟨ha, rfl⟩ := takes_digits.1 hfirst
    obtain ⟨hd, rfl⟩ := takes_digits.1 hnumber
    exact ⟨c, ds, hc, ⟨a, ha, hd, rfl⟩, rfl⟩
  · rintro ⟨c, ds, hc, ⟨a, ha, hd, rfl⟩, rfl⟩
    have hgroup : (Expr.group 1 (.plus digit)).Takes ds [(1, ds)] :=
      .group (takes_digits.2 ⟨hd, rfl⟩)
    exact .seq (takes_digits.2 ⟨ha, rfl⟩)
      (takes_lit_seq.2 ⟨_, rfl, .seq hgroup (htail.2 ⟨c, hc, rfl, rfl⟩)⟩)

/-! ## Elements and pads -/

section
variable {α : Type} {convertFromString : Text → Option α} {name ds : Text}

theorem getId_numbered (h : Numbered name ds) (old : α) :
    getId convertFromString name (some old) = (true, some ((convertFromString ds).getD old)) := by
  obtain ⟨caps, hcaps, hds⟩ := takes_digitEnd_iff.2 h
  have hunique : ∀ b, digitEnd.Takes name b → str b 2 = ds := fun b hb =>
    (takes_digitEnd_iff.1 ⟨b, hb, rfl⟩).unique h
  obtain ⟨b, hb, hstr⟩ := fullMatch_str hcaps hunique
  simp only [getId, hb, hstr]
  cases convertFromString ds <;> rfl

theorem getId_not_numbered (h : ∀ ds, ¬ Numbered name ds) (old : α) :
    getId convertFromString name (some old) = (false, some old) := by
  have hnone : digitEnd.fullMatch name = none :=
    fullMatch_eq_none fun caps hcaps => h _ (takes_digitEnd_iff.1 ⟨caps, hcaps, rfl⟩)
  simp only [getId, hnone]

/-- `get` returns true exactly for the names whose number has a value of the type, and then stores
this value. -/
structure ReadsId (get : Text → Option α → Bool × Option α) (value : Nat → Option α)
    (name : Text) : Prop where
  returns : ∀ old, (get name (some old)).1 = true ↔
    ∃ ds, Numbered name ds ∧ (value (digitsValue ds)).isSome
  stores : ∀ old ds v, Numbered name ds → value (digitsValue ds) = some v →
    (get name (some old)).2 = some v

/-- True is also returned where the number has no value of the type. -/
theorem getId_reads_iff [Inhabited α] {value : Nat → Option α}
    (hconvert : ∀ ds, IsDigits ds → convertFromString ds = value (digitsValue ds)) :
    ReadsId (getId convertFromString) value name ↔
      ∀ ds, Numbered name ds → (value (digitsValue ds)).isSome := by
  constructor
  · intro h ds hds
    have htrue : (getId convertFromString name (some default)).1 = true := by
      rw [getId_numbered hds]
    obtain ⟨ds', hds', hv⟩ := (h.returns default).1 htrue
    rwa [hds.unique hds']
  · intro h
    constructor
    · intro old
      constructor
      · intro htrue
        by_contra hno
        have hnone : ∀ ds, ¬ Numbered name ds := fun ds hds => hno ⟨ds, hds, h ds hds⟩
        rw [getId_not_numbered hnone] at htrue
        cases htrue
      · rintro ⟨ds, hds, -⟩
        rw [getId_numbered hds]
    · intro old ds v hds hv
      rw [getId_numbered hds, hconvert ds hds.isDigits, hv]
      rfl

end

/-- The numbers of `element_id_t`. -/
def elementIdOf (n : Nat) : Option Nat := if n < 2 ^ 64 then some n else none

/-- The numbers of `int`. -/
def padIdOf (n : Nat) : Option Int := if n < 2 ^ 31 then some n else none

/-! ## Templates -/

/-- The segments of a template. -/
def segments (template : Text) : List Text := (template.splitOn '_').dropLast

theorem segments_spec : ∀ template ∈ elementNameTemplates, segments template ≠ [] ∧
    (∀ seg ∈ segments template, seg ≠ [] ∧ '_' ∉ seg ∧ '%' ∉ seg) ∧
    template = (segments template).flatMap (· ++ ['_']) ++ ['%', 'l', 'u'] := by
  decide +kernel

/-- The templates of the builders, up to their `%lu`. -/
theorem segments_text_spec : ∀ t ∈ Builders.Template.all, segments t.text.toList ≠ [] ∧
    (∀ seg ∈ segments t.text.toList, seg ≠ [] ∧ '_' ∉ seg) ∧
    t.text.toList = (segments t.text.toList).flatMap (· ++ ['_']) := by
  decide +kernel

/-- A template expands to a name with the number. -/
theorem numbered_template {template : Text} (ht : template ∈ elementNameTemplates) (n : Nat) :
    Numbered (printf template [.ulong n]) (digits n) := by
  obtain ⟨hne, hsegs, he⟩ := segments_spec template ht
  refine ⟨segments template, hne, fun seg hseg => ?_, isDigits_digits n, ?_⟩
  · exact ⟨(hsegs seg hseg).1, (hsegs seg hseg).2.1⟩
  · have hpercent : '%' ∉ (segments template).flatMap (· ++ ['_']) := by
      intro hm
      obtain ⟨seg, hseg, hm⟩ := List.mem_flatMap.1 hm
      rcases List.mem_append.1 hm with hm | hm
      · exact (hsegs seg hseg).2.2 hm
      · revert hm
        decide
    conv_lhs => rw [he, printf_append hpercent, printf_lu, printf_nil, List.append_nil]

section
variable {cv : Convert} (hcv : cv.Lawful)
include hcv

theorem toUInt64_elementIdOf (ds : Text) (hd : IsDigits ds) :
    cv.toUInt64 ds = elementIdOf (digitsValue ds) :=
  hcv.toUInt64_digits ds hd

theorem toInt_padIdOf (ds : Text) (hd : IsDigits ds) : cv.toInt ds = padIdOf (digitsValue ds) :=
  hcv.toInt_digits ds hd

theorem getElementId_numbered {name : Text} {n : Nat} (h : Numbered name (digits n))
    (hn : n < 2 ^ 64) (old : Nat) : getElementId cv name (some old) = (true, some n) := by
  rw [getElementId, getId_numbered h, toUInt64_elementIdOf hcv _ h.isDigits, digitsValue,
    value_digits, elementIdOf, if_pos hn]
  rfl

/-- The element of a builder is found by its number. -/
theorem getElementId_memSPrintf (t : Builders.Template) {n : Nat} (hn : n < 2 ^ 64) (old : Nat) :
    getElementId cv (Builders.memSPrintf t n).toList (some old) = (true, some n) := by
  obtain ⟨hne, hall, he⟩ := segments_text_spec t t.mem_all
  refine getElementId_numbered hcv ⟨_, hne, hall, isDigits_digits n, ?_⟩ hn old
  rw [← he, Builders.memSPrintf, String.toList_append, String.toList_ofList, digits]

/-- `GetElementId` and `GetPadId` read the ids of exactly the names whose number fits their type,
the expansions of the templates among them. -/
theorem getElementId_getPadId_iff :
    (∀ name, ReadsId (getElementId cv) elementIdOf name ↔
      ∀ ds, Numbered name ds → digitsValue ds < 2 ^ 64) ∧
    (∀ name, ReadsId (getPadId cv) padIdOf name ↔
      ∀ ds, Numbered name ds → digitsValue ds < 2 ^ 31) ∧
    ∀ template ∈ elementNameTemplates, ∀ n < 2 ^ 64,
      (∀ old, getElementId cv (printf template [.ulong n]) (some old) = (true, some n)) ∧
      ((∀ old, getPadId cv (printf template [.ulong n]) (some old) = (true, some (n : Int))) ↔
        n < 2 ^ 31) := by
  have helement : ∀ n, (elementIdOf n).isSome ↔ n < 2 ^ 64 := fun n => by
    rw [elementIdOf]
    split <;> simp_all
  have hpad : ∀ n, (padIdOf n).isSome ↔ n < 2 ^ 31 := fun n => by
    rw [padIdOf]
    split <;> simp_all
  refine ⟨fun name => ?_, fun name => ?_, fun template ht n hn => ⟨fun old => ?_, ?_⟩⟩
  · simp only [← helement]
    exact getId_reads_iff (toUInt64_elementIdOf hcv)
  · simp only [← hpad]
    exact getId_reads_iff (toInt_padIdOf hcv)
  · exact getElementId_numbered hcv (numbered_template ht n) hn old
  · have hget : ∀ old, getPadId cv (printf template [.ulong n]) (some old) =
        (true, some ((padIdOf n).getD old)) := fun old => by
      rw [getPadId, getId_numbered (numbered_template ht n),
        toInt_padIdOf hcv _ (isDigits_digits n), digitsValue, value_digits]
    simp only [hget, Prod.mk.injEq, true_and, Option.some.injEq]
    constructor
    · intro h
      by_contra hlarge
      have := h (-1)
      rw [padIdOf, if_neg hlarge, Option.getD_none] at this
      omega
    · intro hsmall old
      rw [padIdOf, if_pos hsmall, Option.getD_some]

end

theorem getElementId_getPadId_decimal :
    (∀ name, ReadsId (getElementId decimalConvert) elementIdOf name ↔
      ∀ ds, Numbered name ds → digitsValue ds < 2 ^ 64) ∧
    (∀ name, ReadsId (getPadId decimalConvert) padIdOf name ↔
      ∀ ds, Numbered name ds → digitsValue ds < 2 ^ 31) ∧
    ∀ template ∈ elementNameTemplates, ∀ n < 2 ^ 64,
      (∀ old, getElementId decimalConvert (printf template [.ulong n]) (some old) =
        (true, some n)) ∧
      ((∀ old, getPadId decimalConvert (printf template [.ulong n]) (some old) =
        (true, some (n : Int))) ↔ n < 2 ^ 31) :=
  getElementId_getPadId_iff decimalConvert_lawful

/-- A number that is too large: the result is true, and nothing is stored. -/
theorem getElementId_too_large :
    getElementId decimalConvert "udv_18446744073709551616".toList (some 7) = (true, some 7) ∧
    getPadId decimalConvert "udv_2147483648".toList (some 7) = (true, some 7) ∧
    ¬ ∀ name, ReadsId (getElementId decimalConvert) elementIdOf name ∧
      ReadsId (getPadId decimalConvert) padIdOf name := by
  refine ⟨by decide +kernel, by decide +kernel, fun h => ?_⟩
  have hnumbered : Numbered "udv_18446744073709551616".toList "18446744073709551616".toList :=
    ⟨["udv".toList], by decide, by decide +kernel, isDigits_iff.2 (by decide +kernel),
      by decide +kernel⟩
  have hsome := (getId_reads_iff (toUInt64_elementIdOf decimalConvert_lawful)).1 (h _).1 _ hnumbered
  revert hsome
  decide +kernel

/-! ## Http chunks -/

theorem DottedName.unique {c c' : Char} {name ds ds' : Text} (h : DottedName c name ds)
    (h' : DottedName c' name ds') : c = c' ∧ ds = ds' := by
  obtain ⟨a, ha, -, he⟩ := h
  obtain ⟨b, hb, -, he'⟩ := h'
  obtain ⟨-, hrest⟩ := digits_cons_inj ha hb (he.symm.trans he')
  obtain ⟨hds, hc⟩ := List.append_inj' hrest rfl
  exact ⟨(List.cons.inj hc).1, hds⟩

section
variable {cv : Convert} {name ds : Text} {c : Char}

theorem getIndex_dotted (hc : IsAnyChar c) (h : DottedName c name ds) (old : Nat) :
    getIndexFromHttpTsTemplate cv name (some old) =
      ((cv.toUInt64 ds).isSome, some ((cv.toUInt64 ds).getD old)) := by
  have htakes : chunkIndex.Takes name [(1, ds)] := takes_chunkIndex_iff.2 ⟨c, ds, hc, h, rfl⟩
  have hunique : ∀ b, chunkIndex.Takes name b → str b 1 = ds := by
    intro b hb
    obtain ⟨c', ds', -, hds', rfl⟩ := takes_chunkIndex_iff.1 hb
    exact (hds'.unique h).2
  obtain ⟨b, hb, hstr⟩ := fullMatch_str htakes hunique
  simp only [getIndexFromHttpTsTemplate, hb, hstr]
  cases cv.toUInt64 ds <;> rfl

theorem getIndex_not_dotted (h : ∀ c ds, IsAnyChar c → ¬ DottedName c name ds) (old : Nat) :
    getIndexFromHttpTsTemplate cv name (some old) = (false, some old) := by
  have hnone : chunkIndex.fullMatch name = none := by
    apply fullMatch_eq_none
    intro caps hcaps
    obtain ⟨c, ds, hc, hds, -⟩ := takes_chunkIndex_iff.1 hcaps
    exact h c ds hc hds
  simp only [getIndexFromHttpTsTemplate, hnone]

/-- The template of a timestamp expands to a chunk name with the index. -/
theorem chunkName_template (msec : Int64) (k : Nat) :
    ChunkName (printf (genHttpTsTemplate msec) [.int k]) (padded 5 k) := by
  have htemplate : genHttpTsTemplate msec =
      digits msec.toUInt64.toNat ++ ('_' :: tsTemplate) := by
    have hformat : "%lu_%s".toList = ['%', 'l', 'u', '_', '%', 's'] := by decide
    show printf "%lu_%s".toList [.ulong msec.toUInt64.toNat, .str tsTemplate] = _
    rw [hformat, printf_lu, printf_cons (by decide), printf_s, printf_nil, List.append_nil]
  have htail : printf ('_' :: tsTemplate) [.int (k : Int)] =
      '_' :: (padded 5 (k : Int) ++ ['.', 't', 's']) := by
    have he : tsTemplate = ['%', '0', '5', 'd', '.', 't', 's'] := by decide
    rw [he, printf_cons (by decide), printf_zero_d, printf_literal (by decide)]
    rfl
  refine ⟨digits msec.toUInt64.toNat, isDigits_digits _, ?_, ?_⟩
  · exact ⟨padded_ne_nil 5 k, fun c hc => isDigit_of_mem_padded hc⟩
  · rw [htemplate, printf_append (notMem_digits (by decide)), htail]

/-- True is returned exactly for the chunk names whose index fits `uint64_t`, and then the index is
stored. -/
structure ReadsIndex (cv : Convert) (name : Text) : Prop where
  returns : ∀ old, (getIndexFromHttpTsTemplate cv name (some old)).1 = true ↔
    ∃ ds, ChunkName name ds ∧ digitsValue ds < 2 ^ 64
  stores : ∀ old ds, ChunkName name ds → digitsValue ds < 2 ^ 64 →
    (getIndexFromHttpTsTemplate cv name (some old)).2 = some (digitsValue ds)

section
variable (hcv : cv.Lawful)
include hcv

/-- What the function returns for a text that `chunkIndex` matches. -/
theorem getIndex_returns (hc : IsAnyChar c) (h : DottedName c name ds) (old : Nat) :
    (getIndexFromHttpTsTemplate cv name (some old)).1 = true ↔ digitsValue ds < 2 ^ 64 := by
  obtain ⟨a, ha, hd, he⟩ := h
  rw [getIndex_dotted hc ⟨a, ha, hd, he⟩, hcv.toUInt64_digits ds hd, ← digitsValue]
  split <;> simp_all

theorem readsIndex_iff : ReadsIndex cv name ↔ ¬ ∃ c ds, IsAnyChar c ∧ c ≠ '.' ∧
    DottedName c name ds ∧ digitsValue ds < 2 ^ 64 := by
  have hdot : IsAnyChar '.' := ⟨by decide, by decide⟩
  constructor
  · rintro h ⟨c, ds, hc, hne, hds, hv⟩
    obtain ⟨ds', hds', -⟩ := (h.returns 0).1 ((getIndex_returns hcv hc hds 0).2 hv)
    exact hne (DottedName.unique hds hds').1
  · intro h
    constructor
    · intro old
      constructor
      · intro htrue
        by_cases hex : ∃ c ds, IsAnyChar c ∧ DottedName c name ds
        · obtain ⟨c, ds, hc, hds⟩ := hex
          have hv := (getIndex_returns hcv hc hds old).1 htrue
          have hcdot : c = '.' := by
            by_contra hne
            exact h ⟨c, ds, hc, hne, hds, hv⟩
          subst hcdot
          exact ⟨ds, hds, hv⟩
        · have hnone : ∀ c ds, IsAnyChar c → ¬ DottedName c name ds := fun c ds hc hds =>
            hex ⟨c, ds, hc, hds⟩
          rw [getIndex_not_dotted hnone] at htrue
          cases htrue
      · rintro ⟨ds, hds, hv⟩
        exact (getIndex_returns hcv hdot hds old).2 hv
    · intro old ds hds hv
      obtain ⟨a, ha, hd, he⟩ := hds
      rw [getIndex_dotted hdot ⟨a, ha, hd, he⟩, hcv.toUInt64_digits ds hd, ← digitsValue, if_pos hv,
        Option.getD_some]

/-- The index is read from exactly the texts that have a dot where the regular expression lets any
character pass, the names of the template among them. -/
theorem getIndexFromHttpTsTemplate_iff :
    (∀ name, ReadsIndex cv name ↔ ¬ ∃ c ds, IsAnyChar c ∧ c ≠ '.' ∧ DottedName c name ds ∧
      digitsValue ds < 2 ^ 64) ∧
    ∀ (msec : Int64) (k old : Nat), k < 2 ^ 31 →
      getIndexFromHttpTsTemplate cv (printf (genHttpTsTemplate msec) [.int k]) (some old) =
        (true, some k) := by
  refine ⟨fun name => readsIndex_iff hcv, fun msec k old hk => ?_⟩
  obtain ⟨a, ha, hd, he⟩ := chunkName_template msec k
  have hvalue : digitsValue (padded 5 k) = k := value_padded 5 k
  have hlt : k < 2 ^ 64 := by omega
  rw [getIndex_dotted (c := '.') ⟨by decide, by decide⟩ ⟨a, ha, hd, he⟩,
    hcv.toUInt64_digits _ hd, ← digitsValue, hvalue, if_pos hlt]
  rfl

end

end

theorem getIndexFromHttpTsTemplate_decimal :
    (∀ name, ReadsIndex decimalConvert name ↔ ¬ ∃ c ds, IsAnyChar c ∧ c ≠ '.' ∧
      DottedName c name ds ∧ digitsValue ds < 2 ^ 64) ∧
    ∀ (msec : Int64) (k old : Nat), k < 2 ^ 31 →
      getIndexFromHttpTsTemplate decimalConvert (printf (genHttpTsTemplate msec) [.int k])
        (some old) = (true, some k) :=
  getIndexFromHttpTsTemplate_iff decimalConvert_lawful

/-- The dot of the suffix is any character. -/
theorem getIndexFromHttpTsTemplate_other_suffix :
    getIndexFromHttpTsTemplate decimalConvert "1_2xts".toList (some 7) = (true, some 2) ∧
    ¬ ∀ name, ReadsIndex decimalConvert name := by
  refine ⟨by decide +kernel, fun h => ?_⟩
  have hdotted : DottedName 'x' "1_2xts".toList ['2'] :=
    ⟨['1'], isDigits_iff.2 (by decide), isDigits_iff.2 (by decide), by decide +kernel⟩
  exact (readsIndex_iff decimalConvert_lawful).1 (h _)
    ⟨'x', ['2'], ⟨by decide, by decide⟩, by decide, hdotted, by decide +kernel⟩

end IptvCloud.Streams
