import IptvCloud.Utils.Proof.M3u8Lines

/-!
# A written playlist is read back

`parse_write`: the reader accepts the text of the writer and returns the chunks' paths and indices
in order, if the paths are the chunk names of the indices, the first index and the target duration
fit an `int` and every index a `uint64_t`; `roundTrip_iff` is the exact condition. The reader steps
back to the first line that is no header line (`seekBack`): the line of the first chunk, or the
newline before the footer of an empty list.
-/

namespace IptvCloud.M3u8

open Stdio

/-! ## The lines of the writer -/

theorem isDigits_llu (n : Nat) : IsDigits (llu n) :=
  ⟨Nat.toDigits_ne_nil, fun _ hc => Nat.isDigit_of_mem_toDigits (by decide) (by decide) hc⟩

theorem length_llu {n : Nat} (h : n < 2 ^ 64) : (llu n).length ≤ 20 :=
  (Nat.length_toDigits_le_iff (by decide) (by decide)).2 (by omega)

/-- A character of the playlist: neither white space nor NUL. -/
def visible (c : Char) : Bool := !isspace c && c != '\x00'

theorem visible_of_isDigit {c : Char} (h : c.isDigit) : visible c = true := by
  have hnul : c ≠ '\x00' := by
    rintro rfl
    exact absurd h (by decide)
  simp [visible, isspace_of_isDigit h, hnul]

theorem IsDigits.visible {t : Text} (h : IsDigits t) : t.all M3u8.visible = true :=
  List.all_eq_true.2 fun c hc => visible_of_isDigit (h.2 c hc)

theorem clean_of {l : Text} (hn : l ≠ []) (hv : l.all visible = true) (hl : l.length ≤ 253) :
    Clean maxLine l := by
  have hc : ∀ c ∈ l, isspace c = false ∧ c ≠ '\x00' := fun c hm => by
    simpa [visible] using List.all_eq_true.1 hv c hm
  exact ⟨hn, fun c hm => (hc c hm).1, fun hm => (hc _ hm).2 rfl, by unfold maxLine; omega⟩

theorem clean_number {pre : Text} (hv : pre.all visible = true) (hl : pre.length ≤ 100) {n : Nat}
    (h : n < 2 ^ 64) : Clean maxLine (pre ++ llu n) := by
  refine clean_of ?_ ?_ ?_
  · exact fun hc => (isDigits_llu n).1 (List.append_eq_nil_iff.1 hc).2
  · rw [List.all_append, hv, (isDigits_llu n).visible, Bool.and_self]
  · have := length_llu h
    rw [List.length_append]
    omega

theorem clean_tsName {n : Nat} (h : n < 2 ^ 64) : Clean maxLine (tsName n) := by
  have hv : (tsName n).all visible = true := by
    rw [tsName, List.all_append, show (Nat.toDigits 10 n).all visible = true from
      (isDigits_llu n).visible]
    rfl
  have hlen : (Nat.toDigits 10 n).length ≤ 20 := length_llu h
  refine clean_of (by simp [tsName]) hv ?_
  simp [tsName]
  omega

/-- The whole seconds of a `uint64_t` number of nanoseconds have at most twenty digits. -/
theorem seconds_lt (chunk : ChunkInfo) :
    Binary64.hundredths (getDurationInSecconds chunk) / 100 < 10 ^ 20 := by
  have hd : (u64 chunk.duration : ℚ) ≤ 2 ^ 64 := by
    exact_mod_cast (Nat.mod_lt chunk.duration (by decide : 0 < 2 ^ 64)).le
  have h0 : (0 : ℚ) ≤ u64 chunk.duration := Nat.cast_nonneg _
  have hdiv : Binary64.round (u64 chunk.duration) / 1000000000 ≤ 2 ^ 65 := by
    have := Binary64.round_le h0
    rw [div_le_iff₀ (by norm_num)]
    linarith
  have hsec : getDurationInSecconds chunk ≤ (2 ^ 66 : Nat) := by
    have := Binary64.round_le (div_nonneg (Binary64.round_nonneg h0)
      (by norm_num : (0 : ℚ) ≤ 1000000000))
    unfold getDurationInSecconds
    push_cast
    linarith
  have := Binary64.hundredths_le hsec
  omega

theorem isDigits_two (h : Nat) :
    IsDigits [Nat.digitChar (h / 10 % 10), Nat.digitChar (h % 10)] := by
  refine ⟨List.cons_ne_nil _ _, fun c hc => ?_⟩
  have hdigit : ∀ n < 10, (Nat.digitChar n).isDigit := by decide
  simp only [List.mem_cons, List.not_mem_nil, or_false] at hc
  rcases hc with rfl | rfl
  · exact hdigit _ (Nat.mod_lt _ (by decide))
  · exact hdigit _ (Nat.mod_lt _ (by decide))

/-- `%.2f` of a duration: digits, the point, two digits. -/
theorem fixed2_split (chunk : ChunkInfo) : ∃ a b,
    Binary64.fixed2 (getDurationInSecconds chunk) = a ++ '.' :: b ∧ IsDigits a ∧ IsDigits b ∧
      a.length ≤ 20 ∧ b.length = 2 := by
  have hlen := (Nat.length_toDigits_le_iff (b := 10) (by decide) (by decide)).2 (seconds_lt chunk)
  unfold Binary64.fixed2
  generalize Binary64.hundredths (getDurationInSecconds chunk) = h at hlen ⊢
  exact ⟨_, _, rfl, isDigits_llu _, isDigits_two h, hlen, rfl⟩

theorem clean_chunkHeader (chunk : ChunkInfo) : Clean maxLine (chunkHeader chunk) := by
  obtain ⟨a, b, hab, ha, hb, hal, hbl⟩ := fixed2_split chunk
  refine clean_of (List.append_ne_nil_of_right_ne_nil _ (List.cons_ne_nil _ _)) ?_ ?_
  · unfold chunkHeader
    rw [hab]
    rw [List.all_append, List.all_append, List.all_append, List.all_cons, ha.visible, hb.visible]
    decide
  · have hpre : "#EXTINF:".toList.length = 8 := by decide
    unfold chunkHeader
    rw [hab, List.length_append, List.length_append, List.length_append, hpre, List.length_cons,
      hbl, List.length_singleton]
    omega

/-- A chunk's header line starts unlike every other line of the playlist. -/
theorem chunkHeader_eq (chunk : ChunkInfo) : ∃ t, chunkHeader chunk = "#EXTINF:".toList ++ t :=
  ⟨_, List.append_assoc _ _ _⟩

/-! ## The regular expressions -/

theorem matchChunkHeader_chunkHeader (chunk : ChunkInfo) :
    matchChunkHeader (chunkHeader chunk) =
      some (Binary64.fixed2 (getDurationInSecconds chunk)) := by
  obtain ⟨a, b, hab, ha, hb, -, -⟩ := fixed2_split chunk
  refine matchChunkHeader_iff.2 ⟨rfl, ?_⟩
  rw [hab]
  refine ⟨by simp, fun c hc => ?_⟩
  rcases List.mem_append.1 hc with hc | hc
  · exact .inl (ha.2 c hc)
  · exact (List.mem_cons.1 hc).elim .inr fun hc => .inl (hb.2 c hc)

theorem matchChunk_tsName (n : Nat) : matchChunk (tsName n) = some (llu n) :=
  matchChunk_iff.2 ⟨[], rfl, by simp, by simp, isDigits_llu n⟩

/-! ## The conversions -/

section
variable {cv : Convert} (hcv : cv.Lawful)
include hcv

theorem toInt_llu {n : Nat} (h : n < 2 ^ 31) : cv.toInt (llu n) = some (n : Int) := by
  have hn : Nat.ofDigitChars 10 (llu n) 0 = n := Nat.ofDigitChars_ten_toDigits
  rw [hcv.toInt_digits _ (isDigits_llu n), hn, if_pos h]

theorem toInt_llu_large {n : Nat} (h : 2 ^ 31 ≤ n) : cv.toInt (llu n) = none := by
  have hn : Nat.ofDigitChars 10 (llu n) 0 = n := Nat.ofDigitChars_ten_toDigits
  rw [hcv.toInt_digits _ (isDigits_llu n), hn, if_neg (by omega)]

theorem toUInt64_llu {n : Nat} (h : n < 2 ^ 64) : cv.toUInt64 (llu n) = some n := by
  have hn : Nat.ofDigitChars 10 (llu n) 0 = n := Nat.ofDigitChars_ten_toDigits
  rw [hcv.toUInt64_digits _ (isDigits_llu n), hn, if_pos h]

theorem toDouble_fixed2 (chunk : ChunkInfo) :
    ∃ d, cv.toDouble (Binary64.fixed2 (getDurationInSecconds chunk)) = some d := by
  obtain ⟨a, b, hab, ha, hb, hal, hbl⟩ := fixed2_split chunk
  rw [hab]
  exact Option.isSome_iff_exists.1 (hcv.toDouble_fraction a b ha hb hal (by omega))

end

/-! ## The chunks -/

section
variable {l : Text} (h : Clean maxLine l)
include h

theorem isBlank_clean : isBlank l = false := by
  obtain ⟨c, hc⟩ := List.exists_mem_of_ne_nil l h.ne_nil
  rw [isBlank, cstr_self h.not_nul, List.all_eq_false]
  exact ⟨c, hc, by simp [h.not_space c hc]⟩

theorem isBlank_line : isBlank (line l) = false := by
  obtain ⟨c, hc⟩ := List.exists_mem_of_ne_nil l h.ne_nil
  rw [isBlank, line, cstr_append_newline h.not_nul, List.all_eq_false]
  exact ⟨c, List.mem_append_left _ hc, by simp [h.not_space c hc]⟩

theorem removeTrailingSpaces_clean : removeTrailingSpaces l = l := by
  rw [removeTrailingSpaces, cstr_self h.not_nul, h.rdropWhile_self]

theorem removeTrailingSpaces_line : removeTrailingSpaces (line l) = l := by
  rw [removeTrailingSpaces, line, cstr_append_newline h.not_nul, h.rdropWhile_newline]

theorem fgetsLines_line_append (rest : Text) :
    fgetsLines maxLine (line l ++ rest) = line l :: fgetsLines maxLine rest := by
  rw [line, List.append_assoc, List.singleton_append]
  exact fgetsLines_line h.not_newline h.short rest

theorem nonEmptyLines_line_append (rest : Text) :
    nonEmptyLines (line l ++ rest) = line l :: nonEmptyLines rest := by
  rw [nonEmptyLines, fgetsLines_line_append h, List.filter_cons_of_pos (by simp [isBlank_line h])]
  rfl

end

theorem clean_footer : Clean maxLine writeFooter :=
  clean_of (by decide) (by decide) (by decide)

theorem nonEmptyLines_footer : nonEmptyLines writeFooter = [writeFooter] := by
  rw [nonEmptyLines, fgetsLines_last clean_footer]
  rfl

/-- The path and the index of a chunk: what a playlist lists of it. -/
def entry (chunk : ChunkInfo) : Text × Nat := (chunk.path, chunk.index)

/-- Chunks named by their index. -/
def Named (cs : List ChunkInfo) : Prop := ∀ c ∈ cs, c.path = tsName c.index ∧ c.index < 2 ^ 64

/-- `ParseChunks` reads the written lines up to the footer. -/
theorem parseChunks_lines {cv : Convert} (hcv : cv.Lawful) {cs : List ChunkInfo} {r : M3u8Reader}
    (hn : Named cs) :
    ∃ chunks, parseChunks cv (nonEmptyLines (cs.flatMap writeLine ++ writeFooter)) r =
      (true, { r with chunks := r.chunks ++ chunks }) ∧ chunks.map entry = cs.map entry := by
  induction cs generalizing r with
  | nil =>
    refine ⟨[], ?_, rfl⟩
    rw [List.flatMap_nil, List.nil_append, nonEmptyLines_footer, List.append_nil, parseChunks,
      removeTrailingSpaces_clean clean_footer, beq_self_eq_true]
  | cons c cs ih =>
    obtain ⟨⟨hpath, hlt⟩, hcs⟩ := List.forall_mem_cons.1 hn
    have hclean : Clean maxLine c.path := hpath ▸ clean_tsName hlt
    obtain ⟨d, hd⟩ := toDouble_fixed2 hcv c
    have hfoot : chunkHeader c ≠ writeFooter := fun he => by
      obtain ⟨t, ht⟩ := chunkHeader_eq c
      rw [ht] at he
      exact absurd (congrArg (·[4]?) he) (show ¬ some 'I' = some '-' by decide)
    obtain ⟨chunks, hr, hent⟩ := ih hcs (r := { r with
      chunks := r.chunks ++ [⟨c.path, cv.ofDouble (Binary64.round (d * 1000000000)), c.index⟩] })
    refine ⟨⟨c.path, cv.ofDouble (Binary64.round (d * 1000000000)), c.index⟩ :: chunks, ?_, ?_⟩
    · rw [List.flatMap_cons, writeLine, List.append_assoc, List.append_assoc,
        nonEmptyLines_line_append (clean_chunkHeader c), nonEmptyLines_line_append hclean,
        parseChunks, removeTrailingSpaces_line (clean_chunkHeader c),
        removeTrailingSpaces_line hclean, if_neg hfoot, matchChunkHeader_chunkHeader,
        Option.bind_some, hd]
      simp only [hpath, matchChunk_tsName, Option.bind_some, toUInt64_llu hcv hlt] at hr ⊢
      rw [hr]
      simp
    · simp [entry, hent]

/-! ## The header -/

theorem readHeaderLine_version_three {cv : Convert} (hcv : cv.Lawful) (r : M3u8Reader) :
    readHeaderLine cv "#EXT-X-VERSION:3".toList r = .next { r with version := 3 } := by
  have hread := readHeaderLine_version cv (isDigits_llu 3) r
  rw [toInt_llu hcv (n := 3) (by decide), storeNumber] at hread
  exact hread

theorem readHeaderLine_chunkHeader (cv : Convert) (chunk : ChunkInfo) (r : M3u8Reader) :
    readHeaderLine cv (chunkHeader chunk) r = .notHeader := by
  obtain ⟨t, ht⟩ := chunkHeader_eq chunk
  rw [ht]
  exact readHeaderLine_extinf cv t r

/-! ## The file -/

/-- The position after a line, less the length of the line and one. -/
theorem seekBack_line (pre l rest : Text) :
    seekBack (pre ++ (line l ++ rest)) (pre.length + (line l).length) l.length =
      line l ++ rest := by
  have hlen : (line l).length = l.length + 1 := by simp [line]
  rw [seekBack, if_pos (by omega), show pre.length + (line l).length - l.length - 1 = pre.length by
    omega, List.drop_left]

section
variable {cv : Convert} {l : Text} (h : Clean maxLine l) {r r' : M3u8Reader}
include h

/-- `ParseFile` goes over a header line. -/
theorem go_next (hl : readHeaderLine cv l r = .next r') (text rest : Text) (off : Nat) :
    parseFile.go cv text (fgetsLines maxLine (line l ++ rest)) off r =
      parseFile.go cv text (fgetsLines maxLine rest) (off + (line l).length) r' := by
  rw [fgetsLines_line_append h, parseFile.go, isBlank_line h, removeTrailingSpaces_line h, hl]
  rfl

/-- `ParseFile` gives up at a header line it cannot read. -/
theorem go_fail (hl : readHeaderLine cv l r = .fail) (text rest : Text) (off : Nat) :
    parseFile.go cv text (fgetsLines maxLine (line l ++ rest)) off r = (false, r) := by
  rw [fgetsLines_line_append h, parseFile.go, isBlank_line h, removeTrailingSpaces_line h, hl]
  rfl

/-- The first other line is read again by `ParseChunks`. -/
theorem go_chunks (hl : readHeaderLine cv l r = .notHeader) (pre rest : Text) :
    parseFile.go cv (pre ++ (line l ++ rest)) (fgetsLines maxLine (line l ++ rest)) pre.length r =
      parseChunks cv (nonEmptyLines (line l ++ rest)) r := by
  rw [fgetsLines_line_append h, parseFile.go, isBlank_line h, removeTrailingSpaces_line h, hl,
    seekBack_line]
  rfl

end

/-- Without chunks the footer, which has no newline, is found again from the newline before it. -/
theorem go_footer (cv : Convert) (pre : Text) (r : M3u8Reader) :
    parseFile.go cv (line pre ++ writeFooter) (fgetsLines maxLine writeFooter) (line pre).length r =
      parseChunks cv (nonEmptyLines writeFooter) r := by
  have hseek : seekBack (line pre ++ writeFooter) ((line pre).length + writeFooter.length)
      writeFooter.length = '\n' :: writeFooter := by
    have hlen : (line pre).length = pre.length + 1 := by simp [line]
    rw [seekBack, if_pos (by omega), line, List.append_assoc,
      show (pre ++ ['\n']).length + writeFooter.length - writeFooter.length - 1 = pre.length by
        rw [← line]; omega, List.drop_left]
    rfl
  have hskip : nonEmptyLines ('\n' :: writeFooter) = nonEmptyLines writeFooter := by
    rw [nonEmptyLines, fgetsLines_newline]
    rfl
  rw [fgetsLines_last clean_footer, parseFile.go, isBlank_clean clean_footer,
    removeTrailingSpaces_clean clean_footer, readHeaderLine_footer, hseek, hskip]
  rfl

section
variable {cv : Convert} (hcv : cv.Lawful) {first : Nat} (hf : first < 2 ^ 31)
include hcv hf

/-- The header lines before `#EXT-X-TARGETDURATION`. -/
theorem parse_header (target : Nat) (rest : Text) : ∃ off,
    off + (line ("#EXT-X-TARGETDURATION:".toList ++ llu target)).length =
      (writeHeader first target).length ∧
    parse cv (some (writeHeader first target ++ rest)) =
      parseFile.go cv (writeHeader first target ++ rest)
        (fgetsLines maxLine (line ("#EXT-X-TARGETDURATION:".toList ++ llu target) ++ rest)) off
        ⟨3, true, first, -1, []⟩ := by
  have hc1 : Clean maxLine "#EXTM3U".toList := clean_of (by decide) (by decide) (by decide)
  have hc2 : Clean maxLine ("#EXT-X-MEDIA-SEQUENCE:".toList ++ llu first) :=
    clean_number (by decide) (by decide) (by omega)
  have hc3 : Clean maxLine "#EXT-X-ALLOW-CACHE:YES".toList :=
    clean_of (by decide) (by decide) (by decide)
  have hc4 : Clean maxLine "#EXT-X-VERSION:3".toList := clean_of (by decide) (by decide) (by decide)
  have hseq : ∀ r : M3u8Reader, readHeaderLine cv ("#EXT-X-MEDIA-SEQUENCE:".toList ++ llu first) r =
      .next { r with mediaSequence := first } := fun r => by
    rw [readHeaderLine_sequence cv (isDigits_llu first), toInt_llu hcv hf, storeNumber]
  refine ⟨0 + (line "#EXTM3U".toList).length +
    (line ("#EXT-X-MEDIA-SEQUENCE:".toList ++ llu first)).length +
    (line "#EXT-X-ALLOW-CACHE:YES".toList).length + (line "#EXT-X-VERSION:3".toList).length,
    ?_, ?_⟩
  · simp only [writeHeader, List.length_append, Nat.zero_add, Nat.add_assoc]
  · rw [parse]
    generalize htext : writeHeader first target ++ rest = text
    rw [← htext, writeHeader]
    simp only [List.append_assoc]
    rw [go_next hc1 (readHeaderLine_extm3u cv _), go_next hc2 (hseq _),
      go_next hc3 (readHeaderLine_allowCache cv _),
      go_next hc4 (readHeaderLine_version_three hcv _)]

/-- A target duration that is no `int` stops the reader. -/
theorem parse_target_large {target : Nat} (ht : 2 ^ 31 ≤ target) (ht' : target < 2 ^ 64)
    (cs : List ChunkInfo) :
    (parse cv (some (writePlaylist first target cs))).1 = false := by
  have hc : Clean maxLine ("#EXT-X-TARGETDURATION:".toList ++ llu target) :=
    clean_number (by decide) (by decide) ht'
  obtain ⟨off, -, hp⟩ := parse_header hcv hf target (cs.flatMap writeLine ++ writeFooter)
  rw [writePlaylist, hp, go_fail hc (by
    rw [readHeaderLine_target cv (isDigits_llu target), toInt_llu_large hcv ht, storeNumber])]

/-- The reader of a written playlist. -/
theorem parse_write_reader {target : Nat} (ht : target < 2 ^ 31) {cs : List ChunkInfo}
    (hn : Named cs) : ∃ chunks,
    parse cv (some (writePlaylist first target cs)) = (true, ⟨3, true, first, target, chunks⟩) ∧
      chunks.map entry = cs.map entry := by
  obtain ⟨chunks, hr, hent⟩ := parseChunks_lines hcv hn (r := ⟨3, true, first, target, []⟩)
  rw [List.nil_append] at hr
  refine ⟨chunks, ?_, hent⟩
  have hc : Clean maxLine ("#EXT-X-TARGETDURATION:".toList ++ llu target) :=
    clean_number (by decide) (by decide) (by omega)
  obtain ⟨off, hoff, hp⟩ := parse_header hcv hf target (cs.flatMap writeLine ++ writeFooter)
  rw [writePlaylist, hp, go_next hc (by
    rw [readHeaderLine_target cv (isDigits_llu target), toInt_llu hcv ht, storeNumber]), hoff, ← hr]
  clear hp hoff hr
  cases cs with
  | nil =>
    have hline : ∃ pre, writeHeader first target = line pre := by
      refine ⟨line "#EXTM3U".toList ++ (line ("#EXT-X-MEDIA-SEQUENCE:".toList ++ llu first) ++
        (line "#EXT-X-ALLOW-CACHE:YES".toList ++ (line "#EXT-X-VERSION:3".toList ++
          ("#EXT-X-TARGETDURATION:".toList ++ llu target)))), ?_⟩
      simp only [writeHeader, line, List.append_assoc]
    obtain ⟨pre, hpre⟩ := hline
    rw [hpre]
    exact go_footer cv pre _
  | cons c cs =>
    have hbody : (c :: cs).flatMap writeLine ++ writeFooter =
        line (chunkHeader c) ++ (line c.path ++ (cs.flatMap writeLine ++ writeFooter)) := by
      simp only [List.flatMap_cons, writeLine, List.append_assoc]
    rw [hbody]
    exact go_chunks (clean_chunkHeader c) (readHeaderLine_chunkHeader cv c _) _ _

/-- **A written playlist is read back**: the paths and the indices of its chunks, in order. -/
theorem parse_write {target : Nat} (ht : target < 2 ^ 31) {cs : List ChunkInfo} (hn : Named cs) :
    ∃ r, parse cv (some (writePlaylist first target cs)) = (true, r) ∧
      r.chunks.map entry = cs.map entry := by
  obtain ⟨chunks, hparse, hent⟩ := parse_write_reader hcv hf ht hn
  exact ⟨_, hparse, hent⟩

end

/-- A first index that is no `int` stops the reader. -/
theorem parse_sequence_large {cv : Convert} (hcv : cv.Lawful) {first : Nat} (hf : 2 ^ 31 ≤ first)
    (hf' : first < 2 ^ 64) (target : Nat) (cs : List ChunkInfo) :
    (parse cv (some (writePlaylist first target cs))).1 = false := by
  have hc1 : Clean maxLine "#EXTM3U".toList := clean_of (by decide) (by decide) (by decide)
  have hc2 : Clean maxLine ("#EXT-X-MEDIA-SEQUENCE:".toList ++ llu first) :=
    clean_number (by decide) (by decide) hf'
  rw [parse]
  generalize htext : writePlaylist first target cs = text
  rw [← htext, writePlaylist, writeHeader]
  simp only [List.append_assoc]
  rw [go_next hc1 (readHeaderLine_extm3u cv _), go_fail hc2 (by
    rw [readHeaderLine_sequence cv (isDigits_llu first), toInt_llu_large hcv hf, storeNumber])]

/-- The reader accepts the text of the writer and gives everything back that was written. -/
def RoundTrip (cv : Convert) (first target : Nat) (cs : List ChunkInfo) : Prop :=
  ∃ r, parse cv (some (writePlaylist first target cs)) = (true, r) ∧ r.version = 3 ∧
    r.allowCache = true ∧ r.mediaSequence = first ∧ r.targetDuration = target ∧
    r.chunks.map entry = cs.map entry

/-- **The round trip**: for every first index, target duration and list of named chunks, exactly
when the first index and the target duration fit an `int`. -/
theorem roundTrip_iff {cv : Convert} (hcv : cv.Lawful) {first target : Nat} (hf : first < 2 ^ 64)
    (ht : target < 2 ^ 64) {cs : List ChunkInfo} (hn : Named cs) :
    RoundTrip cv first target cs ↔ first < 2 ^ 31 ∧ target < 2 ^ 31 := by
  constructor
  · rintro ⟨r, hparse, -⟩
    have hfirst : first < 2 ^ 31 := by
      by_contra hlarge
      have hfalse := parse_sequence_large hcv (by omega) hf target cs
      rw [hparse] at hfalse
      cases hfalse
    refine ⟨hfirst, ?_⟩
    by_contra hlarge
    have hfalse := parse_target_large hcv hfirst (by omega) ht cs
    rw [hparse] at hfalse
    cases hfalse
  · intro h
    obtain ⟨chunks, hparse, hent⟩ := parse_write_reader hcv h.1 h.2 hn
    exact ⟨_, hparse, rfl, rfl, rfl, rfl, hent⟩

/-- A conversion of decimal texts. -/
def decimalConvert : Convert where
  toInt t :=
    if !t.isEmpty && t.all Char.isDigit && decide (Nat.ofDigitChars 10 t 0 < 2 ^ 31) then
      some (Nat.ofDigitChars 10 t 0) else none
  toUInt64 t :=
    if !t.isEmpty && t.all Char.isDigit && decide (Nat.ofDigitChars 10 t 0 < 2 ^ 64) then
      some (Nat.ofDigitChars 10 t 0) else none
  toDouble t :=
    match t.dropWhile Char.isDigit with
    | '.' :: b =>
      if b.all Char.isDigit then
        some (Binary64.round (Nat.ofDigitChars 10 (t.takeWhile Char.isDigit) 0 +
          Nat.ofDigitChars 10 b 0 / 10 ^ b.length))
      else none
    | _ => none
  ofDouble q := u64 ⌊q⌋.toNat

theorem decimalConvert_lawful : decimalConvert.Lawful := by
  have hdigits : ∀ t, IsDigits t → (!t.isEmpty && t.all Char.isDigit) = true := fun t ht => by
    rw [List.all_eq_true.2 ht.2]
    simpa using ht.1
  refine ⟨fun t ht => ?_, fun t ht => ?_, fun a b ha hb _ _ => ?_⟩
  · simp only [decimalConvert, hdigits t ht, Bool.true_and, decide_eq_true_eq]
  · simp only [decimalConvert, hdigits t ht, Bool.true_and, decide_eq_true_eq]
  · have hdrop : (a ++ '.' :: b).dropWhile Char.isDigit = '.' :: b := by
      rw [List.dropWhile_append_of_pos ha.2]
      rfl
    have hd : b.all Char.isDigit = true := List.all_eq_true.2 hb.2
    simp only [decimalConvert, hdrop, hd, if_true, Option.isSome_some]

theorem roundTrip_two_chunks :
    RoundTrip decimalConvert 7 12 [⟨tsName 7, 0, 7⟩, ⟨tsName 8, 0, 8⟩] := by
  refine (roundTrip_iff decimalConvert_lawful (by decide) (by decide) fun c hc => ?_).2
    ⟨by decide, by decide⟩
  simp only [List.mem_cons, List.not_mem_nil, or_false] at hc
  obtain rfl | rfl := hc
  · exact ⟨rfl, by decide⟩
  · exact ⟨rfl, by decide⟩

/-- An index of a playlist that runs for long enough is not read back. -/
theorem roundTrip_large_fails :
    ¬ RoundTrip decimalConvert (2 ^ 31) 12 [⟨tsName (2 ^ 31), 0, 2 ^ 31⟩] := by
  rintro ⟨r, hparse, -⟩
  have hfalse := parse_sequence_large decimalConvert_lawful (Nat.le_refl (2 ^ 31)) (by decide) 12
    [⟨tsName (2 ^ 31), 0, 2 ^ 31⟩]
  rw [hparse] at hfalse
  cases hfalse

end IptvCloud.M3u8
