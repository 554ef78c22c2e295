import IptvCloud.Utils.M3u8

/-!
# The lines of a playlist

What the regular expressions of the reader match, one equivalence for each (`matchNumber_iff`,
`matchAllowCache_iff`, `matchChunkHeader_iff`, `matchChunk_iff`), and what `ParseFile` does with the
lines of a header.
-/

namespace IptvCloud.M3u8

open Stdio

/-! ## The regular expressions -/

theorem dropPrefix?_iff {p l t : Text} : l.dropPrefix? p = some t ↔ l = p ++ t := by
  rw [List.dropPrefix?_eq_some_iff]
  refine ⟨fun ⟨p', hl, hp⟩ => ?_, fun h => ⟨p, h, by simp⟩⟩
  rw [hl, eq_of_beq hp]

theorem isDigits_iff {ds : Text} : IsDigits ds ↔ (!ds.isEmpty && ds.all Char.isDigit) = true := by
  simp [IsDigits]

theorem matchNumber_iff {pre : String} {l ds : Text} :
    matchNumber pre l = some ds ↔ l = pre.toList ++ ds ∧ IsDigits ds := by
  simp only [matchNumber, Option.bind_eq_some_iff, dropPrefix?_iff, Option.ite_none_right_eq_some,
    Option.some.injEq, ← isDigits_iff]
  exact ⟨fun ⟨t, hl, hd, ht⟩ => ht ▸ ⟨hl, hd⟩, fun ⟨hl, hd⟩ => ⟨ds, hl, hd, rfl⟩⟩

theorem matchAllowCache_iff {l w : Text} :
    matchAllowCache l = some w ↔ l = "#EXT-X-ALLOW-CACHE:".toList ++ w ∧ w ≠ [] ∧
      ∀ c ∈ w, c.isUpper = true := by
  simp only [matchAllowCache, Option.bind_eq_some_iff, dropPrefix?_iff,
    Option.ite_none_right_eq_some, Option.some.injEq, Bool.and_eq_true, Bool.not_eq_true',
    List.isEmpty_eq_false_iff, List.all_eq_true]
  exact ⟨fun ⟨t, hl, hd, ht⟩ => ht ▸ ⟨hl, hd⟩, fun ⟨hl, hd⟩ => ⟨w, hl, hd, rfl⟩⟩

theorem matchChunkHeader_iff {l n : Text} :
    matchChunkHeader l = some n ↔ l = "#EXTINF:".toList ++ n ++ [','] ∧ n ≠ [] ∧
      ∀ c ∈ n, c.isDigit = true ∨ c = '.' := by
  simp only [matchChunkHeader, Option.bind_eq_some_iff, dropPrefix?_iff]
  constructor
  · rintro ⟨t, rfl, h⟩
    split at h
    · rename_i hlast
      rw [Option.ite_none_right_eq_some, Option.some.injEq] at h
      obtain ⟨hn, rfl⟩ := h
      rw [List.append_assoc, List.dropLast_append_getLast? ',' hlast]
      simpa using hn
    · cases h
  · rintro ⟨rfl, hne, hall⟩
    refine ⟨n ++ [','], by rw [List.append_assoc], ?_⟩
    rw [List.getLast?_append, List.getLast?_singleton, Option.some_or, List.dropLast_concat]
    have hall' : n.all (fun c => c.isDigit || c == '.') = true :=
      List.all_eq_true.2 fun c hc => by simpa using hall c hc
    simp [hne, hall']

/-- The shortest prefix leaves the longest run of digits. -/
theorem lazyDigits_iff {t ds : Text} :
    lazyDigits t = some ds ↔ ∃ name, t = name ++ ds ∧ (∀ c ∈ name, c.isAlphanum = true ∨ c = '_') ∧
      (∀ c, name.getLast? = some c → c.isDigit = false) ∧ IsDigits ds := by
  induction t with
  | nil =>
    refine ⟨fun h => (by cases h), fun ⟨name, h, _, _, hd⟩ => ?_⟩
    exact absurd (List.append_eq_nil_iff.1 h.symm).2 hd.1
  | cons c cs ih =>
    rw [lazyDigits]
    split
    · rename_i hall
      rw [List.all_eq_true] at hall
      refine ⟨fun h => ?_, fun ⟨name, h, _, hlast, _⟩ => ?_⟩
      · cases h
        exact ⟨[], rfl, by simp, by simp, List.cons_ne_nil c cs, hall⟩
      · -- the last character of a prefix is no digit
        rcases List.eq_nil_or_concat name with rfl | ⟨front, last, rfl⟩
        · rw [h]
          rfl
        · have hdigit := hall last (by rw [h]; simp)
          rw [hlast last (by simp)] at hdigit
          cases hdigit
    · rename_i hall
      split
      · rename_i hc
        rw [ih]
        refine ⟨fun ⟨name, h, hname, hlast, hd⟩ => ?_, fun ⟨name, h, hname, hlast, hd⟩ => ?_⟩
        · refine ⟨c :: name, by rw [h]; rfl, ?_, fun d hlast' => ?_, hd⟩
          · exact List.forall_mem_cons.2 ⟨by simpa using hc, hname⟩
          · cases name with
            | nil =>
              cases hlast'
              rw [h, List.nil_append] at hall
              rw [List.all_cons, List.all_eq_true.2 hd.2, Bool.and_true] at hall
              simpa using hall
            | cons d' name =>
              rw [List.getLast?_cons_cons] at hlast'
              exact hlast d hlast'
        · cases name with
          | nil =>
            rw [List.nil_append] at h
            rw [h] at hall
            exact absurd (List.all_eq_true.2 hd.2) hall
          | cons d name =>
            obtain ⟨rfl, rfl⟩ := List.cons.inj h
            refine ⟨name, rfl, (List.forall_mem_cons.1 hname).2, fun d' hd' => hlast d' ?_, hd⟩
            cases name with
            | nil => cases hd'
            | cons e name => rw [List.getLast?_cons_cons, hd']
      · rename_i hc
        refine ⟨fun h => (by cases h), fun ⟨name, h, hname, _, hd⟩ => ?_⟩
        cases name with
        | nil =>
          rw [List.nil_append] at h
          rw [h] at hall
          exact absurd (List.all_eq_true.2 hd.2) hall
        | cons d name =>
          obtain ⟨rfl, -⟩ := List.cons.inj h
          exact absurd (by simpa using (List.forall_mem_cons.1 hname).1) hc

theorem matchChunk_iff {l ds : Text} :
    matchChunk l = some ds ↔ ∃ name, l = name ++ ds ++ ['.', 't', 's'] ∧
      (∀ c ∈ name, c.isAlphanum = true ∨ c = '_') ∧
      (∀ c, name.getLast? = some c → c.isDigit = false) ∧ IsDigits ds := by
  simp only [matchChunk, Option.bind_eq_some_iff, dropPrefix?_iff, lazyDigits_iff]
  constructor
  · rintro ⟨stem, hl, name, hstem, h⟩
    refine ⟨name, ?_, h⟩
    rw [List.reverse_eq_iff.1 hl, List.reverse_append, hstem]
    rfl
  · rintro ⟨name, rfl, h⟩
    exact ⟨(name ++ ds).reverse, by simp, name, by simp, h⟩

/-! ## Header lines -/

section
variable (cv : Convert) {ds : Text} (hd : IsDigits ds) (r : M3u8Reader)
include hd

theorem readHeaderLine_version :
    readHeaderLine cv ("#EXT-X-VERSION:".toList ++ ds) r =
      storeNumber (cv.toInt ds) fun k => { r with version := k } := by
  have hm : matchNumber "#EXT-X-VERSION:" ("#EXT-X-VERSION:".toList ++ ds) = some ds :=
    matchNumber_iff.2 ⟨rfl, hd⟩
  have h0 : "#EXT-X-VERSION:".toList ++ ds ≠ "#EXTM3U".toList := by
    intro he
    exact absurd (congrArg (·[4]?) he) (show ¬ some '-' = some 'M' by decide)
  rw [readHeaderLine, if_neg h0, hm]

theorem readHeaderLine_sequence :
    readHeaderLine cv ("#EXT-X-MEDIA-SEQUENCE:".toList ++ ds) r =
      storeNumber (cv.toInt ds) fun k => { r with mediaSequence := k } := by
  have hm : matchNumber "#EXT-X-MEDIA-SEQUENCE:" ("#EXT-X-MEDIA-SEQUENCE:".toList ++ ds) =
      some ds :=
    matchNumber_iff.2 ⟨rfl, hd⟩
  have h0 : "#EXT-X-MEDIA-SEQUENCE:".toList ++ ds ≠ "#EXTM3U".toList := by
    intro he
    exact absurd (congrArg (·[4]?) he) (show ¬ some '-' = some 'M' by decide)
  have h1 : matchNumber "#EXT-X-VERSION:" ("#EXT-X-MEDIA-SEQUENCE:".toList ++ ds) = none := rfl
  have h2 : matchAllowCache ("#EXT-X-MEDIA-SEQUENCE:".toList ++ ds) = none := rfl
  rw [readHeaderLine, if_neg h0, h1, h2, hm]

theorem readHeaderLine_target :
    readHeaderLine cv ("#EXT-X-TARGETDURATION:".toList ++ ds) r =
      storeNumber (cv.toInt ds) fun k => { r with targetDuration := k } := by
  have hm : matchNumber "#EXT-X-TARGETDURATION:" ("#EXT-X-TARGETDURATION:".toList ++ ds) =
      some ds :=
    matchNumber_iff.2 ⟨rfl, hd⟩
  have h0 : "#EXT-X-TARGETDURATION:".toList ++ ds ≠ "#EXTM3U".toList := by
    intro he
    exact absurd (congrArg (·[4]?) he) (show ¬ some '-' = some 'M' by decide)
  have h1 : matchNumber "#EXT-X-VERSION:" ("#EXT-X-TARGETDURATION:".toList ++ ds) = none := rfl
  have h2 : matchAllowCache ("#EXT-X-TARGETDURATION:".toList ++ ds) = none := rfl
  have h3 : matchNumber "#EXT-X-MEDIA-SEQUENCE:" ("#EXT-X-TARGETDURATION:".toList ++ ds) = none :=
    rfl
  rw [readHeaderLine, if_neg h0, h1, h2, h3, hm]

end

theorem readHeaderLine_extm3u (cv : Convert) (r : M3u8Reader) :
    readHeaderLine cv "#EXTM3U".toList r = .next r := if_pos rfl

theorem readHeaderLine_allowCache (cv : Convert) (r : M3u8Reader) :
    readHeaderLine cv "#EXT-X-ALLOW-CACHE:YES".toList r = .next { r with allowCache := true } := rfl

/-- The first line of a chunk is no header line. -/
theorem readHeaderLine_extinf (cv : Convert) (t : Text) (r : M3u8Reader) :
    readHeaderLine cv ("#EXTINF:".toList ++ t) r = .notHeader :=
  if_neg fun he => absurd (congrArg (·[4]?) he) (show ¬ some 'I' = some 'M' by decide)

theorem readHeaderLine_footer (cv : Convert) (r : M3u8Reader) :
    readHeaderLine cv writeFooter r = .notHeader := rfl

end IptvCloud.M3u8
