import IptvCloud.Server.Vods
import IptvCloud.Utils.Proof.M3u8RoundTrip

/-!
# Which VODs pass for full ones

* `checkIsFullVod_handles`: every check of a playlist that can be opened leaves its stream open.
* `checkIsFullVod_eq_true_iff`: the check accepts a playlist that parses and whose chunks are there.
* `checkIsFullVod_iff`: it is right, and leaves the open files as they were, exactly for a playlist
  that cannot be opened; its answer alone is wrong exactly for a playlist that was cut off, with its
  chunks there (`CutOff`).
-/

namespace IptvCloud.Server.Vods

open M3u8 Stdio

variable {cv : Convert} {paths : Paths} {fs : FileSystem} {file : String} {handles : Handles}

/-- A chunk of a playlist is a file of the directory. -/
def InDirectory (paths : Paths) (fs : FileSystem) (dir : String) (chunk : ChunkInfo) : Prop :=
  ∃ path, paths.makeFileStringPath dir chunk.path = some path ∧ fs.isFileExist path = true

theorem chunksExist_iff (dir : String) (chunks : List ChunkInfo) :
    chunksExist paths fs dir chunks = true ↔ ∀ chunk ∈ chunks, InDirectory paths fs dir chunk := by
  induction chunks with
  | nil => simp [chunksExist]
  | cons chunk chunks ih =>
    rw [List.forall_mem_cons, ← ih, chunksExist, InDirectory]
    cases hmake : paths.makeFileStringPath dir chunk.path with
    | none => simp
    | some path => cases hexist : fs.isFileExist path <;> simp [hexist]

/-- `#EXT-X-ENDLIST` is a line of the text. -/
def Terminated (text : Text) : Prop :=
  writeFooter ∈ (nonEmptyLines text).map removeTrailingSpaces

instance (text : Text) : Decidable (Terminated text) := inferInstanceAs (Decidable (_ ∈ _))

/-- The playlist can be opened and parses, and the chunks it lists are there. -/
def Listed (cv : Convert) (paths : Paths) (fs : FileSystem) (file : String) (text : Text) : Prop :=
  fs.text file = some text ∧ (parse cv (some text)).1 = true ∧
    ∀ chunk ∈ (parse cv (some text)).2.chunks, InDirectory paths fs (paths.getDirectory file) chunk

/-- A VOD is complete: besides, its playlist is terminated. -/
def Complete (cv : Convert) (paths : Paths) (fs : FileSystem) (file : String) : Prop :=
  ∃ text, Listed cv paths fs file text ∧ Terminated text

/-- A playlist that ends without its last line, as an encoder leaves it that died. -/
def CutOff (cv : Convert) (paths : Paths) (fs : FileSystem) (file : String) : Prop :=
  ∃ text, Listed cv paths fs file text ∧ ¬ Terminated text

theorem checkIsFullVod_eq_true_iff :
    (checkIsFullVod cv paths fs file handles).1 = true ↔ ∃ text, Listed cv paths fs file text := by
  unfold checkIsFullVod parsePath fopen Listed
  cases htext : fs.text file with
  | none => simp [parse]
  | some text =>
    cases hparse : parse cv (some text) with
    | mk parsed reader =>
      cases parsed with
      | false => simp [hparse]
      | true => simp [hparse, chunksExist_iff]

/-- **The open files** after a check. -/
theorem checkIsFullVod_handles :
    (checkIsFullVod cv paths fs file handles).2 =
      match fs.text file with
      | some _ => file :: handles
      | none => handles := by
  unfold checkIsFullVod parsePath fopen
  cases fs.text file <;> dsimp only <;> split <;> rfl

theorem handles_kept_iff :
    (checkIsFullVod cv paths fs file handles).2 = handles ↔ fs.text file = none := by
  rw [checkIsFullVod_handles]
  cases fs.text file <;> simp

/-- The answer is right unless the playlist was cut off. -/
theorem answer_right_iff :
    ((checkIsFullVod cv paths fs file handles).1 = true ↔ Complete cv paths fs file) ↔
      ¬ CutOff cv paths fs file := by
  rw [checkIsFullVod_eq_true_iff]
  constructor
  · rintro h ⟨text, hlisted, hcut⟩
    obtain ⟨text', hlisted', hterm⟩ := h.1 ⟨text, hlisted⟩
    have htext : text = text' := Option.some.inj (hlisted.1.symm.trans hlisted'.1)
    exact hcut (htext ▸ hterm)
  · intro hcut
    refine ⟨fun ⟨text, hlisted⟩ => ⟨text, hlisted, ?_⟩, fun ⟨text, hlisted, _⟩ => ⟨text, hlisted⟩⟩
    by_contra hterm
    exact hcut ⟨text, hlisted, hterm⟩

/-- **The check of a VOD**: its answer and the open files are right exactly when the playlist cannot
be opened; the answer alone exactly when the playlist was not cut off. -/
theorem checkIsFullVod_iff (cv : Convert) (paths : Paths) (fs : FileSystem) (file : String)
    (handles : Handles) :
    (((checkIsFullVod cv paths fs file handles).1 = true ↔ Complete cv paths fs file) ∧
        (checkIsFullVod cv paths fs file handles).2 = handles ↔ fs.text file = none) ∧
    (((checkIsFullVod cv paths fs file handles).1 = true ↔ Complete cv paths fs file) ↔
      ¬ CutOff cv paths fs file) := by
  refine ⟨⟨fun h => handles_kept_iff.1 h.2, fun h => ⟨answer_right_iff.2 ?_, ?_⟩⟩, answer_right_iff⟩
  · rintro ⟨text, hlisted, -⟩
    rw [hlisted.1] at h
    cases h
  · exact handles_kept_iff.2 h

/-- The directory of a VOD whose encoder died after the first chunk. -/
def cutOffDirectory : FileSystem where
  text path := if path = "/vods/1.m3u8" then some "#EXTM3U\n#EXTINF:1.00,\n1.ts\n".toList else none
  isFileExist path := path = "/vods/1.ts"

def samplePaths : Paths where
  getDirectory _ := "/vods/"
  makeFileStringPath dir name := some (dir ++ String.ofList name)

theorem cutOff_passes :
    (checkIsFullVod decimalConvert samplePaths cutOffDirectory "/vods/1.m3u8" []).1 = true ∧
      ¬ Complete decimalConvert samplePaths cutOffDirectory "/vods/1.m3u8" ∧
      (checkIsFullVod decimalConvert samplePaths cutOffDirectory "/vods/1.m3u8" []).2 ≠ [] := by
  refine ⟨by decide, ?_, ?_⟩
  · rintro ⟨text, hlisted, hterm⟩
    obtain rfl := Option.some.inj hlisted.1
    revert hterm
    decide
  · exact fun h => absurd (handles_kept_iff.1 h) (by decide)

end IptvCloud.Server.Vods
