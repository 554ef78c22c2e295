import IptvCloud.Utils.Cleanup
import Mathlib.Data.List.Infix

/-!
# What the clean-up removes

* `entry_cleanUp`: of a directory the clean-up removes the entries that are `Due` and have the
  extension somewhere in their names, and it touches no other directory.
* `removes_only_chunks_iff`: these are the files whose name ends with the extension exactly when no
  entry that is due has it elsewhere only.
-/

namespace IptvCloud.Cleanup

variable {fs : FileSystem} {old : Int64 → Bool} {ext dir name : String}

/-! ## One entry -/

theorem strstr_isSome_iff (s t : List Char) : (strstr s t).isSome ↔ t <:+: s := by
  induction s with
  | nil =>
    unfold strstr
    cases t <;> simp
  | cons c s ih =>
    unfold strstr
    by_cases h : t.isPrefixOf (c :: s) = true
    · rw [if_pos h]
      exact iff_of_true rfl (List.isPrefixOf_iff_prefix.1 h).isInfix
    · rw [if_neg h, List.infix_cons_iff, ih]
      exact (or_iff_right (mt List.isPrefixOf_iff_prefix.2 h)).symm

/-- An entry that a clean-up may remove: `stat` and `unlink` succeed and its time is right. -/
def due (old : Int64 → Bool) (name : String) (entry : Entry) : Bool :=
  name ≠ "." && name ≠ ".." && entry.removable && entry.mtime.any old

/-- What the clean-up removes. -/
def removes (old : Int64 → Bool) (ext name : String) (entry : Entry) : Bool :=
  due old name entry && (strstr name.toList ext.toList).isSome

/-- An entry that passes the test is the same with the filter. -/
theorem entry_kept {keep : Entry → Bool} (path name' : String)
    (h : ∀ entry, fs.entry dir name = some entry → keep entry = true) :
    fs.entry path name' =
      if path = dir ∧ name' = name then (fs.entry dir name).filter keep
      else fs.entry path name' := by
  split
  case isTrue hp =>
    rw [hp.1, hp.2]
    cases he : fs.entry dir name with
    | none => rfl
    | some entry => rw [Option.filter_some_pos (h entry he)]
  case isFalse => rfl

theorem entry_removeFile (fs : FileSystem) (dir name path name' : String) :
    (fs.removeFile dir name).entry path name' =
      if path = dir ∧ name' = name then (fs.entry dir name).filter (!·.removable)
      else fs.entry path name' := by
  unfold FileSystem.removeFile
  split
  case isFalse hno =>
    exact entry_kept path name' fun entry he => by simpa [he] using hno
  case isTrue hremovable =>
    by_cases hp : path = dir
    · subst hp
      cases hd : fs path with
      | none => simp [FileSystem.entry, hd] at hremovable
      | some entries =>
        by_cases hn : name' = name
        · subst hn
          obtain ⟨entry, he⟩ : ∃ entry, fs.entry path name' = some entry :=
            Option.ne_none_iff_exists'.1 fun he => by simp [he] at hremovable
          have hr : entry.removable = true := by simpa [he] using hremovable
          rw [he]
          simp [FileSystem.entry, Option.filter, hr]
        · simp [FileSystem.entry, hn, hd]
    · simp [FileSystem.entry, hp]

theorem entry_cleanUpEntry (path name' : String) :
    (cleanUpEntry old ext dir fs name).entry path name' =
      if path = dir ∧ name' = name then (fs.entry dir name).filter (!removes old ext name ·)
      else fs.entry path name' := by
  unfold cleanUpEntry
  split
  · rename_i hdot
    exact entry_kept path name' fun entry _ => by
      rcases hdot with rfl | rfl <;> simp [removes, due]
  · rename_i hdot
    rw [not_or] at hdot
    split
    · rename_i hext
      exact entry_kept path name' fun entry _ => by simp [removes, hext]
    · rename_i hext
      split
      · rename_i hm
        refine entry_kept path name' fun entry he => ?_
        have hnone : entry.mtime = none := by simpa [FileSystem.lastModification, he] using hm
        simp [removes, due, hnone]
      · rename_i mtime hm
        obtain ⟨entry, he, hmtime⟩ := Option.bind_eq_some_iff.1 hm
        have hrem : removes old ext name entry = (entry.removable && old mtime) := by
          simp [removes, due, hdot, hext, hmtime]
        split
        · rename_i hold
          rw [entry_removeFile, he]
          simp only [Option.filter, hrem, hold, Bool.and_true]
        · rename_i hold
          refine entry_kept path name' fun entry' he' => ?_
          rw [he] at he'
          cases he'
          simp [hrem, hold]

/-! ## A directory -/

theorem entry_foldl (names : List String) (path name' : String) :
    (names.foldl (cleanUpEntry old ext dir) fs).entry path name' =
      if path = dir ∧ name' ∈ names then
        (fs.entry dir name').filter (!removes old ext name' ·)
      else fs.entry path name' := by
  induction names generalizing fs with
  | nil => simp
  | cons name names ih =>
    rw [List.foldl_cons, ih, entry_cleanUpEntry, entry_cleanUpEntry]
    by_cases hp : path = dir
    · subst hp
      by_cases hn : name' = name
      · subst hn
        simp [Option.filter_filter]
      · simp [hn]
    · simp [hp]

/-- **What a clean-up removes**: from the directory, the entries that are due and have the
extension somewhere in their names. -/
theorem entry_cleanUp (fs : FileSystem) (old : Int64 → Bool) (dir ext path name : String) :
    (cleanUp old fs (some dir) ext).entry path name =
      if path = dir then (fs.entry dir name).filter (!removes old ext name ·)
      else fs.entry path name := by
  cases hd : fs dir with
  | none =>
    have hn : fs.entry dir name = none := by simp [FileSystem.entry, hd]
    by_cases hp : path = dir
    · simp [cleanUp, hd, hp, hn]
    · simp [cleanUp, hd, hp]
  | some entries =>
    simp only [cleanUp, hd, entry_foldl]
    by_cases hmem : name ∈ entries.keys
    · simp only [hmem, and_true]
    · have hn : fs.entry dir name = none := by
        simpa [FileSystem.entry, hd, AList.lookup_eq_none, AList.mem_keys] using hmem
      by_cases hp : path = dir
      · simp [hp, hn]
      · simp [hp]

/-! ## Chunks -/

/-- The clean-up removes the files of the directory that are due and whose name ends with the
extension, and nothing else. -/
def RemovesOnlyChunks (old : Int64 → Bool) (fs : FileSystem) (dir ext : String)
    (fs' : FileSystem) : Prop :=
  ∀ path name, fs'.entry path name =
    if path = dir then
      (fs.entry dir name).filter fun entry =>
        !(due old name entry && ext.toList.isSuffixOf name.toList)
    else fs.entry path name

/-- No entry that is due has the extension in its name but not at the end. -/
def ExtensionsAtEnd (old : Int64 → Bool) (fs : FileSystem) (dir ext : String) : Prop :=
  ∀ name entry, fs.entry dir name = some entry → due old name entry = true →
    ext.toList <:+: name.toList → ext.toList <:+ name.toList

theorem cleanUp_removes_only_chunks_iff (fs : FileSystem) (old : Int64 → Bool)
    (dir ext : String) :
    RemovesOnlyChunks old fs dir ext (cleanUp old fs (some dir) ext) ↔
      ExtensionsAtEnd old fs dir ext := by
  have step (name : String) (entry : Entry) :
      removes old ext name entry = (due old name entry && ext.toList.isSuffixOf name.toList) ↔
        (due old name entry = true → ext.toList <:+: name.toList → ext.toList <:+ name.toList) := by
    have hsuff : ext.toList <:+ name.toList → ext.toList <:+: name.toList := List.IsSuffix.isInfix
    rw [removes, Bool.eq_iff_iff, Bool.and_eq_true, Bool.and_eq_true, strstr_isSome_iff,
      List.isSuffixOf_iff_suffix]
    tauto
  constructor
  · intro h name entry he hdue
    have hname := h dir name
    rw [entry_cleanUp, if_pos rfl, if_pos rfl, he] at hname
    refine (step name entry).1 ?_ hdue
    cases hr : removes old ext name entry <;>
      cases hs : due old name entry && ext.toList.isSuffixOf name.toList <;>
      simp [Option.filter, hr, hs] at hname ⊢
  · intro h path name
    rw [entry_cleanUp]
    split
    · cases he : fs.entry dir name with
      | none => rfl
      | some entry => simp only [Option.filter, (step name entry).2 (h name entry he)]
    · rfl

/-- **Removing only chunks**: exactly when no entry that is due has the extension elsewhere in its
name, for both functions. -/
theorem removes_only_chunks_iff (fs : FileSystem) (dir ext : String) (maxLifeSecs : Int64) :
    (RemovesOnlyChunks (fun _ => true) fs dir ext (removeFilesByExtension fs (some dir) ext) ↔
      ExtensionsAtEnd (fun _ => true) fs dir ext) ∧
    (RemovesOnlyChunks (fun mtime => mtime < maxLifeSecs) fs dir ext
        (removeOldFilesByTime fs (some dir) maxLifeSecs ext) ↔
      ExtensionsAtEnd (fun mtime => mtime < maxLifeSecs) fs dir ext) :=
  ⟨cleanUp_removes_only_chunks_iff fs _ dir ext, cleanUp_removes_only_chunks_iff fs _ dir ext⟩

/-- A directory with a file that is no chunk but has the extension within its name. -/
def backupDirectory : FileSystem := fun path =>
  if path = "/vods/" then some (AList.singleton "a.ts.bak" ⟨some 0, true⟩) else none

theorem backup_removed :
    ¬ RemovesOnlyChunks (fun _ => true) backupDirectory "/vods/" chunkExt
      (removeFilesByExtension backupDirectory (some "/vods/") chunkExt) := by
  intro h
  have hends := (cleanUp_removes_only_chunks_iff backupDirectory _ "/vods/" chunkExt).1 h
    "a.ts.bak" ⟨some 0, true⟩ rfl rfl (by decide)
  revert hends
  decide

end IptvCloud.Cleanup
