import Mathlib.Data.List.AList
import IptvCloud.Base.InputsOutputs

/-!
# Removing chunks (`utils/utils.cpp`)

`RemoveFilesByExtension` and `RemoveOldFilesByTime` go over the entries of a directory and unlink
some of them, and `PostExecCleanup` of a VOD stream (`stream/streams/vod`) runs the first over the
directories of its HTTP outputs. A directory is the table of its entries under their names; what
`stat` and `unlink` do to an entry is part of it.
-/

namespace IptvCloud.Cleanup

/-- `CHUNK_EXT`. -/
def chunkExt : String := ".ts"

/-- An entry of a directory: its modification time, when `stat` gives one, and whether `unlink`
removes it. -/
structure Entry where
  mtime : Option Int64
  removable : Bool
  deriving DecidableEq

abbrev Directory := AList fun _ : String => Entry

/-- The directories that can be opened, by their paths (`ascii_directory_string_path`, with the
slash at the end). -/
abbrev FileSystem := String → Option Directory

def FileSystem.entry (fs : FileSystem) (dir name : String) : Option Entry :=
  (fs dir).bind fun entries => entries.lookup name

/-- `get_file_time_last_modification`. -/
def FileSystem.lastModification (fs : FileSystem) (dir name : String) : Option Int64 :=
  (fs.entry dir name).bind Entry.mtime

/-- `remove_file`, which does nothing when `unlink` fails. -/
def FileSystem.removeFile (fs : FileSystem) (dir name : String) : FileSystem :=
  if ((fs.entry dir name).map Entry.removable).getD false then
    fun path => if path = dir then (fs dir).map (·.erase name) else fs path
  else fs

/-- `strstr`: the string from the first occurrence of the other one on. -/
def strstr (s t : List Char) : Option (List Char) :=
  if t.isPrefixOf s then some s
  else
    match s with
    | [] => none
    | _ :: s => strstr s t

/-- What both functions do with an entry; `old` is the test of its modification time. -/
def cleanUpEntry (old : Int64 → Bool) (ext dir : String) (fs : FileSystem) (name : String) :
    FileSystem :=
  if name = "." ∨ name = ".." then fs
  else
    match strstr name.toList ext.toList with
    | none => fs
    | some _ =>
      match fs.lastModification dir name with
      | none => fs
      | some mtime => if old mtime then fs.removeFile dir name else fs

/-- The loop over a directory; `dir` is `none` when it is not valid. -/
def cleanUp (old : Int64 → Bool) (fs : FileSystem) (dir : Option String) (ext : String) :
    FileSystem :=
  match dir with
  | none => fs
  | some dir =>
    match fs dir with
    | none => fs
    | some entries => entries.keys.foldl (cleanUpEntry old ext dir) fs

def removeFilesByExtension (fs : FileSystem) (dir : Option String) (ext : String) : FileSystem :=
  cleanUp (fun _ => true) fs dir ext

def removeOldFilesByTime (fs : FileSystem) (dir : Option String) (maxLifeSecs : Int64)
    (ext : String) : FileSystem :=
  cleanUp (fun mtime => mtime < maxLifeSecs) fs dir ext

/-- `GetHttpRoot`; an empty path is not valid. -/
def httpRoot (output : OutputUri) : Option String :=
  if output.httpRoot = "" then none else some output.httpRoot

/-- `VodRelayStream::PostExecCleanup` and `VodEncodeStream::PostExecCleanup`. -/
def postExecCleanup (fs : FileSystem) (cleanupTs : Bool) (output : List OutputUri) : FileSystem :=
  if cleanupTs then
    output.foldl (fun fs output =>
      if output.output.scheme = .http then removeFilesByExtension fs (httpRoot output) chunkExt
      else fs) fs
  else fs

end IptvCloud.Cleanup
