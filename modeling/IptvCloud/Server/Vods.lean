import IptvCloud.Utils.M3u8

/-!
# Full VODs (`CheckIsFullVod` of `server/process_slave_wrapper.cpp`)

The HTTP request for a playlist below a directory of `vods_links_` starts the stream of the
directory again unless its VOD is full: the playlist parses and its chunks are there. The check
opens the playlist with `fopen` (`M3u8Reader::Parse`), so the files that the process holds open are
threaded through it. The paths of `common` are the structure `Paths`.
-/

namespace IptvCloud.Server.Vods

open M3u8

/-- `ascii_file_string_path::GetDirectory` and `ascii_directory_string_path::MakeFileStringPath`. -/
structure Paths where
  getDirectory : String → String
  makeFileStringPath : String → Text → Option String

/-- What `fopen(path, "r")` reads, when the file can be opened, and `is_file_exist`. -/
structure FileSystem where
  text : String → Option Text
  isFileExist : String → Bool

/-- The paths of the streams of `stdio` that are open, the last opened first. -/
abbrev Handles := List String

/-- `fopen`. -/
def fopen (fs : FileSystem) (path : String) (handles : Handles) : Option Text × Handles :=
  match fs.text path with
  | some text => (some text, path :: handles)
  | none => (none, handles)

/-- `M3u8Reader::Parse` of a path, which leaves the stream to `ParseFile`. -/
def parsePath (cv : Convert) (fs : FileSystem) (path : String) (handles : Handles) :
    (Bool × M3u8Reader) × Handles :=
  let (file, handles) := fopen fs path handles
  (parse cv file, handles)

/-- The loop over the chunks of a playlist in the directory `dir`. -/
def chunksExist (paths : Paths) (fs : FileSystem) (dir : String) : List ChunkInfo → Bool
  | [] => true
  | chunk :: chunks =>
    match paths.makeFileStringPath dir chunk.path with
    | none => false
    | some chunkPath => if fs.isFileExist chunkPath then chunksExist paths fs dir chunks else false

/-- `CheckIsFullVod`. -/
def checkIsFullVod (cv : Convert) (paths : Paths) (fs : FileSystem) (file : String)
    (handles : Handles) : Bool × Handles :=
  let ((parsed, reader), handles) := parsePath cv fs file handles
  if parsed then (chunksExist paths fs (paths.getDirectory file) reader.chunks, handles)
  else (false, handles)

end IptvCloud.Server.Vods
