import IptvCloud.Lib.Run
import IptvCloud.Timeshift.Recorder
import IptvCloud.Utils.M3u8

/-!
# Catch-up sessions and their playlist

A catch-up session (`stream/streams/timeshift/catchup_stream.cpp`) from the constructor, which loads
the chunks of `master.m3u8`, to `PostLoop`, which writes the playlist again. `PostLoop` finds every
file of the session still there, and the playlist then holds the bytes written.
-/

namespace IptvCloud.Timeshift

open Run M3u8

/-- The duration a chunk is written with: an invalid one is replaced by the configured length,
`duration * GST_SECOND` stored in a `GstClockTime`. -/
def playlistDuration (chunkDuration : Int) (duration : Nat) : Nat :=
  if clockTimeIsValid duration then duration
  else (chunkDuration * 1000000000 % 2 ^ 64).toNat

/-- The chunks as `WriteM3u8List` writes them. -/
def writtenChunks (chunkDuration : Int) (chunks : List ChunkInfo) : List ChunkInfo :=
  chunks.map fun chunk => { chunk with duration := playlistDuration chunkDuration chunk.duration }

/-- The text `CatchupStream::WriteM3u8List` writes; `target_duration` is a `size_t`. -/
def writeM3u8List (chunkDuration : Int) (chunks : List ChunkInfo) : Text :=
  let firstIndex := match chunks with
    | [] => 0
    | first :: _ => first.index
  writePlaylist firstIndex (chunkDuration % 2 ^ 64).toNat (writtenChunks chunkDuration chunks)

/-- The chunks that a `PostLoop` in the state `s` writes. -/
def postLoopChunks (cfg : RecorderConfig) (s : Recording) : List ChunkInfo :=
  match s.stream with
  | none => []
  | some r => writtenChunks cfg.chunkDuration r.chunks

/-- A session: the configuration, the time of `OnSplitmuxsinkCreated`, and the calls of `OnPathSet`
with the modification times of the files. `GetTimeShiftChunkDuration` is a `time_t`. -/
structure Session where
  dirPath : Text
  chunkDuration : Int
  chunkLifeTime : Int
  startTime : Int
  now : Int
  calls : List (Sample × Int)
  isTime : -2 ^ 63 ≤ chunkDuration ∧ chunkDuration < 2 ^ 63

def Session.config (e : Session) : RecorderConfig :=
  ⟨.catchup, e.dirPath, e.chunkDuration, e.chunkLifeTime, e.startTime⟩

/-- The calls of `OnPathSet`. -/
def pathSets (calls : List (Sample × Int)) : List Event := calls.map fun c => .pathSet c.1 c.2

/-- A catch-up directory: the chunk files, `master.m3u8`, and the indices recorded in all sessions
so far, in order. -/
structure Catchup where
  dir : Directory
  playlist : Option Text
  recorded : List Nat

/-- A directory before its first session. -/
def Catchup.init (dir : Directory) : Catchup := ⟨dir, none, []⟩

/-- The constructor, `OnSplitmuxsinkCreated`, the calls of `OnPathSet` and `PostLoop`. The
constructor takes the chunks the reader has found also when `Parse` fails. -/
def runSession (cv : Convert) (s : Catchup) (e : Session) : Option Catchup :=
  (exec (step e.config) (.init s.dir)
      (.splitmuxsinkCreated e.now (parse cv s.playlist).2.chunks :: pathSets e.calls)).bind
    fun last =>
      last.stream.map fun r =>
        ⟨last.dir, some (writeM3u8List e.chunkDuration r.chunks),
          s.recorded ++ last.returned.reverse⟩

end IptvCloud.Timeshift
