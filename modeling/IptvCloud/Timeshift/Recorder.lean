import Mathlib.Data.List.AList
import Mathlib.Data.List.Sort
import IptvCloud.Utils.Chunk

/-!
# The timeshift and catch-up recorders

`TimeShiftRecorderStream` and `CatchupStream` (`stream/streams/timeshift/`) over the chunk files of
one directory, with `TimeShiftInfo::FindLastChunk` (`stream/timeshift.cpp`). A stream object lives
for one session: `OnSplitmuxsinkCreated` starts it, `splitmuxsink` asks for the path of every new
file with `OnPathSet` and creates the file it gets, and `HandleMainTimerTick` removes old files.
The catch-up recorder overrides `GetNextChunkStrategy` and `OnPathSet`.
-/

namespace IptvCloud.Timeshift

/-- The chunk files of a directory: the modification time (in seconds) of every `<index>.ts`. -/
abbrev Directory := AList fun _ : Nat => Int

/-! ## `TimeShiftInfo` -/

/-- `compare_files`. -/
def compareFiles (first second : Σ _ : Nat, Int) : Bool := first.1 < second.1

/-- `std::sort(files.begin(), files.end(), compare_files)`. -/
def sortFiles (files : List (Σ _ : Nat, Int)) : List (Σ _ : Nat, Int) :=
  files.insertionSort fun first second => compareFiles second first = false

/-- `TimeShiftInfo::FindLastChunk`: the index and the modification time of the last file.
`ScanFolder` returns the chunk files, `stat` of the last one succeeds. -/
def findLastChunk (dir : Directory) : Option (Nat × Int) :=
  (sortFiles dir.entries).getLast?.map fun file => (file.1, file.2)

/-! ## The streams -/

/-- The class of the stream object. -/
inductive RecorderKind
  | timeshiftRecorder
  | catchup
  deriving DecidableEq, Repr

/-- What the streams read of their configuration and shared memory: `timshift_dir`,
`GetTimeShiftChunkDuration` and `timeshift_chunk_life_time` (seconds), `start_time`
(milliseconds). -/
structure RecorderConfig where
  kind : RecorderKind
  dirPath : Text
  chunkDuration : Int
  chunkLifeTime : Int
  startTime : Int

/-- The stream object: `chunk_`, and the `chunks_` of `CatchupStream`. -/
structure Recorder where
  chunk : ChunkInfo
  chunks : List ChunkInfo
  deriving DecidableEq, Repr

/-- The `GstSample*` of `OnPathSet`: null, without a buffer, or with a buffer whose
`GST_BUFFER_DTS_OR_PTS` is `time` (`clockTimeNone` when it has none). -/
inductive Sample
  | null
  | noBuffer
  | buffer (time : Nat)
  deriving DecidableEq, Repr

/-- `IBaseStream::no_data_panic_sec`. -/
def noDataPanicSec : Int := 60

/-- `GetNextChunkStrategy` of both classes; `now` is `current_utc_mstime()`. -/
def getNextChunkStrategy (cfg : RecorderConfig) (now : Int) (lastIndex : Nat)
    (lastIndexCreatedTime : Int) : Nat :=
  match cfg.kind with
  | .catchup => u64 (lastIndex + 1)
  | .timeshiftRecorder =>
    let diff := now.tdiv 1000 - lastIndexCreatedTime
    if 0 < diff then ((lastIndex + diff.tdiv cfg.chunkDuration) % 2 ^ 64).toNat else lastIndex

/-- `OnSplitmuxsinkCreated`: the members of `chunk_` are given by position. -/
def onSplitmuxsinkCreated (cfg : RecorderConfig) (now : Int) (dir : Directory) (r : Recorder) :
    Recorder :=
  let index := match findLastChunk dir with
    | some (last, created) => getNextChunkStrategy cfg now last created
    | none => invalidChunkIndex
  { r with chunk := ⟨cfg.dirPath, index, clockTimeNone⟩ }

/-- `CalcNextIndex`; `is_file_exist` of `<path><index>.ts` is membership. -/
def calcNextIndex (dir : Directory) (chunk : ChunkInfo) : Nat :=
  let index := if chunk.index = invalidChunkIndex then 0 else chunk.index
  if index ∈ dir then u64 (index + 1) else index

/-- `TimeShiftRecorderStream::OnPathSet`: the stream after the call and the index of the returned
path. -/
def Recorder.basePathSet (dir : Directory) (r : Recorder) : Recorder × Nat :=
  let ind := calcNextIndex dir r.chunk
  ({ r with chunk := { r.chunk with index := ind } }, ind)

/-- The duration of the last chunk of a list is overwritten. -/
def setLastDuration (chunks : List ChunkInfo) (duration : Nat) : List ChunkInfo :=
  match chunks.getLast? with
  | some last => chunks.dropLast ++ [{ last with duration }]
  | none => chunks

/-- The sample's part of `CatchupStream::OnPathSet`: `chunk_.duration` keeps the time of the last
buffer. -/
def Recorder.noteSample (r : Recorder) : Sample → Recorder
  | .null | .noBuffer => r
  | .buffer time =>
    let chunks :=
      if clockTimeIsValid time && clockTimeIsValid r.chunk.duration then
        setLastDuration r.chunks (clockDiff r.chunk.duration time)
      else r.chunks
    ⟨{ r.chunk with duration := time }, chunks⟩

/-- `CatchupStream::OnPathSet`. -/
def Recorder.catchupPathSet (dir : Directory) (r : Recorder) (sample : Sample) : Recorder × Nat :=
  let ind := calcNextIndex dir r.chunk
  let chunk : ChunkInfo := ⟨tsName ind, clockTimeNone, ind⟩
  let r := r.noteSample sample
  Recorder.basePathSet dir { r with chunks := r.chunks ++ [chunk] }

/-- `OnPathSet` of the stream's class. -/
def onPathSet (cfg : RecorderConfig) (dir : Directory) (r : Recorder) (sample : Sample) :
    Recorder × Nat :=
  match cfg.kind with
  | .timeshiftRecorder => r.basePathSet dir
  | .catchup => r.catchupPathSet dir sample

/-- `RemoveOldFilesByTime` on the chunk files; `unlinkOk` are the files whose removal succeeds. -/
def removeOldFilesByTime (dir : Directory) (maxLifeSecs : Int) (unlinkOk : Nat → Bool) :
    Directory :=
  ⟨dir.entries.filter fun file => !(decide (file.2 < maxLifeSecs) && unlinkOk file.1),
    dir.nodupKeys.sublist List.filter_sublist⟩

/-- `HandleMainTimerTick`: every `no_data_panic_sec` seconds of life time. -/
def handleMainTimerTick (cfg : RecorderConfig) (now : Int) (unlinkOk : Nat → Bool)
    (dir : Directory) : Directory :=
  let el := (now - cfg.startTime).tdiv 1000
  if el.tmod noDataPanicSec = 0 then
    removeOldFilesByTime dir (now.tdiv 1000 - cfg.chunkLifeTime) unlinkOk
  else dir

/-! ## Sessions on one directory -/

/-- The directory, the stream object of the current session, and the indices its `OnPathSet` has
returned, last first. -/
structure Recording where
  dir : Directory
  stream : Option Recorder
  returned : List Nat

/-- A directory before the first session. -/
def Recording.init (dir : Directory) : Recording := ⟨dir, none, []⟩

inductive Event
  /-- A new stream object, with the chunks its constructor loaded, and `OnSplitmuxsinkCreated`. -/
  | splitmuxsinkCreated (now : Int) (loaded : List ChunkInfo)
  /-- `OnPathSet`, then `splitmuxsink` creates the returned file. -/
  | pathSet (sample : Sample) (mtime : Int)
  | mainTimerTick (now : Int) (unlinkOk : Nat → Bool)

/-- One event; `OnPathSet` is called on the stream object of a session only. -/
def step (cfg : RecorderConfig) (s : Recording) : Event → Option Recording
  | .splitmuxsinkCreated now loaded =>
    some { s with
      stream := some (onSplitmuxsinkCreated cfg now s.dir ⟨ChunkInfo.empty, loaded⟩)
      returned := [] }
  | .pathSet sample mtime =>
    s.stream.map fun r =>
      let (r', ind) := onPathSet cfg s.dir r sample
      ⟨s.dir.insert ind mtime, some r', ind :: s.returned⟩
  | .mainTimerTick now unlinkOk =>
    some { s with dir := handleMainTimerTick cfg now unlinkOk s.dir }

end IptvCloud.Timeshift
