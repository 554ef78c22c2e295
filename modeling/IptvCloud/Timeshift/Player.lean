import IptvCloud.Timeshift.Recorder

/-!
# The chunk a timeshift player starts from

`TimeShiftInfo::FindChunkToPlay` (`stream/timeshift.cpp`): the chunk files of the directory are
listed, sorted by their index and searched for the desired time. Times are seconds, the clock is in
milliseconds and the delay in minutes; `stat` of every listed file succeeds.
-/

namespace IptvCloud.Timeshift

/-- `filter_files`: the base name converts to a `chunk_index_t`. -/
def filterFiles (file : Σ _ : Nat, Int) : Bool := file.1 < 2 ^ 64

/-- The sorted result of `ScanFolder`. -/
def chunkFiles (dir : Directory) : List (Σ _ : Nat, Int) :=
  sortFiles (dir.entries.filter filterFiles)

/-- `desired_time`; `now` is `current_utc_mstime()`. -/
def desiredTime (now delay : Int) : Int := now.tdiv 1000 - delay * 60

/-- The loop of `FindChunkToPlay`, with `prev_index`. -/
def findChunkToPlay.go (chunkDuration desired : Int) : Nat → List (Σ _ : Nat, Int) → Option Nat
  | _, [] => none
  | prevIndex, file :: files =>
    let diff := (desired - file.2) + chunkDuration
    if -chunkDuration < diff ∧ diff < chunkDuration then
      if 0 < diff ∧ prevIndex ≠ invalidChunkIndex then some prevIndex else some file.1
    else go chunkDuration desired file.1 files

/-- `TimeShiftInfo::FindChunkToPlay`: `none` when it returns false. -/
def findChunkToPlay (dir : Directory) (now delay chunkDuration : Int) : Option Nat :=
  findChunkToPlay.go chunkDuration (desiredTime now delay) invalidChunkIndex (chunkFiles dir)

end IptvCloud.Timeshift
