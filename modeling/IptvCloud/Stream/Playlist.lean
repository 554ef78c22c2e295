import IptvCloud.Lib.While
import IptvCloud.Stream.Configs
import IptvCloud.Lib.Checked

/-!
# Playlist streams (`stream/streams/{relay,encoding}/playlist_*_stream.cpp`)

`PlaylistRelayStream` and `PlaylistEncodingStream` feed an `appsrc` with the files of their
configuration, one after the other: `HandleNeedData` is called back whenever the source wants data.
The two classes have the same code and differ in the class of their configuration only. A file is
what is left to read of it; what a stream does is kept in a log.
-/

namespace IptvCloud.Streams

open Checked

/-- `BUFFER_SIZE`. -/
def bufferSize : Nat := 4096

/-- What a playlist stream does to the outside. -/
inductive PlaylistEffect
  | fopen (uri : InputUri) (opened : Bool)
  | inputChanged (uri : InputUri)
  | pushBuffer (buffer : List UInt8)
  | sendEos
  /-- `Quit(EXIT_INNER)`. -/
  | quit
  deriving DecidableEq

/-- The members of a playlist stream; `currentPos` is `curent_pos_`. -/
structure PlaylistStream where
  currentFile : Option (List UInt8) := none
  currentPos : Nat := 0
  log : List PlaylistEffect := []
  deriving DecidableEq

/-- What a playlist stream is made with, and the files that `fopen` opens. -/
structure Playlist where
  config : AudioVideoConfig
  hasClient : Bool
  fopen : String → Option (List UInt8)

/-- A call of `HandleNeedData`: whether `calloc` gives a buffer, and whether `PushBuffer` would
give `GST_FLOW_OK`. -/
structure NeedData where
  allocated : Bool
  flowOk : Bool
  deriving DecidableEq

inductive PlaylistSite
  | openNextFile
  deriving DecidableEq, Repr

/-- The only fault is an index out of range. -/
abbrev PlaylistOutcome := Except (Fault PlaylistSite Empty)

namespace Playlist

/-- `OpenNextFile`, which also sets `current_file_`. -/
def openNextFile (pl : Playlist) (s : PlaylistStream) : PlaylistOutcome PlaylistStream :=
  if pl.config.loop = false ∧ pl.config.input.length ≤ s.currentPos then
    .ok { s with currentFile := none }
  else do
    let pos := if pl.config.input.length ≤ s.currentPos then 0 else s.currentPos
    let iuri ← elemAt .openNextFile pl.config.input pos
    let file := pl.fopen iuri.input.path
    let changed := if file.isSome && pl.hasClient then [.inputChanged iuri] else []
    return { currentFile := file, currentPos := pos + 1,
             log := s.log ++ .fopen iuri file.isSome :: changed }

/-- How `HandleNeedData` leaves its loop. -/
inductive Left
  | eos
  | filled (buffer : List UInt8)
  deriving DecidableEq

/-- `fread` of a file that is open, and `fclose` when there was nothing to read. -/
def readTurn (s : PlaylistStream) (file : List UInt8) :
    While.Turn PlaylistStream (PlaylistOutcome (Left × PlaylistStream)) :=
  let buffer := file.take bufferSize
  if buffer = [] then .again { s with currentFile := none }
  else .done (.ok (.filled buffer, { s with currentFile := some (file.drop bufferSize) }))

/-- A turn of the loop of `HandleNeedData`. -/
def turn (pl : Playlist) (s : PlaylistStream) :
    While.Turn PlaylistStream (PlaylistOutcome (Left × PlaylistStream)) :=
  match s.currentFile with
  | some file => readTurn s file
  | none =>
    match pl.openNextFile s with
    | .error fault => .done (.error fault)
    | .ok s' =>
      match s'.currentFile with
      | none => .done (.ok (.eos, { s' with log := s'.log ++ [.sendEos] }))
      | some file => readTurn s' file

/-- `HandleNeedData`; `none` when the loop takes more than `fuel` turns. -/
def handleNeedData (pl : Playlist) (fuel : Nat) (call : NeedData) (s : PlaylistStream) :
    Option (PlaylistOutcome PlaylistStream) :=
  if call.allocated then
    (While.loop pl.turn fuel s).map fun outcome => do
      let (left, s) ← outcome
      match left with
      | .eos => return s
      | .filled buffer =>
        let quit := if call.flowOk then [] else [.quit]
        return { s with log := s.log ++ .pushBuffer buffer :: quit }
  else some (.ok { s with log := s.log ++ [.sendEos] })

/-- The calls of `need_data_callback`, one after the other. -/
def run (pl : Playlist) (fuel : Nat) :
    List NeedData → PlaylistStream → Option (PlaylistOutcome PlaylistStream)
  | [], s => some (.ok s)
  | call :: calls, s =>
    match pl.handleNeedData fuel call s with
    | some (.ok s') => pl.run fuel calls s'
    | stopped => stopped

end Playlist

end IptvCloud.Streams
