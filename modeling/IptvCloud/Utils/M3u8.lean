import IptvCloud.Lib.Binary64
import IptvCloud.Lib.Stdio
import IptvCloud.Utils.Chunk

/-!
# The m3u8 writer and reader (`utils/m3u8_writer.cpp`, `utils/m3u8_reader.cpp`)

The writer produces the text of a playlist, the reader parses the text of a file. The library
`common` is not part of the repository: its `ConvertFromString` is a parameter (`Convert`), with
what the reader relies on in `Convert.Lawful`.
-/

namespace IptvCloud.M3u8

open Stdio

/-! ## The writer -/

/-- A line with its newline. -/
def line (t : Text) : Text := t ++ ['\n']

/-- `%llu`. -/
def llu (n : Nat) : Text := Nat.toDigits 10 n

/-- `ChunkInfo::GetDurationInSecconds`; the duration is a `uint64_t`. -/
def getDurationInSecconds (chunk : ChunkInfo) : ℚ :=
  Binary64.round (Binary64.round (u64 chunk.duration) / 1000000000)

/-- `M3u8Writer::WriteHeader`. -/
def writeHeader (firstIndex targetDuration : Nat) : Text :=
  line "#EXTM3U".toList ++ (line ("#EXT-X-MEDIA-SEQUENCE:".toList ++ llu firstIndex) ++
    (line "#EXT-X-ALLOW-CACHE:YES".toList ++ (line "#EXT-X-VERSION:3".toList ++
      line ("#EXT-X-TARGETDURATION:".toList ++ llu targetDuration))))

/-- `#EXTINF:%.2f,`. -/
def chunkHeader (chunk : ChunkInfo) : Text :=
  "#EXTINF:".toList ++ Binary64.fixed2 (getDurationInSecconds chunk) ++ [',']

/-- `M3u8Writer::WriteLine`. -/
def writeLine (chunk : ChunkInfo) : Text := line (chunkHeader chunk) ++ line chunk.path

/-- `M3u8Writer::WriteFooter`: without a newline. -/
def writeFooter : Text := "#EXT-X-ENDLIST".toList

/-- The text of a playlist. -/
def writePlaylist (firstIndex targetDuration : Nat) (cs : List ChunkInfo) : Text :=
  writeHeader firstIndex targetDuration ++ (cs.flatMap writeLine ++ writeFooter)

/-! ## The reader -/

/-- `common::ConvertFromString` to `int`, `uint64_t` and `double`, and the conversion of a double
to `uint64_t`. -/
structure Convert where
  toInt : Text → Option Int
  toUInt64 : Text → Option Nat
  toDouble : Text → Option ℚ
  ofDouble : ℚ → Nat

/-- A non-empty run of decimal digits. -/
def IsDigits (t : Text) : Prop := t ≠ [] ∧ ∀ c ∈ t, c.isDigit

/-- What the reader relies on: a run of digits converts exactly when its value fits the type, a
decimal fraction of moderate size always does. -/
structure Convert.Lawful (cv : Convert) : Prop where
  toInt_digits : ∀ t, IsDigits t → cv.toInt t =
    if Nat.ofDigitChars 10 t 0 < 2 ^ 31 then some (Nat.ofDigitChars 10 t 0 : Int) else none
  toUInt64_digits : ∀ t, IsDigits t → cv.toUInt64 t =
    if Nat.ofDigitChars 10 t 0 < 2 ^ 64 then some (Nat.ofDigitChars 10 t 0) else none
  toDouble_fraction : ∀ a b, IsDigits a → IsDigits b → a.length ≤ 20 → b.length ≤ 20 →
    (cv.toDouble (a ++ '.' :: b)).isSome

/-- `M3u8Reader`; the defaults are those of the constructor and of `Clear`. -/
structure M3u8Reader where
  version : Int := -1
  allowCache : Bool := false
  mediaSequence : Int := -1
  targetDuration : Int := -1
  chunks : List ChunkInfo := []

/-- `MAX_LINE`. -/
def maxLine : Nat := 255

/-- The test of `GetNonEmptyLine`: only white space before the end of the string. -/
def isBlank (buf : Text) : Bool := (cstr buf).all isspace

/-- `RemoveTrailingSpaces` of the string at the buffer. -/
def removeTrailingSpaces (buf : Text) : Text := (cstr buf).rdropWhile isspace

/-- `std::regex_match` with `^<pre>([0-9]+)$`: the group. -/
def matchNumber (pre : String) (l : Text) : Option Text :=
  (l.dropPrefix? pre.toList).bind fun ds =>
    if !ds.isEmpty && ds.all Char.isDigit then some ds else none

/-- `^#EXT-X-ALLOW-CACHE:([A-Z]+)$`. -/
def matchAllowCache (l : Text) : Option Text :=
  (l.dropPrefix? "#EXT-X-ALLOW-CACHE:".toList).bind fun w =>
    if !w.isEmpty && w.all Char.isUpper then some w else none

/-- `^#EXTINF:([0-9.]+),$`. -/
def matchChunkHeader (l : Text) : Option Text :=
  (l.dropPrefix? "#EXTINF:".toList).bind fun t =>
    match t.getLast? with
    | some ',' =>
      if !t.dropLast.isEmpty && t.dropLast.all (fun c => c.isDigit || c == '.') then some t.dropLast
      else none
    | _ => none

/-- `[A-Za-z0-9_]*?([0-9]+)` against a whole text: the group after the shortest prefix. -/
def lazyDigits : Text → Option Text
  | [] => none
  | c :: cs =>
    if (c :: cs).all Char.isDigit then some (c :: cs)
    else if c.isAlphanum || c == '_' then lazyDigits cs else none

/-- `^[A-Za-z0-9_]*?([0-9]+)\.ts$`. -/
def matchChunk (l : Text) : Option Text :=
  (l.reverse.dropPrefix? ['s', 't', '.']).bind fun stem => lazyDigits stem.reverse

/-- `ParseChunks` on the lines that `GetNonEmptyLine` returns. -/
def parseChunks (cv : Convert) : List Text → M3u8Reader → Bool × M3u8Reader
  | [], r => (!r.chunks.isEmpty, r)
  | [header], r => (removeTrailingSpaces header == writeFooter, r)
  | header :: chunk :: rest, r =>
    if removeTrailingSpaces header = writeFooter then (true, r)
    else
      match (matchChunkHeader (removeTrailingSpaces header)).bind cv.toDouble with
      | none => (false, r)
      | some duration =>
        match (matchChunk (removeTrailingSpaces chunk)).bind cv.toUInt64 with
        | none => (false, r)
        | some index =>
          parseChunks cv rest { r with
            chunks := r.chunks ++ [⟨removeTrailingSpaces chunk,
              cv.ofDouble (Binary64.round (duration * 1000000000)), index⟩] }

/-- The lines `GetNonEmptyLine` returns from a file positioned at a text. -/
def nonEmptyLines (text : Text) : List Text := (fgetsLines maxLine text).filter fun l => !isBlank l

/-- The rest of the file after `fseek(file, off - len - 1, SEEK_SET)`; a negative offset fails and
leaves the position at `off`. -/
def seekBack (text : Text) (off len : Nat) : Text :=
  if len + 1 ≤ off then text.drop (off - len - 1) else text.drop off

/-- What the loop of `ParseFile` does with a line: go on, return false, or leave for
`ParseChunks`. -/
inductive HeaderLine
  | next (r : M3u8Reader)
  | fail
  | notHeader

/-- The number of a header line is stored, or the reader gives up. -/
def storeNumber (n : Option Int) (store : Int → M3u8Reader) : HeaderLine :=
  match n with
  | some n => .next (store n)
  | none => .fail

/-- The tests of `ParseFile` on a line, in their order. -/
def readHeaderLine (cv : Convert) (l : Text) (r : M3u8Reader) : HeaderLine :=
  if l = "#EXTM3U".toList then .next r
  else match matchNumber "#EXT-X-VERSION:" l with
  | some ds => storeNumber (cv.toInt ds) fun n => { r with version := n }
  | none => match matchAllowCache l with
  | some w =>
    if w = "YES".toList then .next { r with allowCache := true }
    else if w = "NO".toList then .next { r with allowCache := false }
    else .fail
  | none => match matchNumber "#EXT-X-MEDIA-SEQUENCE:" l with
  | some ds => storeNumber (cv.toInt ds) fun n => { r with mediaSequence := n }
  | none => match matchNumber "#EXT-X-TARGETDURATION:" l with
  | some ds => storeNumber (cv.toInt ds) fun n => { r with targetDuration := n }
  | none => .notHeader

/-- `ParseFile` on the lines from the offset `off` of the file on. -/
def parseFile.go (cv : Convert) (text : Text) : List Text → Nat → M3u8Reader → Bool × M3u8Reader
  | [], _, r => (false, r)
  | buf :: rest, off, r =>
    if isBlank buf then go cv text rest (off + buf.length) r
    else match readHeaderLine cv (removeTrailingSpaces buf) r with
    | .next r => go cv text rest (off + buf.length) r
    | .fail => (false, r)
    | .notHeader =>
      parseChunks cv (nonEmptyLines (seekBack text (off + buf.length)
        (removeTrailingSpaces buf).length)) r

/-- `M3u8Reader::Parse` of a file (`none` when it cannot be opened). -/
def parse (cv : Convert) : Option Text → Bool × M3u8Reader
  | none => (false, {})
  | some text => parseFile.go cv text (fgetsLines maxLine text) 0 {}

end IptvCloud.M3u8
