import IptvCloud.Utils.M3u8

/-!
# The grammar of the playlists that the reader accepts

A playlist is a list of header lines, a list of chunks of two lines each, and an ending: the footer,
after which anything may stand, or the end of the text. Its lines are those of a text without the
blank ones; `Playlist.reader` is what a reader holds of it.
-/

namespace IptvCloud.M3u8

open Stdio

/-- The number that a run of digits denotes. -/
def digitsValue (ds : Text) : Nat := Nat.ofDigitChars 10 ds 0

/-! ## Header lines -/

inductive Header
  | extm3u
  | version (digits : Text)
  | allowCache (allowed : Bool)
  | mediaSequence (digits : Text)
  | targetDuration (digits : Text)

def Header.text : Header → Text
  | .extm3u => "#EXTM3U".toList
  | .version digits => "#EXT-X-VERSION:".toList ++ digits
  | .allowCache allowed =>
    "#EXT-X-ALLOW-CACHE:".toList ++ (if allowed then "YES".toList else "NO".toList)
  | .mediaSequence digits => "#EXT-X-MEDIA-SEQUENCE:".toList ++ digits
  | .targetDuration digits => "#EXT-X-TARGETDURATION:".toList ++ digits

/-- A run of digits whose number fits an `int`. -/
def IsIntDigits (digits : Text) : Prop := IsDigits digits ∧ digitsValue digits < 2 ^ 31

def Header.Valid : Header → Prop
  | .extm3u | .allowCache _ => True
  | .version digits | .mediaSequence digits | .targetDuration digits => IsIntDigits digits

def Header.version? : Header → Option Int
  | .version digits => some (digitsValue digits)
  | _ => none

def Header.allowCache? : Header → Option Bool
  | .allowCache allowed => some allowed
  | _ => none

def Header.mediaSequence? : Header → Option Int
  | .mediaSequence digits => some (digitsValue digits)
  | _ => none

def Header.targetDuration? : Header → Option Int
  | .targetDuration digits => some (digitsValue digits)
  | _ => none

/-- The field of the last header line that has it. -/
def lastField {α : Type} (field : Header → Option α) (headers : List Header) (default : α) : α :=
  (headers.filterMap field).getLast?.getD default

/-! ## Chunks -/

/-- A chunk: the number of its first line, and the name and the digits of its second. -/
structure Entry where
  number : Text
  name : Text
  digits : Text

def Entry.header (e : Entry) : Text := "#EXTINF:".toList ++ e.number ++ [',']

def Entry.path (e : Entry) : Text := e.name ++ e.digits ++ ['.', 't', 's']

def Entry.lines (e : Entry) : List Text := [e.header, e.path]

/-- The digits are all those before `.ts`, and their number fits a `uint64_t`. -/
structure Entry.Valid (cv : Convert) (e : Entry) : Prop where
  number : e.number ≠ [] ∧ ∀ c ∈ e.number, c.isDigit = true ∨ c = '.'
  converts : (cv.toDouble e.number).isSome = true
  name : ∀ c ∈ e.name, c.isAlphanum = true ∨ c = '_'
  maximal : ∀ c, e.name.getLast? = some c → c.isDigit = false
  digits : IsDigits e.digits
  index : digitsValue e.digits < 2 ^ 64

/-- The chunk of an entry; the duration is that of its number. -/
def Entry.chunk (cv : Convert) (e : Entry) : ChunkInfo where
  path := e.path
  duration := cv.ofDouble (Binary64.round ((cv.toDouble e.number).getD 0 * 1000000000))
  index := digitsValue e.digits

/-! ## Playlists -/

inductive Ending
  /-- The footer, and the lines after it. -/
  | endlist (rest : List Text)
  | endOfText

def Ending.lines : Ending → List Text
  | .endlist rest => "#EXT-X-ENDLIST".toList :: rest
  | .endOfText => []

structure Playlist where
  headers : List Header
  entries : List Entry
  ending : Ending

def Playlist.lines (p : Playlist) : List Text :=
  p.headers.map Header.text ++ (p.entries.flatMap Entry.lines ++ p.ending.lines)

structure Playlist.Valid (cv : Convert) (p : Playlist) : Prop where
  headers : ∀ h ∈ p.headers, h.Valid
  entries : ∀ e ∈ p.entries, e.Valid cv
  ending : p.ending = .endOfText → p.entries ≠ []

/-- What a reader holds of a playlist. -/
def Playlist.reader (cv : Convert) (p : Playlist) : M3u8Reader where
  version := lastField Header.version? p.headers (-1)
  allowCache := lastField Header.allowCache? p.headers false
  mediaSequence := lastField Header.mediaSequence? p.headers (-1)
  targetDuration := lastField Header.targetDuration? p.headers (-1)
  chunks := p.entries.map (Entry.chunk cv)

/-! ## Texts -/

/-- A line of a text: short enough for the buffer, without a newline or a NUL, and blank or without
trailing white space. -/
structure IsLine (l : Text) : Prop where
  not_newline : '\n' ∉ l
  not_nul : '\x00' ∉ l
  short : l.length ≤ 253
  trimmed : l.all isspace = true ∨ ∀ c, l.getLast? = some c → isspace c = false

/-- The lines of a text that are not blank. -/
def nonBlank (lines : List Text) : List Text := lines.filter fun l => !l.all isspace

end IptvCloud.M3u8
