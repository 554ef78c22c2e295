import IptvCloud.Lib.Printf
import IptvCloud.Utils.M3u8

/-!
# Chunks as texts (`utils/chunk_info.cpp`)

`ConvertToString` and `ConvertFromString` of a `ChunkInfo`. The conversion of a text to a
`uint64_t` is that of the parameter `Convert`.
-/

namespace IptvCloud

open M3u8 Printf

/-- `ConvertToString`. -/
def convertToString (value : ChunkInfo) : Text :=
  printf "%s:%llu:%llu".toList [.str value.path, .ulong value.index, .ulong value.duration]

/-- The loop of `ConvertFromString` on the characters that are left: the text since the last
separator, the number of separators, and the fields read so far. -/
def convertFromString.go (cv : Convert) : Text → Text → Nat → ChunkInfo → ChunkInfo
  | [], _, _, res => res
  | c :: rest, line, pos, res =>
    if c = ':' then
      if pos = 0 then go cv rest [] (pos + 1) { res with path := line }
      else
        let res := match cv.toUInt64 line with
          | some ind => { res with index := ind }
          | none => res
        match cv.toUInt64 rest with
          | some lts => { res with duration := lts }
          | none => res
    else go cv rest (line ++ [c]) pos res

/-- `ConvertFromString`: the result, and what `out` (null, or a variable) holds after the call. -/
def convertFromString (cv : Convert) (text : Text) (out : Option ChunkInfo) :
    Bool × Option ChunkInfo :=
  match out with
  | none => (false, none)
  | some old =>
    if text.isEmpty then (false, some old)
    else (true, some (convertFromString.go cv text [] 0 .empty))

end IptvCloud
