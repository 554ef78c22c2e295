import Mathlib.Algebra.Ring.Int.Defs
import Mathlib.Algebra.Ring.Nat

/-!
# Chunks of a recording (`utils/chunk_info.h`)

Texts are lists of characters, `uint64_t` values natural numbers below `2 ^ 64` with the wrap
written out (`u64`). `GST_CLOCK_TIME_NONE` and `invalid_chunk_index` are both the largest
`uint64_t`.
-/

namespace IptvCloud

/-- A C string. -/
abbrev Text := List Char

/-- The value a `uint64_t` holds after an assignment. -/
def u64 (n : Nat) : Nat := n % 2 ^ 64

/-- `GST_CLOCK_TIME_NONE`. -/
def clockTimeNone : Nat := 2 ^ 64 - 1

/-- `GST_CLOCK_TIME_IS_VALID`. -/
def clockTimeIsValid (t : Nat) : Bool := t != clockTimeNone

/-- `GST_CLOCK_DIFF(s, e)` stored in a `GstClockTime`. -/
def clockDiff (s e : Nat) : Nat := u64 (e + 2 ^ 64 - s)

/-- `std::numeric_limits<chunk_index_t>::max()`. -/
def invalidChunkIndex : Nat := 2 ^ 64 - 1

/-- `utils::ChunkInfo`, its fields in the order of the source (and of its constructor): the path,
the duration in nanoseconds, the index. -/
structure ChunkInfo where
  path : Text
  duration : Nat
  index : Nat
  deriving DecidableEq, Repr

/-- `ChunkInfo()`. -/
def ChunkInfo.empty : ChunkInfo := ⟨[], 0, 0⟩

/-- `"%llu.ts"`: the name of the chunk file with an index. -/
def tsName (index : Nat) : Text := Nat.toDigits 10 index ++ ['.', 't', 's']

end IptvCloud
