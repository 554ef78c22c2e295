import IptvCloud.Server.ServiceStats
import IptvCloud.Utils.Proof.Machine

/-!
# The bandwidth that is reported

A call divides by the seconds since the call before, which are never zero (`makeServiceStats_spec`).
The difference of two totals wraps when the second is smaller, so that a rate is at most the latest
total exactly in the calls that `RateFits` describes (`divide_le_iff`); `bandwidth_iff` says so of
whole runs.
-/

namespace IptvCloud.Server.ServiceStats

open Machine Run

theorem tsDiff_ne_zero (timestamp currentTime : Int64) : tsDiff timestamp currentTime ≠ 0 := by
  rw [tsDiff]
  split
  · decide
  · assumption

theorem divisor_ne_zero (timestamp currentTime : Int64) :
    (tsDiff timestamp currentTime).toUInt64 ≠ 0 := fun h => by
  refine tsDiff_ne_zero timestamp currentTime ?_
  rw [← Int64.toInt64_toUInt64 (tsDiff timestamp currentTime), h]
  rfl

/-- What a call returns. -/
theorem makeServiceStats_spec (s : NodeStats) (r : Reading) :
    makeServiceStats s r =
      some (⟨getMachineCpuShot r.cpuVars r.stat, getMachineNetShot r.netVars r.netDev,
          r.currentTime⟩,
        ⟨(getCpuMachineLoad s.prev (getMachineCpuShot r.cpuVars r.stat)).map
            fun q => truncate (q * 100),
          ((getMachineNetShot r.netVars r.netDev).bytesRecv - s.prevNshot.bytesRecv) /
            (tsDiff s.timestamp r.currentTime).toUInt64,
          ((getMachineNetShot r.netVars r.netDev).bytesSend - s.prevNshot.bytesSend) /
            (tsDiff s.timestamp r.currentTime).toUInt64,
          r.currentTime⟩) := by
  have hdiff := divisor_ne_zero s.timestamp r.currentTime
  simp only [makeServiceStats, divide, if_neg hdiff]
  rfl

/-- A total that has not gone down, or so long a time that the wrapped difference is small. -/
def RateFits (prev next divisor : UInt64) : Prop :=
  prev ≤ next ∨ 2 ^ 64 - prev.toNat + next.toNat < divisor.toNat * (next.toNat + 1)

theorem divide_le_iff {prev next divisor : UInt64} (hd : divisor ≠ 0) :
    (next - prev) / divisor ≤ next ↔ RateFits prev next divisor := by
  have hpos : 0 < divisor.toNat := by
    refine Nat.pos_of_ne_zero fun h => hd ?_
    rw [← UInt64.toNat_inj, h]
    rfl
  have hprev := prev.toNat_lt
  have hnext := next.toNat_lt
  rw [RateFits, UInt64.le_iff_toNat_le, UInt64.le_iff_toNat_le, UInt64.toNat_div,
    UInt64.toNat_sub, ← Nat.lt_succ_iff, Nat.div_lt_iff_lt_mul hpos, Nat.mul_comm]
  by_cases hle : prev.toNat ≤ next.toNat
  · have hdiff : (2 ^ 64 - prev.toNat + next.toNat) % 2 ^ 64 = next.toNat - prev.toNat := by omega
    rw [hdiff]
    refine iff_of_true ?_ (.inl hle)
    calc next.toNat - prev.toNat < next.toNat + 1 := by omega
      _ ≤ divisor.toNat * (next.toNat + 1) := Nat.le_mul_of_pos_left _ hpos
  · have hdiff : (2 ^ 64 - prev.toNat + next.toNat) % 2 ^ 64 = 2 ^ 64 - prev.toNat + next.toNat :=
      Nat.mod_eq_of_lt (by omega)
    rw [hdiff]
    simp only [hle, false_or, Nat.succ_eq_add_one]

/-- The call returns, and the rates are at most the bytes of the latest reading. -/
def Bounded (s : NodeStats) (r : Reading) : Prop :=
  ∃ s' info, makeServiceStats s r = some (s', info) ∧
    info.netBytesRecv ≤ (getMachineNetShot r.netVars r.netDev).bytesRecv ∧
    info.netBytesSend ≤ (getMachineNetShot r.netVars r.netDev).bytesSend

/-- Neither total goes down, or not in so short a time. -/
def Advancing (s : NodeStats) (r : Reading) : Prop :=
  RateFits s.prevNshot.bytesRecv (getMachineNetShot r.netVars r.netDev).bytesRecv
    (tsDiff s.timestamp r.currentTime).toUInt64 ∧
  RateFits s.prevNshot.bytesSend (getMachineNetShot r.netVars r.netDev).bytesSend
    (tsDiff s.timestamp r.currentTime).toUInt64

theorem bounded_iff (s : NodeStats) (r : Reading) : Bounded s r ↔ Advancing s r := by
  have hd := divisor_ne_zero s.timestamp r.currentTime
  rw [Bounded, makeServiceStats_spec, Advancing, ← divide_le_iff hd, ← divide_le_iff hd]
  constructor
  · rintro ⟨s', info, h, hr, hs⟩
    cases h
    exact ⟨hr, hs⟩
  · rintro ⟨hr, hs⟩
    exact ⟨_, _, rfl, hr, hs⟩

/-- No call divides by zero; and in a run, whatever was stored before it, the rates are bounded by
the latest readings exactly when the totals advance at every call. -/
theorem bandwidth_iff (start : NodeStats) (readings : List Reading) :
    (∀ s r, (makeServiceStats s r).isSome) ∧
    (Along step Bounded start readings ↔ Along step Advancing start readings) := by
  refine ⟨fun s r => ?_, ?_⟩
  · rw [makeServiceStats_spec]
    rfl
  · exact along_iff (I := fun _ => True) (fun s r _ => bounded_iff s r) (fun _ _ _ _ _ _ => trivial)
      trivial

def eth : Interface :=
  .printed "eth0".toList [1000, 1, 0, 0, 0, 0, 0, 0, 500, 1, 0, 0, 0, 0, 0, 0]
    (word_of_all (by decide +kernel)) (by decide +kernel) (by decide) (by decide)

/-- A reading with an interface, and one without the file. -/
def ethReading : Reading := ⟨noVars, none, fun _ => (0, 0), some (devOf [eth]).text, 1000⟩

def lostReading : Reading := ⟨noVars, none, fun _ => (0, 0), none, 2000⟩

/-- When the file that `Exec` read cannot be read at the first call, the difference wraps. -/
theorem bandwidth_lost :
    (makeServiceStats (.exec ethReading) lostReading).map
      (fun p => (p.2.netBytesRecv, p.2.netBytesSend)) =
        some (18446744073709550616, 18446744073709551116) ∧
    ¬ ∀ (first : Reading) (readings : List Reading),
      Along step Bounded (.exec first) readings := by
  refine ⟨by decide +kernel, fun h => ?_⟩
  have hshot : (NodeStats.exec ethReading).prevNshot = ⟨1000, 500⟩ := by
    decide +kernel
  have hfits := ((bounded_iff _ _).1 (h ethReading [lostReading]).1).1
  rw [hshot] at hfits
  revert hfits
  rw [RateFits]
  decide +kernel

end IptvCloud.Server.ServiceStats
