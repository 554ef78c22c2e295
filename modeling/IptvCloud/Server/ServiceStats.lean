import IptvCloud.Lib.Run
import IptvCloud.Utils.Machine

/-!
# Statistics of the service (`ProcessSlaveWrapper::MakeServiceStats`)

The load and the bandwidth that the daemon reports, computed from the counters of the machine and
from those of the call before (`NodeStats`); `Exec` reads them once before the loop. A clock is read
in milliseconds. The other parts of the report (memory, disk, uptime, the clients) do not depend on
an earlier call and are left out.
-/

namespace IptvCloud.Server.ServiceStats

open Machine

/-- `ProcessSlaveWrapper::NodeStats`. -/
structure NodeStats where
  prev : CpuShot := {}
  prevNshot : NetShot := {}
  timestamp : Int64

/-- What a call reads: the two files, and the clock. -/
structure Reading where
  cpuVars : CpuVars
  stat : Option Text
  netVars : NetVars
  netDev : Option Text
  currentTime : Int64

/-- What `ProcessSlaveWrapper::Exec` stores before its loop. -/
def NodeStats.exec (r : Reading) : NodeStats :=
  ⟨getMachineCpuShot r.cpuVars r.stat, getMachineNetShot r.netVars r.netDev, r.currentTime⟩

/-- The part of `service::ServerInfo` that is computed; the load is none where the source divides by
zero in floating point. -/
structure ServerInfo where
  cpuLoad : Option Int
  netBytesRecv : UInt64
  netBytesSend : UInt64
  timestamp : Int64
  deriving DecidableEq, Repr

/-- The conversion of a floating point number to `int`. -/
def truncate (q : ℚ) : Int := q.num.tdiv q.den

/-- `ts_diff`: the seconds between two calls. -/
def tsDiff (timestamp currentTime : Int64) : Int64 :=
  let diff := (currentTime - timestamp) / 1000
  if diff = 0 then 1 else diff

/-- A `uint64_t` divided by an `int64_t`, which is converted first; `none` is a division by zero. -/
def divide (bytes : UInt64) (seconds : Int64) : Option UInt64 :=
  if seconds.toUInt64 = 0 then none else some (bytes / seconds.toUInt64)

/-- `MakeServiceStats`: the state after the call, and the report. -/
def makeServiceStats (s : NodeStats) (r : Reading) : Option (NodeStats × ServerInfo) := do
  let next := getMachineCpuShot r.cpuVars r.stat
  let cpuLoad := getCpuMachineLoad s.prev next
  let nextNshot := getMachineNetShot r.netVars r.netDev
  let bytesRecv := nextNshot.bytesRecv - s.prevNshot.bytesRecv
  let bytesSend := nextNshot.bytesSend - s.prevNshot.bytesSend
  let diff := tsDiff s.timestamp r.currentTime
  let netBytesRecv ← divide bytesRecv diff
  let netBytesSend ← divide bytesSend diff
  return (⟨next, nextNshot, r.currentTime⟩,
    ⟨cpuLoad.map fun q => truncate (q * 100), netBytesRecv, netBytesSend, r.currentTime⟩)

/-- The state after a call. -/
def step (s : NodeStats) (r : Reading) : Option NodeStats := (makeServiceStats s r).map (·.1)

end IptvCloud.Server.ServiceStats
