import Mathlib.Data.Rat.Defs
import IptvCloud.Lib.Scanf
import IptvCloud.Utils.Chunk

/-!
# Counters of the machine (`utils/utils.cpp`)

`GetMachineCpuShot`, `GetCpuMachineLoad` and `GetMachineNetShot` on the contents of `/proc/stat` and
`/proc/net/dev`; a file that cannot be opened is `none`. What a variable holds that nothing has been
assigned to is a parameter (`CpuVars`, `NetVars`). A load is an exact fraction, `none` where the
division by zero gives no number.
-/

namespace IptvCloud.Machine

open Stdio Scanf

/-! ## Processor -/

structure CpuShot where
  user : UInt64 := 0
  nice : UInt64 := 0
  system : UInt64 := 0
  idle : UInt64 := 0
  iowait : UInt64 := 0
  irq : UInt64 := 0
  softirq : UInt64 := 0
  steal : UInt64 := 0
  guest : UInt64 := 0
  guestNice : UInt64 := 0
  deriving DecidableEq, Repr

/-- The variables of `GetMachineCpuShot` that have no initial value. -/
structure CpuVars where
  buffer : Text
  usertime : UInt64
  nicetime : UInt64
  systemtime : UInt64
  idletime : UInt64

/-- `cpu  %16llu %16llu … %16llu`, with ten numbers. -/
def cpuFormat : List Directive := [.lit 'c', .lit 'p', .lit 'u', .blank] ++ numbers 16 10

/-- `GetMachineCpuShot`. -/
def getMachineCpuShot (vars : CpuVars) (stat : Option Text) : CpuShot :=
  match stat with
  | none => {}
  | some text =>
    let buffer := (fgetsLines 255 text).head?.getD vars.buffer
    let vs := scan cpuFormat (cstr buffer)
    let usertime := number vs 0 vars.usertime
    let nicetime := number vs 1 vars.nicetime
    let systemtime := number vs 2 vars.systemtime
    let idletime := number vs 3 vars.idletime
    -- `ioWait` is number 4; it is read and not stored
    let irq := number vs 5 0
    let softIrq := number vs 6 0
    let steal := number vs 7 0
    let guest := number vs 8 0
    let guestnice := number vs 9 0
    let usertime := usertime - guest
    let nicetime := nicetime - guestnice
    { user := usertime, nice := nicetime, system := systemtime, idle := idletime, irq := irq,
      softirq := softIrq, steal := steal, guest := guest, guestNice := guestnice }

/-- `GetCpuMachineLoad`; the differences of two `uint64_t` are exact in a `long double`. -/
def getCpuMachineLoad (prev next : CpuShot) : Option ℚ :=
  let prevIdle := prev.idle + prev.iowait
  let idle := next.idle + next.iowait
  let prevNonIdle := prev.user + prev.nice + prev.system + prev.irq + prev.softirq + prev.steal
  let nonIdle := next.user + next.nice + next.system + next.irq + next.softirq + next.steal
  let prevTotal := prevIdle + prevNonIdle
  let total := idle + nonIdle
  let totald : ℚ := (total - prevTotal).toNat
  let idled : ℚ := (idle - prevIdle).toNat
  if totald = 0 then none else some ((totald - idled) / totald)

/-! ## Network -/

structure NetShot where
  bytesRecv : UInt64 := 0
  bytesSend : UInt64 := 0
  deriving DecidableEq, Repr

/-- What `r_bytes` and `s_bytes` hold before the line at a position is scanned. -/
abbrev NetVars := Nat → UInt64 × UInt64

/-- `%s %16llu … %16llu`, with sixteen numbers. -/
def netFormat : List Directive := [.word, .blank] ++ numbers 16 16

/-- A line of an interface: what it adds to the totals. -/
def addLine (old : UInt64 × UInt64) (line : Text) (shot : NetShot) : NetShot :=
  let vs := scan netFormat (cstr line)
  let interf := word vs 0 []
  let rBytes := number vs 1 old.1
  let sBytes := number vs 9 old.2
  -- `strncmp(interf, "lo", 2) != 0`
  if interf.take 2 ≠ ['l', 'o'] then
    { bytesRecv := shot.bytesRecv + rBytes, bytesSend := shot.bytesSend + sBytes }
  else shot

/-- The loop of `GetMachineNetShot` on the lines from the position `pos` on. -/
def getMachineNetShot.go (vars : NetVars) : List Text → Nat → NetShot → NetShot
  | [], _, shot => shot
  | line :: lines, pos, shot =>
    go vars lines (pos + 1) (if pos > 1 then addLine (vars pos) line shot else shot)

/-- `GetMachineNetShot`. -/
def getMachineNetShot (vars : NetVars) (netDev : Option Text) : NetShot :=
  match netDev with
  | none => {}
  | some text => getMachineNetShot.go vars (fgetsLines 512 text) 0 {}

end IptvCloud.Machine
