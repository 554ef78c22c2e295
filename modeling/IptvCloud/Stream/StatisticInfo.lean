import IptvCloud.Base.InputsOutputs

/-!
# The statistics of a stream (`stream_commands_info/statistic_info.cpp`)

`StatisticInfo` with its `ChannelStats`, as a stream sends it over the pipe and the daemon reads it
and broadcasts it. Setting the total of a channel reads the clock (`base/channel_stats.cpp`);
`clock` is what it shows while the channels are decoded, one after the other. The type of the
desired rate belongs to the library `common`: its text form is a parameter (`DesireLib`).
-/

namespace IptvCloud.Stream

open JsonC Server

/-- `DesireBytesPerSec`: the default value and the two conversions. -/
structure DesireLib (δ : Type) where
  default : δ
  convertToString : δ → String
  convertFromString : String → Option δ

/-- The text form is read back. -/
structure DesireLib.Lawful {δ : Type} (lib : DesireLib δ) : Prop where
  not_nul : ∀ d, cstring (lib.convertToString d) = lib.convertToString d
  read : ∀ d, lib.convertFromString (lib.convertToString d) = some d

structure ChannelStats (δ : Type) where
  id : UInt64
  lastUpdateTime : Int64 := 0
  totalBytes : UInt64 := 0
  prevTotalBytes : UInt64 := 0
  bytesPerSecond : UInt64 := 0
  desireBytesPerSecond : δ
  deriving DecidableEq

variable {δ : Type}

/-- `ChannelStats::SetTotalBytes` at the time `now`. -/
def ChannelStats.setTotalBytes (stats : ChannelStats δ) (now : Int64) (bytes : UInt64) :
    ChannelStats δ :=
  { stats with totalBytes := bytes, lastUpdateTime := now }

/-! ## Channels -/

/-- `ChannelStatsInfo::SerializeFields`; the total is the previous one here. -/
def ChannelStats.serialize (lib : DesireLib δ) (stats : ChannelStats δ) : Json :=
  .object [("id", .int stats.id.toInt64),
    ("last_update_time", .int stats.lastUpdateTime),
    ("prev_total_bytes", .int stats.prevTotalBytes.toInt64),
    ("total_bytes", .int stats.prevTotalBytes.toInt64),
    ("bps", .int stats.bytesPerSecond.toInt64),
    ("dbps", .newString (lib.convertToString stats.desireBytesPerSecond))]

/-- A setter that is called when the field is there. -/
def setField (j : Json) (key : String) (set : ChannelStats δ → Json → ChannelStats δ)
    (stats : ChannelStats δ) : ChannelStats δ :=
  match j.getEx key with
  | some v => set stats v
  | none => stats

/-- `ChannelStatsInfo::DoDeSerialize`. -/
def ChannelStats.doDeSerialize (co : Coercions) (lib : DesireLib δ) (now : Int64) (j : Json) :
    Decoded (ChannelStats δ) := do
  let id ← requiredField j "id" fun v => .ok (v.getInt64 co).toUInt64
  let stats : ChannelStats δ := { id, desireBytesPerSecond := lib.default }
  let stats := setField j "last_update_time"
    (fun stats v => { stats with lastUpdateTime := v.getInt64 co }) stats
  let stats := setField j "prev_total_bytes"
    (fun stats v => { stats with prevTotalBytes := (v.getInt64 co).toUInt64 }) stats
  let stats := setField j "total_bytes"
    (fun stats v => stats.setTotalBytes now (v.getInt64 co).toUInt64) stats
  let stats := setField j "bps"
    (fun stats v => { stats with bytesPerSecond := (v.getInt64 co).toUInt64 }) stats
  let dbps ← optionalField j "dbps" none fun v => (v.toStdString co).map lib.convertFromString
  return match dbps with
    | some dbps => { stats with desireBytesPerSecond := dbps }
    | none => stats

/-! ## Statistics -/

/-- `StatisticInfo` with its `StreamStruct`; the type and the status are enumerations. -/
structure StatisticInfo (δ : Type) where
  id : String
  type : UInt8
  input : List (ChannelStats δ)
  output : List (ChannelStats δ)
  loopStartTime : Int64
  rssBytes : UInt64
  cpuLoad : BitVec 64
  status : Int32
  restarts : UInt64
  startTime : Int64
  timestamp : Int64
  deriving DecidableEq

/-- `StatisticInfo::SerializeFields`. -/
def StatisticInfo.serialize (lib : DesireLib δ) (s : StatisticInfo δ) : Decoded Json :=
  if s.id.isEmpty then .error (.refused .inval)
  else .ok (.object [("id", .newString s.id),
    ("type", .int s.type.toUInt64.toInt64),
    ("input_streams", .array (s.input.map (ChannelStats.serialize lib))),
    ("output_streams", .array (s.output.map (ChannelStats.serialize lib))),
    ("loop_start_time", .int s.loopStartTime),
    ("rss", .int s.rssBytes.toInt64),
    ("cpu", .double s.cpuLoad),
    ("status", .int s.status.toInt64),
    ("restarts", .int s.restarts.toInt64),
    ("start_time", .int s.startTime),
    ("timestamp", .int s.timestamp)])

/-- The loop over an array of channels, from its end; its readings of the clock start at `start`. -/
def readChannelStats (co : Coercions) (lib : DesireLib δ) (clock : Nat → Int64) (start : Nat)
    (j : Json) : Decoded (List (ChannelStats δ)) := do
  collect (fun p => ChannelStats.doDeSerialize co lib (clock p.2) p.1)
    ((← j.elements).reverse.zipIdx start)

/-- `StatisticInfo::DoDeSerialize`. The id is a `const char *` until the end. -/
def StatisticInfo.doDeSerialize (co : Coercions) (lib : DesireLib δ) (clock : Nat → Int64)
    (j : Json) : Decoded (StatisticInfo δ) := do
  let cid ← requiredField j "id" fun v => .ok v
  let type ← requiredField j "type" fun v => .ok (v.getInt co).toUInt64.toUInt8
  let input ← optionalField j "input_streams" [] (readChannelStats co lib clock 0)
  let output ← optionalField j "output_streams" [] (readChannelStats co lib clock input.length)
  let status ← optionalField j "status" 0 fun v => .ok (v.getInt co).toInt32
  let cpuLoad ← optionalField j "cpu" 0 fun v => .ok (v.getDouble co)
  let rssBytes ← optionalField j "rss" 0 fun v => .ok (v.getInt co).toUInt64
  let timestamp ← optionalField j "timestamp" 0 fun v => .ok (v.getInt64 co)
  let startTime ← optionalField j "start_time" 0 fun v => .ok (v.getInt64 co)
  let restarts ← optionalField j "restarts" 0 fun v => .ok (v.getInt64 co).toUInt64
  let loopStartTime ← optionalField j "loop_start_time" 0 fun v => .ok (v.getInt64 co)
  let id ← cid.toStdString co
  return { id, type, input, output, loopStartTime, rssBytes, cpuLoad, status, restarts, startTime,
           timestamp }

/-- What `HandleRequestStatisticStream` broadcasts for the params of a stream. -/
def handleRequestStatisticStream (co : Coercions) (lib : DesireLib δ) (clock : Nat → Int64)
    (j : Json) : Decoded Json := do
  let stat ← StatisticInfo.doDeSerialize co lib clock j
  stat.serialize lib

end IptvCloud.Stream
