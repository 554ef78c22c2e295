import IptvCloud.Server.CommandsInfo

/-!
# The encoding of the messages (`server/daemon/commands_info`, `stream_commands_info`)

`SerializeFields` of the classes whose `DoDeSerialize` is in `IptvCloud.Server.CommandsInfo` and of
the uris, and both for the exit of a stream and for the statistics of the service. A class adds its
own fields before those of its base class.
-/

namespace IptvCloud

open JsonC

/-- `Common` with the text of a `Url` (`GetUrl`, `ConvertToString`). -/
structure CommonText extends Common where
  getUrl : Url → String

/-- The fields of a message. -/
abbrev Fields := List (String × Json)

/-- `InputUri::SerializeFields`; the user agent is an `int`. -/
def InputUri.serializeFields (cm : CommonText) (uri : InputUri) : Fields :=
  [("id", .int uri.id.toInt64), ("uri", .newString (cm.getUrl uri.input)),
    ("user_agent", .int uri.userAgent)]

/-- `OutputUri::SerializeFields`. -/
def OutputUri.serializeFields (cm : CommonText) (uri : OutputUri) : Fields :=
  [("id", .int uri.id.toInt64), ("uri", .newString (cm.getUrl uri.output)),
    ("http_root", .newString uri.httpRoot)]

end IptvCloud

namespace IptvCloud.Server

open JsonC

/-- A JSON array of strings. -/
def newStrings (strings : List String) : Json := .array (strings.map Json.newString)

/-! ## `service` -/

def LicenseInfo.serializeFields (info : LicenseInfo) : Fields :=
  [("license_key", .newString info.license)]

def StopServiceInfo.serializeFields (info : StopServiceInfo) : Fields :=
  ("delay", .int info.delay) :: info.toLicenseInfo.serializeFields

def SyncInfo.serializeFields (info : SyncInfo) : Fields :=
  [("streams", newStrings info.streams), ("subscribers", newStrings info.users)]

def PrepareInfo.serializeFields (info : PrepareInfo) : Fields :=
  [("feedback_directory", .newString info.feedbackDirectory),
    ("timeshifts_directory", .newString info.timeshiftsDirectory),
    ("hls_directory", .newString info.hlsDirectory),
    ("playlists_directory", .newString info.playlistsDirectory),
    ("dvb_directory", .newString info.dvbDirectory),
    ("capture_card_directory", .newString info.captureCardDirectory),
    ("vods_in_directory", .newString info.vodsInDirectory),
    ("vods_directory", .newString info.vodsDirectory)]

def GetLogServiceInfo.serializeFields (cm : CommonText) (info : GetLogServiceInfo) : Fields :=
  [("path", .newString (cm.getUrl info.path))]

/-! ### Statistics of the service -/

/-- `service::OnlineUsers`. -/
structure OnlineUsers where
  daemon : UInt64 := 0
  http : UInt64 := 0
  vods : UInt64 := 0
  subscriber : UInt64 := 0
  deriving DecidableEq

def OnlineUsers.serializeFields (info : OnlineUsers) : Fields :=
  [("daemon", .int info.daemon.toInt64), ("http", .int info.http.toInt64),
    ("vods", .int info.vods.toInt64), ("subscriber", .int info.subscriber.toInt64)]

/-- An optional count. -/
def readCount (co : Coercions) (j : Json) (key : String) : Decoded UInt64 :=
  optionalField j key 0 fun v => .ok (v.getInt64 co).toUInt64

def OnlineUsers.doDeSerialize (co : Coercions) (j : Json) : Decoded OnlineUsers := do
  let daemon ← readCount co j "daemon"
  let http ← readCount co j "http"
  let vods ← readCount co j "vods"
  let subscriber ← readCount co j "subscriber"
  return ⟨daemon, http, vods, subscriber⟩

/-- `utils::MemoryShot`. -/
structure MemoryShot where
  totalBytesRam : UInt64 := 0
  freeBytesRam : UInt64 := 0
  availBytesRam : UInt64 := 0
  deriving DecidableEq

/-- `utils::HddShot`. -/
structure HddShot where
  hddBytesTotal : UInt64 := 0
  hddBytesFree : UInt64 := 0
  deriving DecidableEq

/-- `utils::SysinfoShot`. -/
structure SysinfoShot where
  loads : UInt64 × UInt64 × UInt64 := (0, 0, 0)
  uptime : Int64 := 0
  deriving DecidableEq

/-- `service::ServerInfo`; `uptime` is the text of the load average. -/
structure ServerInfo where
  cpuLoad : Int32 := 0
  gpuLoad : Int32 := 0
  uptime : String := ""
  memShot : MemoryShot := {}
  hddShot : HddShot := {}
  netBytesRecv : UInt64 := 0
  netBytesSend : UInt64 := 0
  currentTs : Int64 := 0
  sysShot : SysinfoShot := {}
  onlineUsers : OnlineUsers := {}
  deriving DecidableEq

/-- The loads are not written. -/
def ServerInfo.serializeFields (info : ServerInfo) : Fields :=
  [("cpu", .int info.cpuLoad.toInt64), ("gpu", .int info.gpuLoad.toInt64),
    ("load_average", .newString info.uptime),
    ("memory_total", .int info.memShot.totalBytesRam.toInt64),
    ("memory_free", .int info.memShot.freeBytesRam.toInt64),
    ("memory_available", .int info.memShot.availBytesRam.toInt64),
    ("hdd_total", .int info.hddShot.hddBytesTotal.toInt64),
    ("hdd_free", .int info.hddShot.hddBytesFree.toInt64),
    ("bandwidth_in", .int info.netBytesRecv.toInt64),
    ("bandwidth_out", .int info.netBytesSend.toInt64), ("uptime", .int info.sysShot.uptime),
    ("timestamp", .int info.currentTs), ("online_users", .object info.onlineUsers.serializeFields)]

def ServerInfo.doDeSerialize (cm : Common) (j : Json) : Decoded ServerInfo := do
  let onlineUsers ← optionalField j "online_users" {}
    (cm.deSerialize (OnlineUsers.doDeSerialize cm.co))
  let cpuLoad ← optionalField j "cpu" 0 fun v => .ok (v.getInt cm.co).toInt32
  let gpuLoad ← optionalField j "gpu" 0 fun v => .ok (v.getInt cm.co).toInt32
  let uptime ← optionalField j "load_average" "" fun v => v.toStdString cm.co
  let totalBytesRam ← readCount cm.co j "memory_total"
  let freeBytesRam ← readCount cm.co j "memory_free"
  let availBytesRam ← readCount cm.co j "memory_available"
  let hddBytesTotal ← readCount cm.co j "hdd_total"
  let hddBytesFree ← readCount cm.co j "hdd_free"
  let netBytesRecv ← readCount cm.co j "bandwidth_in"
  let netBytesSend ← readCount cm.co j "bandwidth_out"
  let sysUptime ← optionalField j "uptime" 0 fun v => .ok (v.getInt64 cm.co)
  let currentTs ← optionalField j "timestamp" 0 fun v => .ok (v.getInt64 cm.co)
  return ⟨cpuLoad, gpuLoad, uptime, ⟨totalBytesRam, freeBytesRam, availBytesRam⟩,
    ⟨hddBytesTotal, hddBytesFree⟩, netBytesRecv, netBytesSend, currentTs, ⟨(0, 0, 0), sysUptime⟩,
    onlineUsers⟩

/-- `common::net::HostAndPort` with its default and its text, and `PROJECT_VERSION_HUMAN`. -/
structure HostLib where
  HostAndPort : Type
  emptyHost : HostAndPort
  convertToString : HostAndPort → String
  convertFromString : String → Option HostAndPort
  projectVersionHuman : String

/-- `service::FullServiceInfo`. -/
structure FullServiceInfo (lib : HostLib) extends ServerInfo where
  httpHost : lib.HostAndPort
  vodsHost : lib.HostAndPort
  subscribersHost : lib.HostAndPort
  bandwidthHost : lib.HostAndPort
  projVer : String

section
variable {lib : HostLib}

def FullServiceInfo.serializeFields (info : FullServiceInfo lib) : Fields :=
  ("http_host", .newString (lib.convertToString info.httpHost)) ::
    ("vods_host", .newString (lib.convertToString info.vodsHost)) ::
    ("subscribers_host", .newString (lib.convertToString info.subscribersHost)) ::
    ("bandwidth_host", .newString (lib.convertToString info.bandwidthHost)) ::
    ("version", .newString info.projVer) :: info.toServerInfo.serializeFields

/-- A host that is not read keeps its default. -/
def readHost (lib : HostLib) (co : Coercions) (j : Json) (key : String) :
    Decoded lib.HostAndPort :=
  optionalField j key lib.emptyHost fun v =>
    (v.toStdString co).map fun text => (lib.convertFromString text).getD lib.emptyHost

def FullServiceInfo.doDeSerialize (cm : Common) (j : Json) : Decoded (FullServiceInfo lib) := do
  let info ← ServerInfo.doDeSerialize cm j
  let httpHost ← readHost lib cm.co j "http_host"
  let vodsHost ← readHost lib cm.co j "vods_host"
  let subscribersHost ← readHost lib cm.co j "subscribers_host"
  let bandwidthHost ← readHost lib cm.co j "bandwidth_host"
  let projVer ← optionalField j "version" lib.projectVersionHuman fun v => v.toStdString cm.co
  return ⟨info, httpHost, vodsHost, subscribersHost, bandwidthHost, projVer⟩

end

/-! ## `stream` -/

def StartInfo.serializeFields (info : StartInfo) : Fields := [("config", .newString info.config)]

def StreamIdInfo.serializeFields (info : StreamIdInfo) : Fields :=
  [("id", .newString info.streamId)]

def GetLogStreamInfo.serializeFields (cm : CommonText) (info : GetLogStreamInfo) : Fields :=
  ("path", .newString (cm.getUrl info.path)) ::
    ("feedback_directory", .newString info.feedbackDir) :: info.toStreamIdInfo.serializeFields

/-- `stream::QuitStatusInfo`. -/
structure QuitStatusInfo extends StreamIdInfo where
  exitStatus : Int32
  signal : Int32

def QuitStatusInfo.serializeFields (info : QuitStatusInfo) : Fields :=
  ("signal", .int info.signal.toInt64) :: ("exit_status", .int info.exitStatus.toInt64) ::
    info.toStreamIdInfo.serializeFields

def QuitStatusInfo.doDeSerialize (co : Coercions) (j : Json) : Decoded QuitStatusInfo := do
  let info ← StreamIdInfo.doDeSerialize co j
  let jsignal ← requiredField j "signal" .ok
  let jexitStatus ← requiredField j "exit_status" .ok
  return ⟨info, (jexitStatus.getInt co).toInt32, (jsignal.getInt co).toInt32⟩

/-- What a stream sends when its input changes. -/
def ChangedSouresInfo.serializeFields (cm : CommonText) (info : ChangedSouresInfo) : Fields :=
  [("id", .newString info.id), ("url", .object (info.url.serializeFields cm))]

end IptvCloud.Server
