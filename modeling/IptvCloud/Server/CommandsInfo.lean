import IptvCloud.Base.InputsOutputs
import IptvCloud.Server.SyncFinder

/-!
# The params of the management requests (`server/daemon/commands_info`)

`DoDeSerialize` of the classes that the daemon decodes request params with, and of the subscriber
records of a synchronisation (`subscribers/commands_info/user_info.cpp`). Each reads its fields in
the order of the source; what a field holds is not tested before it is converted.
-/

namespace IptvCloud.Server

open JsonC

/-! ## `service` -/

/-- `service::LicenseInfo` and `service::ActivateInfo`. -/
structure LicenseInfo where
  license : String := ""
  deriving DecidableEq, Repr

def LicenseInfo.doDeSerialize (co : Coercions) (j : Json) : Decoded LicenseInfo := do
  let license ← optionalField j "license_key" "" fun v => v.toStdString co
  return ⟨license⟩

abbrev ActivateInfo := LicenseInfo

def ActivateInfo.doDeSerialize (co : Coercions) (j : Json) : Decoded ActivateInfo :=
  LicenseInfo.doDeSerialize co j

/-- `service::StopInfo`. -/
structure StopServiceInfo extends LicenseInfo where
  delay : Int64 := 0

def StopServiceInfo.doDeSerialize (co : Coercions) (j : Json) : Decoded StopServiceInfo := do
  let info ← LicenseInfo.doDeSerialize co j
  let delay ← optionalField j "delay" 0 fun v => .ok (v.getInt64 co)
  return ⟨info, delay⟩

structure SyncInfo where
  streams : List String := []
  users : List String := []

/-- An array of strings. -/
def readStrings (co : Coercions) (j : Json) : Decoded (List String) := do
  (← j.elements).mapM fun v => v.toStdString co

def SyncInfo.doDeSerialize (co : Coercions) (j : Json) : Decoded SyncInfo := do
  let streams ← optionalField j "streams" [] (readStrings co)
  let users ← optionalField j "subscribers" [] (readStrings co)
  return ⟨streams, users⟩

structure PrepareInfo where
  feedbackDirectory : String
  timeshiftsDirectory : String
  hlsDirectory : String
  playlistsDirectory : String
  dvbDirectory : String
  captureCardDirectory : String
  vodsInDirectory : String
  vodsDirectory : String

def PrepareInfo.doDeSerialize (co : Coercions) (j : Json) : Decoded PrepareInfo := do
  let directory (key : String) : Decoded String := optionalField j key "" fun v => v.toStdString co
  let feedbackDirectory ← directory "feedback_directory"
  let timeshiftsDirectory ← directory "timeshifts_directory"
  let hlsDirectory ← directory "hls_directory"
  let playlistsDirectory ← directory "playlists_directory"
  let dvbDirectory ← directory "dvb_directory"
  let captureCardDirectory ← directory "capture_card_directory"
  let vodsInDirectory ← directory "vods_in_directory"
  let vodsDirectory ← directory "vods_directory"
  return ⟨feedbackDirectory, timeshiftsDirectory, hlsDirectory, playlistsDirectory, dvbDirectory,
    captureCardDirectory, vodsInDirectory, vodsDirectory⟩

/-- `service::GetLogInfo`. -/
structure GetLogServiceInfo where
  path : Url

def GetLogServiceInfo.doDeSerialize (cm : Common) (j : Json) : Decoded GetLogServiceInfo := do
  let path ← optionalField j "path" {} fun v => (v.toStdString cm.co).map cm.parseUrl
  return ⟨path⟩

/-! ## `stream` -/

/-- `stream::StartInfo`. -/
structure StartInfo where
  config : String

def StartInfo.doDeSerialize (co : Coercions) (j : Json) : Decoded StartInfo := do
  let config ← requiredField j "config" fun v => v.toStdString co
  return ⟨config⟩

/-- `stream::StreamInfo`, which `stream::StopInfo` and `stream::RestartInfo` are. -/
structure StreamIdInfo where
  streamId : String

def StreamIdInfo.doDeSerialize (co : Coercions) (j : Json) : Decoded StreamIdInfo := do
  let streamId ← requiredField j "id" fun v => v.toStdString co
  return ⟨streamId⟩

/-- `stream::GetLogInfo`. -/
structure GetLogStreamInfo extends StreamIdInfo where
  feedbackDir : String
  path : Url

def GetLogStreamInfo.doDeSerialize (cm : Common) (j : Json) : Decoded GetLogStreamInfo := do
  let info ← StreamIdInfo.doDeSerialize cm.co j
  let feedbackDir ← requiredField j "feedback_directory" fun v => v.toStdString cm.co
  let path ← optionalField j "path" {} fun v => (v.toStdString cm.co).map cm.parseUrl
  return ⟨info, feedbackDir, path⟩

/-- `ChangedSouresInfo`, which a stream sends. -/
structure ChangedSouresInfo where
  id : String
  url : InputUri

def ChangedSouresInfo.doDeSerialize (cm : Common) (j : Json) : Decoded ChangedSouresInfo := do
  let id ← requiredField j "id" fun v => v.toStdString cm.co
  let url ← optionalField j "url" {} (cm.deSerialize (InputUri.doDeSerialize cm))
  return ⟨id, url⟩

/-! ## Subscribers -/

/-- The cast to `Status`. -/
def Status.ofInt (n : Int) : Status :=
  if n = 0 then .noActive else if n = 1 then .active else if n = 2 then .banned else .other n

def DeviceInfo.doDeSerialize (co : Coercions) (j : Json) : Decoded DeviceInfo := do
  let id ← requiredField j "id" fun v => v.toStdString co
  let connections ← requiredField j "connections" fun v => .ok (v.getInt64 co).toUInt64.toNat
  return ⟨id, connections⟩

/-- `ChannelsInfo` of another library: the default value and `DeSerialize`. -/
structure ChannelsLib (χ : Type) where
  empty : χ
  deSerialize : Json → Except Error χ

variable {χ : Type}

/-- The channels of a record. -/
def readChannels (lib : ChannelsLib χ) (j : Json) : Decoded χ :=
  optionalField j "channels" lib.empty fun v => (lib.deSerialize v).mapError .refused

def UserInfo.doDeSerialize (co : Coercions) (lib : ChannelsLib χ) (j : Json) :
    Decoded (UserInfo χ) := do
  let channels ← readChannels lib j
  let uid ← requiredField j "id" fun v => v.toStdString co
  let login ← requiredField j "login" fun v => v.toStdString co
  let password ← requiredField j "password" fun v => v.toStdString co
  let status ← requiredField j "status" fun v => .ok (Status.ofInt (v.getInt co).toInt)
  let devices ← optionalField j "devices" [] fun v => do
    collect (DeviceInfo.doDeSerialize co) (← v.elements)
  return ⟨uid, login, password, channels, devices, status⟩

end IptvCloud.Server
