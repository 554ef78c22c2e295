import IptvCloud.Server.CommandsInfo

/-!
# The encoding of subscriber records (`subscribers/commands_info/user_info.cpp`)

`SerializeFields` of `DeviceInfo` and `UserInfo`, the counterpart of `DoDeSerialize`. The encoding
of the channels is that of another library.
-/

namespace IptvCloud.Server

open JsonC

/-- `DeviceInfo::IsValid`. -/
def DeviceInfo.isValid (device : DeviceInfo) : Bool :=
  !device.id.isEmpty && decide (device.connections > 0)

/-- `DeviceInfo::SerializeFields`. -/
def DeviceInfo.serialize (device : DeviceInfo) : Decoded Json :=
  if device.isValid then
    .ok (.object [("id", .newString device.id),
      ("connections", .int (UInt64.ofNat device.connections).toInt64)])
  else .error (.refused .inval)

/-- The integer that a `Status` is. -/
def Status.toInt : Status → Int
  | .noActive => 0
  | .active => 1
  | .banned => 2
  | .other code => code

/-- `ChannelsLib` with `Serialize`. -/
structure ChannelsCodec (χ : Type) extends ChannelsLib χ where
  serialize : χ → Except Error Json

variable {χ : Type}

/-- `UserInfo::IsValid`. -/
def UserInfo.isValid (user : UserInfo χ) : Bool :=
  !user.uid.isEmpty && !user.login.isEmpty && !user.password.isEmpty

/-- `UserInfo::SerializeFields`; a device that is refused is left out. -/
def UserInfo.serialize (lib : ChannelsCodec χ) (user : UserInfo χ) : Decoded Json :=
  if user.isValid then do
    let jchannels ← (lib.serialize user.channels).mapError .refused
    let jdevices ← collect DeviceInfo.serialize user.devices
    return .object [("id", .newString user.uid),
      ("login", .newString user.login),
      ("password", .newString user.password),
      ("status", .int (.ofInt user.status.toInt)),
      ("channels", jchannels),
      ("devices", .array jdevices)]
  else .error (.refused .inval)

end IptvCloud.Server
