import Mathlib.Data.List.AList
import IptvCloud.Server.Request

/-!
# The user table (`server/sync_finder.cpp`)

`SyncFinder` with the records of `subscribers/commands_info/user_info.cpp`, and the synchronisation
of the table by the daemon loop (`HandleRequestClientSyncService`), which takes the lock of the
table once for every operation while the subscribers loop reads it. `AuthInfo` is part of another
library: its validity test is a parameter (`authValid`), and so are the channels of a user (`χ`).
-/

namespace IptvCloud.Server

/-- `fastotv::commands_info::AuthInfo`. -/
structure AuthInfo where
  login : String := ""
  password : String := ""
  deviceId : String := ""
  deriving DecidableEq, Repr

/-! ## User records -/

/-- `Status`; `DoDeSerialize` casts any integer to it. -/
inductive Status
  | noActive
  | active
  | banned
  | other (code : Int)
  deriving DecidableEq, Repr

structure DeviceInfo where
  id : String
  connections : Nat
  deriving DecidableEq, Repr

structure UserInfo (χ : Type) where
  uid : String
  login : String
  password : String
  channels : χ
  devices : List DeviceInfo
  status : Status
  deriving DecidableEq, Repr

variable {χ : Type}

/-- `UserInfo::IsBanned`. -/
def UserInfo.isBanned (user : UserInfo χ) : Bool := user.status == .banned

/-- `UserInfo::FindDevice`: the first device with the id. -/
def UserInfo.findDevice (user : UserInfo χ) (id : String) : Except Error DeviceInfo :=
  if id.isEmpty then .error .inval
  else match user.devices.find? fun device => id == device.id with
    | some device => .ok device
    | none => .error (.message "Device not found")

/-! ## The table -/

/-- `users_`, by login. -/
abbrev SyncFinder (χ : Type) := AList fun _ : String => UserInfo χ

/-- `SyncFinder::FindUser`. -/
def SyncFinder.findUser (authValid : AuthInfo → Bool) (users : SyncFinder χ) (auth : AuthInfo) :
    Except Error (UserInfo χ) :=
  if authValid auth then
    match users.lookup auth.login with
    | none => .error (.message "User not found")
    | some found =>
      if auth.password = found.password then .ok found else .error (.message "Invalid password")
  else .error .inval

/-- `SyncFinder::AddUser`: `insert` keeps the record a login already has. -/
def SyncFinder.addUser (users : SyncFinder χ) (user : UserInfo χ) : SyncFinder χ :=
  if user.login ∈ users then users else users.insert user.login user

/-! ## Synchronisation -/

/-- One operation of the daemon loop on the table, under its lock. -/
inductive FinderOp (χ : Type)
  | clear
  | addUser (user : UserInfo χ)

def FinderOp.apply (users : SyncFinder χ) : FinderOp χ → SyncFinder χ
  | .clear => ∅
  | .addUser user => users.addUser user

/-- The table after a complete synchronisation. -/
def syncedUsers (added : List (UserInfo χ)) : SyncFinder χ := added.foldl SyncFinder.addUser ∅

/-- The records of `sync_info.GetUsers()` that deserialize. -/
def addedUsers (deSerializeFromString : String → Option (UserInfo χ)) (texts : List String) :
    List (UserInfo χ) := texts.filterMap deSerializeFromString

/-- The table and what the synchronisation has still to do. -/
structure Syncing (χ : Type) where
  users : SyncFinder χ
  pending : List (FinderOp χ)

/-- `HandleRequestClientSyncService` before `Clear`. -/
def Syncing.start (old : SyncFinder χ) (added : List (UserInfo χ)) : Syncing χ :=
  ⟨old, .clear :: added.map .addUser⟩

inductive SyncEvent
  /-- The daemon loop does its next operation. -/
  | sync
  /-- The subscribers loop calls `FindUser`. -/
  | findUser (auth : AuthInfo)

def Syncing.step (s : Syncing χ) : SyncEvent → Option (Syncing χ)
  | .sync => match s.pending with
    | [] => none
    | op :: pending => some ⟨op.apply s.users, pending⟩
  | .findUser _ => some s

end IptvCloud.Server
