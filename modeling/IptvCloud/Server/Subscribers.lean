import IptvCloud.Lib.MultiMap
import IptvCloud.Server.SyncFinder

/-!
# The subscribers handler (`server/subscribers/handler.cpp`)

The clients of the subscribers loop, the registry `connections_` and the user table. A request is
handled to its end before the next one; it reads the table once, and that read is its moment among
the operations of the daemon loop. A client is named by its address: an address that is free may
be used again, and an entry of `connections_` whose client is gone reads what is there
(`stale`). A request that fails a `CHECK` ends the run.
-/

namespace IptvCloud.Server.Subscribers

open MultiMap

/-- The address of a client. -/
abbrev ClientId := Nat

/-- `ServerAuthInfo`. -/
structure ServerAuthInfo extends AuthInfo where
  uid : String := ""
  deriving DecidableEq, Repr

/-- `rpc::UserRpcInfo`. -/
structure UserRpcInfo where
  userId : String
  deviceId : String
  deriving DecidableEq, Repr

/-- `ServerAuthInfo::IsValid`. -/
def ServerAuthInfo.isValid (authValid : AuthInfo → Bool) (info : ServerAuthInfo) : Bool :=
  !info.uid.isEmpty && authValid info.toAuthInfo

/-- `ServerAuthInfo::MakeUserRpc`. -/
def ServerAuthInfo.makeUserRpc (info : ServerAuthInfo) : UserRpcInfo := ⟨info.uid, info.deviceId⟩

structure SubscriberClient where
  hinfo : ServerAuthInfo := {}
  currentStreamId : String := ""
  deriving DecidableEq, Repr

/-- What the handler is made with; `AuthInfo::IsValid` is part of another library. -/
structure Config where
  authValid : AuthInfo → Bool
  bandwidthHost : String × Nat

/-- The clients of the loop, `connections_`, the table of `finder_`, and the clients whose
activation has succeeded since they were accepted. -/
structure State (χ : Type) where
  clients : AList fun _ : ClientId => SubscriberClient
  connections : MultiMap String ClientId
  users : SyncFinder χ
  activated : List ClientId

variable {χ : Type}

/-- The handler before the first client. -/
def State.init (users : SyncFinder χ) : State χ := ⟨∅, ∅, users, []⟩

/-! ## Requests and answers -/

inductive Request
  | activate (params : Params AuthInfo)
  | ping (params : Params Unit)
  | getServerInfo
  | getChannels
  | getRuntimeChannelInfo (params : Params String)
  | unknown (method : String)

/-- What the handler hands to the client. -/
inductive Reply (χ : Type)
  | activateSuccess
  | activateFail (err : Error)
  | checkActivateFail (err : Error)
  | pong
  | getServerInfoSuccess (bandwidthHost : String × Nat)
  | getChannelsSuccess (channels : χ)
  | getRuntimeChannelInfoSuccess (sid : String) (watchers : Nat)

/-! ## The registry -/

/-- `GetServerHostInfo` through an entry of `connections_`. -/
def hostInfo (stale : ClientId → ServerAuthInfo) (s : State χ) (c : ClientId) : ServerAuthInfo :=
  match s.clients.lookup c with
  | some client => client.hinfo
  | none => stale c

/-- `FindInnerConnectionsByUser`. -/
def findInnerConnectionsByUser (stale : ClientId → ServerAuthInfo) (s : State χ)
    (user : UserRpcInfo) : List ClientId :=
  (values s.connections user.userId).filter fun c => (hostInfo stale s c).makeUserRpc = user

/-- `RegisterInnerConnectionByHost` after its `CHECK`. -/
def registerInnerConnectionByHost (s : State χ) (c : ClientId) (client : SubscriberClient)
    (info : ServerAuthInfo) : State χ :=
  { s with
    clients := s.clients.insert c { client with hinfo := info }
    connections := push s.connections info.uid c
    activated := c :: s.activated }

/-- `UnRegisterInnerConnectionByHost`. -/
def unRegisterInnerConnectionByHost (cfg : Config) (s : State χ) (c : ClientId)
    (client : SubscriberClient) : MultiMap String ClientId :=
  if client.hinfo.isValid cfg.authValid then eraseFirst s.connections client.hinfo.uid c
  else s.connections

/-- `Close`, which calls `Closed`, and `delete`. -/
def closeClient (cfg : Config) (s : State χ) (c : ClientId) (client : SubscriberClient) : State χ :=
  { s with
    clients := s.clients.erase c
    connections := unRegisterInnerConnectionByHost cfg s c client
    activated := s.activated.filter fun c' => c' ≠ c }

/-! ## The handlers -/

/-- The checks of `HandleRequestClientActivate`, in their order. -/
def checkActivate (cfg : Config) (stale : ClientId → ServerAuthInfo) (s : State χ)
    (auth : AuthInfo) : Except Error ServerAuthInfo := do
  let user ← s.users.findUser cfg.authValid auth
  if user.isBanned then throw (.message "Banned user")
  let device ← user.findDevice auth.deviceId
  let info : ServerAuthInfo := ⟨auth, user.uid⟩
  if (findInnerConnectionsByUser stale s info.makeUserRpc).length ≥ device.connections then
    throw (.message "Limit connection reject")
  return info

/-- `HandleRequestClientActivate`; `sendOk` is the outcome of sending the success. -/
def handleRequestClientActivate (cfg : Config) (stale : ClientId → ServerAuthInfo) (sendOk : Bool)
    (s : State χ) (c : ClientId) (client : SubscriberClient) :
    Params AuthInfo → Option (State χ × Option (Reply χ))
  | .absent | .notJson => some (s, none)
  | .refused err => some (s, some (.activateFail err))
  | .read auth =>
    match checkActivate cfg stale s auth with
    | .error err => some (s, some (.activateFail err))
    | .ok info =>
      if sendOk then
        if info.isValid cfg.authValid then
          some (registerInnerConnectionByHost s c client info, some .activateSuccess)
        else none
      else some (s, none)

/-- `CheckIsAuthClient`. -/
def checkIsAuthClient (cfg : Config) (s : State χ) (client : SubscriberClient) :
    Except Error (UserInfo χ) :=
  s.users.findUser cfg.authValid client.hinfo.toAuthInfo

/-- The start of the other handlers: a client that fails the check is told and closed. -/
def withAuthClient (cfg : Config) (s : State χ) (c : ClientId) (client : SubscriberClient)
    (serve : UserInfo χ → State χ × Option (Reply χ)) : State χ × Option (Reply χ) :=
  match checkIsAuthClient cfg s client with
  | .error err => (closeClient cfg s c client, some (.checkActivateFail err))
  | .ok user => serve user

def handleRequestClientPing (cfg : Config) (s : State χ) (c : ClientId) (client : SubscriberClient)
    (params : Params Unit) : State χ × Option (Reply χ) :=
  withAuthClient cfg s c client fun _ =>
    match params with
    | .read _ => (s, some .pong)
    | _ => (s, none)

def handleRequestClientGetServerInfo (cfg : Config) (s : State χ) (c : ClientId)
    (client : SubscriberClient) : State χ × Option (Reply χ) :=
  withAuthClient cfg s c client fun _ => (s, some (.getServerInfoSuccess cfg.bandwidthHost))

def handleRequestClientGetChannels (cfg : Config) (s : State χ) (c : ClientId)
    (client : SubscriberClient) : State χ × Option (Reply χ) :=
  withAuthClient cfg s c client fun user => (s, some (.getChannelsSuccess user.channels))

/-- `GetAndUpdateOnlineUserByStreamID`. -/
def getAndUpdateOnlineUserByStreamID (s : State χ) (sid : String) : Nat :=
  s.clients.entries.countP fun client => client.2.currentStreamId = sid

def handleRequestClientGetRuntimeChannelInfo (cfg : Config) (s : State χ) (c : ClientId)
    (client : SubscriberClient) (params : Params String) : State χ × Option (Reply χ) :=
  withAuthClient cfg s c client fun _ =>
    match params with
    | .read sid =>
      ({ s with clients := s.clients.insert c { client with currentStreamId := sid } },
        some (.getRuntimeChannelInfoSuccess sid (getAndUpdateOnlineUserByStreamID s sid)))
    | _ => (s, none)

/-- `HandleRequestCommand`. -/
def handleRequestCommand (cfg : Config) (stale : ClientId → ServerAuthInfo) (sendOk : Bool)
    (s : State χ) (c : ClientId) (client : SubscriberClient) :
    Request → Option (State χ × Option (Reply χ))
  | .activate params => handleRequestClientActivate cfg stale sendOk s c client params
  | .ping params => some (handleRequestClientPing cfg s c client params)
  | .getServerInfo => some (handleRequestClientGetServerInfo cfg s c client)
  | .getChannels => some (handleRequestClientGetChannels cfg s c client)
  | .getRuntimeChannelInfo params =>
    some (handleRequestClientGetRuntimeChannelInfo cfg s c client params)
  | .unknown _ => some (s, none)

/-! ## Runs -/

inductive Event (χ : Type)
  /-- A new client object at a free address. -/
  | accepted (c : ClientId)
  | request (c : ClientId) (req : Request) (sendOk : Bool) (stale : ClientId → ServerAuthInfo)
  /-- The connection is closed: by the peer, after a read error, or when a ping cannot be sent. -/
  | closed (c : ClientId)
  /-- An operation of the daemon loop on the table. -/
  | sync (op : FinderOp χ)

/-- The state after an event and the answer to a request. -/
def handle (cfg : Config) (s : State χ) : Event χ → Option (State χ × Option (Reply χ))
  | .accepted c =>
    if c ∈ s.clients then none else some ({ s with clients := s.clients.insert c {} }, none)
  | .request c req sendOk stale =>
    (s.clients.lookup c).bind fun client => handleRequestCommand cfg stale sendOk s c client req
  | .closed c => (s.clients.lookup c).map fun client => (closeClient cfg s c client, none)
  | .sync op => some ({ s with users := op.apply s.users }, none)

def step (cfg : Config) (s : State χ) (e : Event χ) : Option (State χ) := (handle cfg s e).map (·.1)

end IptvCloud.Server.Subscribers
