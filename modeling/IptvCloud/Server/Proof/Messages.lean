import IptvCloud.Lib.Fields
import IptvCloud.Server.Messages
import IptvCloud.Server.Proof.UserInfo

/-!
# What a message is received as

A string is received up to its first NUL, a url and a host as their text is read, an `int` as it is,
and the loads of the machine not at all. `messages_roundTrip`: which messages of each class are
received as they were sent.
-/

namespace IptvCloud.Server

open JsonC IptvCloud.Stream

variable {α : Type} {co : Coercions} {cm : CommonText} {fields : Fields} {key : String} {v : Json}
  {a : α}

/-! ## Fields -/

theorem reads_required {read : Json → Decoded α} (hmem : (key, v) ∈ fields) (h : read v = .ok a) :
    Reads (fun j => requiredField j key read) fields a :=
  .field hmem fun _ hj => (requiredField_of_getEx hj).trans h

theorem reads_optional {read : Json → Decoded α} {default : α} (hmem : (key, v) ∈ fields)
    (h : read v = .ok a) : Reads (fun j => optionalField j key default read) fields a :=
  .field hmem fun _ hj => (optionalField_of_getEx hj).trans h

/-- A string is received up to its first NUL. -/
theorem toStdString_new (s : String) :
    ((Json.newString s).toStdString co : Decoded String) = .ok (cstring s) := by
  simp [Json.newString, Json.toStdString, Json.getString, cstring_cstring]

/-- A url is received as the parser reads its text. -/
def receivedUrl (cm : CommonText) (url : Url) : Url := cm.parseUrl (cstring (cm.getUrl url))

theorem toUrl_new (url : Url) :
    (((Json.newString (cm.getUrl url)).toStdString cm.co : Decoded String).map cm.parseUrl) =
      .ok (receivedUrl cm url) := by
  rw [toStdString_new]
  rfl

theorem readStrings_new (strings : List String) :
    readStrings co (newStrings strings) = .ok (strings.map cstring) := by
  have hmap : (strings.map Json.newString).mapM (fun v => (v.toStdString co : Decoded String)) =
      .ok (strings.map cstring) := by
    induction strings with
    | nil => rfl
    | cons s strings ih =>
      rw [List.map_cons, List.mapM_cons, toStdString_new, ih]
      rfl
  exact hmap

theorem cstring_eq_iff (s : String) : cstring s = s ↔ NulFree s := cstring_eq_self_iff s

theorem map_cstring_eq_iff (strings : List String) :
    strings.map cstring = strings ↔ ∀ s ∈ strings, NulFree s := by
  induction strings with
  | nil => simp
  | cons s strings ih => simp [ih, cstring_eq_iff]

/-- The object of a message is decoded to the message exactly when it is received as it is. -/
theorem decoded_iff {decode : Json → Decoded α} {received : α} {P : Prop}
    (h : Reads decode fields received) (hkeys : (fields.map (·.1)).Nodup) (hP : received = a ↔ P) :
    decode (.object fields) = .ok a ↔ P := by
  rw [h.object hkeys, Except.ok.injEq, hP]

/-! ## Messages -/

theorem reads_licenseInfo (info : LicenseInfo) :
    Reads (LicenseInfo.doDeSerialize co) info.serializeFields ⟨cstring info.license⟩ :=
  .bind (reads_optional (List.mem_singleton_self _) (toStdString_new _)) (.pure _)

theorem licenseInfo_roundTrip (info : LicenseInfo) :
    LicenseInfo.doDeSerialize co (.object info.serializeFields) = .ok info ↔
      NulFree info.license := by
  refine decoded_iff (reads_licenseInfo info) (by simp [LicenseInfo.serializeFields]) ?_
  rw [← cstring_eq_iff]
  cases info
  simp

theorem reads_stopServiceInfo (info : StopServiceInfo) :
    Reads (StopServiceInfo.doDeSerialize co) info.serializeFields
      ⟨⟨cstring info.license⟩, info.delay⟩ :=
  .bind ((reads_licenseInfo info.toLicenseInfo).mono (List.subset_cons_self _ _))
    (.bind (reads_optional (List.mem_cons_self ..) rfl) (.pure _))

theorem stopServiceInfo_roundTrip (info : StopServiceInfo) :
    StopServiceInfo.doDeSerialize co (.object info.serializeFields) = .ok info ↔
      NulFree info.license := by
  refine decoded_iff (reads_stopServiceInfo info)
    (by simp [StopServiceInfo.serializeFields, LicenseInfo.serializeFields]) ?_
  rw [← cstring_eq_iff]
  obtain ⟨⟨license⟩, delay⟩ := info
  simp

theorem syncInfo_roundTrip (info : SyncInfo) :
    SyncInfo.doDeSerialize co (.object info.serializeFields) = .ok info ↔
      (∀ s ∈ info.streams, NulFree s) ∧ ∀ s ∈ info.users, NulFree s := by
  have h : Reads (SyncInfo.doDeSerialize co) info.serializeFields
      ⟨info.streams.map cstring, info.users.map cstring⟩ :=
    .bind (reads_optional (List.mem_cons_self ..) (readStrings_new _))
      (.bind (reads_optional (List.mem_cons_of_mem _ (List.mem_cons_self ..)) (readStrings_new _))
        (.pure _))
  refine decoded_iff h (by simp [SyncInfo.serializeFields]) ?_
  rw [← map_cstring_eq_iff, ← map_cstring_eq_iff]
  cases info
  simp

/-- The directories of the service. -/
def PrepareInfo.all (info : PrepareInfo) : List String :=
  [info.feedbackDirectory, info.timeshiftsDirectory, info.hlsDirectory, info.playlistsDirectory,
    info.dvbDirectory, info.captureCardDirectory, info.vodsInDirectory, info.vodsDirectory]

theorem prepareInfo_roundTrip (info : PrepareInfo) :
    PrepareInfo.doDeSerialize co (.object info.serializeFields) = .ok info ↔
      ∀ s ∈ info.all, NulFree s := by
  have directory {key s : String} (hmem : (key, Json.newString s) ∈ info.serializeFields) :
      Reads (fun j => optionalField j key "" fun v => v.toStdString co) info.serializeFields
        (cstring s) := reads_optional hmem (toStdString_new s)
  have h : Reads (PrepareInfo.doDeSerialize co) info.serializeFields
      ⟨cstring info.feedbackDirectory, cstring info.timeshiftsDirectory, cstring info.hlsDirectory,
        cstring info.playlistsDirectory, cstring info.dvbDirectory,
        cstring info.captureCardDirectory, cstring info.vodsInDirectory,
        cstring info.vodsDirectory⟩ := by
    refine .bind (directory ?_) (.bind (directory ?_) (.bind (directory ?_) (.bind (directory ?_)
      (.bind (directory ?_) (.bind (directory ?_) (.bind (directory ?_) (.bind (directory ?_)
        (.pure _))))))))
    all_goals simp [PrepareInfo.serializeFields]
  refine decoded_iff h (by simp [PrepareInfo.serializeFields]) ?_
  rw [← map_cstring_eq_iff]
  cases info
  simp [PrepareInfo.all]

theorem getLogServiceInfo_roundTrip (info : GetLogServiceInfo) :
    GetLogServiceInfo.doDeSerialize cm.toCommon (.object (info.serializeFields cm)) = .ok info ↔
      receivedUrl cm info.path = info.path := by
  have h : Reads (GetLogServiceInfo.doDeSerialize cm.toCommon) (info.serializeFields cm)
      ⟨receivedUrl cm info.path⟩ :=
    .bind (reads_optional (List.mem_singleton_self _) (toUrl_new _)) (.pure _)
  refine decoded_iff h (by simp [GetLogServiceInfo.serializeFields]) ?_
  cases info
  simp

/-! ### Statistics of the service -/

theorem reads_count {n : UInt64} (hmem : (key, .int n.toInt64) ∈ fields) :
    Reads (fun j => readCount co j key) fields n := by
  refine reads_optional hmem ?_
  simp [Json.getInt64]

theorem reads_status {n : Int32} (hmem : (key, .int n.toInt64) ∈ fields) :
    Reads (fun j => optionalField j key 0 fun v => .ok (v.getInt co).toInt32) fields n := by
  refine reads_optional hmem ?_
  rw [getInt_status]

theorem reads_time {n : Int64} (hmem : (key, .int n) ∈ fields) :
    Reads (fun j => optionalField j key 0 fun v => .ok (v.getInt64 co)) fields n :=
  reads_optional hmem rfl

theorem onlineUsers_roundTrip (info : OnlineUsers) :
    OnlineUsers.doDeSerialize co (.object info.serializeFields) = .ok info := by
  have h : Reads (OnlineUsers.doDeSerialize co) info.serializeFields info := by
    refine .bind (reads_count (n := info.daemon) ?_) (.bind (reads_count (n := info.http) ?_)
      (.bind (reads_count (n := info.vods) ?_) (.bind (reads_count (n := info.subscriber) ?_)
        (.pure info))))
    all_goals simp [OnlineUsers.serializeFields]
  exact h.object (by simp [OnlineUsers.serializeFields])

/-- What the statistics of the service are received as: without the loads. -/
def receivedServer (info : ServerInfo) : ServerInfo :=
  { info with uptime := cstring info.uptime, sysShot := { info.sysShot with loads := (0, 0, 0) } }

theorem receivedServer_eq_iff (info : ServerInfo) :
    receivedServer info = info ↔ NulFree info.uptime ∧ info.sysShot.loads = (0, 0, 0) := by
  rw [← cstring_eq_iff]
  obtain ⟨-, -, uptime, -, -, -, -, -, ⟨loads, -⟩, -⟩ := info
  simp [receivedServer, eq_comm]

theorem reads_serverInfo (info : ServerInfo) :
    Reads (ServerInfo.doDeSerialize cm.toCommon) info.serializeFields (receivedServer info) := by
  refine .bind (reads_optional (v := .object info.onlineUsers.serializeFields) ?_
      (onlineUsers_roundTrip info.onlineUsers))
    (.bind (reads_status (n := info.cpuLoad) ?_) (.bind (reads_status (n := info.gpuLoad) ?_)
    (.bind (reads_optional (v := .newString info.uptime) ?_ (toStdString_new info.uptime))
    (.bind (reads_count (n := info.memShot.totalBytesRam) ?_)
    (.bind (reads_count (n := info.memShot.freeBytesRam) ?_)
    (.bind (reads_count (n := info.memShot.availBytesRam) ?_)
    (.bind (reads_count (n := info.hddShot.hddBytesTotal) ?_)
    (.bind (reads_count (n := info.hddShot.hddBytesFree) ?_)
    (.bind (reads_count (n := info.netBytesRecv) ?_)
    (.bind (reads_count (n := info.netBytesSend) ?_)
    (.bind (reads_time (n := info.sysShot.uptime) ?_) (.bind (reads_time (n := info.currentTs) ?_)
      (.pure (receivedServer info))))))))))))))
  all_goals simp [ServerInfo.serializeFields]

theorem serverInfo_roundTrip (info : ServerInfo) :
    ServerInfo.doDeSerialize cm.toCommon (.object info.serializeFields) = .ok info ↔
      NulFree info.uptime ∧ info.sysShot.loads = (0, 0, 0) :=
  decoded_iff (reads_serverInfo info) (by simp [ServerInfo.serializeFields])
    (receivedServer_eq_iff info)

section
variable {lib : HostLib}

/-- A host is received as its text is read. -/
def receivedHost (lib : HostLib) (host : lib.HostAndPort) : lib.HostAndPort :=
  (lib.convertFromString (cstring (lib.convertToString host))).getD lib.emptyHost

theorem reads_host {host : lib.HostAndPort}
    (hmem : (key, .newString (lib.convertToString host)) ∈ fields) :
    Reads (fun j => readHost lib co j key) fields (receivedHost lib host) := by
  refine reads_optional hmem ?_
  rw [toStdString_new]
  rfl

/-- The hosts of the service. -/
def FullServiceInfo.hosts (info : FullServiceInfo lib) : List lib.HostAndPort :=
  [info.httpHost, info.vodsHost, info.subscribersHost, info.bandwidthHost]

theorem fullServiceInfo_roundTrip (info : FullServiceInfo lib) :
    FullServiceInfo.doDeSerialize cm.toCommon (.object info.serializeFields) = .ok info ↔
      (NulFree info.uptime ∧ info.sysShot.loads = (0, 0, 0)) ∧
        (∀ host ∈ info.hosts, receivedHost lib host = host) ∧ NulFree info.projVer := by
  have hbase : info.toServerInfo.serializeFields ⊆ info.serializeFields := by
    intro field hfield
    simp [FullServiceInfo.serializeFields, hfield]
  have h : Reads (FullServiceInfo.doDeSerialize cm.toCommon) info.serializeFields
      ⟨receivedServer info.toServerInfo, receivedHost lib info.httpHost,
        receivedHost lib info.vodsHost, receivedHost lib info.subscribersHost,
        receivedHost lib info.bandwidthHost, cstring info.projVer⟩ := by
    refine .bind ((reads_serverInfo info.toServerInfo).mono hbase) (.bind (reads_host ?_)
      (.bind (reads_host ?_) (.bind (reads_host ?_) (.bind (reads_host ?_)
        (.bind (reads_optional (v := .newString info.projVer) ?_ (toStdString_new _))
          (.pure _))))))
    all_goals simp [FullServiceInfo.serializeFields]
  refine decoded_iff h
    (by simp [FullServiceInfo.serializeFields, ServerInfo.serializeFields]) ?_
  rw [← receivedServer_eq_iff, ← cstring_eq_iff]
  obtain ⟨server, httpHost, vodsHost, subscribersHost, bandwidthHost, projVer⟩ := info
  simp [FullServiceInfo.hosts, and_assoc]

end

/-! ### Streams -/

theorem startInfo_roundTrip (info : StartInfo) :
    StartInfo.doDeSerialize co (.object info.serializeFields) = .ok info ↔ NulFree info.config := by
  have h : Reads (StartInfo.doDeSerialize co) info.serializeFields ⟨cstring info.config⟩ :=
    .bind (reads_required (List.mem_singleton_self _) (toStdString_new _)) (.pure _)
  refine decoded_iff h (by simp [StartInfo.serializeFields]) ?_
  rw [← cstring_eq_iff]
  cases info
  simp

theorem reads_streamIdInfo (info : StreamIdInfo) :
    Reads (StreamIdInfo.doDeSerialize co) info.serializeFields ⟨cstring info.streamId⟩ :=
  .bind (reads_required (List.mem_singleton_self _) (toStdString_new _)) (.pure _)

theorem streamIdInfo_roundTrip (info : StreamIdInfo) :
    StreamIdInfo.doDeSerialize co (.object info.serializeFields) = .ok info ↔
      NulFree info.streamId := by
  refine decoded_iff (reads_streamIdInfo info) (by simp [StreamIdInfo.serializeFields]) ?_
  rw [← cstring_eq_iff]
  cases info
  simp

theorem getLogStreamInfo_roundTrip (info : GetLogStreamInfo) :
    GetLogStreamInfo.doDeSerialize cm.toCommon (.object (info.serializeFields cm)) = .ok info ↔
      NulFree info.streamId ∧ NulFree info.feedbackDir ∧ receivedUrl cm info.path = info.path := by
  have hbase : info.toStreamIdInfo.serializeFields ⊆ info.serializeFields cm :=
    List.Subset.trans (List.subset_cons_self _ _) (List.subset_cons_self _ _)
  have h : Reads (GetLogStreamInfo.doDeSerialize cm.toCommon) (info.serializeFields cm)
      ⟨⟨cstring info.streamId⟩, cstring info.feedbackDir, receivedUrl cm info.path⟩ :=
    .bind ((reads_streamIdInfo info.toStreamIdInfo).mono hbase)
      (.bind (reads_required (List.mem_cons_of_mem _ (List.mem_cons_self ..)) (toStdString_new _))
        (.bind (reads_optional (List.mem_cons_self ..) (toUrl_new _)) (.pure _)))
  refine decoded_iff h
    (by simp [GetLogStreamInfo.serializeFields, StreamIdInfo.serializeFields]) ?_
  rw [← cstring_eq_iff, ← cstring_eq_iff]
  obtain ⟨⟨streamId⟩, feedbackDir, path⟩ := info
  simp

theorem quitStatusInfo_roundTrip (info : QuitStatusInfo) :
    QuitStatusInfo.doDeSerialize co (.object info.serializeFields) = .ok info ↔
      NulFree info.streamId := by
  have hbase : info.toStreamIdInfo.serializeFields ⊆ info.serializeFields :=
    List.Subset.trans (List.subset_cons_self _ _) (List.subset_cons_self _ _)
  have h : Reads (QuitStatusInfo.doDeSerialize co) info.serializeFields
      ⟨⟨cstring info.streamId⟩, ((Json.int info.exitStatus.toInt64).getInt co).toInt32,
        ((Json.int info.signal.toInt64).getInt co).toInt32⟩ :=
    .bind ((reads_streamIdInfo info.toStreamIdInfo).mono hbase)
      (.bind (reads_required (List.mem_cons_self ..) rfl)
        (.bind (reads_required (List.mem_cons_of_mem _ (List.mem_cons_self ..)) rfl) (.pure _)))
  refine decoded_iff h
    (by simp [QuitStatusInfo.serializeFields, StreamIdInfo.serializeFields]) ?_
  rw [getInt_status, getInt_status, ← cstring_eq_iff]
  obtain ⟨⟨streamId⟩, exitStatus, signal⟩ := info
  simp

/-! ## Uris -/

/-- The user agent is an `int`. -/
def IsInt (n : Int64) : Prop := -2147483648 ≤ n.toInt ∧ n.toInt ≤ 2147483647

theorem isInt_getInt (j : Json) : IsInt (j.getInt co) := by
  unfold Json.getInt
  dsimp only
  split
  · exact ⟨by decide, by decide⟩
  · rename_i hlow
    split
    · exact ⟨by decide, by decide⟩
    · rename_i hhigh
      simp only [Int64.le_iff_toInt_le, show (-2147483648 : Int64).toInt = -2147483648 by decide,
        show (2147483647 : Int64).toInt = 2147483647 by decide] at hlow hhigh
      exact ⟨by omega, by omega⟩

theorem getInt_eq_iff (co : Coercions) (n : Int64) : (Json.int n).getInt co = n ↔ IsInt n :=
  ⟨fun h => h ▸ isInt_getInt (.int n), fun h => getInt_int h.1 h.2⟩

/-- What an input is received as. -/
def receivedInput (cm : CommonText) (uri : InputUri) : InputUri :=
  ⟨uri.id, receivedUrl cm uri.input, (Json.int uri.userAgent).getInt cm.co⟩

theorem receivedInput_eq_iff (uri : InputUri) :
    receivedInput cm uri = uri ↔ receivedUrl cm uri.input = uri.input ∧ IsInt uri.userAgent := by
  rw [← getInt_eq_iff cm.co]
  cases uri
  simp [receivedInput]

theorem doDeSerialize_inputUri (uri : InputUri) :
    InputUri.doDeSerialize cm.toCommon (.object (uri.serializeFields cm)) =
      .ok (receivedInput cm uri) := by
  have h : Reads (InputUri.doDeSerialize cm.toCommon) (uri.serializeFields cm)
      (receivedInput cm uri) := by
    refine .bind (reads_optional (List.mem_cons_self ..) ?_)
      (.bind (reads_optional (List.mem_cons_of_mem _ (List.mem_cons_self ..)) (toUrl_new _))
        (.bind (reads_optional (v := .int uri.userAgent) ?_ rfl) (.pure _)))
    · simp [Json.getInt64]
    · simp [InputUri.serializeFields]
  exact h.object (by simp [InputUri.serializeFields])

theorem outputUri_roundTrip (uri : OutputUri) :
    OutputUri.doDeSerialize cm.toCommon (.object (uri.serializeFields cm)) = .ok uri ↔
      receivedUrl cm uri.output = uri.output ∧
        cm.directoryPath (cstring uri.httpRoot) = uri.httpRoot := by
  have h : Reads (OutputUri.doDeSerialize cm.toCommon) (uri.serializeFields cm)
      ⟨uri.id, receivedUrl cm uri.output, cm.directoryPath (cstring uri.httpRoot)⟩ := by
    refine .bind (reads_optional (List.mem_cons_self ..) ?_)
      (.bind (reads_optional (List.mem_cons_of_mem _ (List.mem_cons_self ..)) (toUrl_new _))
        (.bind (reads_optional (v := .newString uri.httpRoot) ?_ ?_) (.pure _)))
    · simp [Json.getInt64]
    · simp [OutputUri.serializeFields]
    · rw [toStdString_new]
      rfl
  refine decoded_iff h (by simp [OutputUri.serializeFields]) ?_
  cases uri
  simp

/-- What a change of the input is received as. -/
def receivedSources (cm : CommonText) (info : ChangedSouresInfo) : ChangedSouresInfo :=
  ⟨cstring info.id, receivedInput cm info.url⟩

theorem doDeSerialize_changedSoures (info : ChangedSouresInfo) :
    ChangedSouresInfo.doDeSerialize cm.toCommon (.object (info.serializeFields cm)) =
      .ok (receivedSources cm info) := by
  have h : Reads (ChangedSouresInfo.doDeSerialize cm.toCommon) (info.serializeFields cm)
      (receivedSources cm info) := by
    refine .bind (reads_required (List.mem_cons_self ..) (toStdString_new _))
      (.bind (reads_optional (v := .object (info.url.serializeFields cm)) ?_ ?_) (.pure _))
    · simp [ChangedSouresInfo.serializeFields]
    · exact doDeSerialize_inputUri info.url
  exact h.object (by simp [ChangedSouresInfo.serializeFields])

/-- The message has no NUL in its id, and its url and user agent survive. -/
def Sendable (cm : CommonText) (info : ChangedSouresInfo) : Prop :=
  NulFree info.id ∧ receivedUrl cm info.url.input = info.url.input ∧ IsInt info.url.userAgent

theorem receivedSources_eq_iff (info : ChangedSouresInfo) :
    receivedSources cm info = info ↔ Sendable cm info := by
  rw [Sendable, ← receivedInput_eq_iff, ← cstring_eq_iff]
  cases info
  simp [receivedSources]

/-- **The messages survive their encoding**: a message of any class is decoded to itself exactly
when its strings have no NUL, its urls and hosts are what is read off their text, its user agent is
an `int`, its directory the path of its text, and its loads of the machine are zero. -/
theorem messages_roundTrip (cm : CommonText) (lib : HostLib) :
    (∀ info : LicenseInfo,
      LicenseInfo.doDeSerialize cm.co (.object info.serializeFields) = .ok info ↔
      NulFree info.license) ∧
    (∀ info : StopServiceInfo,
      StopServiceInfo.doDeSerialize cm.co (.object info.serializeFields) = .ok info ↔
        NulFree info.license) ∧
    (∀ info : SyncInfo, SyncInfo.doDeSerialize cm.co (.object info.serializeFields) = .ok info ↔
      (∀ s ∈ info.streams, NulFree s) ∧ ∀ s ∈ info.users, NulFree s) ∧
    (∀ info : PrepareInfo,
      PrepareInfo.doDeSerialize cm.co (.object info.serializeFields) = .ok info ↔
      ∀ s ∈ info.all, NulFree s) ∧
    (∀ info : GetLogServiceInfo,
      GetLogServiceInfo.doDeSerialize cm.toCommon (.object (info.serializeFields cm)) = .ok info ↔
        receivedUrl cm info.path = info.path) ∧
    (∀ info : OnlineUsers,
      OnlineUsers.doDeSerialize cm.co (.object info.serializeFields) = .ok info) ∧
    (∀ info : ServerInfo,
      ServerInfo.doDeSerialize cm.toCommon (.object info.serializeFields) = .ok info ↔
        NulFree info.uptime ∧ info.sysShot.loads = (0, 0, 0)) ∧
    (∀ info : FullServiceInfo lib,
      FullServiceInfo.doDeSerialize cm.toCommon (.object info.serializeFields) = .ok info ↔
        (NulFree info.uptime ∧ info.sysShot.loads = (0, 0, 0)) ∧
          (∀ host ∈ info.hosts, receivedHost lib host = host) ∧ NulFree info.projVer) ∧
    (∀ info : StartInfo, StartInfo.doDeSerialize cm.co (.object info.serializeFields) = .ok info ↔
      NulFree info.config) ∧
    (∀ info : StreamIdInfo,
      StreamIdInfo.doDeSerialize cm.co (.object info.serializeFields) = .ok info ↔
        NulFree info.streamId) ∧
    (∀ info : GetLogStreamInfo,
      GetLogStreamInfo.doDeSerialize cm.toCommon (.object (info.serializeFields cm)) = .ok info ↔
        NulFree info.streamId ∧ NulFree info.feedbackDir ∧ receivedUrl cm info.path = info.path) ∧
    (∀ info : QuitStatusInfo,
      QuitStatusInfo.doDeSerialize cm.co (.object info.serializeFields) = .ok info ↔
        NulFree info.streamId) ∧
    (∀ uri : InputUri,
      InputUri.doDeSerialize cm.toCommon (.object (uri.serializeFields cm)) = .ok uri ↔
        receivedUrl cm uri.input = uri.input ∧ IsInt uri.userAgent) ∧
    (∀ uri : OutputUri,
      OutputUri.doDeSerialize cm.toCommon (.object (uri.serializeFields cm)) = .ok uri ↔
        receivedUrl cm uri.output = uri.output ∧
          cm.directoryPath (cstring uri.httpRoot) = uri.httpRoot) ∧
    (∀ info : ChangedSouresInfo,
      ChangedSouresInfo.doDeSerialize cm.toCommon (.object (info.serializeFields cm)) = .ok info ↔
        Sendable cm info) := by
  refine ⟨licenseInfo_roundTrip, stopServiceInfo_roundTrip, syncInfo_roundTrip,
    prepareInfo_roundTrip, getLogServiceInfo_roundTrip, onlineUsers_roundTrip, serverInfo_roundTrip,
    fullServiceInfo_roundTrip, startInfo_roundTrip, streamIdInfo_roundTrip,
    getLogStreamInfo_roundTrip, quitStatusInfo_roundTrip, fun uri => ?_, outputUri_roundTrip,
    fun info => ?_⟩
  · rw [doDeSerialize_inputUri, Except.ok.injEq, receivedInput_eq_iff]
  · rw [doDeSerialize_changedSoures, Except.ok.injEq, receivedSources_eq_iff]

end IptvCloud.Server
