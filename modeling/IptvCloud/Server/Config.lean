import IptvCloud.Base.InputsOutputs

/-!
# Configuration of the service (`server/config.cpp`)

`load_config_from_file` reads the lines `key=value` of a file into an argument map
(`utils/arg_reader.cpp`) and every field of the configuration from that map. The conversions and the
hosts of the library `common` are the structure `Library`; the ports are those of
`server/CMakeLists.txt`.
-/

namespace IptvCloud.Server.Service

/-- The types and functions of `common` that the configuration is made of. -/
structure Library where
  HostAndPort : Type
  LogLevel : Type
  /-- The default constructor. -/
  emptyHost : HostAndPort
  createLocalHost : UInt16 → HostAndPort
  logLevelInfo : LogLevel
  toHostAndPort : String → Option HostAndPort
  toTime : String → Option Int64
  textToLogLevel : String → Option LogLevel

def clientPort : UInt16 := 6317
def httpPort : UInt16 := 8000
def vodsPort : UInt16 := 7000
def subscribersPort : UInt16 := 6000
def bandwidthPort : UInt16 := 5000

/-- `TTL_FILES`, in seconds. -/
def ttlFilesDefault : Int64 := 3600

/-- `DUMMY_LOG_FILE_PATH`. -/
def dummyLogFilePath : String := "/dev/null"

structure Config (lib : Library) where
  host : lib.HostAndPort
  logPath : String
  logLevel : lib.LogLevel
  httpHost : lib.HostAndPort
  vodsHost : lib.HostAndPort
  subscribersHost : lib.HostAndPort
  bandwidthHost : lib.HostAndPort
  ttlFiles : Int64

/-! ## Reading the file -/

/-- `getlines` in the middle of a line; its characters so far are last first. -/
def getlines.go : List Char → List Char → List (List Char)
  | line, [] => if line.isEmpty then [] else [line.reverse]
  | line, c :: cs => if c = '\n' then line.reverse :: go [] cs else go (c :: line) cs

/-- The lines that `getline` reads: what follows the last newline is one when it is not empty. -/
def getlines (text : List Char) : List (List Char) := getlines.go [] text

/-- `GetKeyValue`. -/
def getKeyValue (line : List Char) (separator : Char) : String × String :=
  if separator ∈ line then
    (String.ofList (line.takeWhile (· ≠ separator)),
      String.ofList ((line.dropWhile (· ≠ separator)).drop 1))
  else (String.ofList line, "")

/-- The keys that `ReadSlaveConfig` compares with, in its order. -/
def serviceFields : List String :=
  ["log_path", "log_level", "host", "http_host", "vods_host", "subscribers_host",
    "bandwidth_host", "ttl_files"]

/-- `std::map::insert`, which keeps a value that is there. -/
def insertNew (options : ArgsMap) (pair : String × String) : ArgsMap :=
  if pair.1 ∈ options then options else options.insert pair.1 pair.2

/-- What a line adds to the options. -/
def readLine (options : ArgsMap) (line : List Char) : ArgsMap :=
  let pair := getKeyValue line '='
  if pair.1 ∈ serviceFields then insertNew options pair else options

inductive ReadError
  | invalidConfigPath
  | failedToOpen (path : String)
  deriving DecidableEq, Repr

/-- `ReadSlaveConfig`; `files` gives the text of the files that can be opened. -/
def readSlaveConfig (files : String → Option String) (path : String) : Except ReadError ArgsMap :=
  if path = "" then .error .invalidConfigPath
  else
    match files path with
    | none => .error (.failedToOpen path)
    | some text => .ok ((getlines text.toList).foldl readLine ∅)

/-! ## The fields -/

/-- `load_config_from_file`, with what it makes of the options. -/
def configOf (lib : Library) (options : ArgsMap) : Config lib :=
  let logPath := (argsGetValue options "log_path" some).getD dummyLogFilePath
  let level :=
    match argsGetValue options "log_level" some with
    | some levelStr => (lib.textToLogLevel levelStr).getD lib.logLevelInfo
    | none => lib.logLevelInfo
  let host := (argsGetValue options "host" lib.toHostAndPort).getD (lib.createLocalHost clientPort)
  let httpHost :=
    (argsGetValue options "http_host" lib.toHostAndPort).getD (lib.createLocalHost httpPort)
  let vodsHost :=
    (argsGetValue options "vods_host" lib.toHostAndPort).getD (lib.createLocalHost vodsPort)
  let subscribersHost :=
    (argsGetValue options "subscribers_host" lib.toHostAndPort).getD
      (lib.createLocalHost subscribersPort)
  -- its default goes to the variable of the subscribers host, which is not read any more
  let bandwidthHost :=
    (argsGetValue options "bandwidth_host" lib.toHostAndPort).getD lib.emptyHost
  let ttlFiles := (argsGetValue options "ttl_files" lib.toTime).getD ttlFilesDefault
  { host, logPath, logLevel := level, httpHost, vodsHost, subscribersHost, bandwidthHost, ttlFiles }

def loadConfigFromFile (lib : Library) (files : String → Option String) (path : String) :
    Except ReadError (Config lib) := do
  let options ← readSlaveConfig files path
  return configOf lib options

end IptvCloud.Server.Service
