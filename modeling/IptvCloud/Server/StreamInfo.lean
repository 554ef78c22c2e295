import IptvCloud.Base.InputsOutputs

/-!
# What the daemon reads of a configuration (`MakeStreamInfo`)

The daemon reads the id, the type, the feedback directory, the log level, the inputs and the outputs
of a stream from its argument map, and makes the directories the stream writes to. A failure is an
error that is answered, or a misuse of json-c in the lists of urls.
-/

namespace IptvCloud.Server.Daemon

open JsonC

/-- `StreamInfo` (`base/stream_struct.h`) with the feedback directory and the log level; without a
level it is `LOG_LEVEL_DEBUG`. -/
structure StreamInfo where
  id : String
  type : StreamType
  input : List UInt64
  output : List UInt64
  feedbackDir : String
  logsLevel : Option Int32

/-- `"Define " <field> " variable and make it valid."`. -/
def defineError (field : String) : Failure Error :=
  .refused (.message ("Define " ++ field ++ " variable and make it valid."))

/-- A value that `ArgsGetValue` must find. -/
def requiredArg {α : Type} (field : String) : Option α → Decoded α
  | some value => .ok value
  | none => .error (defineError field)

/-- A list of urls that must be there. -/
def requiredUrls {α : Type} (field : String) : Decoded (List α) → Decoded (List α)
  | .error (.refused _) => .error (defineError field)
  | urls => urls

/-- The error of `CreateAndCheckDir`. -/
def checkDir (createAndCheckDir : String → Option Error) (dir : String) : Decoded Unit :=
  match createAndCheckDir dir with
  | some err => .error (.refused err)
  | none => .ok ()

/-- The ids of the outputs; the directories of the `http` ones are made. -/
def checkOutputs (cm : Common) (createAndCheckDir : String → Option Error) (args : ArgsMap) :
    Decoded (List UInt64) := do
  let output ← requiredUrls "output" (readOutput cm args)
  output.mapM fun uri => do
    if uri.output.scheme = .http then checkDir createAndCheckDir uri.httpRoot
    return uri.id

/-- `MakeStreamInfo`. -/
def makeStreamInfo (cm : Common) (createAndCheckDir : String → Option Error) (args : ArgsMap)
    (checkFolders : Bool) : Decoded StreamInfo := do
  let id ← requiredArg "id" (argsGetValue args "id" some)
  let type ← requiredArg "type" (argsGetValue args "type" cm.toUInt8)
  let type := StreamType.ofUInt8 type
  if type = .proxy then .error (.refused (.message "Proxy streams not handled for now"))
  let feedbackDir ← requiredArg "feedback_directory" (argsGetValue args "feedback_directory" some)
  let logsLevel := argsGetValue args "log_level" cm.toInt
  checkDir createAndCheckDir feedbackDir
  let input ← requiredUrls "input" (readInput cm args)
  let output ←
    if !checkFolders then pure []
    else if type = .timeshiftRecorder || type = .catchup then do
      let timeshiftDir ← requiredArg "timeshift_dir" (argsGetValue args "timeshift_dir" some)
      checkDir createAndCheckDir timeshiftDir
      pure []
    else checkOutputs cm createAndCheckDir args
  return ⟨id, type, input.map (·.id), output, feedbackDir, logsLevel⟩

end IptvCloud.Server.Daemon
