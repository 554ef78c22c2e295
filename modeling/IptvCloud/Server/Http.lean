import IptvCloud.Lib.Path
import IptvCloud.Lib.Run

/-!
# The HTTP handlers (`server/http/handler.cpp`, `server/vods/handler.cpp`)

`ProcessReceived` answers one request of a client with a file below the root of the handler. The
two handlers have the same text but for the root, so `processReceived` is written once. What
`common` does with requests and paths is the structure `Common`; the calls of a run on the client,
the observer and the descriptors are its `Effect`s, and `Held` is what these calls leave behind.
-/

namespace IptvCloud.Server.Http

/-- `common::http::http_status`; `other` are the ones that only the parser answers with. -/
inductive HttpStatus where
  | ok
  | badRequest
  | forbidden
  | notFound
  | other (code : Nat)
  deriving DecidableEq

/-- `common::http::http_method`. -/
inductive HttpMethod where
  | get
  | head
  | other (name : String)
  deriving DecidableEq

/-- `common::http::http_protocol`. -/
inductive HttpProtocol where
  | http10
  | http11
  | http20
  deriving DecidableEq

/-- `common::http::header_t`. -/
structure Header where
  key : String
  value : String
  deriving DecidableEq

/-- `common::uri::Upath`: the directories of the path (`GetHpath`), with the slash in front, and
its file name. -/
structure Upath where
  isValid : Bool
  isRoot : Bool
  hpath : List Char
  fileName : List Char
  mime : String
  deriving DecidableEq

/-- `common::http::HttpRequest`. -/
structure HttpRequest where
  method : HttpMethod
  path : Upath
  protocol : HttpProtocol
  headers : List Header
  deriving DecidableEq

/-- The functions of `common`. -/
structure Common where
  parseHttpRequest : List Char → Except (HttpStatus × String) HttpRequest
  findHeaderByKey : HttpRequest → String → Bool → Option Header
  equalsASCII : String → String → Bool → Bool
  makeDirectoryStringPath : List Char → List Char → Option (List Char)
  makeFileStringPath : List Char → List Char → Option (List Char)

/-- `struct stat`. -/
structure FileStat where
  isDir : Bool
  size : Int
  mtime : Int
  deriving DecidableEq

/-- `stat` and `open`, by the paths they see; `open` answers with a descriptor. -/
structure FileSystem where
  stat : List Char → Option FileStat
  openFile : List Char → Option Nat

/-- Which of the calls on the client fail. -/
structure Sends where
  error : Bool
  headers : Bool
  file : Bool

/-- A call on the client, the observer or a descriptor; `failed` is the outcome of a send. -/
inductive Effect where
  | sendError (protocol : HttpProtocol) (status : HttpStatus) (text : String)
      (isKeepAlive failed : Bool)
  | sendHeaders (protocol : HttpProtocol) (status : HttpStatus) (mime : String)
      (size mtime : Int) (isKeepAlive failed : Bool)
  | sendFileByFd (protocol : HttpProtocol) (fd : Nat) (size : Int) (failed : Bool)
  | onHttpRequest (file : List Char)
  | openFile (path : List Char) (fd : Nat)
  | closeFd (fd : Nat)
  | closeClient
  | deleteClient
  deriving DecidableEq

section
variable (lib : Common) (fs : FileSystem) (sends : Sends)

/-- `std::string::substr(1)`, which throws on the empty string. -/
def substr1 : List Char → Option (List Char)
  | [] => none
  | _ :: text => some text

/-- The file that the path of a request names below the root. -/
def filePath (root : List Char) (path : Upath) : Option (Option (List Char)) :=
  (substr1 path.hpath).map fun urlDirs =>
    let dirsPath := (lib.makeDirectoryStringPath root urlDirs).getD root
    lib.makeFileStringPath dirsPath path.fileName

/-- The answer once the file is known: the calls, and whether the function goes on to its end
(`false` is a `return` on the way). `stat` and `open` get `file_path_str.c_str()`, and the observer
the whole text. -/
def serveFile (observer : Bool) (request : HttpRequest) (isKeepAlive : Bool) (file : List Char) :
    List Effect × Bool :=
  let observed := if observer then [.onHttpRequest file] else []
  let path := Stdio.cstr file
  match fs.stat path with
  | none =>
    (observed ++ [.sendError request.protocol .notFound "File not found." isKeepAlive sends.error],
      false)
  | some sb =>
    if sb.isDir then
      (observed ++
        [.sendError request.protocol .badRequest "Bad filename." isKeepAlive sends.error], false)
    else
      match fs.openFile path with
      | none =>
        (observed ++
          [.sendError request.protocol .forbidden "File is protected." isKeepAlive sends.error],
          false)
      | some fd =>
        let opened := observed ++ [.openFile path fd, .sendHeaders request.protocol .ok
          request.path.mime sb.size sb.mtime isKeepAlive sends.headers]
        if sends.headers then (opened ++ [.closeFd fd], false)
        else
          let sent := if request.method = .get then
              [.sendFileByFd request.protocol fd sb.size sends.file]
            else []
          (opened ++ sent ++ [.closeFd fd], true)

/-- The branch of `GET` and `HEAD`; `none` is the exception of `substr`. -/
def serve (root : List Char) (observer : Bool) (request : HttpRequest) (isKeepAlive : Bool) :
    Option (List Effect × Bool) :=
  let notFound : List Effect × Bool :=
    ([.sendError request.protocol .notFound "File not found." isKeepAlive sends.error], false)
  if !request.path.isValid || request.path.isRoot then some notFound
  else
    (filePath lib root request.path).map fun file =>
      match file with
      | none => notFound
      | some file => serveFile fs sends observer request isKeepAlive file

/-- `IsKeepAlive` of a request. -/
def keepsAlive (request : HttpRequest) : Bool :=
  match lib.findHeaderByKey request "Connection" false with
  | some connectionField => lib.equalsASCII connectionField.value "Keep-Alive" false
  | none => false

def isGetOrHead (request : HttpRequest) : Bool :=
  request.method = .get || request.method = .head

/-- `ProcessReceived` of a handler with the root `root` and an observer or none: its calls, unless
it throws. -/
def processReceived (root : List Char) (observer : Bool) (text : List Char) :
    Option (List Effect) :=
  match lib.parseHttpRequest text with
  | .error (status, errorText) =>
    some [.sendError .http11 status errorText false sends.error, .closeClient, .deleteClient]
  | .ok request =>
    let isKeepAlive := keepsAlive lib request
    let served := if isGetOrHead request then
        serve lib fs sends root observer request isKeepAlive
      else some ([], true)
    served.map fun (effects, reachesEnd) =>
      if reachesEnd && !isKeepAlive then effects ++ [.closeClient, .deleteClient] else effects

end

/-- `HttpHandler`; `observer` says whether there is one. -/
structure HttpHandler where
  httpRoot : List Char
  observer : Bool

/-- `VodsHandler`. -/
structure VodsHandler where
  vodsRoot : List Char
  observer : Bool

def HttpHandler.processReceived (self : HttpHandler) (lib : Common) (fs : FileSystem)
    (sends : Sends) (text : List Char) : Option (List Effect) :=
  Http.processReceived lib fs sends self.httpRoot self.observer text

def VodsHandler.processReceived (self : VodsHandler) (lib : Common) (fs : FileSystem)
    (sends : Sends) (text : List Char) : Option (List Effect) :=
  Http.processReceived lib fs sends self.vodsRoot self.observer text

/-! ## What the calls leave behind -/

/-- A client is open, closed, or closed and freed. -/
inductive Client where
  | opened
  | closed
  | freed
  deriving DecidableEq

/-- The client and the descriptors that were opened and not closed yet. -/
structure Held where
  client : Client
  fds : List Nat
  deriving DecidableEq

/-- A call that finds the client or the descriptor it needs; the others have no next state. -/
def Held.step (held : Held) : Effect → Option Held
  | .closeClient => if held.client = .opened then some { held with client := .closed } else none
  | .deleteClient => if held.client = .closed then some { held with client := .freed } else none
  | .openFile _ fd => if fd ∈ held.fds then none else some { held with fds := fd :: held.fds }
  | .closeFd fd => if fd ∈ held.fds then some { held with fds := held.fds.erase fd } else none
  | .sendFileByFd _ fd _ _ => if held.client = .opened ∧ fd ∈ held.fds then some held else none
  | .sendError .. | .sendHeaders .. | .onHttpRequest _ =>
    if held.client = .opened then some held else none

/-- What a run that starts with an open client holds at its end. -/
def heldAfter (effects : List Effect) : Option Held := Run.exec Held.step ⟨.opened, []⟩ effects

end IptvCloud.Server.Http
