import IptvCloud.Server.Http

/-!
# The HTTP handlers: connections and the root

`processReceived_cases` says once what a request comes to: it does not parse, it is neither `GET`
nor `HEAD`, it is refused, or it opens a file. What is left of the connection (`settled_iff`) and
where the opened file lies (`below_root_iff`) are case analyses over it.
-/

namespace IptvCloud.Server.Http

open Stdio (cstr)

variable {lib : Common} {fs : FileSystem} {sends : Sends} {root : List Char} {observer : Bool}
  {text : List Char} {request : HttpRequest} {effects : List Effect}

/-! ## The cases of a request -/

/-- `stat` finds something else than a directory and `open` answers with the descriptor. -/
structure Readable (fs : FileSystem) (file : List Char) (fd : Nat) : Prop where
  found : ∃ sb, fs.stat (cstr file) = some sb ∧ sb.isDir = false
  opened : fs.openFile (cstr file) = some fd

/-- The path of the request names a file that can be read. -/
structure Served (lib : Common) (fs : FileSystem) (root : List Char) (path : Upath)
    (file : List Char) (fd : Nat) : Prop where
  valid : path.isValid = true
  notRoot : path.isRoot = false
  named : filePath lib root path = some (some file)
  readable : Readable fs file fd

/-- The text is a `GET` or `HEAD` request for a file that can be read. -/
structure Opens (lib : Common) (fs : FileSystem) (root text : List Char) (request : HttpRequest)
    (file : List Char) (fd : Nat) : Prop where
  parsed : lib.parseHttpRequest text = .ok request
  method : isGetOrHead request = true
  served : Served lib fs root request.path file fd

def observed (observer : Bool) (file : List Char) : List Effect :=
  if observer then [.onHttpRequest file] else []

/-- The end of `ProcessReceived`. -/
def hangUp (isKeepAlive : Bool) : List Effect :=
  if isKeepAlive then [] else [.closeClient, .deleteClient]

/-- The calls for a file that is open, up to the end of the branch. -/
def sendFile (sends : Sends) (request : HttpRequest) (isKeepAlive : Bool) (sb : FileStat)
    (fd : Nat) : List Effect :=
  if request.method = .get ∧ sends.headers = false then
    [.sendHeaders request.protocol .ok request.path.mime sb.size sb.mtime isKeepAlive sends.headers,
      .sendFileByFd request.protocol fd sb.size sends.file, .closeFd fd]
  else
    [.sendHeaders request.protocol .ok request.path.mime sb.size sb.mtime isKeepAlive sends.headers,
      .closeFd fd]

theorem serveFile_cases (fs : FileSystem) (sends : Sends) (observer : Bool)
    (request : HttpRequest) (isKeepAlive : Bool) (file : List Char) :
    ((∀ fd, ¬Readable fs file fd) ∧ ∃ status message,
      serveFile fs sends observer request isKeepAlive file = (observed observer file ++
        [.sendError request.protocol status message isKeepAlive sends.error], false)) ∨
    ∃ sb fd, Readable fs file fd ∧
      serveFile fs sends observer request isKeepAlive file = (observed observer file ++
        .openFile (cstr file) fd :: sendFile sends request isKeepAlive sb fd, !sends.headers) := by
  unfold serveFile
  dsimp only
  cases hstat : fs.stat (cstr file) with
  | none =>
    refine .inl ⟨fun fd hr => ?_, _, _, rfl⟩
    obtain ⟨sb, hsb, -⟩ := hr.found
    simp [hstat] at hsb
  | some sb =>
    cases hdir : sb.isDir with
    | true =>
      refine .inl ⟨fun fd hr => ?_, .badRequest, "Bad filename.", by simp [hdir, observed]⟩
      obtain ⟨sb', hsb, hnot⟩ := hr.found
      cases hstat.symm.trans hsb
      simp [hdir] at hnot
    | false =>
      cases hopen : fs.openFile (cstr file) with
      | none =>
        refine .inl ⟨fun fd hr => ?_, .forbidden, "File is protected.",
          by simp [hdir, observed]⟩
        cases hopen.symm.trans hr.opened
      | some fd =>
        refine .inr ⟨sb, fd, ⟨⟨sb, hstat, hdir⟩, hopen⟩, ?_⟩
        cases hheaders : sends.headers <;> by_cases hget : request.method = .get <;>
          simp [hdir, hheaders, hget, observed, sendFile]

theorem serve_cases {isKeepAlive reachesEnd : Bool}
    (h : serve lib fs sends root observer request isKeepAlive = some (effects, reachesEnd)) :
    ((∀ file fd, ¬Served lib fs root request.path file fd) ∧ reachesEnd = false ∧
      ∃ seen status message, (seen = [] ∨ ∃ file, seen = observed observer file) ∧
        effects = seen ++ [.sendError request.protocol status message isKeepAlive sends.error]) ∨
    ∃ file sb fd, Served lib fs root request.path file fd ∧ reachesEnd = !sends.headers ∧
      effects = observed observer file ++
        .openFile (cstr file) fd :: sendFile sends request isKeepAlive sb fd := by
  unfold serve at h
  by_cases hpath : request.path.isValid = true ∧ request.path.isRoot = false
  · obtain ⟨hvalid, hroot⟩ := hpath
    simp only [hvalid, hroot, Bool.not_true, Bool.or_self, Bool.false_eq_true, if_false,
      Option.map_eq_some_iff] at h
    obtain ⟨named, hnamed, h⟩ := h
    cases named with
    | none =>
      cases h
      refine .inl ⟨fun file fd hs => ?_, rfl, [], _, _, .inl rfl, rfl⟩
      cases hnamed.symm.trans hs.named
    | some file =>
      obtain ⟨hno, status, message, heq⟩ | ⟨sb, fd, hr, heq⟩ :=
        serveFile_cases fs sends observer request isKeepAlive file
      · cases heq.symm.trans h
        refine .inl ⟨fun file' fd hs => ?_, rfl, _, _, _, .inr ⟨file, rfl⟩, rfl⟩
        cases hnamed.symm.trans hs.named
        exact hno fd hs.readable
      · cases heq.symm.trans h
        exact .inr ⟨file, sb, fd, ⟨hvalid, hroot, hnamed, hr⟩, rfl, rfl⟩
  · rw [if_pos (by simpa [or_iff_not_imp_left] using hpath)] at h
    cases h
    exact .inl ⟨fun file fd hs => hpath ⟨hs.valid, hs.notRoot⟩, rfl, [], _, _, .inl rfl, rfl⟩

/-- What a request comes to, with the calls for it. -/
inductive Answered (lib : Common) (fs : FileSystem) (sends : Sends) (root : List Char)
    (observer : Bool) (text : List Char) : List Effect → Prop where
  | unparsed {status : HttpStatus} {errorText : String}
      (hparse : lib.parseHttpRequest text = .error (status, errorText)) :
      Answered lib fs sends root observer text
        (.sendError .http11 status errorText false sends.error :: hangUp false)
  | passed {request : HttpRequest} (hparse : lib.parseHttpRequest text = .ok request)
      (hmethod : isGetOrHead request = false) :
      Answered lib fs sends root observer text (hangUp (keepsAlive lib request))
  | refused {request : HttpRequest} {seen : List Effect} {status : HttpStatus} {message : String}
      (hparse : lib.parseHttpRequest text = .ok request) (hmethod : isGetOrHead request = true)
      (hno : ∀ file fd, ¬Opens lib fs root text request file fd)
      (hseen : seen = [] ∨ ∃ file, seen = observed observer file) :
      Answered lib fs sends root observer text
        (seen ++ [.sendError request.protocol status message (keepsAlive lib request) sends.error])
  | opened {request : HttpRequest} {file : List Char} {sb : FileStat} {fd : Nat}
      (hopens : Opens lib fs root text request file fd) :
      Answered lib fs sends root observer text
        (observed observer file ++
          .openFile (cstr file) fd :: sendFile sends request (keepsAlive lib request) sb fd ++
            hangUp (sends.headers || keepsAlive lib request))

theorem processReceived_cases
    (h : processReceived lib fs sends root observer text = some effects) :
    Answered lib fs sends root observer text effects := by
  unfold processReceived at h
  cases hparse : lib.parseHttpRequest text with
  | error err =>
    obtain ⟨status, errorText⟩ := err
    simp only [hparse, Option.some.injEq] at h
    exact h ▸ .unparsed hparse
  | ok request =>
    simp only [hparse, Option.map_eq_some_iff, Prod.exists] at h
    obtain ⟨sent, reachesEnd, hserve, rfl⟩ := h
    cases hmethod : isGetOrHead request with
    | false =>
      simp only [hmethod, Bool.false_eq_true, if_false, Option.some.injEq, Prod.mk.injEq] at hserve
      obtain ⟨rfl, rfl⟩ := hserve
      have heq : (if true && !keepsAlive lib request then [] ++ [.closeClient, .deleteClient]
          else []) = hangUp (keepsAlive lib request) := by
        cases keepsAlive lib request <;> rfl
      exact heq ▸ .passed hparse hmethod
    | true =>
      rw [if_pos hmethod] at hserve
      obtain ⟨hno, rfl, seen, status, message, hseen, rfl⟩ | ⟨file, sb, fd, hserved, rfl, rfl⟩ :=
        serve_cases hserve
      · exact .refused hparse hmethod (fun file fd ho => by
          cases hparse.symm.trans ho.parsed
          exact hno file fd ho.served) hseen
      · have heq (sent : List Effect) : (if !sends.headers && !keepsAlive lib request then
            sent ++ [.closeClient, .deleteClient] else sent) =
              sent ++ hangUp (sends.headers || keepsAlive lib request) := by
          cases sends.headers <;> cases keepsAlive lib request <;> simp [hangUp]
        rw [heq]
        exact .opened ⟨hparse, hmethod, hserved⟩

/-! ## What is left of the connection -/

@[simp] theorem exec_observed (file : List Char) (effects : List Effect) :
    Run.exec Held.step ⟨.opened, []⟩ (observed observer file ++ effects) = heldAfter effects := by
  cases observer <;> rfl

theorem exec_hangUp (isKeepAlive : Bool) (fds : List Nat) :
    Run.exec Held.step ⟨.opened, fds⟩ (hangUp isKeepAlive) =
      some ⟨if isKeepAlive then .opened else .freed, fds⟩ := by
  cases isKeepAlive <;> rfl

/-- A file that is opened is closed before the client is. -/
theorem exec_sendFile (request : HttpRequest) (isKeepAlive : Bool) (path : List Char)
    (sb : FileStat) (fd : Nat) (effects : List Effect) :
    heldAfter (.openFile path fd :: sendFile sends request isKeepAlive sb fd ++ effects) =
      heldAfter effects := by
  unfold sendFile
  split <;> simp [heldAfter, Run.exec, Held.step]

/-- Whether the connection is to stay open after the request. -/
def staysOpen (lib : Common) (text : List Char) : Bool :=
  match lib.parseHttpRequest text with
  | .ok request => keepsAlive lib request
  | .error _ => false

/-- The client is closed and freed once, unless the connection is to stay open, and no descriptor
is. -/
def Settled (lib : Common) (text : List Char) (effects : List Effect) : Prop :=
  heldAfter effects = some ⟨if staysOpen lib text then .opened else .freed, []⟩

/-- A request that is not to be kept alive takes none of the exits before the end of the branch of
`GET` and `HEAD`: there is a file to send and its headers go out. -/
def RunsOut (lib : Common) (fs : FileSystem) (sends : Sends) (root text : List Char) : Prop :=
  ∀ request, lib.parseHttpRequest text = .ok request → keepsAlive lib request = false →
    isGetOrHead request = true →
      sends.headers = false ∧ ∃ file fd, Served lib fs root request.path file fd

theorem staysOpen_of_ok (h : lib.parseHttpRequest text = .ok request) :
    staysOpen lib text = keepsAlive lib request := by
  simp [staysOpen, h]

theorem runsOut_of_ok (h : lib.parseHttpRequest text = .ok request) :
    RunsOut lib fs sends root text ↔
      (keepsAlive lib request = false → isGetOrHead request = true →
        sends.headers = false ∧ ∃ file fd, Served lib fs root request.path file fd) := by
  constructor
  · exact fun hr => hr request h
  · intro hr request' h'
    cases h.symm.trans h'
    exact hr

/-- However the request is answered, its descriptors are closed; whether the client is as it should
be depends on the way. -/
theorem Answered.held (h : Answered lib fs sends root observer text effects) :
    ∃ stays : Bool, heldAfter effects = some ⟨if stays then .opened else .freed, []⟩ ∧
      (stays = staysOpen lib text ↔ RunsOut lib fs sends root text) := by
  cases h with
  | unparsed hparse =>
    refine ⟨false, rfl, iff_of_true ?_ fun request h => nomatch hparse.symm.trans h⟩
    simp [staysOpen, hparse]
  | @passed request hparse hmethod =>
    refine ⟨keepsAlive lib request, exec_hangUp _ _, ?_⟩
    rw [staysOpen_of_ok hparse, runsOut_of_ok hparse, hmethod]
    exact iff_of_true rfl fun _ h => nomatch h
  | @refused request seen status message hparse hmethod hno hseen =>
    refine ⟨true, ?_, ?_⟩
    · obtain rfl | ⟨file, rfl⟩ := hseen
      · rfl
      · exact exec_observed file _
    · rw [staysOpen_of_ok hparse, runsOut_of_ok hparse]
      cases keepsAlive lib request with
      | true => simp
      | false =>
        refine iff_of_false (by simp) fun hr => ?_
        obtain ⟨-, file, fd, hserved⟩ := hr rfl hmethod
        exact hno file fd ⟨hparse, hmethod, hserved⟩
  | @opened request file sb fd hopens =>
    refine ⟨sends.headers || keepsAlive lib request, ?_, ?_⟩
    · rw [List.append_assoc, heldAfter, exec_observed, exec_sendFile]
      exact exec_hangUp _ _
    · rw [staysOpen_of_ok hopens.parsed, runsOut_of_ok hopens.parsed]
      cases keepsAlive lib request with
      | true => simp
      | false =>
        simp only [Bool.or_false, forall_const]
        exact ⟨fun h _ => ⟨h, file, fd, hopens.served⟩, fun hr => (hr hopens.method).1⟩

theorem settled_iff (h : processReceived lib fs sends root observer text = some effects) :
    Settled lib text effects ↔ RunsOut lib fs sends root text := by
  obtain ⟨stays, hheld, hiff⟩ := (processReceived_cases h).held
  rw [Settled, hheld, ← hiff]
  cases stays <;> cases staysOpen lib text <;> simp

/-! ## Where the opened file lies -/

open Path

/-- The functions of `common` that make paths put one text behind the other, and a name like `..`
is nothing special to them. -/
structure Concatenates (lib : Common) : Prop where
  directory {dir rel path : List Char} :
    lib.makeDirectoryStringPath dir rel = some path → Joined dir rel path
  file {dir name path : List Char} :
    lib.makeFileStringPath dir name = some path → Joined dir name path

/-- The names in the path of a request that are put behind the root: without its directories when
they make no path. -/
def relative (lib : Common) (root : List Char) (path : Upath) : List Name :=
  (if (lib.makeDirectoryStringPath root (path.hpath.drop 1)).isSome then
      components (path.hpath.drop 1)
    else []) ++ components path.fileName

/-- The names that are looked up below the root: those up to the first NUL, none when it is in the
root itself. -/
def reached (lib : Common) (root : List Char) (path : Upath) : List Name :=
  if '\x00' ∈ root then [] else cutNames (relative lib root path)

theorem filePath_resolve (hlib : Concatenates lib) {path : Upath} {file : List Char}
    (h : filePath lib root path = some (some file)) (cwd : List Name) :
    resolve cwd (cstr file) = walk (resolve cwd (cstr root)) (reached lib root path) := by
  unfold filePath at h
  obtain ⟨hpath, hsubstr, hfile⟩ := Option.map_eq_some_iff.1 h
  have hdrop : path.hpath.drop 1 = hpath := by
    cases hp : path.hpath <;> simp_all [substr1]
  have hj := hlib.file hfile
  rw [reached, relative, hdrop]
  cases hdir : lib.makeDirectoryStringPath root hpath with
  | none =>
    rw [hdir] at hj
    exact resolve_cstr hj.absolute (by simpa using hj.components) cwd
  | some dir =>
    rw [hdir] at hj
    have hd := hlib.directory hdir
    refine resolve_cstr (hj.absolute.trans hd.absolute) ?_ cwd
    rw [hj.components, Option.getD_some, hd.components]
    simp

theorem Opens.unique {request' : HttpRequest} {file file' : List Char} {fd fd' : Nat}
    (h : Opens lib fs root text request file fd) (h' : Opens lib fs root text request' file' fd') :
    file = file' ∧ fd = fd' := by
  cases h.parsed.symm.trans h'.parsed
  cases h.served.named.symm.trans h'.served.named
  cases h.served.readable.opened.symm.trans h'.served.readable.opened
  exact ⟨rfl, rfl⟩

theorem openFile_not_mem_observed (path file : List Char) (fd : Nat) :
    .openFile path fd ∉ observed observer file := by
  cases observer <;> simp [observed]

theorem openFile_not_mem_hangUp (path : List Char) (fd : Nat) (isKeepAlive : Bool) :
    .openFile path fd ∉ hangUp isKeepAlive := by
  cases isKeepAlive <;> simp [hangUp]

theorem Answered.openFile_mem (h : Answered lib fs sends root observer text effects)
    {path : List Char} {fd : Nat} :
    .openFile path fd ∈ effects ↔
      ∃ request file, Opens lib fs root text request file fd ∧ path = cstr file := by
  cases h with
  | unparsed hparse =>
    refine iff_of_false (by simp [openFile_not_mem_hangUp]) ?_
    rintro ⟨request, file, ho, -⟩
    cases hparse.symm.trans ho.parsed
  | passed hparse hmethod =>
    refine iff_of_false (openFile_not_mem_hangUp _ _ _) ?_
    rintro ⟨request, file, ho, -⟩
    cases hparse.symm.trans ho.parsed
    cases hmethod.symm.trans ho.method
  | refused hparse hmethod hno hseen =>
    refine iff_of_false ?_ ?_
    · obtain rfl | ⟨file, rfl⟩ := hseen <;> simp [openFile_not_mem_observed]
    · rintro ⟨request, file, ho, -⟩
      cases hparse.symm.trans ho.parsed
      exact hno file fd ho
  | @opened request file sb fd' hopens =>
    have hsend : .openFile path fd ∉ sendFile sends request (keepsAlive lib request) sb fd' := by
      unfold sendFile
      split <;> simp
    simp only [List.mem_append, List.mem_cons, openFile_not_mem_observed, openFile_not_mem_hangUp,
      hsend, Effect.openFile.injEq, or_false, false_or]
    constructor
    · rintro ⟨rfl, rfl⟩
      exact ⟨request, file, hopens, rfl⟩
    · rintro ⟨request', file', ho, rfl⟩
      obtain ⟨rfl, rfl⟩ := ho.unique hopens
      exact ⟨rfl, rfl⟩

/-- Every file that is opened lies below the directory that the root names, followed from the
directory `cwd` when the root is a relative path. -/
def Contained (cwd : List Name) (root : List Char) (effects : List Effect) : Prop :=
  ∀ path fd, .openFile path fd ∈ effects → Below (resolve cwd (cstr root)) (resolve cwd path)

/-- If the request opens a file, its path up to the first NUL goes up no further than it comes down
again through the last directories of the root, and then goes on. -/
def StaysBelow (lib : Common) (fs : FileSystem) (cwd : List Name) (root text : List Char) : Prop :=
  ∀ request, (∃ file fd, Opens lib fs root text request file fd) →
    Descends (resolve cwd (cstr root)) (climb (reached lib root request.path))

theorem contained_iff (hlib : Concatenates lib) (cwd : List Name)
    (h : processReceived lib fs sends root observer text = some effects) :
    Contained cwd root effects ↔ StaysBelow lib fs cwd root text := by
  have hbelow {request : HttpRequest} {file : List Char} {fd : Nat}
      (ho : Opens lib fs root text request file fd) :
      Below (resolve cwd (cstr root)) (resolve cwd (cstr file)) ↔
        Descends (resolve cwd (cstr root)) (climb (reached lib root request.path)) := by
    rw [filePath_resolve hlib ho.served.named cwd]
    exact below_walk_iff _ _
  simp only [Contained, StaysBelow, (processReceived_cases h).openFile_mem]
  constructor
  · rintro hc request ⟨file, fd, ho⟩
    exact (hbelow ho).1 (hc _ fd ⟨request, file, ho, rfl⟩)
  · rintro hs path fd ⟨request, file, ho, rfl⟩
    exact (hbelow ho).2 (hs request ⟨file, fd, ho⟩)

/-- A path that up to its first NUL has no `..` and a name besides `.` stays below the root. -/
theorem staysBelow_of_no_dotdot {cwd : List Name}
    (h : ∀ request, lib.parseHttpRequest text = .ok request →
      ['.', '.'] ∉ reached lib root request.path ∧
        ∃ name ∈ reached lib root request.path, name ≠ ['.']) :
    StaysBelow lib fs cwd root text := by
  rintro request ⟨file, fd, ho⟩
  obtain ⟨hnone, name, hmem, hname⟩ := h request ho.parsed
  rw [climb_down hnone]
  simp only [Descends, Below, Nat.sub_zero, List.drop_length, List.nil_prefix, true_and]
  exact (List.ne_nil_of_mem (List.mem_filter.2 ⟨hmem, by simpa using hname⟩)).symm

/-! ## Requests of one line -/

/-- The path split behind its last slash. -/
def sampleUpath (path : List Char) : Upath where
  isValid := path.head? = some '/'
  isRoot := path = ['/']
  hpath := (path.reverse.dropWhile (· ≠ '/')).reverse
  fileName := (path.reverse.takeWhile (· ≠ '/')).reverse
  mime := "application/octet-stream"

/-- Requests without headers, and paths that are put together with a slash. -/
def sampleCommon : Common where
  parseHttpRequest text :=
    match text.splitOn ' ' with
    | [method, path, _] => .ok {
        method := if method = "GET".toList then .get
          else if method = "HEAD".toList then .head else .other (String.ofList method)
        path := sampleUpath path
        protocol := .http11
        headers := [] }
    | _ => .error (.badRequest, "Bad request.")
  findHeaderByKey request key isCaseSensitive :=
    request.headers.find? fun header => if isCaseSensitive then header.key = key
      else header.key.toLower = key.toLower
  equalsASCII a b isCaseSensitive := if isCaseSensitive then a = b else a.toLower = b.toLower
  makeDirectoryStringPath dir rel := if dir = [] ∨ rel = [] then none else some (join dir rel)
  makeFileStringPath dir name := if dir = [] ∨ name = [] then none else some (join dir name)

theorem sampleCommon_concatenates : Concatenates sampleCommon := by
  have hjoin {dir rel path : List Char}
      (h : (if dir = [] ∨ rel = [] then none else some (join dir rel)) = some path) :
      Joined dir rel path := by
    split at h
    case isTrue => cases h
    case isFalse hne =>
      cases h
      exact joined_join (fun hdir => hne (.inl hdir)) rel
  exact ⟨hjoin, hjoin⟩

/-- A file system in which these paths are files of one byte, opened as descriptor 5. -/
def sampleFiles (paths : List (List Char)) : FileSystem where
  stat path := if path ∈ paths then some ⟨false, 1, 0⟩ else none
  openFile path := if path ∈ paths then some 5 else none

def allSent : Sends := ⟨false, false, false⟩

def sampleRoot : List Char := "/srv/http/".toList

def sampleRequest : List Char := "GET /vod/1.ts HTTP/1.1".toList

def sampleFile : List Char := "/srv/http/vod/1.ts".toList

/-- The calls that send `file`. -/
def sampleSent (file : List Char) : List Effect :=
  [.onHttpRequest file, .openFile file 5,
    .sendHeaders .http11 .ok "application/octet-stream" 1 0 false false,
    .sendFileByFd .http11 5 1 false, .closeFd 5, .closeClient, .deleteClient]

/-! ## The two handlers -/

/-- After `ProcessReceived` of either handler the connection is as it should be exactly when the
request takes none of the early exits, or is to be kept alive. -/
theorem closes_client_iff (lib : Common) (fs : FileSystem) (sends : Sends) (text : List Char)
    (effects : List Effect) :
    (∀ self : HttpHandler, self.processReceived lib fs sends text = some effects →
      (Settled lib text effects ↔ RunsOut lib fs sends self.httpRoot text)) ∧
    (∀ self : VodsHandler, self.processReceived lib fs sends text = some effects →
      (Settled lib text effects ↔ RunsOut lib fs sends self.vodsRoot text)) :=
  ⟨fun _ h => settled_iff h, fun _ h => settled_iff h⟩

theorem closes_client_iff_sample :
    RunsOut sampleCommon (sampleFiles [sampleFile]) allSent sampleRoot sampleRequest :=
  (((closes_client_iff sampleCommon (sampleFiles [sampleFile]) allSent sampleRequest
    (sampleSent sampleFile)).1 ⟨sampleRoot, true⟩ rfl).1 (by unfold Settled; decide))

/-- The client of a missing file, not kept alive, stays open. -/
theorem missing_file_leaves_open :
    (∃ effects,
      (⟨sampleRoot, true⟩ : HttpHandler).processReceived sampleCommon (sampleFiles []) allSent
        sampleRequest = some effects ∧ ¬Settled sampleCommon sampleRequest effects) ∧
    ∃ effects,
      (⟨sampleRoot, true⟩ : VodsHandler).processReceived sampleCommon (sampleFiles []) allSent
        sampleRequest = some effects ∧ ¬Settled sampleCommon sampleRequest effects := by
  have hrun : processReceived sampleCommon (sampleFiles []) allSent sampleRoot true sampleRequest =
      some [.onHttpRequest sampleFile,
        .sendError .http11 .notFound "File not found." false false] := rfl
  have hopen : ¬Settled sampleCommon sampleRequest [.onHttpRequest sampleFile,
      .sendError .http11 .notFound "File not found." false false] := by
    unfold Settled
    decide
  exact ⟨⟨_, hrun, hopen⟩, _, hrun, hopen⟩

theorem opens_below_root_iff {lib : Common} (hlib : Concatenates lib) (fs : FileSystem)
    (sends : Sends) (cwd : List Name) (text : List Char) (effects : List Effect) :
    (∀ self : HttpHandler, self.processReceived lib fs sends text = some effects →
      (Contained cwd self.httpRoot effects ↔ StaysBelow lib fs cwd self.httpRoot text)) ∧
    (∀ self : VodsHandler, self.processReceived lib fs sends text = some effects →
      (Contained cwd self.vodsRoot effects ↔ StaysBelow lib fs cwd self.vodsRoot text)) :=
  ⟨fun _ h => contained_iff hlib cwd h, fun _ h => contained_iff hlib cwd h⟩

theorem opens_below_root_iff_sample :
    Contained [] sampleRoot (sampleSent sampleFile) :=
  ((opens_below_root_iff sampleCommon_concatenates (sampleFiles [sampleFile]) allSent []
    sampleRequest (sampleSent sampleFile)).1 ⟨sampleRoot, true⟩ rfl).2
    (staysBelow_of_no_dotdot fun request h => by
      cases h
      exact ⟨by decide, "1.ts".toList, by decide, by decide⟩)

def climbingRequest : List Char := "GET /../../etc/passwd HTTP/1.1".toList

def climbingFile : List Char := "/srv/http/../../etc/passwd".toList

/-- A file outside the root is opened and sent. -/
theorem climbing_request_leaves_root :
    Concatenates sampleCommon ∧
    (∃ effects,
      (⟨sampleRoot, true⟩ : HttpHandler).processReceived sampleCommon (sampleFiles [climbingFile])
        allSent climbingRequest = some effects ∧ ¬Contained [] sampleRoot effects) ∧
    ∃ effects,
      (⟨sampleRoot, true⟩ : VodsHandler).processReceived sampleCommon (sampleFiles [climbingFile])
        allSent climbingRequest = some effects ∧ ¬Contained [] sampleRoot effects := by
  have hrun : processReceived sampleCommon (sampleFiles [climbingFile]) allSent sampleRoot true
      climbingRequest = some (sampleSent climbingFile) := rfl
  have hleaves : ¬Contained [] sampleRoot (sampleSent climbingFile) := fun h =>
    absurd (h climbingFile 5 (by simp [sampleSent])) (by decide)
  exact ⟨sampleCommon_concatenates, ⟨_, hrun, hleaves⟩, _, hrun, hleaves⟩

end IptvCloud.Server.Http
