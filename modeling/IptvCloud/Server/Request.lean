/-!
# Requests and errors

What the handlers of the server share: the errors they answer with and the params of a request.
-/

namespace IptvCloud.Server

/-- `common::Error` and `common::ErrnoError`: `make_error_inval()`, an error with a description, or
the error of a system call. -/
inductive Error
  | inval
  | message (text : String)
  | errno (code : Int)
  deriving DecidableEq, Repr

/-- The params of a request: missing, no JSON, refused by `DeSerialize`, or read. -/
inductive Params (α : Type)
  | absent
  | notJson
  | refused (err : Error)
  | read (value : α)

end IptvCloud.Server
