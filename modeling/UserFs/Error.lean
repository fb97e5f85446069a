import UserFs.Error.System

/-!
# Errors that a request can end with

An error has a kind, which decides what the kernel is told, and a context, which only people
read. One that was made from a numbered error of the operating system keeps the number, and
the kernel gets to see that instead.
-/

namespace UserFs

/-- Why a request was refused. -/
inductive ErrorKind where
  /-- The name has no child, or the inode is not live. -/
  | notFound
  /-- The inode is not a directory. -/
  | notADirectory
  /-- The flags or the mode are not allowed. -/
  | permissionDenied
  /-- The filesystem does not have the operation. -/
  | unsupported
  /-- The storage behind the filesystem failed. -/
  | inputOutput
  deriving DecidableEq, Repr

namespace ErrorKind

/-- The kind in words. -/
def text : ErrorKind → String
  | .notFound => "not found"
  | .notADirectory => "not a directory"
  | .permissionDenied => "permission denied"
  | .unsupported => "function not implemented"
  | .inputOutput => "input/output error"

/-- The numbered error that stands for the kind. -/
def posix : ErrorKind → PosixError
  | .notFound => .fileNotFound
  | .notADirectory => .notADirectory
  | .permissionDenied => .permissionDenied
  | .unsupported => .functionNotImplemented
  | .inputOutput => .inputOutput

/-- The kind of a numbered error: 2 names something that does not exist, 1 and 13 deny
permission, 38 and 95 are operations that do not exist, 20 is something other than a
directory, and all else is a failure of the storage. -/
def ofCode (code : Int32) : ErrorKind :=
  if code = 2 then .notFound
  else if code = 1 ∨ code = 13 then .permissionDenied
  else if code = 38 ∨ code = 95 then .unsupported
  else if code = 20 then .notADirectory
  else .inputOutput

/-- The kind of a system error. Without a number, only three kinds are told apart. -/
def ofSystem : SystemError → ErrorKind
  | .numbered code => ofCode code
  | .custom .notFound _ => .notFound
  | .custom .permissionDenied _ => .permissionDenied
  | .custom .unsupported _ => .unsupported
  | .custom _ _ => .inputOutput

end ErrorKind

/-- The error that a request ends with. -/
structure FsError where
  kind : ErrorKind
  context : String
  /-- The operating system's number, if the error came from there. -/
  osCode : Option Int32
  deriving DecidableEq, Repr

/-- An error of this kind, with words that say where it arose. -/
def ErrorKind.toError (kind : ErrorKind) (context : String) : FsError := ⟨kind, context, none⟩

namespace FsError

/-- The error that a system error becomes, with its message as the context. -/
def ofSystem (error : SystemError) : FsError where
  kind := .ofSystem error
  context := error.message
  osCode := error.code?

/-- The error that one of the library's own numbers becomes. -/
def ofPosix (error : PosixError) : FsError := ofSystem (.numbered error.code)

/-- The number that the kernel gets. -/
def errno (error : FsError) : Int32 := error.osCode.getD error.kind.posix.code

/-- The error as one line: its kind, and its context if there is one. -/
def text (error : FsError) : String :=
  if error.context.isEmpty then error.kind.text else error.kind.text ++ ": " ++ error.context

end FsError

end UserFs
