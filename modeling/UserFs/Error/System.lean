import UserFs.Error.OsText

/-!
# Errors of the operating system

A system error is either one of the operating system's numbered errors, whose message names
it and gives its number, or one that a library made up: a kind and a message without a
number. The library's own errors are the five numbers of `PosixError`.
-/

namespace UserFs

/-- The numbered errors that the library itself answers with. -/
inductive PosixError where
  | fileNotFound
  | inputOutput
  | permissionDenied
  | notADirectory
  | functionNotImplemented
  deriving DecidableEq, Repr

/-- The number of an error, as the kernel knows it. -/
def PosixError.code : PosixError → Int32
  | .fileNotFound => 2
  | .inputOutput => 5
  | .permissionDenied => 13
  | .notADirectory => 20
  | .functionNotImplemented => 38

namespace SystemError

/-- The kinds of errors that have no number. -/
inductive Kind where
  | notFound
  | permissionDenied
  | unsupported
  | notADirectory
  | alreadyExists
  | invalidInput
  | timedOut
  | unexpectedEnd
  | other
  deriving DecidableEq, Repr

end SystemError

/-- An error that came up below the filesystem. -/
inductive SystemError where
  /-- An error of the operating system. -/
  | numbered (code : Int32)
  /-- An error of some other origin. -/
  | custom (kind : SystemError.Kind) (message : String)
  deriving DecidableEq, Repr

namespace SystemError

/-- The operating system's number for the error, if it has one. -/
def code? : SystemError → Option Int32
  | .numbered code => some code
  | .custom _ _ => none

/-- What the error says. -/
def message : SystemError → String
  | .numbered code => osText code ++ " (os error " ++ toString code.toInt ++ ")"
  | .custom _ message => message

end SystemError

end UserFs
