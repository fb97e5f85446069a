/-!
# Log records

What the filesystem has to say about a request is a list of records, in the order in which
they were made.
-/

namespace UserFs

/-- How much a record matters. -/
inductive Level where
  | error
  | warn
  | info
  | debug
  deriving DecidableEq, Repr

/-- The word for a level. -/
def Level.text : Level → String
  | .error => "ERROR"
  | .warn => "WARN"
  | .info => "INFO"
  | .debug => "DEBUG"

/-- One line of the log. -/
structure LogRecord where
  level : Level
  message : String
  deriving DecidableEq, Repr

/-- A record as one line: its level, a space and its message. -/
def LogRecord.text (record : LogRecord) : String := record.level.text ++ " " ++ record.message

end UserFs
