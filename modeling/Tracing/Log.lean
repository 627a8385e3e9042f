import Tracing.Text

/-!
# Tracing.Log

Records of what the library says while it works.
-/

namespace Tracing

inductive Level where
  | debug
  | info
  | warning
  | error
  deriving DecidableEq, Repr

def Level.name : Level → String
  | .debug => "DEBUG"
  | .info => "INFO"
  | .warning => "WARNING"
  | .error => "ERROR"

/-- A record: its level, the part of the library that wrote it and its text. -/
structure LogRecord where
  level : Level
  logger : String
  message : Text
  deriving DecidableEq, Repr

end Tracing
