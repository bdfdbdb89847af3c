/-!
# Levels of log messages

Five levels with their conventional ranks, and the words for them in settings and in messages. The
highest one is for messages only and cannot be set.
-/

namespace LabelPress

/-- The level of a log message. -/
inductive LogLevel where
  | debug
  | info
  | warning
  | error
  | critical
  deriving Repr, DecidableEq

namespace LogLevel

/-- The levels that can be set, in ascending order. -/
def all : List LogLevel := [debug, info, warning, error]

/-- The rank of a level. -/
def rank : LogLevel → Nat
  | debug => 10
  | info => 20
  | warning => 30
  | error => 40
  | critical => 50

/-- The word for a level in settings. -/
def name : LogLevel → String
  | debug => "DEBUG"
  | info => "INFO"
  | warning => "WARNING"
  | error => "ERROR"
  | critical => "CRITICAL"

/-- The word for a level in messages. -/
def word : LogLevel → String
  | debug => "debug"
  | info => "info"
  | warning => "warning"
  | error => "error"
  | critical => "critical"

end LogLevel

end LabelPress
