/-!
# Messages on the side

What a computation has to tell apart from its result, and computations that may stop with an error
after having told something.
-/

namespace PatchReview

/-- How important a message is. -/
inductive LogLevel where
  | debug
  | info
  | warning
  deriving DecidableEq, Repr

namespace LogLevel

def name : LogLevel → String
  | .debug => "DEBUG"
  | .info => "INFO"
  | .warning => "WARNING"

/-- The place of a level in the order from the least important on. -/
def rank : LogLevel → Nat
  | .debug => 0
  | .info => 1
  | .warning => 2

end LogLevel

/-- A message. -/
structure LogEntry where
  level : LogLevel
  message : String
  deriving DecidableEq, Repr

/-- The messages that are at least as important as a level. -/
def LogEntry.filter (threshold : LogLevel) (log : List LogEntry) : List LogEntry :=
  log.filter fun e => threshold.rank ≤ e.level.rank

end PatchReview
