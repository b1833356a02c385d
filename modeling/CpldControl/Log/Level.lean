/-!
# Levels of log events

Levels are ranked by severity.  A reader chooses a level and sees the events at
that level and the more severe ones.
-/

namespace CpldControl
namespace Log

inductive Level where
  | error
  | warn
  | info
  | debug
  | trace
deriving DecidableEq

namespace Level

/-- Zero is the most severe. -/
def rank : Level -> Nat
  | error => 0
  | warn => 1
  | info => 2
  | debug => 3
  | trace => 4

def text : Level -> String
  | error => "ERROR"
  | warn => "WARN"
  | info => "INFO"
  | debug => "DEBUG"
  | trace => "TRACE"

def isVisibleAt (level threshold : Level) : Bool :=
  level.rank ≤ threshold.rank

@[simp] theorem isVisibleAt_trace (level : Level) : level.isVisibleAt .trace = true := by
  cases level <;> rfl

end Level
end Log
end CpldControl
