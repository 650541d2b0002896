/-!
# Log levels

How much a log takes in, from nothing at all to everything.
-/

namespace Debugger.Log

/-- A level, each taking in more than the one before. -/
inductive Level
  | off | error | warn | info | debug | trace
  deriving DecidableEq, Repr

namespace Level

/-- All levels, in order. -/
def all : List Level := [off, error, warn, info, debug, trace]

/-- The place of a level in the order. -/
def rank : Level → Nat
  | off => 0
  | error => 1
  | warn => 2
  | info => 3
  | debug => 4
  | trace => 5

/-- The word for a level. -/
def name : Level → String
  | off => "off"
  | error => "error"
  | warn => "warn"
  | info => "info"
  | debug => "debug"
  | trace => "trace"

end Level

end Debugger.Log
