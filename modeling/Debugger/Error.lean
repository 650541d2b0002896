import Debugger.Proxy
/-!
# Errors of the debugger

What a session answers when it cannot do what it was asked. A refusal of the environment becomes
the error of the same meaning where there is one, and is passed on in a wrapper otherwise. One
error is fatal: a handle that turns out to stand for two objects.
-/

namespace Debugger

/-- The state of a session. -/
inductive SessionStatus
  | notReady
  | idle
  | running
  | suspended
  | terminated
  | failed
  deriving DecidableEq, Repr

/-- The word for a status. -/
def SessionStatus.name : SessionStatus → String
  | notReady => "NotReady"
  | idle => "Idle"
  | running => "Running"
  | suspended => "Suspended"
  | terminated => "Terminated"
  | failed => "Failed"

/-- The status that a word stands for. -/
def SessionStatus.named? (name : String) : Option SessionStatus :=
  [notReady, idle, running, suspended, terminated, failed].find? (·.name == name)

/-- Why a session did not do what it was asked. -/
inductive DebugError
  | unsupported (operation : String)
  | classNotFound (className : String)
  | notLaunched
  | unknownThread (thread : ThreadId)
  | notSuspended (thread : ThreadId)
  | threadTerminated (thread : ThreadId)
  | invalidFrame (thread : ThreadId) (index : Nat)
  | invalidVariable (frame index : Nat)
  | notAnObject
  | unknownHandle (handle : Handle)
  | noSuchField (className field : String)
  | invalidLiteral (text : String)
  /-- The debuggee gave out a handle that stands for another object. -/
  | cacheCorrupted (handle : Handle) (existing object : ObjectId)
  | sessionFailed
  | timeout (last : SessionStatus)
  | runtime (error : RuntimeError)
  deriving DecidableEq, Repr

namespace DebugError

/-- The text of an error. -/
def message : DebugError → String
  | unsupported op => "operation `" ++ op ++ "` is not supported by this debugger"
  | classNotFound c => "class not found: " ++ c
  | notLaunched => "debuggee is not running"
  | unknownThread t => "unknown thread " ++ toString t
  | notSuspended t => "thread " ++ toString t ++ " is not suspended"
  | threadTerminated t => "thread " ++ toString t ++ " has terminated"
  | invalidFrame t i => "no frame " ++ toString i ++ " on thread " ++ toString t
  | invalidVariable f i => "frame " ++ toString f ++ " has no local variable " ++ toString i
  | notAnObject => "value is not an object"
  | unknownHandle h => "unknown object handle " ++ h.display
  | noSuchField c f => "class " ++ c ++ " has no field `" ++ f ++ "`"
  | invalidLiteral text => "invalid literal: " ++ text
  | cacheCorrupted h existing object =>
    "identity cache corrupted: handle " ++ h.display ++ " is bound to object "
      ++ toString existing ++ ", not " ++ toString object
  | sessionFailed => "session disabled after a fatal error"
  | timeout last => "timed out waiting for session status (last: " ++ last.name ++ ")"
  | runtime e => "runtime: " ++ e.message

/-- The word for the kind of an error. -/
def kind : DebugError → String
  | unsupported _ => "Unsupported"
  | classNotFound _ => "ClassNotFound"
  | notLaunched => "NotLaunched"
  | unknownThread _ => "UnknownThread"
  | notSuspended _ => "NotSuspended"
  | threadTerminated _ => "ThreadTerminated"
  | invalidFrame .. => "InvalidFrame"
  | invalidVariable .. => "InvalidVariable"
  | notAnObject => "NotAnObject"
  | unknownHandle _ => "UnknownHandle"
  | noSuchField .. => "NoSuchField"
  | invalidLiteral _ => "InvalidLiteral"
  | cacheCorrupted .. => "CacheCorrupted"
  | sessionFailed => "SessionFailed"
  | timeout _ => "Timeout"
  | runtime _ => "Runtime"

/-- Whether an error ends the session. -/
def isFatal : DebugError → Bool
  | cacheCorrupted .. => true
  | _ => false

/-- A refusal of the environment in the debugger's words. -/
def ofRuntime : RuntimeError → DebugError
  | .notImplemented op => unsupported op
  | .classNotFound c => classNotFound c
  | .notLaunched => notLaunched
  | .unknownThread t => unknownThread t
  | .threadNotSuspended t => notSuspended t
  | .threadTerminated t => threadTerminated t
  | .noSuchField c f => noSuchField c f
  | .invalidHandle h => unknownHandle h
  | e => runtime e

end DebugError

end Debugger
