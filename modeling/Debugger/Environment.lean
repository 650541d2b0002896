import Debugger.Debuggee.Class
import Debugger.Debuggee.Event
import Debugger.Debuggee.Breakpoint
/-!
# Execution environments

The debugger does not depend on how a debuggee is run. It asks an `Environment`: a record of
operations over some state that only the environment understands. An operation may fail, and may
have changed the state even so.

## 1. Handles, errors and abilities

## 2. The operations

Every operation has a default that fails and names itself, so that an environment states only what
it can do. The last three fields are no operations of a debuggee. They say what an observer sees:
how far the debuggee gets by itself, how a queued call has ended, and which events were emitted.
-/

namespace Debugger

/-! ## 1. Handles, errors and abilities -/

/-- The number under which a debuggee holds an object on behalf of its controller. -/
structure Handle where
  raw : UInt64
  deriving DecidableEq, Repr

namespace Handle

/-- A handle as literals and listings write it. -/
def display (h : Handle) : String := "@" ++ toString h.raw.toNat

instance : Ord Handle := ⟨compareOn Handle.raw⟩

instance : Std.TransOrd Handle := inferInstanceAs (Std.TransCmp (compareOn Handle.raw))

instance : Std.LawfulEqOrd Handle where
  eq_of_compare {a b} h := by
    cases a
    cases b
    exact congrArg Handle.mk (Std.LawfulEqOrd.eq_of_compare (α := UInt64) h)

end Handle

/-- Why an environment refused an operation. -/
inductive RuntimeError
  | notImplemented (operation : String)
  | notLaunched
  | classNotFound (className : String)
  | noSuchField (className field : String)
  | noSuchMethod (className method params : String)
  | noCodeAtLine (className : String) (line : Line)
  | invalidObjectId (id : ObjectId)
  | invalidHandle (handle : Handle)
  | unknownThread (thread : ThreadId)
  | threadNotSuspended (thread : ThreadId)
  | threadTerminated (thread : ThreadId)
  | transportEmpty
  | other (text : String)
  deriving DecidableEq, Repr

/-- The text of a refusal. -/
def RuntimeError.message : RuntimeError → String
  | notImplemented op => "operation `" ++ op ++ "` is not implemented by this execution environment"
  | notLaunched => "debuggee is not running"
  | classNotFound c => "class not found: " ++ c
  | noSuchField c f => "class " ++ c ++ " has no field `" ++ f ++ "`"
  | noSuchMethod c m ps => "class " ++ c ++ " has no method " ++ m ++ "(" ++ ps ++ ")"
  | noCodeAtLine c n => "no code at line " ++ toString n.toNat ++ " in class " ++ c
  | invalidObjectId i => "invalid object id " ++ toString i
  | invalidHandle h => "invalid handle " ++ h.display
  | unknownThread t => "unknown thread " ++ toString t
  | threadNotSuspended t => "thread " ++ toString t ++ " is not suspended"
  | threadTerminated t => "thread " ++ toString t ++ " has terminated"
  | transportEmpty => "transport slot is empty"
  | other text => text

/-- The word for the kind of a refusal. -/
def RuntimeError.kind : RuntimeError → String
  | notImplemented _ => "NotImplemented"
  | notLaunched => "NotLaunched"
  | classNotFound _ => "ClassNotFound"
  | noSuchField .. => "NoSuchField"
  | noSuchMethod .. => "NoSuchMethod"
  | noCodeAtLine .. => "NoCodeAtLine"
  | invalidObjectId _ => "InvalidObjectId"
  | invalidHandle _ => "InvalidHandle"
  | unknownThread _ => "UnknownThread"
  | threadNotSuspended _ => "ThreadNotSuspended"
  | threadTerminated _ => "ThreadTerminated"
  | transportEmpty => "TransportEmpty"
  | other _ => "Other"

/-- What an environment can do. -/
structure Capabilities where
  launch : Bool := false
  breakpoints : Bool := false
  stepping : Bool := false
  invocation : Bool := false
  objectTransport : Bool := false
  threadIntrospection : Bool := false
  deriving DecidableEq, Repr

/-- Everything. -/
def Capabilities.all : Capabilities := ⟨true, true, true, true, true, true⟩

/-! ## 2. The operations -/

/-- A piece of work on a state that gives a value or an error. -/
abbrev Action (σ ε α : Type) := ExceptT ε (StateM σ) α

/-- What an environment does for an operation it does not have. -/
def unimplemented {σ α : Type} (operation : String) : Action σ RuntimeError α :=
  throw (.notImplemented operation)

/-- The number of a call that was queued on a debuggee thread. -/
abbrev CallId := Nat

/-- What a caller gets for a call: its outcome, when nothing had to be run, or its number. -/
inductive PendingCall
  | settled (outcome : Outcome)
  | queued (call : CallId)
  deriving DecidableEq, Repr

/-- A kind of debuggee and what can be asked of it. -/
structure Environment (σ : Type) where
  capabilities : Capabilities := {}
  launch : Action σ RuntimeError Unit := unimplemented "launch"
  /-- Ends every thread and drops the debuggee's state. -/
  shutdown : Action σ RuntimeError Unit := unimplemented "shutdown"
  isLaunched : σ → Bool := fun _ => false
  /-- Gives the place in the stream of events from which the new subscriber receives them. -/
  subscribe : Action σ RuntimeError Nat := unimplemented "subscribe"
  classInfo : String → Action σ RuntimeError ClassInfo := fun _ => unimplemented "class_info"
  getStatic : (className field : String) → Action σ RuntimeError Value :=
    fun _ _ => unimplemented "get_static"
  objectClass : ObjectId → Action σ RuntimeError String := fun _ => unimplemented "object_class"
  objectCategory : ObjectId → Action σ RuntimeError ObjectCategory :=
    fun _ => unimplemented "object_category"
  objectFields : ObjectId → Action σ RuntimeError (List (FieldInfo × Value)) :=
    fun _ => unimplemented "object_fields"
  stringValue : ObjectId → Action σ RuntimeError (Option String) :=
    fun _ => unimplemented "string_value"
  newString : String → Action σ RuntimeError ObjectRef := fun _ => unimplemented "new_string"
  /-- Puts a primitive into a fresh holder. -/
  boxValue : Primitive → Action σ RuntimeError ObjectRef := fun _ => unimplemented "box_value"
  /-- Makes an instance on the main thread, by the constructor with the given parameter types. -/
  newInstance : (className : String) → (types : List String) → (args : List Value) →
      Action σ RuntimeError PendingCall := fun _ _ _ => unimplemented "new_instance"
  invokeStatic : (className method : String) → (types : List String) → (args : List Value) →
      Action σ RuntimeError PendingCall := fun _ _ _ _ => unimplemented "invoke_static"
  invokeMethod : (receiver : ObjectRef) → (method : String) → (types : List String) →
      (args : List Value) → Action σ RuntimeError PendingCall :=
    fun _ _ _ _ => unimplemented "invoke_method"
  /-- Puts a reference into the transport slot. -/
  installTransport : ObjectId → Action σ RuntimeError Unit :=
    fun _ => unimplemented "install_transport"
  /-- Holds the object in the transport slot under a fresh handle and empties the slot. -/
  takeTransport : Action σ RuntimeError Handle := unimplemented "take_transport"
  /-- Drops the hold behind a handle. -/
  release : Handle → Action σ RuntimeError Unit := fun _ => unimplemented "release"
  threads : Action σ RuntimeError (List ThreadInfo) := unimplemented "threads"
  mainThread : Action σ RuntimeError ThreadId := unimplemented "main_thread"
  /-- The frames of a suspended thread, innermost first. -/
  frames : ThreadId → Action σ RuntimeError (List Frame) := fun _ => unimplemented "frames"
  resume : ThreadId → Option StepKind → Action σ RuntimeError Unit :=
    fun _ _ => unimplemented "resume"
  halt : ThreadId → Action σ RuntimeError Unit := fun _ => unimplemented "halt"
  terminateThread : ThreadId → Action σ RuntimeError Unit :=
    fun _ => unimplemented "terminate_thread"
  /-- The status that a wait for the thread to stop sees last. -/
  waitForStop : ThreadId → Action σ RuntimeError ThreadStatus :=
    fun _ => unimplemented "wait_for_stop"
  setBreakpoint : BreakpointRequest → Action σ RuntimeError Unit :=
    fun _ => unimplemented "set_breakpoint"
  /-- Says whether a breakpoint was installed there. -/
  clearBreakpoint : BreakpointLocation → Action σ RuntimeError Bool :=
    fun _ => unimplemented "clear_breakpoint"
  setBreakOnUncaught : Bool → Action σ RuntimeError Unit :=
    fun _ => unimplemented "set_break_on_uncaught"
  /-- The state once every debuggee thread is idle, stopped or waiting for somebody else. -/
  settle : σ → σ := id
  /-- The outcome of a queued call that has ended. -/
  outcome? : σ → CallId → Option Outcome := fun _ _ => none
  /-- All events emitted so far, in order. -/
  events : σ → Array VmEvent := fun _ => #[]

/-- An environment that can do nothing. -/
def Environment.bare : Environment Unit := {}

end Debugger
