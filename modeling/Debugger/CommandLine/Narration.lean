import Debugger.Log.Record
import Debugger.Notifier
import Debugger.Session
/-!
# What a run logs

The records that the happenings of a run are logged by. They have two targets, one for the debuggee
and one for the debugger, and the details of a record are named after what they are.

## 1. Places and events in full

In a detail a place or an event is written with the names of all its parts.

## 2. The debuggee

## 3. The debugger
-/

namespace Debugger

/-! ## 1. Places and events in full -/

/-- A place with all its parts. -/
def SourceLocation.describe (l : SourceLocation) : String :=
  Text.showParts "SourceLocation"
    [("class_name", Text.showText l.className),
      ("file_name", Text.showOption (l.fileName.map Text.showText)),
      ("method_name", Text.showText l.methodName), ("line", toString l.line.toNat)]

/-- A place that may be unknown, with all its parts. -/
def describePlace (l : Option SourceLocation) : String :=
  Text.showOption (l.map SourceLocation.describe)

/-- An exception with all its parts. -/
def ExceptionDescription.describe (d : ExceptionDescription) : String :=
  Text.showParts "ExceptionDescription"
    [("kind", match d.kind with
        | .user => "User"
        | .internal => "Internal"),
      ("type_name", Text.showText d.typeName),
      ("message", Text.showOption (d.message.map Text.showText)),
      ("stack", Text.showList (d.stack.map SourceLocation.describe))]

/-- An event with all its parts. -/
def DebuggerEvent.describe : DebuggerEvent → String
  | started => "Started"
  | stopped => "Stopped"
  | breakpoint thread location =>
    Text.showParts "Breakpoint" [("thread", toString thread), ("location", describePlace location)]
  | exception thread description suspended =>
    Text.showParts "Exception" [("thread", toString thread),
      ("description", description.describe), ("suspended", toString suspended)]
  | disabled reason => Text.showParts "Disabled" [("reason", Text.showText reason)]
  | paused thread reason location =>
    Text.showParts "DebuggerPaused" [("thread", toString thread), ("reason", reason.name),
      ("location", describePlace location)]
  | resumed thread => Text.showParts "DebuggerResumed" [("thread", toString thread)]

namespace CommandLine.Narration

open Log (Record Detail Level)

/-! ## 2. The debuggee -/

/-- A record of the debuggee. -/
def ofDebuggee (level : Level) (message : String) (details : List (String × Detail)) : Record :=
  ⟨level, "tether.runtime", message, details⟩

def classDefined (name : String) : Record :=
  ofDebuggee .debug "class defined" [("class", .plain name)]

def debuggeeLaunched : Record := ofDebuggee .info "debuggee launched" []

def debuggeeTerminated : Record := ofDebuggee .info "debuggee terminated" []

def threadStarted (id : ThreadId) (name group : String) : Record :=
  ofDebuggee .debug "thread started"
    [("thread", .quoted name), ("group", .quoted group), ("id", .number id)]

def threadSuspended (name : String) (reason : StopReason) (location : Option SourceLocation) :
    Record :=
  ofDebuggee .debug "thread suspended"
    [("thread", .plain name), ("reason", .plain reason.name),
      ("location", .plain (describePlace location))]

/-- A thread was terminated, and so many calls that were queued on it came to nothing. -/
def threadTerminated (name : String) (discarded : Nat) : Record :=
  ofDebuggee .debug "thread terminated" [("thread", .plain name), ("discarded", .number discarded)]

def threadExited (name : String) : Record :=
  ofDebuggee .debug "execution thread exited" [("thread", .plain name)]

def objectRegistered (handle : Handle) (object : ObjectId) : Record :=
  ofDebuggee .trace "object registered"
    [("handle", .plain handle.display), ("object", .number object)]

def breakpointInstalled (location : BreakpointLocation) : Record :=
  ofDebuggee .debug "breakpoint installed" [("location", .plain location.display)]

/-! ## 3. The debugger -/

/-- A record of the debugger. -/
def ofDebugger (level : Level) (message : String) (details : List (String × Detail)) : Record :=
  ⟨level, "tether.debug", message, details⟩

def sessionLaunched : Record := ofDebugger .info "session launched" []

def sessionClosed (restart : Bool) : Record :=
  ofDebugger .info "session closed" [("restart", .truth restart)]

def breakpointSet (location : BreakpointLocation) (hitCount : Option UInt32) : Record :=
  ofDebugger .debug "breakpoint set"
    [("location", .plain location.display),
      ("hit_count", .plain (Text.showOption (hitCount.map (toString ·.toNat))))]

def breakpointRejected (location : BreakpointLocation) (error : DebugError) : Record :=
  ofDebugger .debug "breakpoint rejected"
    [("location", .plain location.display), ("error", .plain error.message)]

/-- A thread was let go on, without a step. -/
def threadResumed (id : ThreadId) : Record :=
  ofDebugger .debug "thread resumed"
    [("thread", .number id), ("step", .plain (Text.showOption none))]

def objectTracked (handle : Handle) (object : ObjectId) : Record :=
  ofDebugger .trace "object tracked" [("handle", .plain handle.display), ("object", .number object)]

/-- All proxies were dropped, so many in number. -/
def proxiesDropped (count : Nat) : Record :=
  ofDebugger .debug "identity cache cleared" [("entries", .number count)]

/-- A thread came or went, which is no news for listeners. -/
def threadCameOrWent (id : ThreadId) : Record :=
  ofDebugger .trace "thread lifecycle event" [("thread", .number id)]

/-- An event is on its way to so many listeners. -/
def dispatching (event : DebuggerEvent) (listeners : Nat) : Record :=
  ofDebugger .debug "dispatching event"
    [("event", .plain event.describe), ("listeners", .number listeners)]

/-- A listener had nothing to say about an event. -/
def eventPassed (event : DebuggerEvent) : Record :=
  ofDebugger .debug "event" [("other", .plain event.describe)]

/-- The log file cannot be opened. -/
def noLogFile (path : String) : Record :=
  ⟨.warn, "tether.config", "failed to open log file; file logging disabled",
    [("path", .plain path)]⟩

end CommandLine.Narration

end Debugger
