/-!
# Settings

What a user can set: how the debugger logs, and how it treats the debuggee. Every setting has a
default, so an absent file means all of them.
-/

namespace Debugger

/-- How the debugger logs. -/
structure LoggingSettings where
  /-- A level, or a text of filter directives. -/
  level : String := "info"
  /-- Whether log lines are written as JSON objects. -/
  json : Bool := false
  stderr : Bool := true
  /-- A file that log lines are appended to. -/
  file : Option String := none
  deriving DecidableEq, Repr

/-- How the debugger treats the debuggee. -/
structure DebuggerSettings where
  /-- Whether system threads are left out of listings. -/
  hideSystemThreads : Bool := true
  /-- Whether a thread stops when an exception leaves a task. -/
  breakOnUncaught : Bool := false
  /-- Names of threads that count as system threads wherever they belong. -/
  systemThreads : List String := []
  /-- How long a wait may take, in milliseconds. -/
  waitTimeout : UInt64 := 5000
  deriving DecidableEq, Repr

/-- All settings. -/
structure Settings where
  logging : LoggingSettings := {}
  debugger : DebuggerSettings := {}
  deriving DecidableEq, Repr

end Debugger
