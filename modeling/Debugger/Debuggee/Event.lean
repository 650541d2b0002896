import Debugger.Outcome
/-!
# Threads as seen from outside, and what they report

The states a thread of the debuggee can be seen in, and the events that an execution environment
emits when one of them, or the debuggee as a whole, changes.
-/

namespace Debugger

/-- The number of a thread. Numbers grow, and none is given twice before 2^64 have been given, which
no word of 64 bits can count: see `Vm.numbers_are_words`. -/
abbrev ThreadId := Nat

/-- Why a thread stopped. -/
inductive StopReason
  | breakpoint
  | step
  | halt
  | exception
  deriving DecidableEq, Repr

/-- The word for a reason. -/
def StopReason.name : StopReason → String
  | breakpoint => "Breakpoint"
  | step => "Step"
  | halt => "Halt"
  | exception => "Exception"

/-- What a thread is doing. -/
inductive ThreadStatus
  /-- Waiting for a task. -/
  | idle
  | running
  | suspended (reason : StopReason)
  /-- Never left again. -/
  | terminated
  deriving DecidableEq, Repr

namespace ThreadStatus

def isSuspended : ThreadStatus → Bool
  | suspended _ => true
  | _ => false

/-- The words a thread listing has for a status. -/
def text : ThreadStatus → String
  | idle => "waiting"
  | running => "running"
  | suspended .breakpoint => "at breakpoint"
  | suspended .step => "stepping"
  | suspended .halt => "halted"
  | suspended .exception => "at exception"
  | terminated => "finished"

end ThreadStatus

/-- How far a stepping thread goes. -/
inductive StepKind
  /-- To the next line in the same frame or in one it returns to. -/
  | over
  /-- To the next line anywhere. -/
  | into
  deriving DecidableEq, Repr

/-- The group of the threads that run the debuggee's own code. -/
def mainGroup : String := "main"

/-- The group of the debuggee's infrastructure threads. -/
def systemGroup : String := "system"

/-- A thread in a listing. -/
structure ThreadInfo where
  id : ThreadId
  name : String
  group : String
  status : ThreadStatus
  deriving DecidableEq, Repr

/-- What an execution environment tells its subscribers. -/
inductive VmEvent
  | started
  | terminated
  | threadStarted (thread : ThreadId)
  | threadDied (thread : ThreadId)
  /-- A thread stopped. The place is that of its innermost frame. -/
  | suspended (thread : ThreadId) (reason : StopReason) (location : Option SourceLocation)
      (exception : Option ExceptionDescription)
  | resumed (thread : ThreadId)
  /-- An exception left a task without stopping its thread. -/
  | uncaughtException (thread : ThreadId) (description : ExceptionDescription)
  deriving DecidableEq, Repr

end Debugger
