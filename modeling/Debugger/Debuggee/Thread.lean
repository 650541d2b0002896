import Debugger.Environment
import Debugger.Debuggee.Heap
/-!
# Threads of the debuggee

A thread runs tasks from its inbox, one at a time and in order. While a task runs, the lines it
reports and the entries of the methods it calls are *safe points*: there, and nowhere else, a
breakpoint, a step or a halt stops the thread and termination takes hold of it.

The state of a thread has two halves. The one that a controller reads and writes is status,
frames, the pending step and the pending halt. The other, `worker`, is the thread's own
control: which task it is at, and how the task goes on. A stopped thread keeps its control as
data, so stopping and going on lose nothing.

## 1. State

## 2. What a controller does to a thread

Each operation is one indivisible change, whatever the thread itself is about to do next.
-/

namespace Debugger

open Std (TreeMap)

/-! ## 1. State -/

/-- A pending step, with the depth of the stack when it was asked for. -/
structure StepRequest where
  kind : StepKind
  depth : Nat
  deriving DecidableEq, Repr

/-- Whether a line reported at a depth ends the step. -/
def StepRequest.reached (s : StepRequest) (depth : Nat) : Bool :=
  match s.kind with
  | .into => true
  | .over => depth ≤ s.depth

/-- A call whose target has been found. -/
inductive Invocation
  | method (classDef : ClassDef) (method : Method) (receiver : Option ObjectRef)
      (args : List Value)
  | construct (classDef : ClassDef) (constructor : Option Method) (args : List Value)

/-- What a thread is given to do. -/
inductive Task
  /-- Runs a body that has no frame of its own. -/
  | body (b : Body)
  | invoke (i : Invocation)

/-- What lies in a thread's inbox. -/
inductive Message
  | run (call : CallId) (task : Task)
  | shutdown

/-- Where in a task the thread is. -/
inductive Position
  /-- About to make the task's call. -/
  | starting (i : Invocation)
  | running (body : Body)
  /-- The frame of a call has been pushed; its entry is the next safe point. -/
  | entering (body : Body)
  /-- Stopped where a line was reported, or about to go on from there. -/
  | atLine (next : Except Thrown Unit → Body)
  /-- Stopped at the entry of a method, or about to go on from there. -/
  | atEntry (body : Body)
  /-- Stopped with an exception that no body caught, or about to go on from there. -/
  | atException (description : ExceptionDescription)
  /-- Waiting at the gate. -/
  | parked (next : Unit → Body)

/-- A task in progress. -/
structure Activity where
  call : CallId
  position : Position
  /-- How the callers of the running body go on, innermost first: one for each frame that the
  task has pushed and not popped. -/
  callers : List (Except Thrown Value → Body)

/-- The thread's own control. -/
inductive Worker
  /-- Looks into the inbox. -/
  | waiting
  /-- Has taken a task out of the inbox and not begun it. -/
  | holding (call : CallId) (task : Task)
  | busy (activity : Activity)
  /-- The task has ended; the thread is still set up for it. -/
  | ended (call : CallId) (outcome : Outcome)
  /-- The thread is free again; the caller has not been told. -/
  | telling (call : CallId) (outcome : Outcome)
  | exited

/-- A thread. -/
structure Thread where
  id : ThreadId
  name : String
  group : String
  /-- Whether the thread belongs to the running launch. One of an earlier launch can no longer be
  found by its number, but what it was doing may still go on. -/
  listed : Bool := true
  status : ThreadStatus := .idle
  frames : List Frame := []
  pendingStep : Option StepRequest := none
  haltRequested : Bool := false
  inbox : List Message := []
  worker : Worker := .waiting

/-- What the threads of a debuggee have in common. -/
structure Shared where
  classes : TreeMap String ClassDef := ∅
  heap : Heap := {}
  breakpoints : BreakpointTable := ∅
  breakOnUncaught : Bool := false
  /-- Every event emitted so far. -/
  events : Array VmEvent := #[]
  /-- Every note written so far. -/
  journal : Array Note := #[]
  /-- The calls whose callers have been told, in that order. -/
  completed : Array (CallId × Outcome) := #[]

namespace Shared

def emit (s : Shared) (e : VmEvent) : Shared := { s with events := s.events.push e }

/-- Tells a caller the outcome of its call. -/
def complete (s : Shared) (call : CallId) (outcome : Outcome) : Shared :=
  { s with completed := s.completed.push (call, outcome) }

end Shared

namespace Thread

def info (t : Thread) : ThreadInfo := ⟨t.id, t.name, t.group, t.status⟩

/-! ## 2. What a controller does to a thread -/

/-- Queues a task. A terminated thread takes none: the call ends at once. -/
def submit (t : Thread) (call : CallId) (task : Task) (s : Shared) : Thread × Shared :=
  if t.status = .terminated then (t, s.complete call .terminated)
  else ({ t with inbox := t.inbox ++ [.run call task] }, s)

/-- The frames of a suspended thread. -/
def frames? (t : Thread) : Except RuntimeError (List Frame) :=
  match t.status with
  | .suspended _ => .ok t.frames
  | .terminated => .error (.threadTerminated t.id)
  | _ => .error (.threadNotSuspended t.id)

/-- Lets a suspended thread go on, with a step from the present depth or without one. -/
def resume (t : Thread) (step : Option StepKind) (s : Shared) :
    Except RuntimeError (Thread × Shared) :=
  match t.status with
  | .suspended _ =>
    .ok ({ t with
        status := .running
        pendingStep := step.map fun kind => ⟨kind, t.frames.length⟩ },
      s.emit (.resumed t.id))
  | .terminated => .error (.threadTerminated t.id)
  | _ => .error (.threadNotSuspended t.id)

/-- Asks a running thread to stop at its next safe point. A thread that is idle or has stopped
already is left as it is. -/
def halt (t : Thread) : Except RuntimeError Thread :=
  match t.status with
  | .running => .ok { t with haltRequested := true }
  | .terminated => .error (.threadTerminated t.id)
  | _ => .ok t

/-- Ends the calls that were queued and not begun. -/
def discard (inbox : List Message) (s : Shared) : Shared :=
  inbox.foldl (fun s m =>
    match m with
    | .run call _ => s.complete call .terminated
    | .shutdown => s) s

/-- Terminates a thread for good. Queued calls end without having run; a running body is cut short
at its next safe point. -/
def terminate (t : Thread) (s : Shared) : Thread × Shared :=
  if t.status = .terminated then (t, s)
  else
    ({ t with
        status := .terminated
        frames := []
        pendingStep := none
        inbox := [.shutdown] },
      (discard t.inbox s).emit (.threadDied t.id))

/-- Opens the gate for a thread that waits there. -/
def unpark? (t : Thread) : Option Thread :=
  match t.worker with
  | .busy a =>
    match a.position with
    | .parked next => some { t with worker := .busy { a with position := .running (next ()) } }
    | _ => none
  | _ => none

end Thread

end Debugger
