import Debugger.Session
/-!
# Threads of a session

A thread controller names one thread of the debuggee and keeps what does not change about it, so it
can be kept for as long as one likes: a thread that the debuggee no longer has looks terminated and
refuses everything. The state of the stack is read from the debuggee each time, and only while the
thread is suspended.

A session has one controller for each thread that the debuggee reports, from the first listing that
the thread is in. Every listing brings the table of controllers up to date: threads that are no
longer reported leave it, and those that are new come in. The frame that is selected on a thread
belongs to its controller and is kept here by the number of the thread, which no other thread of the
debuggee is ever given.

## 1. Controllers and listings

## 2. Looking at a thread

## 3. Driving a thread
-/

namespace Debugger

open Std (TreeMap)

/-! ## 1. Controllers and listings -/

/-- The threads of a group. -/
structure ThreadGroup where
  name : String
  threads : List ThreadController
  deriving DecidableEq, Repr

namespace Session

variable {σ : Type}

/-- The controller of a thread. -/
def controllerOf (settings : DebuggerSettings) (t : ThreadInfo) : ThreadController :=
  ⟨t.id, t.name, t.group, t.group == systemGroup || settings.systemThreads.contains t.name⟩

/-- Gives a thread a controller, with the innermost frame selected, if it has none. -/
def meet (s : Session σ) (t : ThreadInfo) : Session σ :=
  if s.controllers.contains t.id then s
  else { s with
    controllers := s.controllers.insert t.id (controllerOf s.settings t)
    selectedFrames := s.selectedFrames.erase t.id }

/-- Brings the table of controllers up to date with the threads that are reported. -/
def refresh (reported : List ThreadInfo) (s : Session σ) : Session σ :=
  reported.foldl meet
    { s with controllers := s.controllers.filter fun id _ => reported.any (·.id == id) }

/-- The controllers of all threads the environment reports, hidden ones too. -/
def allThreads (env : Environment σ) : Op σ (TreeMap ThreadId ThreadController) := do
  ensureUsable
  let reported ← ask env.threads
  modify (refresh reported)
  return (← get).controllers

/-- The threads of a listing, by number. -/
def threads (env : Environment σ) : Op σ (List ThreadController) := do
  let hide := (← get).hideSystemThreads
  return (← allThreads env).values.filter fun t => !(hide && t.isSystem)

/-- The controller of a thread, hidden or not. -/
def thread (env : Environment σ) (id : ThreadId) : Op σ ThreadController := do
  match (← allThreads env)[id]? with
  | some t => return t
  | none => throw (.unknownThread id)

/-- Threads by group, the groups by name. -/
def groupThreads (threads : List ThreadController) : List ThreadGroup :=
  let groups : TreeMap String (List ThreadController) :=
    threads.foldl (fun groups t => groups.insert t.group (groups.getD t.group [] ++ [t])) ∅
  groups.toList.map fun (name, threads) => ⟨name, threads⟩

/-- The threads of a listing by group. -/
def threadTree (env : Environment σ) : Op σ (List ThreadGroup) := do
  return groupThreads (← threads env)

/-- Says whether system threads are left out of listings. -/
def setHideSystemThreads (hide : Bool) : Op σ Unit := do
  ensureUsable
  modify fun s => { s with hideSystemThreads := hide }

/-! ## 2. Looking at a thread -/

/-- The status of a thread. One that the environment does not report is terminated. -/
def threadStatus (env : Environment σ) (s : Session σ) (id : ThreadId) : ThreadStatus :=
  match (env.threads.run s.world).1 with
  | .ok threads => ((threads.find? (·.id == id)).map (·.status)).getD .terminated
  | .error _ => .terminated

/-- The frames of a thread, the innermost first. -/
def stack (env : Environment σ) (id : ThreadId) : Op σ (List Frame) := ask (env.frames id)

/-- One frame of a thread. -/
def frame (env : Environment σ) (id : ThreadId) (index : Nat) : Op σ Frame := do
  match (← stack env id)[index]? with
  | some f => return f
  | none => throw (.invalidFrame id index)

/-- One variable of a frame. -/
def localVariable (env : Environment σ) (id : ThreadId) (frameIndex index : Nat) :
    Op σ LocalVariable := do
  match (← frame env id frameIndex).locals[index]? with
  | some v => return v
  | none => throw (.invalidVariable frameIndex index)

/-- The object in a variable. -/
def variableObject (env : Environment σ) (id : ThreadId) (frameIndex index : Nat) :
    Op σ Proxy := do
  match (← localVariable env id frameIndex index).value with
  | .object o =>
    match ← track env o with
    | some p => return p
    | none => throw .notAnObject
  | _ => throw .notAnObject

/-- The receiver of a frame, if it has one. -/
def receiverOf (env : Environment σ) (id : ThreadId) (index : Nat) : Op σ (Option Proxy) := do
  match (← frame env id index).receiver with
  | some o => track env o
  | none => return none

/-- The frame that is selected on a thread, the innermost unless another was chosen. -/
def selectedFrame (s : Session σ) (id : ThreadId) : Nat := s.selectedFrames.getD id 0

/-- Selects a frame, whether the thread has it or not. -/
def selectFrame (id : ThreadId) (index : Nat) (s : Session σ) : Session σ :=
  { s with selectedFrames := s.selectedFrames.insert id index }

/-! ## 3. Driving a thread -/

/-- Lets a thread go on, for a step or until something else stops it. Its innermost frame is
selected again. -/
def resume (env : Environment σ) (id : ThreadId) (step : Option StepKind) : Op σ Unit := do
  ensureUsable
  ask (env.resume id step)
  modify (selectFrame id 0)

/-- Asks a thread to stop at its next line. -/
def halt (env : Environment σ) (id : ThreadId) : Op σ Unit := do
  ensureUsable
  ask (env.halt id)

/-- Terminates a thread. -/
def terminateThread (env : Environment σ) (id : ThreadId) : Op σ Unit := do
  ensureUsable
  ask (env.terminateThread id)

/-- Waits for a thread to be suspended, and says whether it is. -/
def waitUntilSuspended (env : Environment σ) (id : ThreadId) : Op σ Bool := do
  return (← ask (env.waitForStop id)).isSuspended

end Session

end Debugger
