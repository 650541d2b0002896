import Debugger.Debuggee.Machine
/-!
# The debuggee

A debuggee holds its classes from the start and its threads for the time of a launch. Launching
starts a main thread and the system threads; shutting down terminates them all and drops every
object, every static field and every hold. Breakpoints and classes stay, and so do the counters of
objects, threads and handles, so nothing of one launch is mistaken for anything of the next.

A body that was running when its thread was terminated keeps running up to its next safe point,
possibly after a shutdown and into the next launch. Its thread is then no longer listed.

## 1. State and threads

## 2. Operations on the whole

## 3. Classes and objects

## 4. Calls

The overload of a call from outside is chosen by the parameter types that the controller names. A
call without a target is no error of the debuggee's code, so it ends at once with an internal
exception.

## 5. The transport slot

A static field of an internal class passes a reference across: it is put into the slot, and picking
it up holds the object under the next handle.

## 6. Threads and breakpoints

## 7. The environment
-/

namespace Debugger

open Std (TreeMap)

/-! ## 1. State and threads -/

/-- The internal class whose static field is the transport slot. -/
def transportClass : ClassDef :=
  { ClassDef.empty "tether.runtime.Transport" .internal with fields := [⟨"slot", "Object", true⟩] }

/-- The name of the transport slot's field. -/
def transportField : String := "slot"

/-- The class that holds primitives of a kind. -/
def holderClass (k : PrimitiveKind) : ClassDef :=
  { ClassDef.empty k.holderClass .resultHolder with fields := [⟨"value", k.typeName, false⟩] }

/-- The infrastructure threads of every launch. -/
def systemThreads : List String := ["Reference Handler", "Finalizer", "Signal Dispatcher"]

/-- Objects held on behalf of the controller. -/
structure Holds where
  byHandle : TreeMap Handle ObjectId := ∅
  /-- The handle given last. -/
  last : UInt64 := 0

/-- A debuggee. -/
structure Vm where
  shared : Shared := {}
  /-- Every thread that was ever started, by number. -/
  threads : TreeMap ThreadId Thread := ∅
  mainThread : Option ThreadId := none
  lastThread : ThreadId := 0
  lastCall : CallId := 0
  holds : Holds := {}
  launched : Bool := false

namespace Vm

def putThread (vm : Vm) (t : Thread) (s : Shared) : Vm :=
  { vm with threads := vm.threads.insert t.id t, shared := s }

/-- A thread of the running launch. -/
def thread? (vm : Vm) (id : ThreadId) : Except RuntimeError Thread :=
  match vm.threads[id]? with
  | some t => if t.listed then .ok t else .error (.unknownThread id)
  | none => .error (.unknownThread id)

/-- The threads of the running launch, by number. -/
def listedThreads (vm : Vm) : List Thread :=
  (vm.threads.toList.map (·.2)).filter (·.listed)

/-- One step of a thread by itself. -/
def step? (vm : Vm) (id : ThreadId) : Option Vm := do
  let t ← vm.threads[id]?
  let (t, s) ← t.step vm.shared
  return vm.putThread t s

/-- One step of the first thread that can make one. -/
def stepAny? (vm : Vm) : Option Vm :=
  vm.threads.toList.findSome? fun (_, t) => (t.step vm.shared).map fun (t, s) => vm.putThread t s

/-- At most `fuel` steps of the threads by themselves. -/
def run : Nat → Vm → Vm
  | 0, vm => vm
  | fuel + 1, vm =>
    match vm.stepAny? with
    | none => vm
    | some vm => run fuel vm

/-- How many steps the threads are given at once. A body that needs more is taken up again by the
next operation. -/
def patience : Nat := 1000000000

/-- Lets the threads run until none can go on by itself. -/
def settle (vm : Vm) : Vm := vm.run patience

/-! ## 2. Operations on the whole -/

def emit (vm : Vm) (e : VmEvent) : Vm := { vm with shared := vm.shared.emit e }

/-- Loads a class, in place of one of the same name. Its static fields start over. -/
def defineClass (vm : Vm) (c : ClassDef) : Vm :=
  { vm with shared := { vm.shared with
      heap := vm.shared.heap.initStatics c
      classes := vm.shared.classes.insert c.name c } }

/-- The classes every debuggee has, in the order in which they are loaded. -/
def standardClasses : List ClassDef :=
  [stringClass] ++ PrimitiveKind.all.map Debugger.holderClass ++ [transportClass]

/-- A debuggee that has not been launched, with the classes every debuggee has. -/
def fresh : Vm := standardClasses.foldl defineClass {}

/-- Starts a thread under the next number. -/
def startThread (vm : Vm) (name group : String) : ThreadId × Vm :=
  let id := vm.lastThread + 1
  let vm := { vm with lastThread := id, threads := vm.threads.insert id { id, name, group } }
  (id, vm.emit (.threadStarted id))

/-- Launches the debuggee; one that is running is left alone. -/
def launch (vm : Vm) : Vm :=
  if vm.launched then vm
  else
    let heap := vm.shared.classes.foldl (fun h _ c => h.initStatics c) vm.shared.heap
    let breakpoints := vm.shared.breakpoints.resetHits
    let vm := { vm with launched := true, shared := { vm.shared with heap, breakpoints } }
    let (main, vm) := (vm.emit .started).startThread "main" mainGroup
    systemThreads.foldl (fun vm name => (vm.startThread name systemGroup).2)
      { vm with mainThread := some main }

/-- Terminates a thread and takes it off the list. -/
def retire (vm : Vm) (t : Thread) : Vm :=
  let (t, s) := t.terminate vm.shared
  vm.putThread { t with listed := false } s

/-- Shuts the debuggee down; one that is not running is left alone. -/
def shutdown (vm : Vm) : Vm :=
  if !vm.launched then vm
  else
    let vm := { vm with launched := false, mainThread := none }
    let vm := vm.listedThreads.foldl retire vm
    let vm := { vm with
      holds := { vm.holds with byHandle := ∅ }
      shared := { vm.shared with heap := vm.shared.heap.reset } }
    vm.emit .terminated

/-- An operation of the debuggee that can be refused. -/
abbrev Op (α : Type) := Action Vm RuntimeError α

def requireLaunched : Op Unit := do
  if !(← get).launched then throw .notLaunched

def requireClass (name : String) : Op ClassDef := do
  match (← get).shared.class? name with
  | some c => return c
  | none => throw (.classNotFound name)

def requireObject (id : ObjectId) : Op HeapObject := do
  match (← get).shared.heap.object? id with
  | some o => return o
  | none => throw (.invalidObjectId id)

def requireThread (id : ThreadId) : Op Thread := do
  match (← get).thread? id with
  | .ok t => return t
  | .error e => throw e

def requireMain : Op ThreadId := do
  match (← get).mainThread with
  | some id => return id
  | none => throw .notLaunched

/-! ## 3. Classes and objects -/

def getStatic (className field : String) : Op Value := do
  let _ ← requireClass className
  match (← get).shared.heap.static? className field with
  | some v => return v
  | none => throw (.noSuchField className field)

/-- The fields its class declares, with the values the object has for them, in order. -/
def objectFields (id : ObjectId) : Op (List (FieldInfo × Value)) := do
  let o ← requireObject id
  return o.classDef.instanceFields.zip (o.fields.map (·.2))

def newString (text : String) : Op ObjectRef := do
  requireLaunched
  modifyGet fun vm =>
    let (o, s) := vm.shared.newString text
    (o, { vm with shared := s })

def boxValue (p : Primitive) : Op ObjectRef := do
  requireLaunched
  let holder ← modifyGet fun vm =>
    let (holder, s) := vm.shared.box p
    (holder, { vm with shared := s })
  match holder with
  | some o => return o
  | none => throw (.classNotFound p.kind.holderClass)

/-! ## 4. Calls -/

/-- Queues a task on a thread. -/
def submit (id : ThreadId) (task : Task) : Op PendingCall := do
  let t ← requireThread id
  modifyGet fun vm =>
    let call := vm.lastCall + 1
    let (t, s) := t.submit call task vm.shared
    (.queued call, { vm.putThread t s with lastCall := call })

/-- Queues a task on the main thread. -/
def submitToMain (task : Task) : Op PendingCall := do submit (← requireMain) task

/-- A call that has no target. -/
def noTarget : PendingCall := .settled (.exception .internal)

def newInstance (className : String) (types : List String) (args : List Value) :
    Op PendingCall := do
  requireLaunched
  let c ← requireClass className
  match c.findConstructor? (.types types) types.isEmpty with
  | some constructor => submitToMain (.invoke (.construct c constructor args))
  | none => return noTarget

def invokeStatic (className method : String) (types : List String) (args : List Value) :
    Op PendingCall := do
  requireLaunched
  let c ← requireClass className
  match c.findMethod? method .static (.types types) with
  | some m => submitToMain (.invoke (.method c m none args))
  | none => return noTarget

/-- The method is looked up in the class the receiver's object was made from. -/
def invokeMethod (receiver : ObjectRef) (method : String) (types : List String)
    (args : List Value) : Op PendingCall := do
  requireLaunched
  let o ← requireObject receiver.id
  match o.classDef.findMethod? method .virtual (.types types) with
  | some m => submitToMain (.invoke (.method o.classDef m (some receiver) args))
  | none => return noTarget

/-- The outcome of a call whose caller has been told. -/
def outcome? (vm : Vm) (call : CallId) : Option Outcome :=
  (vm.shared.completed.find? (·.1 == call)).map (·.2)

/-! ## 5. The transport slot -/

def installTransport (id : ObjectId) : Op Unit := do
  let o ← requireObject id
  let heap := (← get).shared.heap
  match heap.setStatic? transportClass.name transportField (.object (o.ref id)) with
  | some heap => modify fun vm => { vm with shared := { vm.shared with heap } }
  | none => throw (.classNotFound transportClass.name)

/-- Holds an object under the next handle. -/
def hold (vm : Vm) (id : ObjectId) : Handle × Vm :=
  let handle : Handle := ⟨vm.holds.last + 1⟩
  (handle, { vm with
    holds := { byHandle := vm.holds.byHandle.insert handle id, last := handle.raw } })

def takeTransport : Op Handle := do
  let heap := (← get).shared.heap
  match heap.static? transportClass.name transportField with
  | some (.object o) =>
    let emptied := heap.setStatic? transportClass.name transportField .null
    modify fun vm => { vm with shared := { vm.shared with heap := emptied.getD heap } }
    modifyGet fun vm => vm.hold o.id
  | _ => throw .transportEmpty

def release (handle : Handle) : Op Unit := do
  let holds := (← get).holds
  if holds.byHandle.contains handle then
    modify fun vm => { vm with holds := { holds with byHandle := holds.byHandle.erase handle } }
  else throw (.invalidHandle handle)

/-! ## 6. Threads and breakpoints -/

def threadInfos : Op (List ThreadInfo) := do
  requireLaunched
  return (← get).listedThreads.map Thread.info

/-- Starts a further thread for the debuggee's own code. -/
def spawnThread (name : String) : Op ThreadId := do
  requireLaunched
  modifyGet fun vm => vm.startThread name mainGroup

def framesOf (id : ThreadId) : Op (List Frame) := do
  match (← requireThread id).frames? with
  | .ok fs => return fs
  | .error e => throw e

def resume (id : ThreadId) (step : Option StepKind) : Op Unit := do
  let t ← requireThread id
  match t.resume step (← get).shared with
  | .ok (t, s) => modify fun vm => vm.putThread t s
  | .error e => throw e

def halt (id : ThreadId) : Op Unit := do
  match (← requireThread id).halt with
  | .ok t => modify fun vm => vm.putThread t vm.shared
  | .error e => throw e

def terminateThread (id : ThreadId) : Op Unit := do
  let t ← requireThread id
  modify fun vm =>
    let (t, s) := t.terminate vm.shared
    vm.putThread t s

/-- Opens the gate for a thread, whether it is listed or not. Says whether it was waiting. -/
def unpark (vm : Vm) (id : ThreadId) : Bool × Vm :=
  match vm.threads[id]?.bind Thread.unpark? with
  | some t => (true, vm.putThread t vm.shared)
  | none => (false, vm)

/-- A breakpoint is refused where the class that is loaded now has no code. -/
def setBreakpoint (r : BreakpointRequest) : Op Unit := do
  let c ← requireClass r.location.className
  match r.location with
  | .line _ n => if !c.executableLines.contains n then throw (.noCodeAtLine c.name n)
  | .method _ m => if !c.hasMethodNamed m then throw (.noSuchMethod c.name m "")
  modify fun vm => { vm with shared := { vm.shared with
    breakpoints := vm.shared.breakpoints.install r } }

def clearBreakpoint (l : BreakpointLocation) : Op Bool := do
  let table := (← get).shared.breakpoints
  modify fun vm => { vm with shared := { vm.shared with breakpoints := table.erase l } }
  return table.contains l

def setBreakOnUncaught (enabled : Bool) : Op Unit :=
  modify fun vm => { vm with shared := { vm.shared with breakOnUncaught := enabled } }

/-! ## 7. The environment -/

/-- The debuggee as an execution environment. It can do everything. -/
def environment : Environment Vm where
  capabilities := .all
  launch := modify launch
  shutdown := modify shutdown
  isLaunched := Vm.launched
  subscribe := do return (← get).shared.events.size
  classInfo name := do return (← requireClass name).info
  getStatic := getStatic
  objectClass id := do return (← requireObject id).classDef.name
  objectCategory id := do return (← requireObject id).classDef.category
  objectFields := objectFields
  stringValue id := do return (← requireObject id).text
  newString := newString
  boxValue := boxValue
  newInstance := newInstance
  invokeStatic := invokeStatic
  invokeMethod := invokeMethod
  installTransport := installTransport
  takeTransport := takeTransport
  release := release
  threads := threadInfos
  mainThread := requireMain
  frames := framesOf
  resume := resume
  halt := halt
  terminateThread := terminateThread
  waitForStop id := do return (← requireThread id).status
  setBreakpoint := setBreakpoint
  clearBreakpoint := clearBreakpoint
  setBreakOnUncaught := setBreakOnUncaught
  settle := settle
  outcome? := outcome?
  events vm := vm.shared.events

end Vm

end Debugger
