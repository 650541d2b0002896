import Debugger.Debuggee.Thread
/-!
# The machine

How a thread gets on by itself. `Thread.step` is one indivisible step of a thread: it takes a task
from the inbox, begins it, runs its body request by request, and tells the caller how it ended. It
gives nothing when the thread cannot go on by itself: its inbox is empty, it is suspended, or it
waits at the gate.

## 1. Answers

What the stack and the heap answer to a body's queries, and what a call leads to.

## 2. Safe points

A line is a safe point whatever frame reports it, and so is the entry of a method; a body that has
no frame reports lines to no effect. Termination comes first; then, at a line, a breakpoint, a halt
and a step, in this order; at an entry only a breakpoint. A suspension uses up the pending step and
the pending halt.

## 3. The end of a task

A primitive is put into a holder, because only objects go back to a controller. An exception that
nobody caught is reported once: by stopping the thread on the frames of the throw, or by an event.

## 4. One step
-/

namespace Debugger

/-! ## 1. Answers -/

/-- The class of strings, which is always loaded. -/
def stringClass : ClassDef := .empty "String" .string

namespace Shared

def class? (s : Shared) (name : String) : Option ClassDef := s.classes[name]?

/-- Makes a string object. -/
def newString (s : Shared) (text : String) : ObjectRef × Shared :=
  let (o, heap) := s.heap.allocateString ((s.class? stringClass.name).getD stringClass) text
  (o, { s with heap })

/-- Puts a primitive into a fresh holder of its kind. There may be no class to hold it, or one
without the field, in which case the object that was made for it stays in the heap. -/
def box (s : Shared) (p : Primitive) : Option ObjectRef × Shared :=
  match s.class? p.kind.holderClass with
  | none => (none, s)
  | some c =>
    let (o, heap) := s.heap.allocate c
    match heap.setField? o.id "value" (.primitive p) with
    | some heap => (some o, { s with heap })
    | none => (none, { s with heap })

/-- The types of values, as an exception for a missing method lists them. -/
def describeArgs (args : List Value) : String := ", ".intercalate (args.map Value.typeName)

/-- The target of a call, or the type and message of the exception that is raised in its place. -/
def resolve (s : Shared) : Call → Except (String × String) Invocation
  | .construct className args =>
    match s.class? className with
    | none => .error ("NoClassDefFoundError", className)
    | some c =>
      match c.findConstructor? (.args args) args.isEmpty with
      | some constructor => .ok (.construct c constructor args)
      | none =>
        .error ("NoSuchMethodError", className ++ ".<init>(" ++ describeArgs args ++ ")")
  | .static className method args =>
    match s.class? className with
    | none => .error ("NoClassDefFoundError", className)
    | some c =>
      match c.findMethod? method .static (.args args) with
      | some m => .ok (.method c m none args)
      | none =>
        .error ("NoSuchMethodError", className ++ "." ++ method ++ "(" ++ describeArgs args ++ ")")
  | .virtual receiver method args =>
    match s.heap.object? receiver.id with
    | none => .error ("NullPointerException", "stale reference " ++ toString receiver.id)
    | some o =>
      match o.classDef.findMethod? method .virtual (.args args) with
      | some m => .ok (.method o.classDef m (some receiver) args)
      | none =>
        .error ("NoSuchMethodError",
          o.classDef.name ++ "." ++ method ++ "(" ++ describeArgs args ++ ")")

end Shared

namespace Thread

/-- Answers a query. -/
def answer (t : Thread) (s : Shared) : (q : Query) → q.Answer × Thread × Shared
  | .receiver => (t.frames.head?.bind (·.receiver), t, s)
  | .depth => (t.frames.length, t, s)
  | .frames => (t.frames, t, s)
  | .setLocal name value =>
    match t.frames with
    | [] => ((), t, s)
    | f :: fs => ((), { t with frames := f.setLocal name value :: fs }, s)
  | .readLocal name => (t.frames.head?.bind (·.local? name), t, s)
  | .field object name => (s.heap.field? object name, t, s)
  | .setField object name value =>
    match s.heap.setField? object name value with
    | some heap => (true, t, { s with heap })
    | none => (false, t, s)
  | .staticField className field => (s.heap.static? className field, t, s)
  | .setStaticField className field value =>
    match s.heap.setStatic? className field value with
    | some heap => (true, t, { s with heap })
    | none => (false, t, s)
  | .newString text => let (o, s) := s.newString text; (o, t, s)
  | .stringOf object => ((s.heap.object? object).bind (·.text), t, s)

/-- Moves a task on to a position. -/
def goTo (t : Thread) (a : Activity) (p : Position) : Thread :=
  { t with worker := .busy { a with position := p } }

/-- Pushes the frame of a call. Its first variables are the parameters. -/
def pushFrame (t : Thread) (a : Activity) (c : ClassDef) (m : Method)
    (receiver : Option ObjectRef) (args : List Value) (next : Except Thrown Value → Body) :
    Thread :=
  let frame : Frame :=
    { className := c.name
      methodName := m.name
      sourceFile := c.sourceFile
      line := m.firstLine
      locals := (m.params.zip args).map fun (p, v) => ⟨p.name, p.typeName, v⟩
      receiver }
  { t with
    frames := frame :: t.frames
    worker := .busy { a with position := .entering (m.body args), callers := next :: a.callers } }

/-- Makes a call. An object exists before its constructor runs. -/
def invoke (t : Thread) (a : Activity) (i : Invocation) (next : Except Thrown Value → Body)
    (s : Shared) : Thread × Shared :=
  match i with
  | .method c m receiver args => (t.pushFrame a c m receiver args next, s)
  | .construct c constructor args =>
    let (o, heap) := s.heap.allocate c
    let s := { s with heap }
    match constructor with
    | none => (t.goTo a (.running (next (.ok (.object o)))), s)
    | some m =>
      (t.pushFrame a c m (some o) args fun r => next (r.map fun _ => .object o), s)

/-! ## 2. Safe points -/

/-- Stops the thread. -/
def suspend (t : Thread) (reason : StopReason) (exception : Option ExceptionDescription)
    (s : Shared) : Thread × Shared :=
  ({ t with status := .suspended reason, pendingStep := none, haltRequested := false },
    s.emit (.suspended t.id reason (t.frames.head?.map Frame.location) exception))

/-- Why to stop at a line, if at all. -/
def stopReason? (t : Thread) (atBreakpoint : Bool) : Option StopReason :=
  if atBreakpoint then some .breakpoint
  else if t.haltRequested then some .halt
  else if t.pendingStep.any (·.reached t.frames.length) then some .step
  else none

/-- The safe point of a line. -/
def reachLine (t : Thread) (a : Activity) (n : Line) (next : Except Thrown Unit → Body)
    (s : Shared) : Thread × Shared :=
  if t.status = .terminated then (t.goTo a (.running (next (.error .threadDeath))), s)
  else
    match t.frames with
    | [] => (t.goTo a (.running (next (.ok ()))), s)
    | f :: fs =>
      let t := { t with frames := { f with line := n } :: fs }
      let (hit, breakpoints) := s.breakpoints.pass (.line f.className n)
      let s := { s with breakpoints }
      match t.stopReason? hit with
      | some reason => (t.goTo a (.atLine next)).suspend reason none s
      | none => (t.goTo a (.running (next (.ok ()))), s)

/-- The safe point of a method's entry, where only a breakpoint counts. -/
def enter (t : Thread) (a : Activity) (body : Body) (s : Shared) : Thread × Shared :=
  if t.status = .terminated then (t.goTo a (.running (.done (.error .threadDeath))), s)
  else
    match t.frames with
    | [] => (t.goTo a (.running body), s)
    | f :: _ =>
      let (hit, breakpoints) := s.breakpoints.pass (.method f.className f.methodName)
      let s := { s with breakpoints }
      if hit then (t.goTo a (.atEntry body)).suspend .breakpoint none s
      else (t.goTo a (.running body), s)

/-! ## 3. The end of a task -/

/-- The outcome of a task that gave a value. -/
def adapt (v : Value) (s : Shared) : Outcome × Shared :=
  match v with
  | .null | .void => (.success none, s)
  | .object o => (.success (some o), s)
  | .primitive p =>
    match s.box p with
    | (some o, s) => (.success (some o), s)
    | (none, s) => (.exception .internal, s)

/-- Ends the body of a task. -/
def conclude (t : Thread) (a : Activity) (result : Except Thrown Value) (s : Shared) :
    Thread × Shared :=
  match result with
  | .ok v =>
    let (outcome, s) := adapt v s
    ({ t with worker := .ended a.call outcome }, s)
  | .error .threadDeath => ({ t with worker := .ended a.call .terminated }, s)
  | .error (.exception typeName message frames) =>
    let description := (Thrown.exception typeName message frames).describe
    if s.breakOnUncaught then
      if t.status = .terminated then ({ t with worker := .ended a.call .terminated }, s)
      else
        ({ t with frames := frames }.goTo a (.atException description)).suspend
          .exception (some description) s
    else
      ({ t with worker := .ended a.call (.exception description) },
        s.emit (.uncaughtException t.id description))

/-! ## 4. One step -/

/-- Sets the thread up for a task it has taken, unless it was terminated meanwhile. -/
def begin (t : Thread) (call : CallId) (task : Task) (s : Shared) : Thread × Shared :=
  if t.status = .terminated then ({ t with worker := .waiting }, s.complete call .terminated)
  else
    let position := match task with
      | .body b => .running b
      | .invoke i => .starting i
    ({ t with
        status := .running
        frames := []
        pendingStep := none
        haltRequested := false
        worker := .busy ⟨call, position, []⟩ }, s)

/-- Frees the thread from a task. -/
def finish (t : Thread) (call : CallId) (outcome : Outcome) : Thread :=
  { t with
    status := if t.status = .terminated then .terminated else .idle
    frames := []
    pendingStep := none
    worker := .telling call outcome }

/-- Runs a body up to and through its next request. -/
def run (t : Thread) (a : Activity) (body : Body) (s : Shared) : Thread × Shared :=
  match body with
  | .done result =>
    match a.callers with
    | [] => t.conclude a result s
    | next :: callers =>
      ({ t with frames := t.frames.tail }.goTo { a with callers } (.running (next result)), s)
  | .panic message =>
    (t.goTo a (.running (.done (.error (.exception Thrown.panicType message t.frames)))), s)
  | .ask q next =>
    let (reply, t, s) := t.answer s q
    (t.goTo a (.running (next reply)), s)
  | .line n next => t.reachLine a n next s
  | .call c next =>
    match s.resolve c with
    | .ok i => t.invoke a i next s
    | .error (typeName, message) =>
      (t.goTo a (.running (next (.error (.exception typeName message t.frames)))), s)
  | .park next => (t.goTo a (.parked next), s)
  | .note n next => (t.goTo a (.running (next ())), { s with journal := s.journal.push n })

/-- What a thread does about its task, from where it is. -/
def proceed (t : Thread) (a : Activity) (s : Shared) : Option (Thread × Shared) :=
  match a.position with
  | .starting i => some (t.invoke a i .done s)
  | .running body => some (t.run a body s)
  | .entering body => some (t.enter a body s)
  | .atLine next =>
    match t.status with
    | .suspended _ => none
    | .terminated => some (t.goTo a (.running (next (.error .threadDeath))), s)
    | _ => some (t.goTo a (.running (next (.ok ()))), s)
  | .atEntry body =>
    match t.status with
    | .suspended _ => none
    | .terminated => some (t.goTo a (.running (.done (.error .threadDeath))), s)
    | _ => some (t.goTo a (.running body), s)
  | .atException description =>
    match t.status with
    | .suspended _ => none
    | .terminated => some ({ t with frames := [], worker := .ended a.call .terminated }, s)
    | _ => some ({ t with frames := [], worker := .ended a.call (.exception description) }, s)
  | .parked _ => none

/-- One step of a thread, if it can go on by itself. -/
def step (t : Thread) (s : Shared) : Option (Thread × Shared) :=
  match t.worker with
  | .waiting =>
    match t.inbox with
    | [] => none
    | .run call task :: rest => some ({ t with inbox := rest, worker := .holding call task }, s)
    | .shutdown :: rest => some ({ t with inbox := rest, worker := .exited }, s)
  | .holding call task => some (t.begin call task s)
  | .busy a => t.proceed a s
  | .ended call outcome => some (t.finish call outcome, s)
  | .telling call outcome => some ({ t with worker := .waiting }, s.complete call outcome)
  | .exited => none

end Thread

end Debugger
