import Debugger.Outcome
/-!
# Routines

A method body is a program that the debuggee's machine runs one request at a time. `Routine`
is the tree of those requests: each node asks for one thing and says how to go on for every
answer. Nothing else can happen between two requests, so a body that is stopped anywhere is
fully described by the tree that is left of it, and the machine can put it aside as plain data.

A body decides for itself what to do with an exception that an answer brings: it is a value
like any other until the body returns it.

## 1. Requests

Queries are answered at once from the stack and the heap. Reporting a line and calling a method
are requests of their own, because the thread may stop there. Two more reach outside the
debuggee: waiting at a gate that somebody else opens, and a note in the journal of the run.

## 2. Routines

## 3. What bodies are written with

The operations a body has on the stack and the heap, built from the queries. Those that can fail
raise their exception themselves, with the frames live at that moment.
-/

namespace Debugger

/-! ## 1. Requests -/

/-- A request that is answered at once. -/
inductive Query
  /-- The receiver of the innermost frame. -/
  | receiver
  /-- How many frames are live. -/
  | depth
  /-- The live frames. -/
  | frames
  | setLocal (name : String) (value : Value)
  | readLocal (name : String)
  | field (object : ObjectId) (name : String)
  | setField (object : ObjectId) (name : String) (value : Value)
  | staticField (className field : String)
  | setStaticField (className field : String) (value : Value)
  | newString (text : String)
  | stringOf (object : ObjectId)
  deriving DecidableEq, Repr

/-- What a query is answered with. A store says whether there was anything to store into. -/
abbrev Query.Answer : Query → Type
  | receiver => Option ObjectRef
  | depth => Nat
  | frames => List Frame
  | setLocal .. => Unit
  | readLocal _ => Option Value
  | field .. => Option Value
  | setField .. => Bool
  | staticField .. => Option Value
  | setStaticField .. => Bool
  | newString _ => ObjectRef
  | stringOf _ => Option String

/-- A call that a body makes. The overload is chosen by the arguments at hand. -/
inductive Call
  | construct (className : String) (args : List Value)
  | static (className method : String) (args : List Value)
  /-- The method is looked up in the class of the receiver's object. -/
  | virtual (receiver : ObjectRef) (method : String) (args : List Value)
  deriving DecidableEq, Repr

/-- An entry of the journal that bodies write. -/
inductive Note
  | value (v : Value)
  | string (text : Option String)
  | variable (v : Option Value)
  | caught (typeName message : String) (depth : Nat) (text : String)
      (description : ExceptionDescription)
  deriving DecidableEq, Repr

/-! ## 2. Routines -/

/-- A program of the debuggee that ends in an `α`. -/
inductive Routine (α : Type)
  | done (a : α)
  /-- Ends the whole body at once; the machine makes an exception of it. -/
  | panic (message : String)
  | ask (q : Query) (next : q.Answer → Routine α)
  /-- Reports a line. The exception is the end of the thread and nothing else. -/
  | line (n : Line) (next : Except Thrown Unit → Routine α)
  | call (c : Call) (next : Except Thrown Value → Routine α)
  /-- Waits at the gate. -/
  | park (next : Unit → Routine α)
  | note (n : Note) (next : Unit → Routine α)

/-- The body of a method: it ends in a value or in an exception. -/
abbrev Body := Routine (Except Thrown Value)

namespace Routine

variable {α β : Type}

/-- Goes on with what a routine ended in. -/
def bind : Routine α → (α → Routine β) → Routine β
  | done a, k => k a
  | panic m, _ => panic m
  | ask q next, k => ask q fun a => (next a).bind k
  | line n next, k => line n fun a => (next a).bind k
  | call c next, k => call c fun a => (next a).bind k
  | park next, k => park fun a => (next a).bind k
  | note n next, k => note n fun a => (next a).bind k

instance : Monad Routine where
  pure := done
  bind := bind

/-! ## 3. What bodies are written with -/

/-- Asks a query and gives its answer. -/
def query (q : Query) : Routine q.Answer := ask q done

/-- A piece of a body that may raise an exception. -/
abbrev Attempt (α : Type) := ExceptT Thrown Routine α

/-- Raises an exception with the frames that are live now. -/
def raise (typeName message : String) : Attempt α := do
  let frames ← query .frames
  throw (.exception typeName message frames)

/-- Reports that execution has reached a line. -/
def reachLine (n : Line) : Attempt Unit := ExceptT.mk (line n done)

/-- Makes a call. -/
def invoke (c : Call) : Attempt Value := ExceptT.mk (call c done)

/-- The object that a value refers to. -/
def requireObject : Value → Attempt ObjectRef
  | .object o => return o
  | v => raise "NullPointerException" ("expected an object, found " ++ v.typeName)

/-- Raises the exception for a field that is not there. -/
def noSuchField (className field : String) : Attempt α :=
  raise "NoSuchFieldError" (className ++ "." ++ field)

def getField (o : ObjectRef) (field : String) : Attempt Value := do
  match ← query (.field o.id field) with
  | some v => return v
  | none => noSuchField o.runtimeType field

def setField (o : ObjectRef) (field : String) (v : Value) : Attempt Unit := do
  unless ← query (.setField o.id field v) do noSuchField o.runtimeType field

def getStatic (className field : String) : Attempt Value := do
  match ← query (.staticField className field) with
  | some v => return v
  | none => noSuchField className field

def setStatic (className field : String) (v : Value) : Attempt Unit := do
  unless ← query (.setStaticField className field v) do noSuchField className field

/-- The text of a string object, and nothing for any other value. -/
def stringOf : Value → Routine (Option String)
  | .object o => query (.stringOf o.id)
  | _ => return none

end Routine

end Debugger
