import Std.Data.TreeMap
import Debugger.Debuggee.Class
/-!
# Scripts

A method body as data: a list of statements over the arguments, the variables of the frame and a
set of registers that lives as long as the call. A script does through the debuggee's machine what
a body can do, so it can be stopped, stepped and cut short at the same places.

## 1. Statements

## 2. Running

A statement goes on to the next one, returns from the body, or raises an exception; registers keep
what was stored in them either way.
-/

namespace Debugger

open Std (TreeMap)

namespace Script

/-! ## 1. Statements -/

/-- Where a statement takes a value from. What is missing is null. -/
inductive Operand
  | value (v : Value)
  | argument (index : Nat)
  | register (name : String)
  | localVariable (name : String)
  | receiver
  deriving DecidableEq, Repr

/-- A statement. The register for its result, where it has one, may be left out. -/
inductive Statement
  | line (n : Line)
  | setLocal (name : String) (value : Operand)
  | depth (target : Option String)
  | move (value : Operand) (target : Option String)
  | add (a b : Operand) (target : Option String)
  | getField (object : Operand) (name : String) (target : Option String)
  | setField (object : Operand) (name : String) (value : Operand)
  | getStatic (className name : String) (target : Option String)
  | setStatic (className name : String) (value : Operand)
  | newString (text : String) (target : Option String)
  /-- A new string: that of a value with a text after it. -/
  | concat (value : Operand) (text : String) (target : Option String)
  | construct (className : String) (args : List Operand) (target : Option String)
  | callStatic (className method : String) (args : List Operand) (target : Option String)
  | callVirtual (object : Operand) (method : String) (args : List Operand)
      (target : Option String)
  | requireObject (value : Operand)
  | raise (typeName message : String)
  | panic (message : String)
  | result (value : Operand)
  | trace (value : Operand)
  | traceString (value : Operand)
  | traceLocal (name : String)
  | park
  /-- Runs the body for every number below the count. -/
  | loop (count : Nat) (counter : String) (body : List Statement)
  | ifLess (a b : Operand) (yes no : List Statement)
  /-- Catches exceptions, and raises them again after the handler if asked to. The end of the
  thread is not caught. -/
  | guarded (body handler : List Statement) (again : Bool)

/-- What is said of a panic that has no text. -/
def textlessPanic : String := "<non-string panic payload>"

/-! ## 2. Running -/

/-- The registers of a call. -/
abbrev Registers := TreeMap String Value

/-- Why no further statement is run. -/
inductive Exit
  | returned (v : Value)
  | raised (t : Thrown)

/-- A piece of a running script. -/
abbrev Run (α : Type) := ExceptT Exit (StateT Registers Routine) α

variable {α : Type}

/-- Does something in the debuggee that cannot fail. -/
def ofRoutine (r : Routine α) : Run α := ExceptT.lift (StateT.lift r)

/-- Does something in the debuggee that may raise an exception. -/
def ofAttempt (a : Routine.Attempt α) : Run α := do
  match ← ofRoutine a.run with
  | .ok v => return v
  | .error t => throw (.raised t)

/-- Stores a result, if there is a register for it. -/
def store (target : Option String) (v : Value) : Run Unit :=
  match target with
  | some name => modify fun registers => registers.insert name v
  | none => pure ()

/-- The value of an operand. -/
def Operand.eval (args : List Value) : Operand → Run Value
  | .value v => return v
  | .argument i => return args[i]?.getD .null
  | .register name => return (← get)[name]?.getD .null
  | .localVariable name => do return (← ofRoutine (Routine.query (.readLocal name))).getD .null
  | .receiver => do
    match ← ofRoutine (Routine.query .receiver) with
    | some o => return .object o
    | none => return .null

/-- The number of an operand; anything but an `int` counts as zero. -/
def Operand.evalInt (args : List Value) (o : Operand) : Run Int32 := do
  return ((← o.eval args).int?).getD 0

/-- What a note says about an exception that was caught. -/
def caughtNote (t : Thrown) : Note :=
  .caught t.typeName (t.message?.getD "") t.depth t.display t.describe

/-- Writes into the journal. -/
def write (n : Note) : Run Unit := ofRoutine (.note n .done)

/-- Makes a string. -/
def makeString (text : String) (target : Option String) : Run Unit := do
  store target (.object (← ofRoutine (Routine.query (.newString text))))

/-- Makes a call. -/
def call (c : Call) (target : Option String) : Run Unit := do
  store target (← ofAttempt (Routine.invoke c))

mutual

/-- Runs a statement. Operands are evaluated from left to right before anything else is done. -/
def Statement.run (args : List Value) : Statement → Run Unit
  | .line n => ofAttempt (Routine.reachLine n)
  | .setLocal name value => do
    ofRoutine (Routine.query (.setLocal name (← value.eval args)))
  | .depth target => do
    store target (.ofInt (Int32.ofNat (← ofRoutine (Routine.query .depth))))
  | .move value target => do store target (← value.eval args)
  | .add a b target => do
    let a ← a.evalInt args
    let b ← b.evalInt args
    store target (.ofInt (a + b))
  | .getField object name target => do
    let object ← ofAttempt (Routine.requireObject (← object.eval args))
    store target (← ofAttempt (Routine.getField object name))
  | .setField object name value => do
    let object ← object.eval args
    let value ← value.eval args
    let object ← ofAttempt (Routine.requireObject object)
    ofAttempt (Routine.setField object name value)
  | .getStatic className name target => do
    store target (← ofAttempt (Routine.getStatic className name))
  | .setStatic className name value => do
    ofAttempt (Routine.setStatic className name (← value.eval args))
  | .newString text target => makeString text target
  | .concat value text target => do
    let value ← value.eval args
    let start ← ofRoutine (Routine.stringOf value)
    makeString (start.getD "" ++ text) target
  | .construct className operands target => do
    call (.construct className (← operands.mapM (·.eval args))) target
  | .callStatic className method operands target => do
    call (.static className method (← operands.mapM (·.eval args))) target
  | .callVirtual object method operands target => do
    let object ← object.eval args
    let values ← operands.mapM (·.eval args)
    let object ← ofAttempt (Routine.requireObject object)
    call (.virtual object method values) target
  | .requireObject value => do
    let _ ← ofAttempt (Routine.requireObject (← value.eval args))
  | .raise typeName message => ofAttempt (Routine.raise typeName message)
  | .panic message => ofRoutine (.panic message)
  | .result value => do throw (.returned (← value.eval args))
  | .trace value => do write (.value (← value.eval args))
  | .traceString value => do
    let value ← value.eval args
    write (.string (← ofRoutine (Routine.stringOf value)))
  | .traceLocal name => do write (.variable (← ofRoutine (Routine.query (.readLocal name))))
  | .park => ofRoutine (.park .done)
  | .loop count counter body =>
    (List.range count).forM fun i => do
      modify fun registers => registers.insert counter (.ofInt (Int32.ofNat i))
      runAll args body
  | .ifLess a b yes no => do
    let a ← a.evalInt args
    let b ← b.evalInt args
    if a < b then runAll args yes else runAll args no
  | .guarded body handler again =>
    tryCatch (runAll args body) fun exit => do
      match exit with
      | .raised (.exception typeName message frames) =>
        write (caughtNote (.exception typeName message frames))
        runAll args handler
        if again then throw exit
      | _ => throw exit

/-- Runs statements one after the other. -/
def runAll (args : List Value) : List Statement → Run Unit
  | [] => pure ()
  | s :: rest => do
    s.run args
    runAll args rest

end

/-- The body that a script is. Falling off the end gives no value. -/
def toBody (script : List Statement) (args : List Value) : Body := do
  let (exit, _) ← (runAll args script).run.run ∅
  match exit with
  | .ok () => return .ok .void
  | .error (.returned v) => return .ok v
  | .error (.raised t) => return .error t

end Script

end Debugger
