import Debugger.Debuggee.Vm
/-!
# The demonstration program

A program to debug when there is no other: it opens an account, makes three deposits in a loop and
a withdrawal, so there is something to stop at and to step through. Its arithmetic is checked, and
an overflow aborts the body.
-/

namespace Debugger.Demo

open Routine (Attempt getField setField getStatic setStatic reachLine raise invoke)

/-- The class that the program starts in. -/
def mainClass : String := "demo.Main"

/-- The class of accounts. -/
def accountClass : String := "demo.Account"

/-- Aborts the body. -/
def abort {α : Type} (message : String) : Attempt α := ExceptT.lift (.panic message)

/-- A number, if it fits into an `int`. -/
def checked (i : Int) (complaint : String) : Attempt Int32 :=
  if -2147483648 ≤ i ∧ i ≤ 2147483647 then return Int32.ofInt i else abort complaint

def add (a b : Int32) : Attempt Int32 :=
  checked (a.toInt + b.toInt) "attempt to add with overflow"

def subtract (a b : Int32) : Attempt Int32 :=
  checked (a.toInt - b.toInt) "attempt to subtract with overflow"

/-- An argument of the body. A missing one aborts it. -/
def argument (args : List Value) (i : Nat) : Attempt Value :=
  match args[i]? with
  | some v => return v
  | none =>
    abort ("index out of bounds: the len is " ++ toString args.length ++ " but the index is "
      ++ toString i)

/-- The receiver of the body. -/
def receiver : Attempt ObjectRef := do
  match ← Routine.query .receiver with
  | some o => return o
  | none => raise "NullPointerException" "no receiver"

/-- Stores into a variable of the frame. -/
def setLocal (name : String) (v : Value) : Attempt Unit := Routine.query (.setLocal name v)

/-- The number in a field; anything else counts as zero. -/
def intField (o : ObjectRef) (field : String) : Attempt Int32 := do
  return (← getField o field).int?.getD 0

/-- Opens an account and counts it. -/
def openAccount (args : List Value) : Attempt Value := do
  reachLine 5
  let this ← receiver
  setField this "owner" (← argument args 0)
  reachLine 6
  setField this "balance" (← argument args 1)
  reachLine 7
  let opened := (← getStatic accountClass "opened").int?.getD 0
  setStatic accountClass "opened" (.ofInt (← add opened 1))
  return .void

/-- Adds an amount to the balance and gives the new one. -/
def deposit (args : List Value) : Attempt Value := do
  reachLine 10
  let this ← receiver
  let amount := (← argument args 0).int?.getD 0
  reachLine 11
  let balance ← add (← intField this "balance") amount
  setLocal "balance" (.ofInt balance)
  reachLine 12
  setField this "balance" (.ofInt balance)
  return .ofInt balance

/-- Takes an amount off the balance, if there is enough, and gives the new one. -/
def withdraw (args : List Value) : Attempt Value := do
  reachLine 15
  let this ← receiver
  let amount := (← argument args 0).int?.getD 0
  let balance ← intField this "balance"
  reachLine 16
  if balance < amount then
    reachLine 17
    raise "IllegalStateException" "insufficient funds"
  reachLine 18
  let rest ← subtract balance amount
  setField this "balance" (.ofInt rest)
  return .ofInt rest

/-- The program: an account, three deposits and a withdrawal. -/
def main : Attempt Value := do
  reachLine 3
  let owner ← Routine.query (.newString "ada")
  let account ← invoke (.construct accountClass [.object owner, .ofInt 10])
  setLocal "account" account
  let account ← Routine.requireObject account
  for round in [1, 2, 3] do
    setLocal "round" (.ofInt round)
    reachLine 4
    let _ ← invoke (.virtual account "deposit" [.ofInt (round * 5)])
  reachLine 5
  let _ ← invoke (.virtual account "withdraw" [.ofInt 20])
  reachLine 6
  let balance ← getField account "balance"
  setLocal "balance" balance
  reachLine 7
  return .void

/-- The classes of the program, in the order in which they are loaded. -/
def classes : List ClassDef :=
  [{ name := accountClass
     sourceFile := some "Account.java"
     category := .plain
     fields := [⟨"owner", "String", false⟩, ⟨"balance", "int", false⟩, ⟨"opened", "int", true⟩]
     methods :=
      [⟨accountClass, [⟨"owner", "String"⟩, ⟨"balance", "int"⟩], "void", .constructor, [5, 6, 7],
          openAccount⟩,
        ⟨"deposit", [⟨"amount", "int"⟩], "int", .virtual, [10, 11, 12], deposit⟩,
        ⟨"withdraw", [⟨"amount", "int"⟩], "int", .virtual, [15, 16, 17, 18], withdraw⟩] },
   { name := mainClass
     sourceFile := some "Main.java"
     category := .plain
     fields := []
     methods :=
      [⟨"main", [⟨"args", "String[]"⟩], "void", .static, [3, 4, 5, 6, 7], fun _ => main⟩] }]

/-- A debuggee with the program loaded. -/
def load (vm : Vm) : Vm := classes.foldl Vm.defineClass vm

end Debugger.Demo
