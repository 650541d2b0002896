import Debugger.Value
/-!
# Frames, exceptions and outcomes

What a piece of debuggee code leaves behind when it ends, and the pictures of the stack that are
taken on the way. Stacks are lists of frames with the innermost first, here and everywhere else.

## 1. Frames

One frame per call of a method or constructor: where it stands, its variables, its receiver.

## 2. Exceptions

A `Thrown` is an exception on its way through the debuggee. It carries the frames that were live
when it was raised, because by the time anybody looks at it they have been left. What reaches the
outside is its description, in which each frame is reduced to a place in the source.

## 3. Outcomes

A piece of code that was run to its end gave a value, or let an exception out, or was cut short
because its thread was terminated.
-/

namespace Debugger

/-! ## 1. Frames -/

/-- A line number in a source file. -/
abbrev Line := UInt32

/-- A place in the source: the line of a method of a class, and the file if it is known. -/
structure SourceLocation where
  className : String
  fileName : Option String
  methodName : String
  line : Line
  deriving DecidableEq, Repr

/-- The text of a place as a stack trace has it. -/
def SourceLocation.display (l : SourceLocation) : String :=
  l.className ++ "." ++ l.methodName ++ "(" ++
    (match l.fileName with
      | some file => file ++ ":" ++ toString l.line.toNat
      | none => "line " ++ toString l.line.toNat) ++ ")"

/-- A variable of a frame; its type is that of the value stored last. -/
structure LocalVariable where
  name : String
  typeName : String
  value : Value
  deriving DecidableEq, Repr

/-- One activation of a method or constructor. -/
structure Frame where
  className : String
  methodName : String
  sourceFile : Option String
  /-- The line reported last. -/
  line : Line
  locals : List LocalVariable
  /-- The receiver, absent in a static method. -/
  receiver : Option ObjectRef
  deriving DecidableEq, Repr

namespace Frame

/-- Where a frame stands. -/
def location (f : Frame) : SourceLocation := ⟨f.className, f.sourceFile, f.methodName, f.line⟩

/-- The value of a variable, if the frame has it. -/
def local? (f : Frame) (name : String) : Option Value :=
  (f.locals.find? (·.name == name)).map (·.value)

/-- Gives the first variable of a name a value and its type; a new variable comes last. -/
def updateLocal (name : String) (value : Value) : List LocalVariable → List LocalVariable
  | [] => [⟨name, value.typeName, value⟩]
  | v :: vs =>
    if v.name = name then ⟨name, value.typeName, value⟩ :: vs
    else v :: updateLocal name value vs

def setLocal (f : Frame) (name : String) (value : Value) : Frame :=
  { f with locals := updateLocal name value f.locals }

end Frame

/-! ## 2. Exceptions -/

/-- Whether an exception came from the debuggee's code or from the debugger itself. -/
inductive ExceptionKind
  | user
  | internal
  deriving DecidableEq, Repr

/-- What is told about an exception once it has left the debuggee's code. -/
structure ExceptionDescription where
  kind : ExceptionKind
  typeName : String
  message : Option String
  /-- The innermost place first. -/
  stack : List SourceLocation
  deriving DecidableEq, Repr

namespace ExceptionDescription

/-- The description of a failure of the debugger itself. It holds no detail on purpose. -/
def internal : ExceptionDescription where
  kind := .internal
  typeName := "tether.InternalError"
  message := some "internal debugger error (see log for details)"
  stack := []

/-- The type, the message after a colon, and one indented line for each place of the stack. -/
def display (d : ExceptionDescription) : String :=
  let head := match d.message with
    | some message => d.typeName ++ ": " ++ message
    | none => d.typeName
  head ++ String.join (d.stack.map fun l => "\n\tat " ++ l.display)

/-- What a user is shown: the whole display for an exception of the debuggee, and only the
message for an internal one. -/
def render (d : ExceptionDescription) : String :=
  match d.kind with
  | .user => d.display
  | .internal => d.message.getD d.typeName

end ExceptionDescription

/-- An exception that propagates through the debuggee's frames. -/
inductive Thrown
  /-- Raised by code, with the frames live at that moment. -/
  | exception (typeName message : String) (frames : List Frame)
  /-- Unwinds a thread that has been terminated; bodies hand it on. -/
  | threadDeath
  deriving DecidableEq, Repr

namespace Thrown

/-- The type that an aborted body's exception has. -/
def panicType : String := "rust.panic"

def typeName : Thrown → String
  | exception t _ _ => t
  | threadDeath => "tether.ThreadDeath"

def message? : Thrown → Option String
  | exception _ m _ => some m
  | threadDeath => none

/-- The frames that were live when the exception was raised. -/
def frames : Thrown → List Frame
  | exception _ _ fs => fs
  | threadDeath => []

def isThreadDeath : Thrown → Bool
  | threadDeath => true
  | exception .. => false

/-- How many frames were live when the exception was raised. -/
def depth (t : Thrown) : Nat := t.frames.length

/-- The type, and the message after a colon. -/
def display : Thrown → String
  | exception t m _ => t ++ ": " ++ m
  | threadDeath => typeName threadDeath

def describe (t : Thrown) : ExceptionDescription where
  kind := .user
  typeName := t.typeName
  message := t.message?
  stack := t.frames.map Frame.location

end Thrown

/-! ## 3. Outcomes -/

/-- How a piece of debuggee code ended. -/
inductive ExecResult (α : Type)
  | success (value : α)
  | exception (description : ExceptionDescription)
  | terminated
  deriving DecidableEq, Repr

namespace ExecResult

variable {α β ε : Type}

/-- Another reading of a success; the two other ends are handed on. -/
def map (f : α → β) : ExecResult α → ExecResult β
  | success a => success (f a)
  | exception d => exception d
  | terminated => terminated

/-- Another reading of a success that can fail. Only a success can make it fail. -/
def tryMap {m : Type → Type} [Monad m] (f : α → m β) : ExecResult α → m (ExecResult β)
  | success a => do return success (← f a)
  | exception d => pure (exception d)
  | terminated => pure terminated

def isSuccess : ExecResult α → Bool
  | success _ => true
  | _ => false

def success? : ExecResult α → Option α
  | success a => some a
  | _ => none

def exception? : ExecResult α → Option ExceptionDescription
  | exception d => some d
  | _ => none

end ExecResult

/-- What a task on a debuggee thread ends with: the object it gave, or none for null and for no
value at all. -/
abbrev Outcome := ExecResult (Option ObjectRef)

end Debugger
