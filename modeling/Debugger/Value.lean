import Debugger.Decimal.Shortest
import Debugger.Text.Quoted
/-!
# Values of the debuggee

A debuggee value is nothing, one of eight kinds of primitive, or a reference to an object of its
heap. Primitives hold exactly the words of their kind, so a value that was shown can be read back
and two values are equal when the debuggee could not tell them apart.

## 1. Kinds

Each kind of primitive has a name in the debuggee's declarations and a holder class, the
one-field class that carries a primitive result where only objects can go.

## 2. Values

What may be passed where a type is declared is decided by the shape of the value alone: a
primitive fits its own kind, null fits any declared name that is no primitive kind, and an object
fits its own class and `Object`.

## 3. Text

Two spellings of a value: the one a literal has (`display`), and the one a stack listing shows
(`describe`), which names the shape as well.
-/

namespace Debugger

open Decimal (Single Double)

/-! ## 1. Kinds -/

/-- The kinds of primitive value a debuggee has. -/
inductive PrimitiveKind
  | boolean | byte | short | int | long | float | double | char
  deriving DecidableEq, Repr

namespace PrimitiveKind

/-- All kinds, in the order in which their holder classes are loaded. -/
def all : List PrimitiveKind := [boolean, byte, short, int, long, float, double, char]

/-- The name of a kind in a declaration. -/
def typeName : PrimitiveKind → String
  | boolean => "boolean"
  | byte => "byte"
  | short => "short"
  | int => "int"
  | long => "long"
  | float => "float"
  | double => "double"
  | char => "char"

/-- The kind a declaration names, if it names one. -/
def named? (name : String) : Option PrimitiveKind := all.find? fun k => k.typeName == name

/-- The class of the single-field holder that a result of this kind is boxed into. -/
def holderClass : PrimitiveKind → String
  | boolean => "tether.runtime.BooleanResult"
  | byte => "tether.runtime.ByteResult"
  | short => "tether.runtime.ShortResult"
  | int => "tether.runtime.IntResult"
  | long => "tether.runtime.LongResult"
  | float => "tether.runtime.FloatResult"
  | double => "tether.runtime.DoubleResult"
  | char => "tether.runtime.CharResult"

theorem mem_all (k : PrimitiveKind) : k ∈ all := by cases k <;> decide

theorem named?_typeName (k : PrimitiveKind) : named? k.typeName = some k := by
  cases k <;> decide

end PrimitiveKind

/-- A primitive value of one of the kinds. -/
inductive Primitive
  | boolean (value : Bool)
  | byte (value : Int8)
  | short (value : Int16)
  | int (value : Int32)
  | long (value : Int64)
  | float (value : Single)
  | double (value : Double)
  | char (value : Char)
  deriving DecidableEq, Repr

/-- The kind of a primitive value. -/
def Primitive.kind : Primitive → PrimitiveKind
  | boolean _ => .boolean
  | byte _ => .byte
  | short _ => .short
  | int _ => .int
  | long _ => .long
  | float _ => .float
  | double _ => .double
  | char _ => .char

/-- The name of the kind of a primitive value. -/
def Primitive.typeName (p : Primitive) : String := p.kind.typeName

/-- What a field of this kind holds before anything is stored in it. -/
def PrimitiveKind.default : PrimitiveKind → Primitive
  | boolean => .boolean false
  | byte => .byte 0
  | short => .short 0
  | int => .int 0
  | long => .long 0
  | float => .float ⟨0⟩
  | double => .double ⟨0⟩
  | char => .char '\x00'

theorem PrimitiveKind.kind_default (k : PrimitiveKind) : k.default.kind = k := by
  cases k <;> rfl

/-! ## 2. Values -/

/-- The number of an object in the debuggee's heap. Like the numbers of threads these are counted in
a word of 64 bits, and the bound on them is the same. -/
abbrev ObjectId := Nat

/-- A reference to an object, with the class it had when the reference was made. -/
structure ObjectRef where
  id : ObjectId
  runtimeType : String
  deriving DecidableEq, Repr

/-- A value of the debuggee. `void` is what a body without a result gives. -/
inductive Value
  | null
  | void
  | primitive (p : Primitive)
  | object (o : ObjectRef)
  deriving DecidableEq, Repr

namespace Value

/-- The name of a value's type; the two empty shapes have names of their own. -/
def typeName : Value → String
  | null => "null"
  | void => "void"
  | primitive p => p.typeName
  | object o => o.runtimeType

/-- The object a value refers to. -/
def object? : Value → Option ObjectRef
  | object o => some o
  | _ => none

/-- The primitive a value is. -/
def primitive? : Value → Option Primitive
  | primitive p => some p
  | _ => none

/-- The number of a value of the kind `int`. -/
def int? : Value → Option Int32
  | primitive (.int i) => some i
  | _ => none

/-- An `int` value. -/
def ofInt (i : Int32) : Value := primitive (.int i)

/-- Whether a value may be passed where the type `declared` is expected. -/
def fits (v : Value) (declared : String) : Bool :=
  match v with
  | void => false
  | null => (PrimitiveKind.named? declared).isNone
  | primitive p => p.typeName == declared
  | object o => declared == "Object" || o.runtimeType == declared

/-- What a field of a declared type holds before anything is stored in it. -/
def defaultOf (declared : String) : Value :=
  match PrimitiveKind.named? declared with
  | some k => primitive k.default
  | none => null

end Value

/-! ## 3. Text -/

/-- The text of a primitive as a literal has it: a long ends in `L`, a single-precision number in
`f`, a character stands between single quotes. -/
def Primitive.display : Primitive → String
  | boolean b => if b then "true" else "false"
  | byte i => toString i.toInt
  | short i => toString i.toInt
  | int i => toString i.toInt
  | long i => toString i.toInt ++ "L"
  | float x => x.show ++ "f"
  | double x => x.show
  | char c => String.ofList ('\'' :: Text.escapePlain c ++ ['\''])

/-- The text of a primitive in a stack listing, with its kind around it. -/
def Primitive.describe : Primitive → String
  | boolean b => if b then "Boolean(true)" else "Boolean(false)"
  | byte i => "Byte(" ++ toString i.toInt ++ ")"
  | short i => "Short(" ++ toString i.toInt ++ ")"
  | int i => "Int(" ++ toString i.toInt ++ ")"
  | long i => "Long(" ++ toString i.toInt ++ ")"
  | float x => "Float(" ++ x.show ++ ")"
  | double x => "Double(" ++ x.show ++ ")"
  | char c => "Char(" ++ Text.showQuotedChar c ++ ")"

/-- The text of a value in a stack listing. -/
def Value.describe : Value → String
  | null => "Null"
  | void => "Void"
  | primitive p => "Primitive(" ++ p.describe ++ ")"
  | object o =>
    "Object(" ++ Text.showParts "ObjectRef"
      [("id", toString o.id), ("runtime_type", Text.showText o.runtimeType)] ++ ")"

end Debugger
