import Debugger.Decimal.Reading
import Debugger.Error
import Debugger.Text.Alphanumeric
import Debugger.Text.Blank
/-!
# Literals

What a user types to name a value: null, a truth value, a string, a character, a number, a handle
or the name of a registered object. The first character decides which of them is meant, so the
forms do not overlap, and white space around a literal does not count.

## 1. Numbers

The last character gives the kind: `L` a long, `f` and `d` the two floating-point kinds. Without
one, a point or an exponent makes a number a double, and anything else is an int. The suffix is
looked at first, so `1e3f` has single precision.

## 2. Literals
-/

namespace Debugger

open Decimal (Single Double)

/-- A value as it is typed. -/
inductive Literal
  | null
  | string (text : String)
  | primitive (p : Primitive)
  | handle (h : Handle)
  | name (text : String)
  deriving DecidableEq, Repr

namespace Literal

/-! ## 1. Numbers -/

/-- The text before its last character, if that is one of the given ones. -/
def dropSuffix? (suffixes : List Char) (cs : List Char) : Option (List Char) :=
  match cs.getLast? with
  | some c => if suffixes.contains c then some cs.dropLast else none
  | none => none

/-- A number, its kind chosen by its suffix or by its shape. -/
def number? (cs : List Char) : Option Primitive :=
  match dropSuffix? ['L', 'l'] cs with
  | some digits => (Text.readSigned? 64 digits).map fun i => .long (Int64.ofInt i)
  | none =>
    match dropSuffix? ['f', 'F'] cs with
    | some digits => (Single.read? digits).map .float
    | none =>
      match dropSuffix? ['d', 'D'] cs with
      | some digits => (Double.read? digits).map .double
      | none =>
        if cs.any fun c => c = '.' || c = 'e' || c = 'E' then (Double.read? cs).map .double
        else (Text.readSigned? 32 cs).map fun i => .int (Int32.ofInt i)

/-! ## 2. Literals -/

/-- The text between an opening quote, already taken off, and a closing one. -/
def quoted? (quote : Char) (cs : List Char) : Option (List Char) := do
  Text.unescape? (← dropSuffix? [quote] cs)

/-- The character that a text of one character is. -/
def only? : List Char → Option Char
  | [c] => some c
  | _ => none

/-- Whether a character may stand in the name of an object. -/
def isNameChar (c : Char) : Bool := Text.isAlphanumeric c || c = '_' || c = '$'

/-- A literal without white space around it. -/
def ofTrimmed? (cs : List Char) : Option Literal :=
  match cs with
  | [] => none
  | first :: rest =>
    if cs = "null".toList then some null
    else if cs = "true".toList then some (primitive (.boolean true))
    else if cs = "false".toList then some (primitive (.boolean false))
    else if first = '"' then (quoted? '"' rest).map fun s => string (String.ofList s)
    else if first = '\'' then
      ((quoted? '\'' rest).bind only?).map fun c => primitive (.char c)
    else if first = '@' then
      (Text.readUnsigned? 64 rest).map fun n => handle ⟨UInt64.ofNat n⟩
    else if first.isDigit || first = '-' || first = '.' then (number? cs).map primitive
    else if cs.all isNameChar then some (name (String.ofList cs))
    else none

/-- Reads a literal. What is refused is quoted without the white space around it. -/
def parse (text : String) : Except DebugError Literal :=
  let cs := Text.trim text.toList
  match ofTrimmed? cs with
  | some l => .ok l
  | none => .error (.invalidLiteral (String.ofList cs))

end Literal

end Debugger
