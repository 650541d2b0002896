import Debugger.Decimal.Reading
import Debugger.Decimal.Shortest
import Debugger.Log.Level
import Debugger.Log.Stock.Pattern
import Debugger.Text.Bytes
import Debugger.Text.Number
/-!
# Directives of the stock library

How the library that runs are given reads and writes a directive. It is a bare level for everything,
a target with a level, or a target alone for everything it has to say. In brackets after the target
it may be limited to a span, and in braces inside the brackets to what has a field, or a field with
a certain value. A level is written by its word, in any case, or by its number.

## 1. Conditions on fields

## 2. Directives

The parts of a directive are found in its text without the white space around it, and taken from the
text as it stands, as many bytes from the front; so a word by itself keeps its white space, and a
level with white space next to it is none.

## 3. Order

The more specific directive wins, and comes first among the directives of a filter. Which of two
equally specific ones comes first is settled by their texts and values.
-/

namespace Debugger.Log

/-! ## 1. Conditions on fields -/

/-- What the value of a field has to be. -/
inductive Criterion
  | truth (b : Bool)
  | number (x : Decimal.Double)
  | notANumber
  | natural (n : Nat)
  | integer (i : Int)
  | pattern (text : String)
  deriving DecidableEq, Repr

namespace Criterion

/-- A number of double precision that was read, which may be the one that is none. -/
def ofDouble (x : Decimal.Double) : Criterion :=
  if Decimal.Format.double.decode x.word.toNat = .nan then .notANumber else .number x

/-- A value by its text: a truth value, a number of sixty-four bits, one of double precision, or
else a pattern. -/
def read? (cs : List Char) : Option Criterion :=
  let text := String.ofList cs
  if text = "true" then some (.truth true)
  else if text = "false" then some (.truth false)
  else ((Text.readUnsigned? 64 cs).map natural)
    |>.or ((Text.readSigned? 64 cs).map integer)
    |>.or ((Decimal.Double.read? cs).map ofDouble)
    |>.or (if Pattern.accepts text then some (.pattern text) else none)

/-- A value as it is written. A number is written out in full, with a point only if it has a
fraction. -/
def display : Criterion → String
  | truth b => toString b
  | number x => x.showPlain
  | notANumber => "NaN"
  | natural n => toString n
  | integer i => toString i
  | pattern text => text

/-- The place of a kind of value in the order. -/
def rank : Criterion → Nat
  | truth _ => 0
  | number _ => 1
  | notANumber => 2
  | natural _ => 3
  | integer _ => 4
  | pattern _ => 5

/-- By kind, then by value. The two zeros are one value. -/
def order (a b : Criterion) : Ordering :=
  match a, b with
  | truth a, truth b => compare a b
  | number a, number b => compare a.place b.place
  | natural a, natural b => compare a b
  | integer a, integer b => compare a b
  | pattern a, pattern b => compare a b
  | a, b => compare a.rank b.rank

end Criterion

/-- A field that has to be there, with what its value has to be, if that matters. -/
structure FieldCondition where
  name : String
  value : Option Criterion
  deriving DecidableEq, Repr

namespace FieldCondition

/-- A condition: a name, or a name and a value with an equals sign between them. A second equals
sign ends the value. -/
def read? (cs : List Char) : Option FieldCondition :=
  let name := String.ofList (cs.takeWhile (· ≠ '='))
  match cs.dropWhile (· ≠ '=') with
  | [] => if name.isEmpty then none else some ⟨name, none⟩
  | _ :: value => (Criterion.read? (value.takeWhile (· ≠ '='))).map fun v => ⟨name, some v⟩

/-- A condition as it is written. -/
def display (c : FieldCondition) : String :=
  c.name ++ (c.value.map fun v => "=" ++ v.display).getD ""

/-- A condition on the value counts for more than one without. -/
def order (a b : FieldCondition) : Ordering :=
  (compare a.value.isSome b.value.isSome).then (compare a.name b.name)
    |>.then (match a.value, b.value with
      | some a, some b => a.order b
      | _, _ => .eq)

end FieldCondition

/-! ## 2. Directives -/

/-- A level for a target, for a span of it, for what has a field, or for everything. -/
structure Directive where
  target : Option String
  span : Option String
  field : Option FieldCondition
  level : Level
  deriving DecidableEq, Repr

namespace Directive

/-- A level for everything. -/
def ofLevel (level : Level) : Directive := ⟨none, none, none, level⟩

/-- Whether a directive may start with a character. -/
def startsDirective (c : Char) : Bool :=
  c = '-' || c = ':' || c = '_' || Text.isAlphanumeric c

/-- Why a text cannot be read as a directive. -/
inductive Misreading
  | malformed
  /-- A part would begin or end inside a character. -/
  | splitCharacter
  deriving DecidableEq, Repr

/-- What has to be there for a text to be a directive. -/
def expect {α : Type} : Option α → Except Misreading α
  | some a => .ok a
  | none => .error .malformed

/-- What begins and ends where characters do. -/
def unsplit {α : Type} : Option α → Except Misreading α
  | some a => .ok a
  | none => .error .splitCharacter

/-- The level that a text names, by its word or its number. -/
def readLevel? (cs : List Char) : Option Level :=
  match Text.readUnsigned? 64 cs with
  | some n => Level.all[n]?
  | none => Level.all.find? fun l => l.name.toList == cs.map Char.toLower

/-- The level after an equals sign; nothing there means everything. -/
def levelAfter? (cs : List Char) : Option Level :=
  if cs.isEmpty then some .trace else readLevel? cs

/-- The end of a directive, after the target or the brackets: nothing, or an equals sign and a
level. `rest` begins `place` bytes into the text. -/
def withLevel (whole : List Char) (d : Directive) (place : Nat) (rest : List Char) :
    Except Misreading Directive :=
  match rest with
  | [] => .ok d
  | '=' :: _ => do
    let level ← unsplit (Text.dropBytes? whole (place + 1))
    return { d with level := ← expect (levelAfter? level) }
  | _ => .error .malformed

/-- The rest of a directive from the inside of the brackets on. -/
def inBrackets (whole : List Char) (target : Option String) (place : Nat) (rest : List Char) :
    Except Misreading Directive := do
  let name := rest.takeWhile fun c => c ≠ ']' && c ≠ '\x7b'
  let named := place + Text.byteCount name
  let span : Except Misreading String := do
    return String.ofList (← unsplit (Text.slice? whole place named))
  match rest.drop name.length with
  | ']' :: rest => withLevel whole ⟨target, some (← span), none, .trace⟩ (named + 1) rest
  | '\x7b' :: rest =>
    let span := some (← span) |>.filter (· ≠ "")
    let field := rest.takeWhile (· ≠ '\x7d')
    let closed := named + 1 + Text.byteCount field
    match rest.drop field.length with
    | '\x7d' :: rest =>
      let condition ← unsplit (Text.slice? whole (named + 1) closed)
      let d : Directive := ⟨target, span, some (← expect (FieldCondition.read? condition)), .trace⟩
      match rest with
      | ']' :: rest => withLevel whole d (closed + 2) rest
      | _ => .error .malformed
    | _ => .error .malformed
  | _ => .error .malformed

/-- A directive. A word by itself is a level if it can be one. -/
def parse (cs : List Char) : Except Misreading Directive :=
  let trimmed := Text.trim cs
  match trimmed with
  | [] => .error .malformed
  | '[' :: rest => inBrackets cs none 1 rest
  | c :: _ =>
    if startsDirective c then do
      let name := trimmed.takeWhile fun c => c ≠ '=' && c ≠ '['
      let named := Text.byteCount name
      match trimmed.drop name.length with
      | [] =>
        match readLevel? cs with
        | some level => return ofLevel level
        | none => return ⟨some (String.ofList cs), none, none, .trace⟩
      | rest =>
        let target := some (String.ofList (← unsplit (Text.slice? cs 0 named)))
        match rest with
        | '[' :: rest => inBrackets cs target (named + 1) rest
        | rest => withLevel cs ⟨target, none, none, .trace⟩ named rest
    else .error .malformed

/-- A directive, if the text is one. -/
def read? (cs : List Char) : Option Directive := (parse cs).toOption

/-- A directive as it is written. -/
def display (d : Directive) : String :=
  let field := (d.field.map fun c => "\x7b" ++ c.display ++ "\x7d").getD ""
  let brackets :=
    if d.span.isNone && d.field.isNone then "" else "[" ++ d.span.getD "" ++ field ++ "]"
  if d.target.isNone && d.span.isNone && d.field.isNone then d.level.name
  else d.target.getD "" ++ brackets ++ "=" ++ d.level.name

/-! ## 3. Order -/

/-- How specific a directive is: by the length of its target, then by having a span, then by having
a condition; then by the texts. The level does not count. -/
def order (a b : Directive) : Ordering :=
  compare (a.target.map String.utf8ByteSize) (b.target.map String.utf8ByteSize)
    |>.then (compare a.span.isSome b.span.isSome)
    |>.then (compare a.field.isSome b.field.isSome)
    |>.then (compare a.target b.target)
    |>.then (compare a.span b.span)
    |>.then (match a.field, b.field with
      | some a, some b => a.order b
      | _, _ => .eq)

/-- Whether a directive is about something that happens outside spans: about everything, or about
whatever has a field. -/
def isGeneral (d : Directive) : Bool := d.span.isNone && d.field.all (·.value.isNone)

/-- Whether a directive is about what happens inside a span or with a field. -/
def isLocal (d : Directive) : Bool := d.span.isSome || d.field.isSome

end Directive

end Debugger.Log
