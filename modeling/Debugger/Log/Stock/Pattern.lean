import Debugger.Text.Alphanumeric
import Debugger.Text.Blank
import Debugger.Text.Reader
/-!
# Patterns for the values of fields

The value that a directive asks of a field may be a regular expression. It is only looked at for
whether it is one: values are matched inside spans, and the debugger opens none.

A pattern ends before the brace that closes its directive, so no form that needs a closing brace can
be completed. It is compiled without the tables of the standard: in the Unicode mode, which every
pattern begins in, there are neither class escapes nor word boundaries nor a way to ignore case. Out
of that mode texts are searched byte by byte, and nothing may match a byte that is not ASCII.

## 1. Modes

## 2. Depth

The parts of a pattern lie inside each other to a limited depth. What stands for characters or a
place by itself has depth zero, and so does nothing at all. Several parts in a row are one deeper
than the deepest of them, and so are several alternatives; one part alone is no row. A repetition, a
group and a class are each one deeper than what is in them, and an operation on two classes is one
deeper than the deeper of them.

## 3. Escapes

## 4. Classes

## 5. Groups

## 6. Patterns
-/

namespace Debugger.Log.Pattern

open Text (Reader)
open Text.Reader

/-! ## 1. Modes -/

/-- How a part of a pattern is read. -/
structure Mode where
  unicode : Bool := true
  ignoreCase : Bool := false
  /-- Whether white space and comments stand between the parts without counting. -/
  spaced : Bool := false
  deriving DecidableEq, Repr

/-- The letters that turn something on, before a dash, or off, after it. -/
def flagLetters : List Char := ['i', 'm', 's', 'U', 'u', 'R', 'x']

/-- The mode after some flags. -/
def Mode.set (m : Mode) (flags : List Char) : Mode :=
  let on := flags.takeWhile (· ≠ '-')
  let now (letter : Char) (before : Bool) : Bool :=
    if letter ∈ flags then letter ∈ on else before
  ⟨now 'u' m.unicode, now 'i' m.ignoreCase, now 'x' m.spaced⟩

/-- A text without the white space and the comments in front. A comment goes from a number sign to
the end of the line. -/
def dropSpace (inComment : Bool) : List Char → List Char
  | [] => []
  | c :: cs =>
    if inComment then dropSpace (c ≠ '\n') cs
    else if Text.isBlank c then dropSpace false cs
    else if c = '#' then dropSpace true cs
    else c :: cs

/-- Passes over what does not count. -/
def skip (m : Mode) : Reader Unit := do if m.spaced then modify (dropSpace false)

/-- Fails unless something holds. -/
def require (condition : Bool) : Reader Unit := do if !condition then failure

/-- Whether characters can be told from each other in a mode. Even those that are no letters need
the tables where case is ignored. -/
def Mode.hasCharacters (m : Mode) : Bool := !(m.unicode && m.ignoreCase)

/-! ## 2. Depth -/

/-- How deep a pattern may be. -/
def maxDepth : Nat := 250

/-- The depth of parts together, each given by its own. -/
def together : List Nat → Nat
  | [] => 0
  | [depth] => depth
  | depths => depths.foldl max 0 + 1

/-! ## 3. Escapes -/

/-- What an escape, or a character by itself, stands for. -/
inductive Atom
  | literal (c : Char)
  /-- Any character of a class. -/
  | oneOf
  /-- A place between two characters. -/
  | place
  deriving DecidableEq, Repr

/-- A character by its number in so many hexadecimal digits. A number of two digits is a byte out of
the Unicode mode. -/
def numbered (m : Mode) (count : Nat) : Reader Atom := do
  let digits ← (List.replicate count ()).mapM fun _ => do
    skip m
    charWhere fun c => c.isDigit || ('a' ≤ c.toLower && c.toLower ≤ 'f')
  skip m
  let n := digits.foldl (fun n c =>
    16 * n + if c.isDigit then c.toNat - 48 else c.toLower.toNat - 87) 0
  require (decide n.isValidChar && (m.unicode || 2 < count || n < 0x80))
  return .literal (Char.ofNat n)

/-- What comes after a backslash. Punctuation stands for itself; a digit would point back to a
group, which patterns cannot do. -/
def escape (m : Mode) : Reader Atom := do
  match ← charWhere fun _ => true with
  | 'a' => return .literal '\x07'
  | 'f' => return .literal '\x0c'
  | 'n' => return .literal '\n'
  | 'r' => return .literal '\r'
  | 't' => return .literal '\t'
  | 'v' => return .literal '\x0b'
  | 'x' => numbered m 2
  | 'u' => numbered m 4
  | 'U' => numbered m 8
  | 'A' | 'z' => return .place
  | 'b' | 'B' | '<' | '>' =>
    require !m.unicode
    return .place
  | 'd' | 's' | 'w' =>
    require !m.unicode
    return .oneOf
  | c =>
    require (c.val < 0x80 && !c.isAlphanum)
    return .literal c

/-! ## 4. Classes -/

/-- The classes that have names. -/
def classNames : List String :=
  ["alnum", "alpha", "ascii", "blank", "cntrl", "digit", "graph", "lower", "print", "punct",
    "space", "upper", "word", "xdigit"]

/-- A class by its name between colons in brackets of its own. Says whether it is turned around. -/
def namedClass : Reader Bool := do
  chars "[:"
  let negated := (← maybe (char '^')).isSome
  let name ← charsWhile (· ≠ ':')
  require (classNames.contains (String.ofList name))
  chars ":]"
  return negated

/-- The inside of a class as far as it is read, by depths: the operands so far, if an operator came
after them, and the members since. -/
structure Inside where
  operands : Option Nat := none
  members : List Nat := []

/-- The inside with one more member. -/
def Inside.add (i : Inside) (depth : Nat) : Inside := { i with members := depth :: i.members }

/-- How deep the inside is. -/
def Inside.depth (i : Inside) : Nat :=
  match i.operands with
  | none => together i.members
  | some operands => max operands (together i.members) + 1

/-- The start of a class, up to where a closing bracket would end it. Dashes there are members, or
else a closing bracket is one. -/
def openClass (m : Mode) : Reader Inside := do
  char '['
  skip m
  if (← maybe (char '^')).isSome then
    require m.unicode
    skip m
  let dashes ← many do
    char '-'
    skip m
  let bracket ← if dashes.isEmpty then maybe (char ']') else pure none
  let members := dashes ++ bracket.toList
  require (members.isEmpty || m.hasCharacters)
  return ⟨none, members.map fun _ => 0⟩

/-- A character of a class, or a class by an escape. -/
def classAtom (m : Mode) : Reader Atom := do
  match ← charWhere fun _ => true with
  | '\\' => escape m
  | c => return .literal c

/-- The character that an end of a range has to be. -/
def rangeEnd (m : Mode) : Atom → Reader Char
  | .literal c => do
    require (m.unicode || c.val < 0x80)
    return c
  | _ => failure

/-- The character that decides whether a dash makes a range. White space does not count, nor does
the number sign of a comment; but the comment itself does. -/
def deciding (inComment : Bool) : List Char → Option Char
  | [] => none
  | c :: cs =>
    if Text.isBlank c then deciding inComment cs
    else if c = '#' && !inComment then deciding true cs
    else some c

/-- One member of a class, or a range of them. A dash makes no range before the end of the class or
before another dash. -/
def classMember (m : Mode) : Reader Unit := do
  require m.hasCharacters
  let first ← classAtom m
  skip m
  match ← get with
  | '-' :: rest =>
    let after := if m.spaced then deciding false rest else rest.head?
    if after ≠ some ']' ∧ after ≠ some '-' then
      set rest
      skip m
      let low ← rangeEnd m first
      let high ← rangeEnd m (← classAtom m)
      require (low ≤ high)
      return
  | _ => pure ()
  if first ≠ .oneOf then
    let _ ← rangeEnd m first

/-- The rest of a class, with what is read of it and of the classes around it. Gives its depth. Each
of at most `fuel` moves takes something. -/
def classRest (m : Mode) : (fuel : Nat) → (inside : Inside) → (around : List Inside) → Reader Nat
  | 0, _, _ => failure
  | fuel + 1, inside, around => do
    skip m
    match ← get with
    | '[' :: _ =>
      match ← maybe namedClass with
      | some negated =>
        require (m.hasCharacters && (m.unicode || !negated))
        classRest m fuel (inside.add 0) around
      | none => classRest m fuel (← openClass m) (inside :: around)
    | ']' :: rest =>
      set rest
      let depth := inside.depth + 1
      match around with
      | [] => return depth
      | next :: around => classRest m fuel (next.add depth) around
    | '&' :: '&' :: rest | '-' :: '-' :: rest | '~' :: '~' :: rest =>
      set rest
      classRest m fuel ⟨some inside.depth, []⟩ around
    | _ =>
      classMember m
      classRest m fuel (inside.add 0) around

/-- A class between brackets. Gives its depth. Nothing is wrong with ignoring the case of no
characters. -/
def bracketed (m : Mode) : Reader Nat := do
  let inside ← openClass m
  classRest m ((← get).length + 1) inside []

/-! ## 5. Groups -/

/-- Whether a text can name a group. It starts with a letter, and a number is none. -/
def isGroupName : List Char → Bool
  | [] => false
  | c :: cs =>
    (c = '_' || Text.isAlphabetic c)
      && cs.all fun c => Text.isAlphanumeric c || c ∈ ['_', '.', '[', ']']

/-- What an opening parenthesis begins. -/
inductive Opening
  /-- A group, which may have a name and a mode of its own. -/
  | group (name : Option String) (mode : Mode)
  /-- Nothing: the mode of the group around is another from here on. -/
  | switch (mode : Mode)

/-- Flags that turn things on or off, none of them twice. -/
def flags : Reader (List Char) := do
  let flags ← charsWhile fun c => c ≠ ':' && c ≠ ')'
  require (flags.all (fun c => c = '-' || c ∈ flagLetters) && decide flags.Nodup
    && flags.getLast? ≠ some '-')
  return flags

/-- The name of a group, up to the bracket that ends it. -/
def groupName : Reader String := do
  let name ← charsWhile (· ≠ '>')
  char '>'
  require (isGroupName name)
  return String.ofList name

/-- An opening parenthesis, with what says how the group is read. -/
def opening (m : Mode) : Reader Opening := do
  char '('
  skip m
  match ← get with
  | '?' :: 'P' :: '<' :: rest | '?' :: '<' :: rest =>
    set rest
    return .group (some (← groupName)) m
  | '?' :: rest =>
    set rest
    let flags ← flags
    if (← maybe (char ':')).isSome then return .group none (m.set flags)
    char ')'
    require !flags.isEmpty
    return .switch (m.set flags)
  | _ => return .group none m

/-! ## 6. Patterns -/

/-- A group that is open, or the whole pattern, as far as it is read. -/
structure Scope where
  mode : Mode := {}
  /-- The depths of the alternatives that are complete. -/
  alternatives : List Nat := []
  /-- The depths of the parts of the alternative after them, the last one first. -/
  parts : List Nat := []
  /-- Whether the last part is something that a repetition could repeat. -/
  operand : Bool := false

namespace Scope

/-- The scope with one more part, which can be repeated. -/
def add (s : Scope) (depth : Nat) : Scope := { s with parts := depth :: s.parts, operand := true }

/-- The scope with another mode from here on. The switch is a part itself. -/
def switch (s : Scope) (mode : Mode) : Scope :=
  { s with mode, parts := 0 :: s.parts, operand := false }

/-- The scope at the start of another alternative. -/
def alternate (s : Scope) : Scope :=
  { s with alternatives := together s.parts :: s.alternatives, parts := [], operand := false }

/-- The scope with its last part repeated, if it can be. -/
def repeat? (s : Scope) : Option Scope :=
  match s.parts with
  | depth :: parts => if s.operand then some { s with parts := (depth + 1) :: parts } else none
  | [] => none

/-- How deep the scope is. -/
def depth (s : Scope) : Nat :=
  if s.alternatives.isEmpty then together s.parts else together s.alternate.alternatives

end Scope

/-- How far the reading of a pattern has come. -/
structure Progress where
  scope : Scope := {}
  /-- The scopes around, the innermost first. -/
  around : List Scope := []
  /-- The names of groups so far. -/
  names : List String := []

/-- The next part of a pattern. -/
def part (p : Progress) : Reader Progress := do
  let mode := p.scope.mode
  let operand (depth : Nat) : Progress := { p with scope := p.scope.add depth }
  match ← get with
  | '(' :: _ =>
    match ← opening mode with
    | .switch mode => return { p with scope := p.scope.switch mode }
    | .group name mode =>
      require (name.all fun n => !p.names.contains n)
      return ⟨{ mode }, p.scope :: p.around, name.toList ++ p.names⟩
  | ')' :: rest =>
    set rest
    match p.around with
    | [] => failure
    | next :: around => return { p with scope := next.add (p.scope.depth + 1), around }
  | '[' :: _ => return operand (← bracketed mode)
  | '|' :: rest =>
    set rest
    return { p with scope := p.scope.alternate }
  | '?' :: rest | '*' :: rest | '+' :: rest =>
    let scope ← ofOption p.scope.repeat?
    set rest
    let _ ← maybe (char '?')
    return { p with scope }
  | '{' :: _ => failure
  | '.' :: rest =>
    require mode.unicode
    set rest
    return operand 0
  | '^' :: rest | '$' :: rest =>
    set rest
    return operand 0
  | '\\' :: rest =>
    set rest
    match ← escape mode with
    | .literal _ => require mode.hasCharacters
    | _ => pure ()
    return operand 0
  | _ =>
    require mode.hasCharacters
    let _ ← charWhere fun _ => true
    return operand 0

/-- All parts of a pattern, in at most `fuel` moves. -/
def parts : (fuel : Nat) → Progress → Reader Progress
  | 0, _ => failure
  | fuel + 1, p => do
    skip p.scope.mode
    if (← get).isEmpty then return p else parts fuel (← part p)

/-- Whether a text is a pattern. Every part of one takes a character. -/
def accepts (text : String) : Bool :=
  match (parts (text.length + 1) {}).readAll? text with
  | some p => p.around.isEmpty && p.scope.depth ≤ maxDepth
  | none => false

end Debugger.Log.Pattern
