import Debugger.Settings.Document.Number
/-!
# Reading a document

Values, the lines that hold them, and the document they make.

## 1. Values

Arrays and tables on one line hold values again. How deep they may lie in each other is limited, and
a value is read with the depth that is left.

## 2. Lines

## 3. Documents
-/

namespace Debugger.Settings

namespace Reader

open Text (Reader)
open Text.Reader

/-! ## 1. Values -/

/-- Values between brackets. They may stand on lines of their own, and a comma may follow the
last. -/
def array (item : Reader Node) : Reader Node := do
  char '['
  let padded : Reader Node := do
    gap
    let value ← item
    gap
    return value
  let items ← maybe do
    let items ← separated padded (char ',')
    let _ ← maybe (char ',')
    return items
  gap
  char ']'
  return .array (items.getD [])

/-- A name, an equals sign and a value. -/
def pair (value : Reader Node) : Reader (List String × String × Node) := do
  let (path, name) ← name
  char '='
  blanks
  let value ← value
  blanks
  return (path, name, value)

/-- A table between braces. All of it stands on one line, and no comma follows the last pair. -/
def sealedTable (value : Reader Node) : Reader Node := do
  char '\x7b'
  let pairs ← maybe (separated (pair value) (char ','))
  blanks
  char '\x7d'
  ofOption (Node.ofPairs? (pairs.getD []))

/-- A value that holds no others, or else what the given reader takes. -/
def valueOr (holder : Reader Node) : Reader Node := do
  match ← peek with
  | some '"' | some '\'' => return .string (← anyString)
  | some 't' => do chars "true"; return .boolean true
  | some 'f' => do chars "false"; return .boolean false
  | some '[' | some '\x7b' => holder
  | _ => number

/-- A value, in which others lie so deep at most. -/
def value : Nat → Reader Node
  | 0 => valueOr failure
  | depth + 1 => valueOr (array (value depth) <|> sealedTable (value depth))

/-! ## 2. Lines -/

/-- The name of a table between brackets. -/
def header : Reader Statement :=
  (do chars "[["
      let (path, name) ← name
      chars "]]"
      return .element path name)
    <|> do
      char '['
      let (path, name) ← name
      char ']'
      return .header path name

/-- A line and what it says, if it says anything. At the end of the text there is none. -/
def line : Reader (Option Statement) := do
  blanks
  let statement ←
    match ← peek with
    | none => failure
    | some '#' | some '\r' | some '\n' => pure none
    | some '[' => do pure (some (← header))
    | some _ => do
      let (path, name, value) ← pair (value (depthLimit - 1))
      pure (some (.entry path name value))
  endOfLine
  return statement

/-- All lines, after the mark that some editors put in front. -/
def lines : Reader (List Statement) := do
  let _ ← maybe (char '\ufeff')
  let statements ← many line
  blanks
  return statements.filterMap id

end Reader

/-! ## 3. Documents -/

/-- The document that a text is. -/
def Entries.read? (text : String) : Option Entries :=
  (Reader.lines.readAll? text).bind Entries.ofStatements?

end Debugger.Settings
