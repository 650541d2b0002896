import Debugger.Text.Reader
/-!
# Names and strings in a document

A string stands between quotes or between apostrophes. Between quotes a backslash starts an escape;
between apostrophes every character stands for itself. Either mark written three times lets the
string go on over line ends.

## 1. White space

## 2. Escapes

## 3. Strings

## 4. Names
-/

namespace Debugger.Settings.Reader

open Text (Reader)
open Text.Reader

/-! ## 1. White space -/

/-- Whether a character may stand in a comment or, its own marks apart, in a string. The only
control character among them is the tab. -/
def isPlain (c : Char) : Bool := c = '\t' || 0x20 ≤ c.val && c.val ≠ 0x7f

def isBlank (c : Char) : Bool := c = ' ' || c = '\t'

/-- The end of a line that is not the last. -/
def newline : Reader Unit := char '\n' <|> chars "\r\n"

def blanks : Reader Unit := do let _ ← charsWhile isBlank

/-- A comment, up to the end of its line. -/
def comment : Reader Unit := do
  char '#'
  let _ ← charsWhile isPlain

/-- What may stand between the parts of an array. -/
def gap : Reader Unit := do
  let _ ← many ((do let _ ← charWhere isBlank) <|> newline <|> comment)

/-- The end of a line, with what may stand before it. -/
def endOfLine : Reader Unit := do
  blanks
  let _ ← maybe comment
  newline <|> atEnd

/-! ## 2. Escapes -/

/-- The value of a digit in the number system of a base. -/
def digitValue? (base : Nat) (c : Char) : Option Nat :=
  let value :=
    if c.isDigit then c.toNat - '0'.toNat
    else if 'a' ≤ c && c ≤ 'f' then c.toNat - 'a'.toNat + 10
    else if 'A' ≤ c && c ≤ 'F' then c.toNat - 'A'.toNat + 10
    else 16
  if value < base then some value else none

/-- The number that digits make. -/
def ofDigits (base : Nat) (cs : List Char) : Nat :=
  cs.foldl (fun n c => base * n + (digitValue? base c).getD 0) 0

/-- As many digits as told, in the number system of a base. -/
def exactly (base count : Nat) : Reader Nat := do
  let cs ← (List.replicate count ()).mapM fun _ =>
    charWhere fun c => (digitValue? base c).isSome
  return ofDigits base cs

/-- The character of a number of so many hexadecimal digits. -/
def scalar (count : Nat) : Reader Char := do
  let n ← exactly 16 count
  if n.isValidChar then return Char.ofNat n else failure

/-- A backslash and what it makes a character of. -/
def escape : Reader Char := do
  char '\\'
  match ← charWhere fun _ => true with
  | 'b' => return '\x08'
  | 't' => return '\t'
  | 'n' => return '\n'
  | 'f' => return '\x0c'
  | 'r' => return '\r'
  | '"' => return '"'
  | '\\' => return '\\'
  | 'u' => scalar 4
  | 'U' => scalar 8
  | _ => failure

/-! ## 3. Strings -/

/-- A string on one line, between quotes. -/
def basicString : Reader String := do
  char '"'
  let cs ← many (charWhere (fun c => isPlain c && c ≠ '"' && c ≠ '\\') <|> escape)
  char '"'
  return String.ofList cs

/-- A string on one line, between apostrophes. -/
def literalString : Reader String := do
  char '\''
  let cs ← charsWhile fun c => isPlain c && c ≠ '\''
  char '\''
  return String.ofList cs

/-- A line end, which a string always holds in the same form. -/
def lineEnd : Reader (List Char) := do
  newline
  return ['\n']

/-- One or two marks, too few to end a string of several lines. -/
def loneMarks (mark : Char) : Reader (List Char) := do
  let cs ← charsWhile (· = mark)
  if cs.length = 1 || cs.length = 2 then return cs else failure

/-- The three marks that end a string of several lines. Up to two before them are its own. -/
def closingMarks (mark : Char) : Reader (List Char) := do
  let cs ← charsWhile (· = mark)
  if 3 ≤ cs.length && cs.length ≤ 5 then return cs.drop 3 else failure

/-- A string between threefold marks, the line end right after the first of them left out. -/
def multiline (mark : Char) (piece : Reader (List Char)) : Reader String := do
  chars (String.ofList [mark, mark, mark])
  let _ ← maybe newline
  let pieces ← many (piece <|> lineEnd <|> loneMarks mark)
  return String.ofList (pieces.flatten ++ (← closingMarks mark))

/-- A backslash at the end of a line, which takes away the white space up to the next text. -/
def continuation : Reader (List Char) := do
  char '\\'
  blanks
  newline
  let _ ← many ((do let _ ← charWhere isBlank) <|> newline)
  return []

/-- A string of several lines, between quotes. -/
def multilineBasic : Reader String :=
  multiline '"' ((do return [← charWhere fun c => isPlain c && c ≠ '"' && c ≠ '\\'])
    <|> continuation <|> (do return [← escape]))

/-- A string of several lines, between apostrophes. -/
def multilineLiteral : Reader String :=
  multiline '\'' (do return [← charWhere fun c => isPlain c && c ≠ '\''])

/-- A string in any of the four forms. -/
def anyString : Reader String := do
  match ← get with
  | '"' :: '"' :: '"' :: _ => multilineBasic
  | '\'' :: '\'' :: '\'' :: _ => multilineLiteral
  | '"' :: _ => basicString
  | _ => literalString

/-! ## 4. Names -/

/-- Whether a character may stand in a name without quotes. -/
def isBareChar (c : Char) : Bool :=
  c.isDigit || ('a' ≤ c && c ≤ 'z') || ('A' ≤ c && c ≤ 'Z') || c = '_' || c = '-'

/-- A name: bare, or a string on one line. -/
def simpleName : Reader String := do
  match ← peek with
  | some '"' => basicString
  | some '\'' => literalString
  | _ =>
    match ← charsWhile isBareChar with
    | [] => failure
    | cs => return String.ofList cs

/-- How deep tables and arrays may lie in each other. -/
def depthLimit : Nat := 80

/-- A dotted name, its last part apart. -/
def name : Reader (List String × String) := do
  let part : Reader String := do
    blanks
    let part ← simpleName
    blanks
    return part
  let parts ← separated part (char '.')
  if parts.length < depthLimit then return (parts.dropLast, ← ofOption parts.getLast?) else failure

end Debugger.Settings.Reader
