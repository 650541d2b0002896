import Debugger.Text.Printable
/-!
# Quoted and escaped text

Three spellings of characters that cannot stand for themselves.

## 1. Shown

What the debugger prints between quotes when it shows a value or an object's type name, and how
the parts of a value are put together. Every printable scalar stands for itself; the quote in use,
the backslash and the common controls have two-character escapes, and anything else is a
hexadecimal scalar between braces.

## 2. Plain

The spelling of a character value in a field listing: as above, but only ASCII stands for itself
and both quotes are escaped, so that the text survives any terminal.

## 3. Read

What the reader of literals takes back: the seven two-character escapes and nothing else. A
hexadecimal escape is not among them, so the two printers can write what the reader refuses.
-/

namespace Debugger.Text

/-- A scalar by its number in lower-case hexadecimal, between braces. -/
def hexEscape (c : Char) : List Char :=
  ['\\', 'u', '\x7b'] ++ Nat.toDigits 16 c.toNat ++ ['\x7d']

/-! ## 1. Shown -/

/-- A scalar inside text that is quoted by `quote`. -/
def showChar (quote c : Char) : List Char :=
  if c = '\x00' then ['\\', '0']
  else if c = '\t' then ['\\', 't']
  else if c = '\r' then ['\\', 'r']
  else if c = '\n' then ['\\', 'n']
  else if c = '\\' || c = quote then ['\\', c]
  else if extendsGrapheme c || !isPrintable c then hexEscape c
  else [c]

/-- A text between double quotes. -/
def showText (s : String) : String :=
  String.ofList ('"' :: s.toList.flatMap (showChar '"') ++ ['"'])

/-- A character between single quotes. -/
def showQuotedChar (c : Char) : String :=
  String.ofList ('\'' :: showChar '\'' c ++ ['\''])

/-- A value made of parts, by its name and theirs. -/
def showParts (name : String) (parts : List (String × String)) : String :=
  let shown := parts.map fun (part, text) => part ++ ": " ++ text
  name ++ " \x7b " ++ ", ".intercalate shown ++ " \x7d"

/-- A value that may be missing. -/
def showOption : Option String → String
  | some text => "Some(" ++ text ++ ")"
  | none => "None"

/-- Values in a list. -/
def showList (texts : List String) : String := "[" ++ ", ".intercalate texts ++ "]"

/-! ## 2. Plain -/

/-- A character in ASCII only. -/
def escapePlain (c : Char) : List Char :=
  if c = '\t' then ['\\', 't']
  else if c = '\r' then ['\\', 'r']
  else if c = '\n' then ['\\', 'n']
  else if c = '\'' || c = '"' || c = '\\' then ['\\', c]
  else if 0x20 ≤ c.val && c.val ≤ 0x7e then [c]
  else hexEscape c

/-! ## 3. Read -/

/-- The character that a backslash followed by `c` stands for. -/
def escaped? (c : Char) : Option Char :=
  if c = 'n' then some '\n'
  else if c = 't' then some '\t'
  else if c = 'r' then some '\r'
  else if c = '0' then some '\x00'
  else if c = '\\' || c = '"' || c = '\'' then some c
  else none

/-- The text that the inside of a quoted literal spells; refused when a backslash stands last or
before a character that has no escape. -/
def unescape? : List Char → Option (List Char)
  | [] => some []
  | c :: rest =>
    if c = '\\' then
      match rest with
      | [] => none
      | d :: rest => do
        let e ← escaped? d
        let es ← unescape? rest
        return e :: es
    else (unescape? rest).map (c :: ·)

end Debugger.Text
