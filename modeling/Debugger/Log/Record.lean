import Debugger.Log.Level
import Debugger.Text.Quoted
/-!
# Log records

What is logged: a message, the part of the program it comes from, how much it matters, and details
by name. A record is written as text or as a JSON object; either is one line, unless a detail brings
line ends of its own into a text.
-/

namespace Debugger.Log

/-- A detail of a record. -/
inductive Detail
  /-- A text that is quoted where it stands among others. -/
  | quoted (text : String)
  | plain (text : String)
  | number (n : Nat)
  | truth (b : Bool)
  deriving DecidableEq, Repr

namespace Detail

/-- A character inside a JSON string. -/
def escape (c : Char) : List Char :=
  if c = '"' || c = '\\' then ['\\', c]
  else if c = '\n' then ['\\', 'n']
  else if c = '\r' then ['\\', 'r']
  else if c = '\t' then ['\\', 't']
  else if c = '\x08' then ['\\', 'b']
  else if c = '\x0c' then ['\\', 'f']
  else if c.val < 0x20 then
    let digits := Nat.toDigits 16 c.toNat
    ['\\', 'u'] ++ List.replicate (4 - digits.length) '0' ++ digits
  else [c]

/-- A text as a JSON string. -/
def quote (s : String) : String := String.ofList ('"' :: s.toList.flatMap escape ++ ['"'])

/-- A detail in a text. -/
def text : Detail → String
  | quoted text => Text.showText text
  | plain text => text
  | number n => toString n
  | truth b => toString b

/-- A detail in a JSON object. -/
def json : Detail → String
  | quoted text | plain text => quote text
  | number n => toString n
  | truth b => toString b

end Detail

/-- Something worth logging. -/
structure Record where
  level : Level
  target : String
  message : String
  details : List (String × Detail) := []
  deriving DecidableEq, Repr

namespace Record

/-- Whether a record has a field. The message is one. -/
def hasField (r : Record) (name : String) : Bool :=
  name = "message" || r.details.any (·.1 = name)

/-- The level as it stands in a record. -/
def levelName (r : Record) : String := String.ofList (r.level.name.toList.map Char.toUpper)

/-- A record as text. -/
def text (r : Record) : String :=
  r.levelName ++ " " ++ r.target ++ ": " ++ r.message
    ++ String.join (r.details.map fun (name, value) => " " ++ name ++ "=" ++ value.text)

/-- Names with values, as a JSON object. -/
def object (fields : List (String × String)) : String :=
  "\x7b" ++ ",".intercalate (fields.map fun (name, value) => Detail.quote name ++ ":" ++ value)
    ++ "\x7d"

/-- A record as a JSON object. -/
def json (r : Record) : String :=
  let details := r.details.map fun (name, value) => (name, value.json)
  object [("level", Detail.quote r.levelName),
    ("fields", object (("message", Detail.quote r.message) :: details)),
    ("target", Detail.quote r.target)]

end Record

end Debugger.Log
