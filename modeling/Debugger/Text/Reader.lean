/-!
# Readers of text

A reader takes what it wants from the front of a text, and gives it back together with the rest; or
it fails, and then the text is as it was before, so another reader may try.

## 1. Characters

## 2. Repetition

A repeated reader has to take something each time. So the length of the text bounds how often it can
succeed, and the repetition ends.
-/

namespace Debugger.Text

/-- Takes a value from the front of a text, or fails. -/
abbrev Reader := StateT (List Char) Option

namespace Reader

variable {α β : Type}

/-- A whole text, from front to end. -/
def readAll? (r : Reader α) (text : String) : Option α :=
  match r.run text.toList with
  | some (a, []) => some a
  | _ => none

/-! ## 1. Characters -/

/-- The character that is next, left where it is. -/
def peek : Reader (Option Char) := do return (← get).head?

/-- The next character, which has to pass a test. -/
def charWhere (p : Char → Bool) : Reader Char := do
  match ← get with
  | c :: rest =>
    set rest
    if p c then return c else failure
  | [] => failure

/-- The given character. -/
def char (c : Char) : Reader Unit := do let _ ← charWhere (· = c)

/-- The given characters. -/
def chars (s : String) : Reader Unit := s.toList.forM char

/-- The characters up to the first that does not pass a test; there may be none. -/
def charsWhile (p : Char → Bool) : Reader (List Char) :=
  modifyGet fun cs => (cs.takeWhile p, cs.dropWhile p)

/-- Nothing, at the end of the text. -/
def atEnd : Reader Unit := do if !(← get).isEmpty then failure

/-- The value that is there. -/
def ofOption : Option α → Reader α
  | some a => return a
  | none => failure

/-! ## 2. Repetition -/

/-- What a reader takes, if it takes anything. -/
def maybe (r : Reader α) : Reader (Option α) := (do return some (← r)) <|> return none

/-- What a reader takes one after the other, at most so many times. -/
def upTo (r : Reader α) : Nat → Reader (List α)
  | 0 => return []
  | n + 1 => (do let a ← r; return a :: (← upTo r n)) <|> return []

/-- What a reader takes one after the other, as long as it takes anything. -/
def many (r : Reader α) : Reader (List α) := do upTo r (← get).length

/-- One or more, with something between each two. -/
def separated (r : Reader α) (separator : Reader β) : Reader (List α) := do
  let first ← r
  return first :: (← many (do let _ ← separator; r))

end Reader

end Debugger.Text
