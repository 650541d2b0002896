/-!
# Texts for a terminal

A terminal takes some characters as orders: how to write what comes next, where to write it, what to
call the window. Where a text goes elsewhere the orders are left out, those that a user brought in
among them.

## 1. Marks

## 2. Control sequences

An escape character begins a sequence, even inside another one. Most sequences end with a letter or
a sign; a string ends only with the next sequence, or with a bell if it is a command.

## 3. Leaving them out

White space inside a sequence is no part of it, and what follows the white space is text, up to the
next character that is not. Only there the sequence goes on.
-/

namespace Debugger.Text

/-! ## 1. Marks -/

/-- A text in bold type. -/
def bold (text : String) : String := "\x1b[1m" ++ text ++ "\x1b[0m"

/-- A text in yellow. -/
def yellow (text : String) : String := "\x1b[33m" ++ text ++ "\x1b[0m"

/-! ## 2. Control sequences -/

/-- Where in a text, or in which kind of sequence. -/
inductive Sequence
  /-- In no sequence. -/
  | outside
  /-- After the escape character. -/
  | escape
  | short
  | long
  /-- A string, which a bell may end. -/
  | string (bell : Bool)
  deriving DecidableEq, Repr

/-- The sequence after one more character. Two control characters end any sequence. -/
def Sequence.next (s : Sequence) (c : Char) : Sequence :=
  if c = '\x1b' then .escape
  else if c = '\x18' ∨ c = '\x1a' then .outside
  else match s with
  | outside => .outside
  | escape =>
    if ' ' ≤ c ∧ c ≤ '/' then .short
    else if c = '[' then .long
    else if c = ']' then .string true
    else if c ∈ ['P', 'X', '^', '_'] then .string false
    else if '0' ≤ c ∧ c ≤ '~' then .outside
    else .escape
  | short => if '0' ≤ c ∧ c ≤ '~' then .outside else .short
  | long => if '@' ≤ c ∧ c ≤ '~' then .outside else .long
  | string bell => if bell ∧ c = '\x07' then .outside else .string bell

/-! ## 3. Leaving them out -/

/-- White space that moves the place of writing. -/
def movesOn (c : Char) : Bool := c = '\t' || c = '\n' || c = '\x0c' || c = '\r'

/-- A character of a text. -/
def isShown (c : Char) : Bool := movesOn c || (' ' ≤ c && c ≠ '\x7f')

/-- Whether a character is kept that comes in a sequence. -/
def Sequence.keeps (s : Sequence) (c : Char) : Bool :=
  match s with
  | outside => isShown c
  | string _ => false
  | escape | short | long => movesOn c

/-- A text without control sequences and control characters, from inside a sequence on. `inText`
says that the character before was kept. -/
def dropControls (s : Sequence) (inText : Bool) : List Char → List Char
  | [] => []
  | c :: cs =>
    if inText && isShown c then
      c :: dropControls (if c.val < 0x80 then s else .outside) true cs
    else if s.keeps c then c :: dropControls s true cs
    else dropControls (s.next c) false cs

/-- A text without control sequences and control characters. -/
def withoutControls (text : String) : String :=
  String.ofList (dropControls .outside false text.toList)

/-- A text that has none stays as it is. -/
theorem dropControls_of_isShown {cs : List Char} (inText : Bool)
    (h : ∀ c ∈ cs, isShown c = true) : dropControls .outside inText cs = cs := by
  induction cs generalizing inText with
  | nil => rfl
  | cons c cs ih =>
    have hc := h c (by simp)
    have ih := ih true fun d hd => h d (by simp [hd])
    cases inText <;> simp [dropControls, Sequence.keeps, hc, ih]

end Debugger.Text
