/-!
# Places in a text

A place in a text can be given by the bytes before it in the text's encoding, where a character
takes one to four. A number of bytes that ends inside a character is no place.
-/

namespace Debugger.Text

/-- How many bytes a text takes. -/
def byteCount (cs : List Char) : Nat := cs.foldr (fun c count => c.utf8Size + count) 0

/-- A text without its first bytes. -/
def dropBytes? (cs : List Char) (count : Nat) : Option (List Char) :=
  match cs with
  | [] => if count = 0 then some [] else none
  | c :: rest =>
    if count = 0 then some cs
    else if c.utf8Size ≤ count then dropBytes? rest (count - c.utf8Size)
    else none

/-- The first bytes of a text. -/
def takeBytes? (cs : List Char) (count : Nat) : Option (List Char) :=
  match cs with
  | [] => if count = 0 then some [] else none
  | c :: rest =>
    if count = 0 then some []
    else if c.utf8Size ≤ count then (takeBytes? rest (count - c.utf8Size)).map (c :: ·)
    else none

/-- The part of a text from one place up to another. -/
def slice? (cs : List Char) (start stop : Nat) : Option (List Char) := do
  takeBytes? (← dropBytes? cs start) (stop - start)

/-- No bytes are no part of a text. -/
theorem takeBytes?_zero (cs : List Char) : takeBytes? cs 0 = some [] := by
  cases cs <;> simp [takeBytes?]

/-- A text without no bytes is the text. -/
theorem dropBytes?_zero (cs : List Char) : dropBytes? cs 0 = some cs := by
  cases cs <;> simp [dropBytes?]

/-- The bytes that a text begins with can be taken off it. -/
theorem dropBytes?_append (cs ds : List Char) :
    dropBytes? (cs ++ ds) (byteCount cs) = some ds := by
  induction cs with
  | nil => exact dropBytes?_zero ds
  | cons c cs ih =>
    have : 0 < c.utf8Size := c.utf8Size_pos
    simp only [byteCount, List.foldr_cons, List.cons_append, dropBytes?] at ih ⊢
    rw [if_neg (by omega), if_pos (by omega), Nat.add_sub_cancel_left]
    exact ih

end Debugger.Text
