/-!
# Whole numbers in decimal

The readers behind line numbers, hit counts, handles, levels and integer literals. All take ASCII
digits only, accept leading zeros and a plus sign, and refuse a number outside the word that is
to hold it; blanks and separators are refused too.
-/

namespace Debugger.Text

/-- The value of a nonempty run of ASCII digits, which must be the whole text. -/
def readDigits? (cs : List Char) : Option Nat :=
  if !cs.isEmpty && cs.all Char.isDigit then
    some (cs.foldl (fun n c => 10 * n + (c.toNat - '0'.toNat)) 0)
  else none

/-- An unsigned number of at most the given width in bits. -/
def readUnsigned? (bits : Nat) (cs : List Char) : Option Nat := do
  let n ← readDigits? (if cs.head? = some '+' then cs.tail else cs)
  if n < Nat.pow 2 bits then some n else none

/-- A signed number of at most the given width in bits. -/
def readSigned? (bits : Nat) (cs : List Char) : Option Int := do
  let i : Int ←
    if cs.head? = some '-' then (readDigits? cs.tail).map fun n => -(n : Int)
    else (readDigits? (if cs.head? = some '+' then cs.tail else cs)).map Int.ofNat
  let limit : Int := Nat.pow 2 (bits - 1)
  if -limit ≤ i ∧ i < limit then some i else none

end Debugger.Text
