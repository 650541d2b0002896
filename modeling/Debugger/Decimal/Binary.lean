/-!
# Binary floating-point numbers as words

The debuggee's two floating-point kinds are held as their words. The debugger never computes
with them: it reads them from decimal text, shows them as decimal text and passes them on, so
the word is the value, two numbers are equal exactly when their words are, and nothing here
depends on a machine's arithmetic.

`Format` gives the split of a word; `Format.decode` says which number a word is, as an integer
times a power of two.
-/

namespace Debugger.Decimal

/-- How the bits below the sign are split. -/
structure Format where
  fractionBits : Nat
  exponentBits : Nat
  deriving DecidableEq, Repr

namespace Format

/-- Thirty-two bits: a fraction of twenty-three under an exponent of eight. -/
def single : Format := ⟨23, 8⟩

/-- Sixty-four bits: a fraction of fifty-two under an exponent of eleven. -/
def double : Format := ⟨52, 11⟩

/-- The power of two that the lowest bit of a subnormal number stands for. -/
def lowestPower (f : Format) : Int :=
  2 - (Nat.pow 2 (f.exponentBits - 1) : Int) - f.fractionBits

/-- The word of positive infinity; below it lie the finite magnitudes, in order of size. -/
def infinityWord (f : Format) : Nat := (Nat.pow 2 f.exponentBits - 1) * Nat.pow 2 f.fractionBits

/-- The sign bit of a word. -/
def signWord (f : Format) : Nat := Nat.pow 2 (f.exponentBits + f.fractionBits)

end Format

/-- What a word stands for. -/
inductive Number
  | nan
  | infinite (negative : Bool)
  /-- `significand` times two to the `power`, with its sign; zero keeps its sign too. -/
  | finite (negative : Bool) (significand : Nat) (power : Int)
  deriving DecidableEq, Repr

/-- The number a word stands for. -/
def Format.decode (f : Format) (word : Nat) : Number :=
  let negative := decide (f.signWord ≤ word)
  let magnitude := word % f.signWord
  let fraction := magnitude % Nat.pow 2 f.fractionBits
  let exponent := magnitude / Nat.pow 2 f.fractionBits
  if f.infinityWord < magnitude then .nan
  else if magnitude = f.infinityWord then .infinite negative
  else if exponent = 0 then .finite negative fraction f.lowestPower
  else .finite negative (Nat.pow 2 f.fractionBits + fraction) (f.lowestPower + (exponent - 1))

/-- A number of single precision. -/
structure Single where
  word : UInt32
  deriving DecidableEq, Repr

/-- A number of double precision. -/
structure Double where
  word : UInt64
  deriving DecidableEq, Repr

/-- The place of a number among all that are none but not-a-number. The two zeros have one place. -/
def Double.place (x : Double) : Int :=
  let word := x.word.toNat
  if Format.double.signWord ≤ word then -(word - Format.double.signWord : Int) else word

end Debugger.Decimal
