import Debugger.Decimal.Binary
import Debugger.Text.Number
/-!
# Reading a floating-point number

The decimal texts that name a number, and the word nearest to the number named. Rounding is exact:
the text is a fraction of two naturals, and the word is found by one rounded division, a tie going
to the even neighbour. Too large a magnitude is infinity, too small a one is zero.

The accepted texts are a sign, then either one of the words for infinity and not-a-number in any
case, or digits with at most one point (at least one digit in all) and an optional exponent.
-/

namespace Debugger.Decimal

/-- The quotient of two naturals, rounded to the nearest, a tie to the even one. -/
def roundDiv (num den : Nat) : Nat :=
  let q := num / den
  let r := num % den
  if den < 2 * r || (2 * r = den && q % 2 = 1) then q + 1 else q

/-- The magnitude of the word nearest to the positive fraction `num / den`. -/
def Format.nearest (f : Format) (num den : Nat) : Nat :=
  -- The power of two at or below the fraction, up to one: the estimate from the lengths of the
  -- two naturals is at most one too large.
  let estimate : Int := (Nat.log2 num : Int) - Nat.log2 den
  let below : Bool :=
    if estimate ≥ 0 then num < den * Nat.pow 2 estimate.toNat
    else num * Nat.pow 2 (-estimate).toNat < den
  let top : Int := if below then estimate - 1 else estimate
  let power : Int := max (top - f.fractionBits) f.lowestPower
  let significand :=
    if power ≥ 0 then roundDiv num (den * Nat.pow 2 power.toNat)
    else roundDiv (num * Nat.pow 2 (-power).toNat) den
  min f.infinityWord ((power - f.lowestPower).toNat * Nat.pow 2 f.fractionBits + significand)

/-- A decimal number as it is written: `digits` times ten to the `exponent`. -/
structure Written where
  negative : Bool
  digits : Nat
  exponent : Int
  deriving DecidableEq, Repr

/-- The digits of the exponent after its mark. -/
def readExponent? (cs : List Char) : Option Int :=
  match cs with
  | '-' :: rest => (Text.readDigits? rest).map fun n => -(n : Int)
  | '+' :: rest => (Text.readDigits? rest).map Int.ofNat
  | _ => (Text.readDigits? cs).map Int.ofNat

/-- Digits with at most one point and an optional exponent. -/
def readWritten? (negative : Bool) (cs : List Char) : Option Written := do
  let whole := cs.takeWhile Char.isDigit
  let rest := cs.dropWhile Char.isDigit
  let (fraction, rest) :=
    match rest with
    | '.' :: rest => (rest.takeWhile Char.isDigit, rest.dropWhile Char.isDigit)
    | _ => ([], rest)
  let digits ← Text.readDigits? (whole ++ fraction)
  let exponent ←
    match rest with
    | [] => some 0
    | c :: rest => if c = 'e' || c = 'E' then readExponent? rest else none
  return ⟨negative, digits, exponent - fraction.length⟩

/-- The word of a written number. An exponent that no word can reach is not carried out: beyond
four hundred places either way the magnitude is infinity or zero in both formats. -/
def Format.ofWritten (f : Format) (w : Written) : Nat :=
  let sign := if w.negative then f.signWord else 0
  let places : Int := w.exponent + (Nat.toDigits 10 w.digits).length
  let magnitude :=
    if w.digits = 0 || places < -400 then 0
    else if places > 400 then f.infinityWord
    else if w.exponent ≥ 0 then f.nearest (w.digits * Nat.pow 10 w.exponent.toNat) 1
    else f.nearest w.digits (Nat.pow 10 (-w.exponent).toNat)
  sign + magnitude

/-- The word that a text names, if it names one. -/
def Format.read? (f : Format) (cs : List Char) : Option Nat :=
  let negative := cs.head? = some '-'
  let body := if negative || cs.head? = some '+' then cs.tail else cs
  let sign := if negative then f.signWord else 0
  let lower := String.ofList (body.map Char.toLower)
  if lower = "inf" || lower = "infinity" then some (sign + f.infinityWord)
  else if lower = "nan" then some (sign + f.infinityWord + Nat.pow 2 (f.fractionBits - 1))
  else (readWritten? negative body).map f.ofWritten

/-- A number of single precision by its text. -/
def Single.read? (cs : List Char) : Option Single :=
  (Format.single.read? cs).map fun n => ⟨UInt32.ofNat n⟩

/-- A number of double precision by its text. -/
def Double.read? (cs : List Char) : Option Double :=
  (Format.double.read? cs).map fun n => ⟨UInt64.ofNat n⟩

end Debugger.Decimal
