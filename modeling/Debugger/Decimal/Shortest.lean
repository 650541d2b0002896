import Debugger.Decimal.Binary
import Debugger.Text.Blank
/-!
# The shortest decimal text of a number

A floating-point number is shown by the fewest digits that read back as the same word and, among
texts of that length, by the nearest one. The digits are found on grids of falling coarseness:
of the two grid points around the number, one that lies in the interval of reals rounding to it
is taken, of two such the nearer, and on an exact tie the upper.

How the digits are laid out is a matter of the two styles at the end: what the debugger shows
keeps a point or an exponent, and changes to exponents for very large and very small numbers;
what the configuration reader quotes is always written out in full.
-/

namespace Debugger.Decimal

/-- Decimal digits with the place of the first: `0.d₁d₂…` times ten to the `place`. -/
structure Digits where
  digits : List Char
  place : Int
  deriving DecidableEq, Repr

/-- A positive real given as a fraction, and the two ends of the interval that rounds to it. -/
structure Interval where
  value : Nat
  low : Nat
  high : Nat
  /-- The common denominator. -/
  den : Nat
  /-- Whether the ends themselves round to the value. -/
  closed : Bool

/-- The interval of the finite magnitude `significand * 2 ^ power`. Below a power of two the
neighbour is only half as far away. -/
def Format.interval (f : Format) (significand : Nat) (power : Int) : Interval :=
  let narrow := significand = Nat.pow 2 f.fractionBits && decide (f.lowestPower < power)
  let low := if narrow then 4 * significand - 1 else 4 * significand - 2
  let scale := Nat.pow 2 (power - 2).toNat
  { value := 4 * significand * scale
    low := low * scale
    high := (4 * significand + 2) * scale
    den := Nat.pow 2 (2 - power).toNat
    closed := significand % 2 = 0 }

/-- Whether the fraction `n / d` rounds to the value. -/
def Interval.holds (i : Interval) (n d : Nat) : Bool :=
  let a := n * i.den
  if i.closed then i.low * d ≤ a && a ≤ i.high * d else i.low * d < a && a < i.high * d

/-- The point of the grid of spacing `10 ^ spacing` that shows the value, if one does, counted in
spacings from zero. -/
def Interval.onGrid? (i : Interval) (spacing : Int) : Option Nat :=
  let up := Nat.pow 10 spacing.toNat
  let down := Nat.pow 10 (-spacing).toNat
  -- The value is `count` spacings and a rest of `rest / (i.den * up)` of one.
  let num := i.value * down
  let count := num / (i.den * up)
  let rest := num % (i.den * up)
  let lower := i.holds (count * up) down
  let upper := i.holds ((count + 1) * up) down
  if upper && (!lower || i.den * up ≤ 2 * rest) then some (count + 1)
  else if lower then some count
  else none

/-- The exponent of the power of ten just above the value, found by search from `guess` downwards
over at most `fuel` places. -/
def Interval.top (i : Interval) : Nat → Int → Int
  | 0, guess => guess
  | fuel + 1, guess =>
    let fits := i.value * Nat.pow 10 (1 - guess).toNat < Nat.pow 10 (guess - 1).toNat * i.den
    if fits then i.top fuel (guess - 1) else guess

/-- The first grid with a point, from one digit on. -/
def Interval.shortest (i : Interval) (top : Int) : Nat → Nat → Digits
  | 0, _ => ⟨[], top⟩
  | fuel + 1, n =>
    match i.onGrid? (top - n) with
    | some count =>
      let ds := Nat.toDigits 10 count
      let place := top - n + ds.length
      -- A carry into a new place leaves zeros behind, which the layout does not want.
      ⟨(ds.reverse.dropWhile (· = '0')).reverse, place⟩
    | none => i.shortest top fuel (n + 1)

/-- The shortest digits of a positive finite magnitude. -/
def Format.digits (f : Format) (significand : Nat) (power : Int) : Digits :=
  let i := f.interval significand power
  -- Twenty places of slack above the magnitude's length in decimal.
  let guess : Int := ((Nat.log2 significand : Int) + power) * 3 / 10 + 3
  i.shortest (i.top 60 guess) 20 1

/-! ## Layout -/

/-- Zeros. -/
def zeros (n : Nat) : List Char := List.replicate n '0'

/-- Digits written out without an exponent, with at least one digit on each side of the point. -/
def Digits.positional (d : Digits) : List Char :=
  if d.place ≤ 0 then ['0', '.'] ++ zeros (-d.place).toNat ++ d.digits
  else
    let whole := d.digits.take d.place.toNat
    let fraction := d.digits.drop d.place.toNat
    whole ++ zeros (d.place.toNat - whole.length) ++ ['.']
      ++ (if fraction.isEmpty then ['0'] else fraction)

/-- One digit, the rest of the digits after a point, and the exponent without a plus sign. -/
def Digits.scientific (d : Digits) : List Char :=
  d.digits.take 1 ++ (if d.digits.length ≤ 1 then [] else '.' :: d.digits.drop 1)
    ++ ['e'] ++ (toString (d.place - 1)).toList

/-- A number with its sign, the magnitude laid out by `layout`. Not-a-number has no sign. -/
def Number.layOut (f : Format) (layout : Digits → List Char) : Number → String
  | .nan => "NaN"
  | .infinite negative => if negative then "-inf" else "inf"
  | .finite negative significand power =>
    let magnitude :=
      if significand = 0 then ['0', '.', '0'] else layout (f.digits significand power)
    String.ofList (if negative then '-' :: magnitude else magnitude)

/-- The debugger's style: positional from a ten-thousandth up to below ten to the sixteenth,
else with an exponent. -/
def Digits.shown (d : Digits) : List Char :=
  if -3 ≤ d.place ∧ d.place ≤ 16 then d.positional else d.scientific

/-- The text of a number of single precision. -/
def Single.show (x : Single) : String :=
  (Format.single.decode x.word.toNat).layOut .single Digits.shown

/-- The text of a number of double precision. -/
def Double.show (x : Double) : String :=
  (Format.double.decode x.word.toNat).layOut .double Digits.shown

/-- The text of a number of double precision written out in full. -/
def Double.showInFull (x : Double) : String :=
  (Format.double.decode x.word.toNat).layOut .double Digits.positional

/-- The text of a number of double precision written out in full, with a point only if there is
something after it. -/
def Double.showPlain (x : Double) : String :=
  let text := x.showInFull.toList
  String.ofList ((Text.dropTail? ['.', '0'] text).getD text)

end Debugger.Decimal
