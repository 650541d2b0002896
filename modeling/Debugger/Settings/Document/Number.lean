import Debugger.Decimal.Reading
import Debugger.Settings.Document
import Debugger.Settings.Document.Quoted
/-!
# Numbers and dates in a document

What begins with a digit or a sign. Underscores may stand between two digits and do not count; a
whole number takes sixty-four bits, and a decimal one is rounded to double precision. A whole number
that does not fit, or a decimal one that would round to infinity, is no number; the words for
infinity are there for that.

## 1. Whole numbers

## 2. Decimal numbers

## 3. Dates and times

They are checked against the calendar, and then all the same.
-/

namespace Debugger.Settings.Reader

open Decimal (Double)
open Text (Reader)
open Text.Reader

/-! ## 1. Whole numbers -/

/-- Digits of a number system, with underscores between some of them. -/
def digits (base : Nat) : Reader (List Char) := do
  let digit := charWhere fun c => (digitValue? base c).isSome
  let first ← digit
  return first :: (← many (digit <|> do char '_'; digit))

/-- A sign, if there is one. -/
def sign : Reader (List Char) := do
  match ← maybe (charWhere fun c => c = '+' || c = '-') with
  | some c => return [c]
  | none => return []

/-- A sign and decimal digits. The first of several is not zero. -/
def signedDigits : Reader (List Char) := do
  let sign ← sign
  match ← digits 10 with
  | '0' :: _ :: _ => failure
  | cs => return sign ++ cs

/-- A whole number in another number system, after its mark. -/
def wholeIn (mark : String) (base : Nat) : Reader Node := do
  chars mark
  let n := ofDigits base (← digits base)
  if n < 0x8000000000000000 then return .integer n else failure

/-- A whole number. -/
def whole : Reader Node :=
  wholeIn "0x" 16 <|> wholeIn "0o" 8 <|> wholeIn "0b" 2
    <|> do return .integer (← ofOption (Text.readSigned? 64 (← signedDigits)))

/-! ## 2. Decimal numbers -/

/-- The places after the point. -/
def fraction : Reader (List Char) := do
  char '.'
  return '.' :: (← digits 10)

/-- An exponent. -/
def exponent : Reader (List Char) := do
  let _ ← charWhere fun c => c = 'e' || c = 'E'
  let sign ← sign
  return 'e' :: sign ++ (← digits 10)

/-- A decimal number: with a point, with an exponent, or with both. -/
def decimal : Reader Node := do
  let front ← signedDigits
  let back ← exponent <|> do return (← fraction) ++ ((← maybe exponent).getD [])
  let x ← ofOption (Double.read? (front ++ back))
  if x.word.toNat = Decimal.Format.double.infinityWord then failure
  return .float x

/-- Infinity, or what is no number. -/
def special : Reader Node := do
  let sign ← sign
  let word ← (do chars "inf"; return "inf".toList) <|> (do chars "nan"; return "nan".toList)
  return .float (← ofOption (Double.read? (sign ++ word)))

/-! ## 3. Dates and times -/

/-- A number of two digits within bounds. -/
def twoDigits (low high : Nat) : Reader Nat := do
  let n ← exactly 10 2
  if low ≤ n && n ≤ high then return n else failure

/-- How many days a month has. -/
def daysIn (year month : Nat) : Nat :=
  let isLeap := year % 4 = 0 && (year % 100 ≠ 0 || year % 400 = 0)
  if month = 2 then (if isLeap then 29 else 28)
  else if month ∈ [4, 6, 9, 11] then 30
  else 31

/-- A day of a year. -/
def date : Reader Unit := do
  let year ← exactly 10 4
  char '-'
  let month ← twoDigits 1 12
  char '-'
  let _ ← twoDigits 1 (daysIn year month)

/-- A time of a day, with a second to be let in now and then. -/
def time : Reader Unit := do
  let _ ← twoDigits 0 23
  char ':'
  let _ ← twoDigits 0 59
  char ':'
  let _ ← twoDigits 0 60
  let _ ← maybe do
    char '.'
    let _ ← charWhere Char.isDigit
    charsWhile Char.isDigit

/-- How far a time is from universal time. -/
def offset : Reader Unit :=
  (do let _ ← charWhere fun c => c = 'Z' || c = 'z')
    <|> do
      let _ ← charWhere fun c => c = '+' || c = '-'
      let _ ← twoDigits 0 23
      char ':'
      let _ ← twoDigits 0 59

/-- A date, with or without a time, or a time. -/
def dateTime : Reader Node := do
  (do date
      let _ ← maybe do
        let _ ← charWhere fun c => c = 'T' || c = 't' || c = ' '
        time
        maybe offset)
    <|> time
  return .dateTime

/-- What begins with a digit or a sign. -/
def number : Reader Node := dateTime <|> decimal <|> special <|> whole

end Debugger.Settings.Reader
