import Debugger.Text.Blank
import Debugger.Text.Lowercase
/-!
# Names for new objects

A fresh name for an object is the stem of its class name and a number. The stem is the simple name
with a small first letter, and the word `Array` once for each dimension; the number is the least
positive one that makes a name nobody has.

## 1. Stems

## 2. Fresh names
-/

namespace Debugger.Naming

/-! ## 1. Stems -/

/-- The pair of brackets that a dimension of an array type is written as. -/
def brackets : List Char := ['[', ']']

/-- An element type and its number of dimensions. White space before a pair of brackets belongs to
neither. -/
def splitDimensions (cs : List Char) : List Char × Nat :=
  match h : Text.dropTail? brackets cs with
  | none => (cs, 0)
  | some element =>
    have : (Text.trimEnd element).length < cs.length := by
      have trimmed : (Text.trimEnd element).length ≤ element.length := by
        have := (List.dropWhile_sublist Text.isBlank (l := element.reverse)).length_le
        simpa [Text.trimEnd] using this
      simp only [Text.dropTail?] at h
      split at h
      case isTrue tail =>
        have := (List.isSuffixOf_iff_suffix.1 tail).length_le
        simp only [Option.some.injEq] at h
        subst h
        simp only [brackets, List.length_cons, List.length_nil, List.length_take] at *
        omega
      case isFalse => cases h
    let (base, dimensions) := splitDimensions (Text.trimEnd element)
    (base, dimensions + 1)
termination_by cs.length

/-- Whether a character ends the package or the outer class in front of a simple name. -/
def isSeparator (c : Char) : Bool := c = '.' || c = '$'

/-- A class name without type arguments, package and outer classes. -/
def simpleName (cs : List Char) : List Char :=
  let plain := cs.takeWhile (· ≠ '<')
  Text.trim (plain.reverse.takeWhile (!isSeparator ·)).reverse

/-- A simple name with a small first letter; a stem of its own where there is no name. -/
def lowerFirst : List Char → List Char
  | [] => "object".toList
  | c :: cs => Text.lowercase c ++ cs

/-- The stem of a class name. -/
def nameStem (className : String) : String :=
  let (base, dimensions) := splitDimensions (Text.trim className.toList)
  String.ofList
    (lowerFirst (simpleName base) ++ (List.replicate dimensions "Array".toList).flatten)

/-! ## 2. Fresh names -/

/-- The stem followed by the first number from `n` on whose name is not taken, looking at no more
than `fuel` of them. -/
def firstFree? (stem : String) (isTaken : String → Bool) : (fuel n : Nat) → Option String
  | 0, _ => none
  | fuel + 1, n =>
    let candidate := stem ++ toString n
    if isTaken candidate then firstFree? stem isTaken fuel (n + 1) else some candidate

/-- How many numbers there are to try: the positive ones of one word. -/
def candidates : Nat := 0xffffffff

/-- A name for a new object of a class that is not taken. -/
def freshName (className : String) (isTaken : String → Bool) : String :=
  let stem := nameStem className
  (firstFree? stem isTaken candidates 1).getD stem

end Debugger.Naming
