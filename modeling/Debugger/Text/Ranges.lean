/-!
# Sets of scalars given by ranges

The classes of characters that the reader of literals and the printer of quoted text consult
are properties of the Unicode standard, given there as lists of ranges. A table here is an
array of inclusive ranges of scalar values above the ASCII block; below it every class is a
handful of comparisons, and the modules that own a class write those out.
-/

namespace Debugger.Text

/-- Whether a scalar value lies in one of the inclusive ranges of a table. -/
def inRanges (table : Array (Nat × Nat)) (n : Nat) : Bool :=
  table.any fun r => decide (r.1 ≤ n) && decide (n ≤ r.2)

end Debugger.Text
