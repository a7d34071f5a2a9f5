/-!
# Character classes

A character class is a table of ranges of code points, both ends included.
-/

namespace TraceSnapshot

structure CharClass where
  ranges : List (Nat × Nat)

/-- A character is of a class if its code point lies in one of the ranges. -/
def CharClass.contains (cls : CharClass) (c : Char) : Bool :=
  cls.ranges.any fun (first, last) => first ≤ c.toNat && c.toNat ≤ last

end TraceSnapshot
