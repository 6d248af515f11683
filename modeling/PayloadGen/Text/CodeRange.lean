/-!
# Classes of characters as ranges of code points

A character class of the Unicode standard is a table of closed ranges. `CodeRange.contains` is the
membership test that the table modules share.
-/

namespace PayloadGen.Text

/-- A closed range of code points, first and last. -/
abbrev CodeRange := Nat × Nat

/-- Is the code point in one of the ranges? -/
def CodeRange.contains (table : List CodeRange) (n : Nat) : Bool :=
  table.any fun r => r.1 ≤ n && n ≤ r.2

end PayloadGen.Text
