/-!
# Ranges of code points

A character property is a table: an ascending list of closed ranges of code points. Membership is a
scan of the table, so a lemma about a property is a lemma about a list. Long tables are written down
as the lengths of the runs outside and inside of the ranges.
-/

namespace SchemaGuard.Text

/-- A property of characters, as ascending closed ranges of code points. -/
abbrev Ranges := List (Nat × Nat)

/-- Whether one of the ranges holds the code point. -/
def Ranges.has (ranges : Ranges) (code : Nat) : Bool :=
  ranges.any fun range => range.1 ≤ code && code ≤ range.2

/-- The ranges that begin after a given code point, by the lengths of what lies outside and inside of
them in turn. -/
def Ranges.ofRuns (code : Nat) : List Nat → Ranges
  | outside :: inside :: runs =>
    (code + outside, code + outside + inside - 1) :: ofRuns (code + outside + inside) runs
  | _ => []

end SchemaGuard.Text
