/-! Sets of characters, given by ascending ranges of code points. -/
namespace DependencyAudit.Text

/-- The first and the last code point of each range, in ascending order. -/
abbrev Ranges := List (Nat × Nat)

/-- Whether some range covers the code point; the search ends at the first range beyond it. -/
def Ranges.covers : Ranges → Nat → Bool
  | [], _ => false
  | (first, last) :: rest, n => if n < first then false else decide (n ≤ last) || covers rest n

end DependencyAudit.Text
