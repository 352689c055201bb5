/-! Ranges of code points. -/

namespace Fleet.Text

/-- Whether one of some ranges in order has a code point. A range has its first and its last. -/
def inRanges (ranges : List (Nat × Nat)) (point : Nat) : Bool :=
  let begun := ranges.takeWhile fun range => range.1 ≤ point
  begun.any fun range => point ≤ range.2

end Fleet.Text
