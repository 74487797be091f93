/-! Classes of characters given by ranges of code points. All tables of characters are those of Unicode 17. -/
namespace AppGrants.Text

def inRanges (ranges : Array (Nat × Nat)) (n : Nat) : Bool :=
  ranges.any fun range => range.1 ≤ n && n ≤ range.2

end AppGrants.Text
