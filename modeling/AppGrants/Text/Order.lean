import AppGrants.Text.CaseMap

/-! Texts in the order of their code points, and labels in an order that ignores case. -/
namespace AppGrants.Text

/-- Lexicographic, by code point; of a text and a longer one that begins with it, the shorter is first. -/
def compareChars : List Char → List Char → Ordering
  | [], [] => .eq
  | [], _ :: _ => .lt
  | _ :: _, [] => .gt
  | a :: as, b :: bs => (compare a.toNat b.toNat).then (compareChars as bs)

def compareTexts (left right : String) : Ordering := compareChars left.toList right.toList

/-- Every character in lower case on its own, whatever stands around it. -/
def foldCase (cs : List Char) : List Char := cs.flatMap lowerChar

def compareFolded (left right : String) : Ordering :=
  compareChars (foldCase left.toList) (foldCase right.toList)

/-- Folded texts first, the texts themselves where these are equal. -/
def compareLabels (left right : String) : Ordering :=
  (compareFolded left right).then (compareTexts left right)

end AppGrants.Text
