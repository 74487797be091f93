/-! White space, and the operations on texts that are defined by it: trimming, words, lines. -/
namespace AppGrants.Text

/-- The property White_Space, of all planes. -/
def isBlank (c : Char) : Bool :=
  let n := c.toNat
  (0x09 ≤ n && n ≤ 0x0D) || n == 0x20 || n == 0x85 || n == 0xA0 || n == 0x1680 || (0x2000 ≤ n && n ≤ 0x200A) ||
    n == 0x2028 || n == 0x2029 || n == 0x202F || n == 0x205F || n == 0x3000

def trimStart (cs : List Char) : List Char := cs.dropWhile isBlank

def trimEnd (cs : List Char) : List Char := (cs.reverse.dropWhile isBlank).reverse

def trim (cs : List Char) : List Char := trimEnd (trimStart cs)

def trimmed (text : String) : String := String.ofList (trim text.toList)

/-- Nothing but white space, or nothing at all. -/
def isBlankText (text : String) : Bool := text.toList.all isBlank

/-- The parts between separators; one more part than there are separators. -/
def parts (separates : α → Bool) : List α → List (List α)
  | [] => [[]]
  | c :: rest =>
    if separates c then [] :: parts separates rest
    else match parts separates rest with
      | first :: others => (c :: first) :: others
      | [] => [[c]]

/-- The maximal runs of characters that are not white space. -/
def words (cs : List Char) : List (List Char) := (parts isBlank cs).filter (!·.isEmpty)

def withoutLast [BEq α] (unwanted : α) (items : List α) : List α :=
  if items.getLast? == some unwanted then items.dropLast else items

/-- A line ends at a line feed, which may have a carriage return before it; what follows the last line feed is a
line of its own unless it is empty. -/
def linesBy [BEq α] (feed carriageReturn : α) (items : List α) : List (List α) :=
  let all := parts (· == feed) items
  all.dropLast.map (withoutLast carriageReturn) ++ all.getLast?.toList.filter (!·.isEmpty)

def lines (cs : List Char) : List (List Char) := linesBy '\n' '\r' cs

def joinWith (separator : List Char) (pieces : List (List Char)) : List Char :=
  (pieces.intersperse separator).flatten

end AppGrants.Text
