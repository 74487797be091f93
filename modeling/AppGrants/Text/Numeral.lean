import AppGrants.Text.Digit

/-! Whole numbers as commands read them: blanks and a sign may stand before the digits, and the first digits tell the
base. -/
namespace AppGrants.Text

/-- The white space of ASCII. -/
def isAsciiBlank (c : Char) : Bool := " \t\n\x0b\x0c\r".toList.contains c

namespace Numeral

def isOctalDigit (c : Char) : Bool := '0' ≤ c && c ≤ '7'

def isHexDigit (c : Char) : Bool := c.isDigit || ('a' ≤ c.toLower && c.toLower ≤ 'f')

def valueOf (base : Nat) (digits : List Char) : Nat :=
  digits.foldl (fun value c =>
    value * base + (if c.isDigit then c.toNat - '0'.toNat else c.toLower.toNat - 'a'.toNat + 10)) 0

/-- Whether a number is negative, and its text after the sign. -/
def signOf (cs : List Char) : Bool × List Char :=
  match cs.dropWhile isAsciiBlank with
  | '-' :: rest => (true, rest)
  | '+' :: rest => (false, rest)
  | rest => (false, rest)

/-- The digits at the beginning, in the base that is written before them, and what follows them. -/
def digitsAt (cs : List Char) : Option (Nat × List Char) :=
  let run (base : Nat) (p : Char → Bool) (cs : List Char) : Option (Nat × List Char) :=
    if cs.head?.any p then some (valueOf base (cs.takeWhile p), cs.dropWhile p) else none
  match cs with
  | '0' :: x :: c :: rest =>
    if (x == 'x' || x == 'X') && isHexDigit c then run 16 isHexDigit (c :: rest) else run 8 isOctalDigit cs
  | '0' :: _ => run 8 isOctalDigit cs
  | cs => run 10 Char.isDigit cs

end Numeral
end AppGrants.Text
