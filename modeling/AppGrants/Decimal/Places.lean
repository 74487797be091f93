/-! Fractions written with a given number of places, a half going to the even neighbour: positional, with an exponent, or
whichever of both is the shorter one. -/
namespace AppGrants

/-- A fraction that is not negative. -/
structure Fraction where
  num : Nat
  den : Nat := 1
  den_pos : 0 < den := by decide

namespace Fraction

/-- The whole number nearest to a quotient. -/
def roundDiv (num den : Nat) : Nat :=
  let floor := num / den
  let twice := 2 * (num % den)
  if twice > den || (twice = den && floor % 2 = 1) then floor + 1 else floor

/-- The fraction times a power of a base that is not zero. -/
def scale (x : Fraction) (base : Nat) (exponent : Int) (h : 0 < base := by decide) : Fraction :=
  if exponent ≥ 0 then { x with num := x.num * Nat.pow base exponent.toNat }
  else ⟨x.num, x.den * Nat.pow base (-exponent).toNat, Nat.mul_pos x.den_pos (Nat.pow_pos h)⟩

def ofNat (num : Nat) : Fraction := { num }

/-- The fraction times a power of ten. -/
def shift (x : Fraction) (places : Int) : Fraction := x.scale 10 places

def round (x : Fraction) : Nat := roundDiv x.num x.den

/-- The nearest fraction whose significand has at most so many bits. -/
def toBits (x : Fraction) (bits : Nat) : Fraction :=
  let guess : Int := (x.num.log2 : Int) - x.den.log2 - bits + 1
  let exponent := if (x.scale 2 (-guess)).num < (x.scale 2 (-guess)).den * Nat.pow 2 (bits - 1) then guess - 1 else guess
  (ofNat (x.scale 2 (-exponent)).round).scale 2 exponent

def padZeros (width : Nat) (digits : List Char) : List Char := List.replicate (width - digits.length) '0' ++ digits

def digitsOf (n : Nat) : List Char := Nat.toDigits 10 n

/-- Digits with a point before the last ones of them; there is none where nothing would follow it. -/
def pointed (places : Nat) (point : Bool) (digits : List Char) : List Char :=
  let whole := digits.take (digits.length - places)
  whole ++ (if places > 0 || point then ['.'] else []) ++ digits.drop whole.length

def fixed (x : Fraction) (places : Nat) (point : Bool) : List Char :=
  pointed places point (padZeros (places + 1) (digitsOf (x.shift places).round))

/-- The power of ten of the first digit. -/
def magnitude (x : Fraction) : Int :=
  if x.num = 0 then 0
  else
    let guess : Int := ((digitsOf x.num).length : Int) - (digitsOf x.den).length
    if (x.shift (-guess)).num < (x.shift (-guess)).den then guess - 1 else guess

/-- So many digits after the first one, and the power of ten of the first. -/
def significand (x : Fraction) (places : Nat) : List Char × Int :=
  let power := x.magnitude
  let digits := padZeros (places + 1) (digitsOf (x.shift (places - power)).round)
  if digits.length > places + 1 then (digits.take (places + 1), power + 1) else (digits, power)

def exponentText (power : Int) : List Char :=
  ['e', if power < 0 then '-' else '+'] ++ padZeros 2 (digitsOf power.natAbs)

def scientific (x : Fraction) (places : Nat) (point : Bool) : List Char :=
  let (digits, power) := x.significand places
  pointed places point digits ++ exponentText power

def withoutZeros (cs : List Char) : List Char :=
  if !cs.contains '.' then cs
  else
    let kept := cs.reverse.dropWhile (· == '0')
    (if kept.head? = some '.' then kept.tail else kept).reverse

/-- So many digits in all, positional unless the exponent is far off; zeros at the end are kept only with the point. -/
def general (x : Fraction) (digits : Nat) (point : Bool) : List Char :=
  let count := max digits 1
  let power := (x.significand (count - 1)).2
  let trimmed (cs : List Char) : List Char := if point then cs else withoutZeros cs
  if -4 ≤ power && power < count then trimmed (x.fixed (count - 1 - power).toNat point)
  else
    let (kept, power) := x.significand (count - 1)
    trimmed (pointed (count - 1) point kept) ++ exponentText power

end Fraction
end AppGrants
