/-! Binary fractions of 64 bits, kept as their bits so that they can be compared. A fraction is read from a
significand and a power of ten, and spelled with the fewest digits that read back as the same bits. -/
namespace AppGrants

structure Double where
  bits : UInt64
deriving DecidableEq, Repr

namespace Double

def ofFloat (value : Float) : Double := ⟨value.toBits⟩

def toFloat (x : Double) : Float := Float.ofBits x.bits

def negative (x : Double) : Bool := x.bits ≥ 0x8000000000000000

/-- The bit of a significand that is not written. -/
def leadingBit : Nat := Nat.pow 2 52

/-- The magnitude is `m * 2 ^ q`; a subnormal number has the least `q`. -/
def parts (x : Double) : Nat × Int :=
  let biased : Nat := (x.bits.toNat / leadingBit) % 2048
  let fraction : Nat := x.bits.toNat % leadingBit
  if biased = 0 then (fraction, -1074) else (leadingBit + fraction, (biased : Int) - 1075)

/-- The order of `a * 2 ^ q` and `c * 10 ^ e`. -/
def compareScaled (a : Nat) (q : Int) (c : Nat) (e : Int) : Ordering :=
  compare (a * Nat.pow 2 q.toNat * Nat.pow 10 (-e).toNat) (c * Nat.pow 10 e.toNat * Nat.pow 2 (-q).toNat)

/-- The largest `c` with `c * 10 ^ e ≤ a * 2 ^ q`. -/
def floorScaled (a : Nat) (q : Int) (e : Int) : Nat :=
  a * Nat.pow 2 q.toNat * Nat.pow 10 (-e).toNat / (Nat.pow 10 e.toNat * Nat.pow 2 (-q).toNat)

/-- The numbers that round to this one: quarters of a unit, and whether the ends belong to them. -/
structure Interval where
  low : Nat
  middle : Nat
  high : Nat
  scale : Int
  closed : Bool

def interval (x : Double) : Interval :=
  let (m, q) := x.parts
  let low := if m = leadingBit && q > -1074 then 4 * m - 1 else 4 * m - 2
  ⟨low, 4 * m, 4 * m + 2, q - 2, m % 2 = 0⟩

def Interval.holds (range : Interval) (c : Nat) (e : Int) : Bool :=
  let low := compareScaled range.low range.scale c e
  let high := compareScaled range.high range.scale c e
  (low == .lt || (range.closed && low == .eq)) && (high == .gt || (range.closed && high == .eq))

/-- Of the two neighbours on the grid of `10 ^ e` the one within the interval, the nearer one if both are. -/
def Interval.pick? (range : Interval) (e : Int) : Option Nat :=
  let below := floorScaled range.middle range.scale e
  match range.holds below e, range.holds (below + 1) e with
  | true, true =>
    match compareScaled (2 * range.middle) range.scale (2 * below + 1) e with
    | .lt => some below
    | .gt => some (below + 1)
    | .eq => some (if below % 2 = 0 then below else below + 1)
  | true, false => some below
  | false, true => some (below + 1)
  | false, false => none

/-- The least `k` from `start` on with the middle below `10 ^ k`. -/
def Interval.magnitude (range : Interval) : Nat → Int → Int
  | 0, k => k
  | fuel + 1, k => if compareScaled range.middle range.scale 1 k == .lt then k else range.magnitude fuel (k + 1)

def Interval.search (range : Interval) (k : Int) : Nat → Nat → Nat × Int
  | 0, count => ((range.pick? (k - count)).getD 0, k - count)
  | fuel + 1, count =>
    match range.pick? (k - count) with
    | some digits => (digits, k - count)
    | none => range.search k fuel (count + 1)

/-- Fewest decimal digits: `(d, e)` stands for `d * 10 ^ e`. Just below a power of ten the power itself may be found as ten
units of the grid; it has one digit. -/
def shortest (x : Double) : Nat × Int :=
  let range := x.interval
  match range.search (range.magnitude 640 (-324)) 16 1 with
  | (10, e) => (1, e + 1)
  | found => found

/-- A nonzero finite magnitude: positional from `10 ^ -5` to below `10 ^ 16`, with a signed exponent outside. -/
def magnitudeText (x : Double) : String :=
  let (digits, e) := x.shortest
  let text := toString digits
  let point := (text.length : Int) + e
  if 0 ≤ e && point ≤ 16 then text ++ String.ofList (List.replicate e.toNat '0') ++ ".0"
  else if 0 < point && point ≤ 16 then
    String.ofList (text.toList.take point.toNat) ++ "." ++ String.ofList (text.toList.drop point.toNat)
  else if -5 < point && point ≤ 0 then "0." ++ String.ofList (List.replicate (-point).toNat '0') ++ text
  else
    let power := (if point > 0 then "e+" else "e") ++ toString (point - 1)
    match text.toList with
    | [] => ""
    | [digit] => String.ofList [digit] ++ power
    | digit :: others => String.ofList [digit] ++ "." ++ String.ofList others ++ power

def text (x : Double) : String :=
  (if x.negative then "-" else "") ++ if x.parts.1 = 0 then "0.0" else x.magnitudeText

def largestPower : Nat := 308

def powerOfTen (k : Nat) : Float := Float.ofScientific 1 false k

/-- `f * 10 ^ exponent` in steps of at most 308 powers; none where it grows beyond the finite numbers. -/
def scale : Nat → Float → Int → Option Float
  | 0, f, _ => some f
  | fuel + 1, f, exponent =>
    if exponent.natAbs ≤ largestPower then
      let scaled := if exponent ≥ 0 then f * powerOfTen exponent.natAbs else f / powerOfTen exponent.natAbs
      if scaled.isInf then none else some scaled
    else if f == 0.0 then some f
    else if exponent ≥ 0 then none
    else scale fuel (f / powerOfTen largestPower) (exponent + largestPower)

/-- The significand is rounded first and the product once more. -/
def ofParts? (positive : Bool) (significand : Nat) (exponent : Int) : Option Double :=
  (scale 8 significand.toUInt64.toFloat exponent).map fun f => ofFloat (if positive then f else -f)

end Double
end AppGrants
