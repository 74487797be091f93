import AppGrants.Json.Fault

/-! The smallest parts of a JSON text: blanks, fixed words, strings and numbers. Every reader takes the characters
that are left and gives those that it leaves. -/
namespace AppGrants.Json

/-- Why a reader gave up, what was left then, and how many bytes of that it had seen. -/
structure Stop where
  cause : Cause
  left : List Char
  seen : Nat
deriving DecidableEq, Repr

def byteCount (cs : List Char) : Nat := cs.foldl (fun count c => count + c.utf8Size) 0

/-- The fault of a reader that gave up on the text. -/
def Stop.fault (stop : Stop) (text : String) : Fault :=
  let bytes := Text.utf8 text
  ⟨stop.cause, some (.after bytes (bytes.length - byteCount stop.left + stop.seen))⟩

abbrev Reader (α : Type) := List Char → Except Stop (α × List Char)

def isGap (c : Char) : Bool := c == ' ' || c == '\n' || c == '\t' || c == '\r'

def skipGaps (cs : List Char) : List Char := cs.dropWhile isGap

/-- A fault that was seen so many bytes further on. -/
def malformedAfter (seen : Nat) (what : Malformed) (left : List Char) : Except Stop α := .error ⟨.malformed what, left, seen⟩

/-- A fault of the next byte. -/
def malformed (what : Malformed) (left : List Char) : Except Stop α := malformedAfter 1 what left

/-- The text is at its end. -/
def cut (within : Cut) : Except Stop α := .error ⟨.cut within, [], 0⟩

def mismatch (what : Mismatch) (left : List Char) : Except Stop α := .error ⟨.mismatch what, left, 0⟩

/-- What has been read does not fit; the place is the one that was reached. -/
def fitting (left : List Char) : Except Mismatch α → Except Stop α
  | .ok value => .ok value
  | .error what => mismatch what left

/-- The word, which has begun, to its end. -/
def readWord : List Char → List Char → Except Stop (List Char)
  | [], cs => .ok cs
  | _ :: _, [] => cut .value
  | w :: word, c :: cs => if c = w then readWord word cs else malformed .expectedWord (c :: cs)

def hexValue? (c : Char) : Option Nat :=
  if c.isDigit then some (c.toNat - '0'.toNat)
  else if 'a' ≤ c && c ≤ 'f' then some (c.toNat - 'a'.toNat + 10)
  else if 'A' ≤ c && c ≤ 'F' then some (c.toNat - 'A'.toNat + 10)
  else none

def hexNumber? (cs : List Char) : Option Nat :=
  cs.foldlM (fun value c => (hexValue? c).map (value * 16 + ·)) 0

/-- The four hexadecimal digits of an escape; an end of text within four bytes is reported before a wrong digit. -/
def readHex (cs : List Char) : Except Stop Nat :=
  if byteCount (cs.take 4) < 4 then cut .text
  else match cs with
    | a :: b :: c :: d :: _ =>
      match hexNumber? [a, b, c, d] with
      | some value => .ok value
      | none => malformedAfter 4 .invalidEscape cs
    | _ => malformedAfter 4 .invalidEscape cs

def isLeading (unit : Nat) : Bool := 0xD800 ≤ unit && unit ≤ 0xDBFF

def isTrailing (unit : Nat) : Bool := 0xDC00 ≤ unit && unit ≤ 0xDFFF

def joinSurrogates (leading trailing : Nat) : Nat :=
  (leading - 0xD800) * 0x400 + (trailing - 0xDC00) + 0x10000

def simpleEscape? : Char → Option Char
  | '"' => some '"'
  | '\\' => some '\\'
  | '/' => some '/'
  | 'b' => some (Char.ofNat 8)
  | 'f' => some (Char.ofNat 12)
  | 'n' => some '\n'
  | 'r' => some '\r'
  | 't' => some '\t'
  | _ => none

/-- Where a reader of string characters stands. -/
inductive TextState where
  | plain
  | escape
  | digits (left : Nat) (unit : Nat)
  | paired
  | pairedEscape
  | pairedDigits (left : Nat) (leading trailing : Nat)
deriving DecidableEq, Repr

/-- The characters of a string after its opening quote. The unit of an escape is looked up when the escape begins
and its digits are passed over; `leading` is the first half of a pair of escapes. -/
def readChars (state : TextState) (leading : Nat) : List Char → Except Stop (List Char × List Char)
  | [] => cut .text
  | c :: rest =>
    match state with
    | .plain =>
      if c = '"' then .ok ([], rest)
      else if c = '\\' then readChars .escape leading rest
      else if c.toNat < 0x20 then malformed .controlCharacter (c :: rest)
      else (readChars .plain leading rest).map fun (chars, left) => (c :: chars, left)
    | .escape =>
      match simpleEscape? c with
      | some meant => (readChars .plain leading rest).map fun (chars, left) => (meant :: chars, left)
      | none =>
        if c = 'u' then do
          let unit ← readHex rest
          if isTrailing unit then malformedAfter 4 .loneSurrogate rest else readChars (.digits 3 unit) leading rest
        else malformed .invalidEscape (c :: rest)
    | .digits (left + 1) unit => readChars (.digits left unit) leading rest
    | .digits 0 unit =>
      if isLeading unit then readChars .paired unit rest
      else (readChars .plain leading rest).map fun (chars, left) => (Char.ofNat unit :: chars, left)
    | .paired =>
      if c = '\\' then readChars .pairedEscape leading rest else malformed .brokenSurrogatePair (c :: rest)
    | .pairedEscape =>
      if c = 'u' then do
        let unit ← readHex rest
        if isTrailing unit then readChars (.pairedDigits 3 leading unit) leading rest
        else malformedAfter 4 .loneSurrogate rest
      else malformed .brokenSurrogatePair (c :: rest)
    | .pairedDigits (left + 1) first second => readChars (.pairedDigits left first second) leading rest
    | .pairedDigits 0 first second =>
      (readChars .plain leading rest).map fun (chars, left) => (Char.ofNat (joinSurrogates first second) :: chars, left)

def readText : Reader String := fun cs =>
  (readChars .plain 0 cs).map fun (chars, rest) => (String.ofList chars, rest)

def wordLimit : Nat := 18446744073709551615

/-- As many digits as a word of 64 bits takes up, and how many are left over. -/
def absorb (significand : Nat) : List Char → Nat × Nat
  | [] => (significand, 0)
  | d :: rest =>
    let grown := significand * 10 + (d.toNat - '0'.toNat)
    if grown > wordLimit then (significand, rest.length + 1) else absorb grown rest

def finishReal (positive : Bool) (significand : Nat) (exponent : Int) (rest : List Char) :
    Except Stop (Number × List Char) :=
  match Double.ofParts? positive significand exponent with
  | some x => .ok (.real x, rest)
  | none => malformedAfter 0 .numberOutOfRange rest

def exponentLimit : Nat := 2147483647

def clampExponent (e : Int) : Int := max (-2147483648) (min 2147483647 e)

/-- What follows the digit with which a number exceeds the limit; none if it does not. -/
def pastLimit? (value : Nat) : List Char → Option (List Char)
  | [] => none
  | d :: rest =>
    if !d.isDigit then none
    else
      let grown := value * 10 + (d.toNat - '0'.toNat)
      if grown > exponentLimit then some rest else pastLimit? grown rest

def readExponent (positive : Bool) (significand : Nat) (exponent : Int) (cs : List Char) :
    Except Stop (Number × List Char) :=
  let (up, cs) := match cs with
    | '+' :: rest => (true, rest)
    | '-' :: rest => (false, rest)
    | rest => (true, rest)
  match cs with
  | [] => cut .value
  | c :: _ =>
    if !c.isDigit then malformed .invalidNumber cs
    else
      let digits := cs.takeWhile Char.isDigit
      let rest := cs.dropWhile Char.isDigit
      match pastLimit? 0 cs with
      | some left =>
        if significand != 0 && up then malformedAfter 0 .numberOutOfRange left
        else .ok (.real (.ofFloat (if positive then 0.0 else -0.0)), rest)
      | none =>
        let shift := digits.foldl (fun value d => value * 10 + (d.toNat - '0'.toNat)) 0
        finishReal positive significand (clampExponent (if up then exponent + shift else exponent - shift)) rest

def afterDigits (positive : Bool) (significand : Nat) (exponent : Int) (cs : List Char) :
    Except Stop (Number × List Char) :=
  match cs with
  | 'e' :: rest => readExponent positive significand exponent rest
  | 'E' :: rest => readExponent positive significand exponent rest
  | rest => finishReal positive significand exponent rest

def readFraction (positive : Bool) (significand : Nat) (exponent : Int) (cs : List Char) :
    Except Stop (Number × List Char) :=
  let digits := cs.takeWhile Char.isDigit
  let rest := cs.dropWhile Char.isDigit
  match digits, rest with
  | [], [] => cut .value
  | [], _ => malformed .invalidNumber rest
  | _, _ =>
    let (grown, excess) := absorb significand digits
    afterDigits positive grown (exponent - (digits.length - excess : Nat)) rest

def readWhole (positive : Bool) (digits rest : List Char) : Except Stop (Number × List Char) :=
  let (significand, excess) := absorb 0 digits
  match rest with
  | '.' :: rest => readFraction positive significand excess rest
  | 'e' :: rest => readExponent positive significand excess rest
  | 'E' :: rest => readExponent positive significand excess rest
  | rest =>
    if excess > 0 then finishReal positive significand excess rest
    else if positive then .ok (.whole significand, rest)
    else if significand = 0 || significand > 9223372036854775808 then
      .ok (.real (.ofFloat (-significand.toUInt64.toFloat)), rest)
    else .ok (.whole (-significand), rest)

/-- A number without its sign. -/
def readMagnitude (positive : Bool) (cs : List Char) : Except Stop (Number × List Char) :=
  match cs with
  | [] => cut .value
  | '0' :: rest =>
    match rest with
    | c :: _ => if c.isDigit then malformed .invalidNumber rest else readWhole positive ['0'] rest
    | [] => readWhole positive ['0'] rest
  | c :: _ =>
    if c.isDigit then readWhole positive (cs.takeWhile Char.isDigit) (cs.dropWhile Char.isDigit)
    else malformed .invalidNumber cs

def readNumber : Reader Number
  | '-' :: rest => readMagnitude false rest
  | cs => readMagnitude true cs

def startsNumber (c : Char) : Bool := c == '-' || c.isDigit

end AppGrants.Json
