import AppGrants.Json.Scan

/-! Passing over a value that nobody asked for. It has to be well formed, but escapes need not be paired, numbers
need not be in range, and there is no limit on depth. -/
namespace AppGrants.Json

def isSimpleEscape (c : Char) : Bool := (simpleEscape? c).isSome

inductive SkipState where
  | plain
  | escape
  | digits (left : Nat)
deriving DecidableEq, Repr

/-- A string after its opening quote. -/
def skipChars (state : SkipState) : List Char → Except Stop (List Char)
  | [] => cut .text
  | c :: rest =>
    match state with
    | .plain =>
      if c = '"' then .ok rest
      else if c = '\\' then skipChars .escape rest
      else if c.toNat < 0x20 then malformedAfter 0 .controlCharacter (c :: rest)
      else skipChars .plain rest
    | .escape =>
      if isSimpleEscape c then skipChars .plain rest
      else if c = 'u' then
        match readHex rest with
        | .ok _ => skipChars (.digits 3) rest
        | .error stop => .error stop
      else malformed .invalidEscape (c :: rest)
    | .digits (left + 1) => skipChars (.digits left) rest
    | .digits 0 => skipChars .plain rest

def skipExponent (cs : List Char) : Except Stop (List Char) :=
  let cs := match cs with
    | '+' :: rest => rest
    | '-' :: rest => rest
    | rest => rest
  match cs with
  | c :: _ => if c.isDigit then .ok (cs.dropWhile Char.isDigit) else malformed .invalidNumber cs
  | [] => malformed .invalidNumber []

def skipAfterDigits : List Char → Except Stop (List Char)
  | 'e' :: rest => skipExponent rest
  | 'E' :: rest => skipExponent rest
  | rest => .ok rest

def skipFraction (cs : List Char) : Except Stop (List Char) :=
  match cs with
  | c :: _ => if c.isDigit then skipAfterDigits (cs.dropWhile Char.isDigit) else malformed .invalidNumber cs
  | [] => malformed .invalidNumber []

def skipAfterWhole : List Char → Except Stop (List Char)
  | '.' :: rest => skipFraction rest
  | rest => skipAfterDigits rest

/-- A number without its sign. -/
def skipMagnitude (cs : List Char) : Except Stop (List Char) :=
  match cs with
  | '0' :: rest =>
    match rest with
    | c :: _ => if c.isDigit then malformed .invalidNumber rest else skipAfterWhole rest
    | [] => .ok rest
  | c :: _ => if c.isDigit then skipAfterWhole (cs.dropWhile Char.isDigit) else malformed .invalidNumber cs
  | [] => malformed .invalidNumber []

mutual

/-- A value; `fuel` bounds the nesting of calls, each of which but every second takes a character. -/
def skipValue : Nat → List Char → Except Stop (List Char)
  | 0, _ => cut .value
  | fuel + 1, cs =>
    match skipGaps cs with
    | [] => cut .value
    | 'n' :: rest => readWord ['u', 'l', 'l'] rest
    | 't' :: rest => readWord ['r', 'u', 'e'] rest
    | 'f' :: rest => readWord ['a', 'l', 's', 'e'] rest
    | '"' :: rest => skipChars .plain rest
    | '-' :: rest => skipMagnitude rest
    | '[' :: rest =>
      match skipGaps rest with
      | ']' :: rest => .ok rest
      | [] => cut .list
      | rest => skipItems fuel rest
    | '\x7b' :: rest =>
      match skipGaps rest with
      | '\x7d' :: rest => .ok rest
      | [] => cut .object
      | rest => skipFields fuel rest
    | c :: rest => if c.isDigit then skipMagnitude (c :: rest) else malformed .expectedValue (c :: rest)

/-- The items of a list from one item on, and its end. -/
def skipItems : Nat → List Char → Except Stop (List Char)
  | 0, _ => cut .value
  | fuel + 1, cs =>
    match skipValue fuel cs with
    | .error stop => .error stop
    | .ok cs =>
      match skipGaps cs with
      | [] => cut .list
      | ']' :: rest => .ok rest
      | ',' :: rest => skipItems fuel rest
      | rest => malformed .expectedListEnd rest

/-- The fields of an object from one field on, and its end. -/
def skipFields : Nat → List Char → Except Stop (List Char)
  | 0, _ => cut .value
  | fuel + 1, cs =>
    match skipGaps cs with
    | [] => cut .object
    | '"' :: rest =>
      match skipChars .plain rest with
      | .error stop => .error stop
      | .ok rest =>
        match skipGaps rest with
        | [] => cut .object
        | ':' :: rest =>
          match skipValue fuel rest with
          | .error stop => .error stop
          | .ok cs =>
            match skipGaps cs with
            | [] => cut .object
            | '\x7d' :: rest => .ok rest
            | ',' :: rest => skipFields fuel rest
            | rest => malformed .expectedObjectEnd rest
        | rest => malformed .expectedColon rest
    | rest => malformed .keyNotText rest

end

def skip (cs : List Char) : Except Stop (List Char) := skipValue (2 * cs.length + 2) cs

end AppGrants.Json
