import AppGrants.Shell.Syntax
import AppGrants.Text.Numeral
import AppGrants.Text.Octets

/-! Arithmetic of the shell in words of 64 bits. An expression is worked out as it is read, so of two faults the first one is
told; a side that does not count is read without being worked out. -/
namespace AppGrants.Shell.Arithmetic

open Text

inductive Token where
  | number (value : Int64)
  | name (text : List Char)
  | sign (text : String)
  /-- Nothing that an expression may have, and the end of what is read of it. -/
  | unknown
deriving DecidableEq, Repr

inductive Fault where
  | expecting (what : String)
  | divisionByZero
  | noNumber (value : List Char)
deriving DecidableEq, Repr

def Fault.message (expression : List Char) : Fault → List Char
  | expecting what => octets ("arithmetic expression: expecting " ++ what ++ ": \"") ++ expression ++ ['"']
  | divisionByZero => octets "arithmetic expression: division by zero: \"" ++ expression ++ ['"']
  | noNumber value => octets "Illegal number: " ++ value

/-- Of two signs that begin alike the longer one is first. -/
def signs : List String := [
  "<<=", ">>=", "<<", ">>", "<=", ">=", "||", "&&", "==", "!=", "*=", "/=", "%=", "+=", "-=", "&=", "^=", "|=", "<", ">",
  "|", "&", "!", "(", ")", "*", "/", "%", "+", "-", "~", "^", "?", ":", "="]

/-- The closest word to a number. -/
def closest (value : Int) : Int64 := Int64.ofInt (max Int64.minValue.toInt (min value Int64.maxValue.toInt))

def signAt? (cs : List Char) : Option (String × List Char) :=
  signs.findSome? fun sign => (sign.toList.isPrefixOf? cs).map (sign, ·)

def tokens : Nat → List Char → List Token
  | 0, _ => []
  | _, [] => []
  | fuel + 1, c :: rest =>
    if " \t\n".toList.contains c then tokens fuel rest
    else if isNameStart c then
      .name ((c :: rest).takeWhile isNameChar) :: tokens fuel ((c :: rest).dropWhile isNameChar)
    else match Numeral.digitsAt (c :: rest), signAt? (c :: rest) with
      | some (value, rest), _ => .number (closest value) :: tokens fuel rest
      | none, some (sign, rest) => .sign sign :: tokens fuel rest
      | none, none => [.unknown]

/-- What is left of an expression, and the variables that it has changed. -/
structure Progress where
  tokens : List Token
  changes : List (List Char × Int64) := []

/-- The value of a variable is a text. -/
abbrev Reader := ReaderT (List Char → Option (List Char)) (StateT Progress (Except Fault))

def accept (signs : List String) : Reader (Option String) := do
  match (← get).tokens with
  | .sign text :: rest =>
    if signs.contains text then
      modify ({ · with tokens := rest })
      return some text
    else return none
  | _ => return none

/-- A variable as a number: without a value it is zero. -/
def valueOf (name : List Char) : Reader Int64 := do
  match (← get).changes.lookup name with
  | some value => return value
  | none =>
    let text := ((← read) name).getD []
    let (negative, unsigned) := Numeral.signOf text
    let (magnitude, rest) := (Numeral.digitsAt unsigned).getD (0, text)
    let value : Int := if negative then -magnitude else magnitude
    if !rest.all isAsciiBlank || (closest value).toInt != value then throw (.noNumber text)
    return closest value

def truth (b : Bool) : Int64 := if b then 1 else 0

def combine (operator : String) (left right : Int64) : Except Fault Int64 :=
  match operator with
  | "*" => .ok (left * right)
  | "/" => if right = 0 then .error .divisionByZero else .ok (left / right)
  | "%" => if right = 0 then .error .divisionByZero else .ok (left % right)
  | "+" => .ok (left + right)
  | "-" => .ok (left - right)
  | "<<" => .ok (left <<< right)
  | ">>" => .ok (left >>> right)
  | "<" => .ok (truth (left < right))
  | "<=" => .ok (truth (left ≤ right))
  | ">" => .ok (truth (left > right))
  | ">=" => .ok (truth (left ≥ right))
  | "==" => .ok (truth (left = right))
  | "!=" => .ok (truth (left ≠ right))
  | "&" => .ok (left &&& right)
  | "^" => .ok (left ^^^ right)
  | "|" => .ok (left ||| right)
  | _ => .ok right

/-- Operators from the loosest to the tightest. -/
def levels : List (List String) :=
  [["|"], ["^"], ["&"], ["==", "!="], ["<", "<=", ">", ">="], ["<<", ">>"], ["+", "-"], ["*", "/", "%"]]

/-- The operator of an assignment; a plain one has none. -/
def assignment? (sign : String) : Option String :=
  let assignments := ["=", "*=", "/=", "%=", "+=", "-=", "<<=", ">>=", "&=", "^=", "|="]
  if assignments.contains sign then some (String.ofList sign.toList.dropLast) else none

mutual

def assignment : Nat → Bool → Reader Int64
  | 0, _ => pure 0
  | fuel + 1, counts => do
    match (← get).tokens with
    | .name name :: .sign sign :: rest =>
      match assignment? sign with
      | none => conditional fuel counts
      | some operator =>
        modify ({ · with tokens := rest })
        let right ← assignment fuel counts
        if counts then
          let value ← if operator.isEmpty then pure right else combine operator (← valueOf name) right
          modify fun progress => { progress with changes := (name, value) :: progress.changes }
          return value
        else return right
    | _ => conditional fuel counts

def conditional : Nat → Bool → Reader Int64
  | 0, _ => pure 0
  | fuel + 1, counts => do
    let condition ← either fuel counts
    if (← accept ["?"]).isNone then return condition
    let first ← assignment fuel (counts && condition != 0)
    if (← accept [":"]).isNone then throw (.expecting "':'")
    let second ← conditional fuel (counts && condition = 0)
    return if condition != 0 then first else second

def either : Nat → Bool → Reader Int64
  | 0, _ => pure 0
  | fuel + 1, counts => do
    let first ← both fuel counts
    if (← accept ["||"]).isNone then return first
    let second ← either fuel (counts && first = 0)
    return truth (first != 0 || second != 0)

def both : Nat → Bool → Reader Int64
  | 0, _ => pure 0
  | fuel + 1, counts => do
    let first ← binary fuel counts levels
    if (← accept ["&&"]).isNone then return first
    let second ← both fuel (counts && first != 0)
    return truth (first != 0 && second != 0)

/-- A value whose operators are of the given levels. -/
def binary : Nat → Bool → List (List String) → Reader Int64
  | 0, _, _ => pure 0
  | fuel + 1, counts, [] => primary fuel counts
  | fuel + 1, counts, operators :: tighter => do
    binaryAfter fuel counts operators tighter (← binary fuel counts tighter)

def binaryAfter : Nat → Bool → List String → List (List String) → Int64 → Reader Int64
  | 0, _, _, _, left => pure left
  | fuel + 1, counts, operators, tighter, left => do
    match ← accept operators with
    | none => return left
    | some operator =>
      let right ← binary fuel counts tighter
      binaryAfter fuel counts operators tighter (← if counts then combine operator left right else pure right)

def primary : Nat → Bool → Reader Int64
  | 0, _ => pure 0
  | fuel + 1, counts => do
    match (← get).tokens with
    | .number value :: rest =>
      modify ({ · with tokens := rest })
      return value
    | .name name :: rest =>
      modify ({ · with tokens := rest })
      if counts then valueOf name else return 0
    | _ =>
      match ← accept ["(", "+", "-", "!", "~"] with
      | some "(" =>
        let value ← assignment fuel counts
        if (← accept [")"]).isNone then throw (.expecting "')'")
        return value
      | some "+" => primary fuel counts
      | some "-" => return -(← primary fuel counts)
      | some "!" => return truth ((← primary fuel counts) = 0)
      | some _ => return ~~~(← primary fuel counts)
      | none => throw (.expecting "primary")

end

/-- The value of an expression, and what it has assigned, from the first assignment to the last. -/
def evaluate (values : List Char → Option (List Char)) (expression : List Char) :
    Except Fault (Int64 × List (List Char × Int64)) := do
  let tokens := tokens expression.length expression
  let (value, progress) ← assignment (16 * (tokens.length + 2)) true values { tokens }
  if progress.tokens.isEmpty then .ok (value, progress.changes.reverse) else .error (.expecting "EOF")

end AppGrants.Shell.Arithmetic
