import AppGrants.Files.Tree
import AppGrants.Text.Numeral
import AppGrants.Text.Octets

/-! Conditions as commands are given them, word by word: what a word is depends on those beside it. -/
namespace AppGrants.Machine.Condition

open Files Text

inductive Fault where
  | unexpectedOperator (word : List Char)
  | missingArgument (operator : List Char)
  | missingParenthesis
  | noNumber (word : List Char)
deriving DecidableEq, Repr

def Fault.message : Fault → List Char
  | unexpectedOperator word => word ++ octets ": unexpected operator"
  | missingArgument operator => operator ++ octets ": argument expected"
  | missingParenthesis => octets "closing paren expected"
  | noNumber word => octets "Illegal number: " ++ word

/-- What a word may stand for. -/
inductive Kind where
  | nothing
  | operand
  | unary
  | binary
  | conjunction
  | disjunction
  | negation
  | opening
  | closing
deriving DecidableEq, Repr

def unaryOperators : List String := [
  "-r", "-w", "-x", "-e", "-f", "-d", "-c", "-b", "-p", "-u", "-g", "-k", "-s", "-t", "-z", "-n", "-h", "-L", "-O", "-G", "-S"]

def binaryOperators : List String := ["=", "!=", "<", ">", "-eq", "-ne", "-ge", "-gt", "-le", "-lt"]

def operatorKind? (word : List Char) : Option Kind :=
  let text := String.ofList word
  if unaryOperators.contains text then some .unary
  else if binaryOperators.contains text then some .binary
  else match text with
    | "-a" => some .conjunction
    | "-o" => some .disjunction
    | "!" => some .negation
    | "(" => some .opening
    | ")" => some .closing
    | _ => none

/-- The kind of the first word. An operator with nothing to work on is an operand. -/
def kindOf : List (List Char) → Kind
  | [] => .nothing
  | word :: rest =>
    match operatorKind? word, rest with
    | some .unary, [] => .operand
    | some .unary, [_] => .unary
    | some .unary, next :: _ => if operatorKind? next = some .binary then .operand else .unary
    | some .opening, [] => .operand
    | some kind, _ => kind
    | none, _ => .operand

/-- The largest number that may be compared. -/
def largest : Nat := 9223372036854775807

def number (word : List Char) : Except Fault Int :=
  let (negative, digits) := Numeral.signOf (word.reverse.dropWhile isAsciiBlank).reverse
  match natOfDigits? digits with
  | some value => if value > largest then .error (.noNumber word) else .ok (if negative then -(value : Int) else value)
  | none => .error (.noNumber word)

/-- The files that conditions ask for. -/
structure Place where
  tree : Tree
  folder : List String

def Place.has (place : Place) (p : Node → Bool) (path : List Char) : Bool :=
  match place.tree.find place.folder (textOfOctets path) with
  | .ok node => p node
  | .error _ => false

def unary (place : Place) (operator operand : List Char) : Except Fault Bool := do
  match String.ofList operator with
  | "-n" => return !operand.isEmpty
  | "-z" => return operand.isEmpty
  | "-e" | "-r" | "-w" => return place.has (fun _ => true) operand
  | "-f" => return place.has Node.isFile operand
  | "-d" => return place.has (!·.isFile) operand
  | "-s" => return place.has (fun | .file content _ => !content.isEmpty | .folder => true) operand
  | "-x" => return place.has (fun | .file _ executable => executable | .folder => true) operand
  | "-t" =>
    let _ ← number operand
    return false
  | _ => return false

def binary (operator left right : List Char) : Except Fault Bool := do
  let numbers (p : Int → Int → Bool) : Except Fault Bool := do
    let first ← number left
    return p first (← number right)
  match String.ofList operator with
  | "=" => return left == right
  | "!=" => return left != right
  | "<" => return decide (left < right)
  | ">" => return decide (right < left)
  | "-eq" => numbers (· == ·)
  | "-ne" => numbers (· != ·)
  | "-lt" => numbers (· < ·)
  | "-le" => numbers (· ≤ ·)
  | "-gt" => numbers (· > ·)
  | _ => numbers (· ≥ ·)

/-- A value, and the words from the last one on that was used. -/
abbrev Found := Bool × List (List Char)

mutual

def either (place : Place) : Nat → Kind → List (List Char) → Except Fault Found
  | 0, _, words => .ok (false, words)
  | fuel + 1, kind, words => do
    let (value, last) ← both place fuel kind words
    if kindOf last.tail = .disjunction then
      let rest := last.tail.tail
      let (other, last) ← either place fuel (kindOf rest) rest
      return (value || other, last)
    else return (value, last)

def both (place : Place) : Nat → Kind → List (List Char) → Except Fault Found
  | 0, _, words => .ok (false, words)
  | fuel + 1, kind, words => do
    let (value, last) ← negated place fuel kind words
    if kindOf last.tail = .conjunction then
      let rest := last.tail.tail
      let (other, last) ← both place fuel (kindOf rest) rest
      return (value && other, last)
    else return (value, last)

def negated (place : Place) : Nat → Kind → List (List Char) → Except Fault Found
  | 0, _, words => .ok (false, words)
  | fuel + 1, kind, words => do
    if kind = .negation then
      let rest := words.tail
      let (value, last) ← if rest.isEmpty then pure (false, words) else negated place fuel (kindOf rest) rest
      return (!value, last)
    else primary place fuel kind words

def primary (place : Place) : Nat → Kind → List (List Char) → Except Fault Found
  | 0, _, words => .ok (false, words)
  | fuel + 1, kind, words => do
    match kind, words with
    | .nothing, words => return (false, words)
    | .opening, _ :: rest =>
      if kindOf rest = .closing then return (false, rest)
      else
        let (value, last) ← either place fuel (kindOf rest) rest
        if kindOf last.tail = .closing then return (value, last.tail) else throw .missingParenthesis
    | .unary, operator :: operand :: rest => return (← unary place operator operand, operand :: rest)
    | .unary, operator :: _ => throw (.missingArgument operator)
    | _, word :: operator :: rest =>
      if kindOf (operator :: rest) = .binary then
        match rest with
        | right :: rest => return (← binary operator word right, right :: rest)
        | [] => throw (.missingArgument operator)
      else return (!word.isEmpty, words)
    | _, [word] => return (!word.isEmpty, words)
    | _, [] => return (false, [])

end

/-- A whole condition: no word may be left after it. -/
def whole (place : Place) (kind : Kind) (words : List (List Char)) : Except Fault Bool := do
  let (value, last) ← either place (4 * (words.length + 2)) kind words
  match last with
  | word :: _ :: _ => throw (.unexpectedOperator word)
  | _ => return value

/-- The value of a condition. Of three words an operator in the middle decides. -/
def value (place : Place) (words : List (List Char)) : Except Fault Bool := do
  let general (words : List (List Char)) : Except Fault Bool := whole place (kindOf words) words
  match words with
  | [] => return false
  | [first, middle, last] =>
    if operatorKind? middle = some .binary then whole place .operand words
    else if first = ['('] && last = [')'] then general [middle]
    else general words
  | [first, second, third, fourth] =>
    if first = ['('] && fourth = [')'] then general [second, third]
    else if first = ['!'] && operatorKind? third = some .binary then
      return !(← whole place .operand [second, third, fourth])
    else general words
  | words => general words

end AppGrants.Machine.Condition
