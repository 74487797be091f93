import AppGrants.Json.Fault

/-! The text of a document: on one line without blanks, or with a line for every item and two blanks per level. Only
what has to be escaped is. -/
namespace AppGrants.Json

def hexDigit (n : Nat) : Char := if n < 10 then Char.ofNat (48 + n) else Char.ofNat (87 + n)

def escapeChar (c : Char) : List Char :=
  if c = '"' then ['\\', '"']
  else if c = '\\' then ['\\', '\\']
  else if c.toNat = 8 then ['\\', 'b']
  else if c.toNat = 9 then ['\\', 't']
  else if c.toNat = 10 then ['\\', 'n']
  else if c.toNat = 12 then ['\\', 'f']
  else if c.toNat = 13 then ['\\', 'r']
  else if c.toNat < 0x20 then ['\\', 'u', '0', '0', hexDigit (c.toNat / 16), hexDigit (c.toNat % 16)]
  else [c]

def printText (text : String) : List Char := '"' :: text.toList.flatMap escapeChar ++ ['"']

def printNumber (n : Number) : List Char := n.describe.toList

mutual

def print : Doc → List Char
  | .null => ['n', 'u', 'l', 'l']
  | .bool true => ['t', 'r', 'u', 'e']
  | .bool false => ['f', 'a', 'l', 's', 'e']
  | .number n => printNumber n
  | .text value => printText value
  | .list items => '[' :: printItems items
  | .object fields => '\x7b' :: printFields fields

/-- The items and the closing bracket. -/
def printItems : List Doc → List Char
  | [] => [']']
  | [item] => print item ++ [']']
  | item :: rest => print item ++ ',' :: printItems rest

/-- The fields and the closing brace. -/
def printFields : List (String × Doc) → List Char
  | [] => ['\x7d']
  | [(name, value)] => printText name ++ ':' :: print value ++ ['\x7d']
  | (name, value) :: rest => printText name ++ ':' :: print value ++ ',' :: printFields rest

end

def lineBreak (level : Nat) : List Char := '\n' :: List.replicate (2 * level) ' '

mutual

def printPretty (level : Nat) : Doc → List Char
  | .list [] => ['[', ']']
  | .list items => '[' :: printPrettyItems level items
  | .object [] => ['\x7b', '\x7d']
  | .object fields => '\x7b' :: printPrettyFields level fields
  | other => print other

def printPrettyItems (level : Nat) : List Doc → List Char
  | [] => [']']
  | [item] => lineBreak (level + 1) ++ printPretty (level + 1) item ++ lineBreak level ++ [']']
  | item :: rest => lineBreak (level + 1) ++ printPretty (level + 1) item ++ ',' :: printPrettyItems level rest

def printPrettyFields (level : Nat) : List (String × Doc) → List Char
  | [] => ['\x7d']
  | [(name, value)] =>
    lineBreak (level + 1) ++ printText name ++ [':', ' '] ++ printPretty (level + 1) value ++ lineBreak level ++ ['\x7d']
  | (name, value) :: rest =>
    lineBreak (level + 1) ++ printText name ++ [':', ' '] ++ printPretty (level + 1) value ++
      ',' :: printPrettyFields level rest

end

def Doc.compact (doc : Doc) : String := String.ofList (print doc)

def Doc.pretty (doc : Doc) : String := String.ofList (printPretty 0 doc)

end AppGrants.Json
