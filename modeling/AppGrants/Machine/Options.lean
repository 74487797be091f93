import AppGrants.Text.Octets

/-! Options of a program: letters after a dash, of which some take a text. They may stand before and after the operands. -/
namespace AppGrants.Machine

open Text

structure Options where
  found : List (Char × List Char) := []
  operands : List (List Char) := []

inductive OptionFault where
  | unknown (letter : Char)
  | unknownWord (word : List Char)
  | noText (letter : Char)
deriving DecidableEq, Repr

def OptionFault.message : OptionFault → List Char
  | unknown letter => octets "invalid option -- '" ++ [letter, '\'']
  | unknownWord word => octets "unrecognized option '" ++ word ++ ['\'']
  | noText letter => octets "option requires an argument -- '" ++ [letter, '\'']

namespace Options

def has (options : Options) (letter : Char) : Bool := options.found.any (·.1 == letter)

/-- The text of the last option of that letter. -/
def text? (options : Options) (letter : Char) : Option (List Char) :=
  options.found.foldl (fun text (found, value) => if found = letter then some value else text) none

def before (operand : List Char) (options : Options) : Options :=
  { options with operands := operand :: options.operands }

/-- Letters of one word; one that takes a text takes the rest of the word, or else the next word. -/
def letters (plain withText : List Char) : List Char → List (List Char) →
    Except OptionFault (List (Char × List Char) × List (List Char))
  | [], rest => .ok ([], rest)
  | letter :: more, rest =>
    if withText.contains letter then
      match more, rest with
      | [], text :: rest => .ok ([(letter, text)], rest)
      | [], [] => .error (.noText letter)
      | text, rest => .ok ([(letter, text)], rest)
    else if plain.contains letter then do
      let (others, rest) ← letters plain withText more rest
      .ok ((letter, []) :: others, rest)
    else .error (.unknown letter)

def read (plain withText : List Char) : Nat → List (List Char) → Except OptionFault Options
  | 0, _ => .ok {}
  | _, [] => .ok {}
  | fuel + 1, word :: rest =>
    match word with
    | ['-', '-'] => .ok { operands := rest }
    | '-' :: '-' :: _ => .error (.unknownWord word)
    | '-' :: letter :: more => do
      let (found, rest) ← letters plain withText (letter :: more) rest
      let options ← read plain withText fuel rest
      .ok { options with found := found ++ options.found }
    | word => do
      let options ← read plain withText fuel rest
      .ok (options.before word)

/-- The options before the first operand; every other word is an operand. -/
def leading (plain withText : List Char) : Nat → List (List Char) → Except OptionFault Options
  | 0, words => .ok { operands := words }
  | _, ['-', '-'] :: rest => .ok { operands := rest }
  | fuel + 1, ('-' :: letter :: more) :: rest => do
    let (found, rest) ← letters plain withText (letter :: more) rest
    let options ← leading plain withText fuel rest
    .ok { options with found := found ++ options.found }
  | _, words => .ok { operands := words }

/-- The options among the words of a command. -/
def ofWords (plain withText : String) (words : List (List Char)) : Except OptionFault Options :=
  read plain.toList withText.toList words.length words

end Options
end AppGrants.Machine
