import AppGrants.Machine.Options
import AppGrants.Machine.Utility
import AppGrants.Shell.Frame

/-! What the commands of the shell's own have in common: how they read their arguments. A fault in an argument ends the
command, and the shell too if the command is a special one. -/
namespace AppGrants.Shell.Builtin

open Machine Text

abbrev Body := List (List Char) → Run Unit

/-- A small program that works inside the shell. -/
def ofUtility (utility : Utility) : Body := fun arguments => do
  let frame ← Run.frame
  Run.await (← Run.onWorld
    (utility { arguments := frame.place :: arguments, folder := frame.folder, descriptors := frame.descriptors }))

def optionFault : OptionFault → List Char
  | .unknown letter => octets "Illegal option -" ++ [letter]
  | .unknownWord word => octets "Illegal option " ++ word
  | .noText letter => octets "No arg for -" ++ letter :: octets " option"

/-- The options before the operands. -/
def options (plain withText : String) (words : List (List Char)) : Run Options :=
  match Options.leading plain.toList withText.toList (words.length + 1) words with
  | .ok options => pure options
  | .error fault => Run.giveUp (optionFault fault)

def illegalNumber (text : List Char) : Run α := Run.giveUp (octets "Illegal number: " ++ text)

/-- The largest number that an argument may be. -/
def largest : Nat := 2147483647

def number (text : List Char) : Run Nat :=
  match Condition.number text with
  | .ok value => if 0 ≤ value && value ≤ largest then pure value.toNat else illegalNumber text
  | .error _ => illegalNumber text

/-- The number in the first argument, if there is one. -/
def count (default : Nat) : List (List Char) → Run Nat
  | [] => pure default
  | text :: _ => number text

/-- A text between quotes as the shell reads it again: single quotes, and double ones around those in it. -/
def quoted (text : List Char) : List Char :=
  let rec go (plain : Bool) : List Char → List Char
    | [] => if plain then ['\''] else ['"']
    | c :: rest =>
      if plain = (c != '\'') then c :: go plain rest
      else if plain then '\'' :: '"' :: c :: go false rest
      else '"' :: '\'' :: c :: go true rest
  '\'' :: go true text

end AppGrants.Shell.Builtin
