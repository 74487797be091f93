/-! Patterns of the shell: an asterisk for any text, a question mark for any character, and sets in brackets. A quoted
character stands for itself. -/
namespace AppGrants.Shell

structure PatternChar where
  c : Char
  quoted : Bool
deriving DecidableEq, Repr

namespace Pattern

def isSign (sign : Char) (item : PatternChar) : Bool := item.c == sign && !item.quoted

/-- The members of a set up to its closing bracket, which counts as a member in the first place. -/
def members : List PatternChar → List PatternChar → Option (List PatternChar × List PatternChar)
  | _, [] => none
  | taken, item :: rest =>
    if isSign ']' item && !taken.isEmpty then some (taken.reverse, rest) else members (item :: taken) rest

def inSet (c : Char) : List PatternChar → Bool
  | low :: dash :: high :: rest =>
    if isSign '-' dash then (low.c.toNat ≤ c.toNat && c.toNat ≤ high.c.toNat) || inSet c rest
    else low.c == c || inSet c (dash :: high :: rest)
  | item :: rest => item.c == c || inSet c rest
  | [] => false

/-- Whether a set has the character, and the pattern after the set; none where the bracket begins no set. -/
def set? (c : Char) (pattern : List PatternChar) : Option (Bool × List PatternChar) :=
  match pattern with
  | sign :: rest =>
    if isSign '!' sign || isSign '^' sign then (members [] rest).map fun (items, rest) => (!inSet c items, rest)
    else (members [] pattern).map fun (items, rest) => (inSet c items, rest)
  | [] => none

def «matches» : Nat → List PatternChar → List Char → Bool
  | 0, _, _ => false
  | _, [], text => text.isEmpty
  | fuel + 1, item :: rest, text =>
    if isSign '*' item then
      «matches» fuel rest text || match text with
        | [] => false
        | _ :: others => «matches» fuel (item :: rest) others
    else match text with
      | [] => false
      | c :: others =>
        if isSign '?' item then «matches» fuel rest others
        else if isSign '[' item then
          match set? c rest with
          | some (member, rest) => member && «matches» fuel rest others
          | none => c == '[' && «matches» fuel rest others
        else item.c == c && «matches» fuel rest others

end Pattern

/-- Whether the pattern stands for the whole text. -/
def fits (pattern : List PatternChar) (text : List Char) : Bool :=
  Pattern.«matches» (pattern.length + text.length + 1) pattern text

/-- The text without the part at one end that the pattern stands for, the shortest or the longest one. -/
def trimBy (front longest : Bool) (pattern : List PatternChar) (text : List Char) : List Char :=
  let counts := List.range (text.length + 1)
  let tried := if longest then counts.reverse else counts
  let split (count : Nat) : List Char × List Char :=
    if front then (text.take count, text.drop count)
    else (text.drop (text.length - count), text.take (text.length - count))
  match tried.find? fun count => fits pattern (split count).1 with
  | some count => (split count).2
  | none => text

end AppGrants.Shell
