import AppGrants.Shell.Pattern

/-! Words after expansion: the characters, of which some may part fields and some may be signs of a pattern. -/
namespace AppGrants.Shell

inductive Atom where
  | char (c : Char) (quoted splits : Bool)
  /-- There is a field here even if it has no character. -/
  | anchor
  | boundary
deriving DecidableEq, Repr

namespace Atom

def quotedText (text : List Char) : List Atom := text.map (.char · true false)

def splitText (text : List Char) : List Atom := text.map (.char · false true)

def ofText (quoted : Bool) (text : List Char) : List Atom := if quoted then quotedText text else splitText text

/-- All characters, without regard to fields. -/
def pattern (atoms : List Atom) : List PatternChar :=
  atoms.filterMap fun
    | char c quoted _ => some ⟨c, quoted⟩
    | boundary => some ⟨' ', false⟩
    | anchor => none

def text (atoms : List Atom) : List Char := (pattern atoms).map (·.c)

end Atom

namespace Fields

def isWhiteSeparator (separators : List Char) (c : Char) : Bool := " \t\n".toList.contains c && separators.contains c

/-- The field that is being read, and what has been seen of it. -/
structure Open where
  text : List PatternChar := []
  isField : Bool := false
  afterWhite : Bool := false

def Open.close (current : Open) : List (List PatternChar) :=
  if current.text.isEmpty && !current.isField then [] else [current.text.reverse]

def collect (separators : List Char) : Open → List Atom → List (List PatternChar)
  | current, [] => current.close
  | current, atom :: rest =>
    match atom with
    | .anchor => collect separators { current with isField := true } rest
    | .boundary => current.close ++ collect separators {} rest
    | .char c quoted splits =>
      if splits && isWhiteSeparator separators c then
        current.close ++ collect separators { afterWhite := current.afterWhite || !current.close.isEmpty } rest
      else if splits && separators.contains c then
        if current.afterWhite && current.text.isEmpty then collect separators {} rest
        else (if current.text.isEmpty then [[]] else current.close) ++ collect separators {} rest
      else
        collect separators { current with text := ⟨c, quoted⟩ :: current.text, isField := true, afterWhite := false } rest

end Fields

/-- The fields of a word, whose characters keep whether they were quoted. -/
def fieldsOf (separators : List Char) (atoms : List Atom) : List (List PatternChar) :=
  Fields.collect separators {} atoms

namespace Fields

def dropWhite (separators : List Char) : List PatternChar → List PatternChar :=
  List.dropWhile fun item => !item.quoted && isWhiteSeparator separators item.c

def separates (separators : List Char) (item : PatternChar) : Bool := !item.quoted && separators.contains item.c

/-- What stands behind a separator and the blanks around it. -/
def afterSeparator (separators : List Char) (items : List PatternChar) : List PatternChar :=
  match dropWhite separators items with
  | item :: rest => if separates separators item then dropWhite separators rest else item :: rest
  | [] => []

/-- A line shared out among names; the last one has all that is left, without the separator after a single field. -/
def share (separators : List Char) : Nat → List PatternChar → List (List Char)
  | 0, _ => []
  | 1, items =>
    let rest := items.dropWhile (!separates separators ·)
    let kept :=
      if (afterSeparator separators rest).isEmpty then items.takeWhile (!separates separators ·)
      else (dropWhite separators items.reverse).reverse
    [kept.map (·.c)]
  | count + 2, items =>
    let field := items.takeWhile (!separates separators ·)
    let rest := items.dropWhile (!separates separators ·)
    field.map (·.c) :: share separators (count + 1) (afterSeparator separators rest)

def shareLine (separators : List Char) (count : Nat) (items : List PatternChar) : List (List Char) :=
  share separators count (dropWhite separators items)

end Fields
end AppGrants.Shell
