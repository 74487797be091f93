import AppGrants.Shell.Arithmetic
import AppGrants.Shell.Frame
import AppGrants.Shell.Glob

/-! Words with their expansions carried out. Whoever runs the commands within words is a parameter here. -/
namespace AppGrants.Shell

open Text

/-- What commands write, without the line feeds at its end. -/
abbrev Capture := Command → Run (List Char)

namespace Expansion

/-- The folder of a user, which is the own one without a name. -/
def home? (frame : Frame) (user : List Char) : Option (List Char) :=
  if user.isEmpty then frame.value? "HOME".toList
  else if user = "root".toList then some (octets "/root")
  else none

/-- A word whose bare tilde at the beginning stands for a folder. -/
def withHome (frame : Frame) (ends : List Char) (word : Word) : Word :=
  let isBare (p : Char → Bool) : Piece → Bool
    | .bare c => p c
    | _ => false
  match word with
  | .bare '~' :: rest =>
    let user := rest.takeWhile (isBare (!ends.contains ·))
    let after := rest.dropWhile (isBare (!ends.contains ·))
    if !after.head?.all (isBare ends.contains) then word
    else match home? frame (Word.plainText user) with
      | some folder => folder.map .kept ++ after
      | none => word
  | word => word

/-- The value of an assignment, where a tilde may also stand after a colon. -/
def withHomes (frame : Frame) : Nat → Word → Word
  | 0, word => word
  | fuel + 1, word =>
    let isColon : Piece → Bool
      | .bare ':' => true
      | _ => false
    let word := withHome frame ['/', ':'] word
    match word.dropWhile (!isColon ·) with
    | colon :: rest => word.takeWhile (!isColon ·) ++ colon :: withHomes frame fuel rest
    | [] => word

/-- The arguments as fields or as one text. -/
def allArguments (frame : Frame) (quoted joined : Bool) : List Atom :=
  if quoted && joined then Atom.quotedText (joinWith (frame.separators.take 1) frame.arguments)
  else
    let one (argument : List Char) : List Atom :=
      if quoted then .anchor :: Atom.quotedText argument else Atom.splitText argument
    ((frame.arguments.map one).intersperse [.boundary]).flatten

/-- A word that stands in for a parameter is split where it is bare. -/
def splitting (quoted : Bool) (atoms : List Atom) : List Atom :=
  if quoted then atoms
  else atoms.map fun
    | .char c false _ => .char c false true
    | atom => atom

def notSet : String := "parameter not set"

mutual

def piece (capture : Capture) : Nat → Piece → Run (List Atom)
  | 0, _ => Run.endless
  | fuel + 1, piece => do
    match piece with
    | .bare c => pure [.char c false false]
    | .kept c => pure [.char c true false]
    | .emptyQuotes => pure [.anchor]
    | .parameter quoted name change => parameter capture fuel quoted name change
    | .output quoted body => return Atom.ofText quoted (← capture body)
    | .arithmetic quoted expression =>
      let text := Atom.text (← word capture fuel expression)
      match Arithmetic.evaluate (← Run.frame).value? text with
      | .error fault => Run.giveUp (fault.message text)
      | .ok (value, changes) =>
        changes.forM fun (name, value) => Run.assign name (toString value).toList
        return Atom.ofText quoted (toString value).toList

def word (capture : Capture) : Nat → Word → Run (List Atom)
  | 0, _ => Run.endless
  | fuel + 1, pieces => return (← pieces.mapM fun found => piece capture fuel found).flatten

def parameter (capture : Capture) : Nat → Bool → List Char → Change → Run (List Atom)
  | 0, _, _, _ => Run.endless
  | fuel + 1, quoted, name, change => do
    let frame ← Run.frame
    let isAll := name = ['@'] || name = ['*']
    let found := if isAll then some (joinWith [' '] frame.arguments) else frame.parameter? name
    let value := found.getD []
    let plain := if isAll then allArguments frame quoted (name = ['*']) else Atom.ofText quoted value
    let stands (evenIfEmpty : Bool) : Bool := found.isSome && !(evenIfEmpty && value.isEmpty)
    let required : Run Unit := if found.isNone && frame.has 'u' then Run.giveUp (name ++ octets (": " ++ notSet)) else pure ()
    match change with
    | .none =>
      required
      return plain
    | .length =>
      required
      return Atom.ofText quoted (digits value.length)
    | .trim front longest pattern =>
      required
      let pattern := Atom.pattern (← word capture fuel pattern)
      return Atom.ofText quoted (trimBy front longest pattern value)
    | .unknown => Run.giveUp (octets "Bad substitution")
    | .instead '+' evenIfEmpty other =>
      if stands evenIfEmpty then return splitting quoted (← word capture fuel other) else return []
    | .instead sign evenIfEmpty other =>
      if stands evenIfEmpty then return plain
      else if sign = '?' && other.isEmpty then
        Run.giveUp (name ++ octets (": " ++ notSet ++ if evenIfEmpty then " or null" else ""))
      else
        let atoms ← word capture fuel (if quoted then other else withHome frame ['/'] other)
        let text := Atom.text atoms
        match sign with
        | '=' =>
          Run.named name
          Run.assign name text
          return Atom.ofText quoted text
        | '?' => Run.giveUp (name ++ octets ": " ++ text)
        | _ => return splitting quoted atoms

end

/-- The text of a word that is not split. -/
def text (capture : Capture) (fuel : Nat) (found : Word) : Run (List Char) := do
  return Atom.text (← word capture fuel (withHome (← Run.frame) ['/'] found))

def pattern (capture : Capture) (fuel : Nat) (found : Word) : Run (List PatternChar) := do
  return Atom.pattern (← word capture fuel (withHome (← Run.frame) ['/'] found))

def assignment (capture : Capture) (fuel : Nat) (found : Assignment) : Run (List Char) := do
  return Atom.text (← word capture fuel (withHomes (← Run.frame) (found.value.length + 1) found.value))

/-- The fields of a word. -/
def fields (capture : Capture) (fuel : Nat) (found : Word) : Run (List (List Char)) := do
  let atoms ← word capture fuel (withHome (← Run.frame) ['/'] found)
  let state ← get
  let parted := fieldsOf state.frame.separators atoms
  if state.frame.has 'f' then return parted.map (·.map (·.c))
  else return parted.flatMap (pathsOf state.world.tree state.frame.folder)

end Expansion
end AppGrants.Shell
