/-! Commands of the shell, with words that keep what was quoted apart from what was not. -/
namespace AppGrants.Shell

inductive Direction where
  | read
  | write
  /-- The same even if the shell spares files that are there. -/
  | replace
  | append
  | both
  | duplicate
  | document
deriving DecidableEq, Repr

mutual

/-- A part of a word. Only what is bare can be a sign of the language; quotes make a field even if there is nothing in
them. -/
inductive Piece where
  | bare (c : Char)
  | kept (c : Char)
  | emptyQuotes
  | parameter (quoted : Bool) (name : List Char) (change : Change)
  | output (quoted : Bool) (body : Command)
  | arithmetic (quoted : Bool) (expression : List Piece)

/-- What is done with the value of a parameter before it is put in. -/
inductive Change where
  | none
  | length
  | instead (sign : Char) (evenIfEmpty : Bool) (word : List Piece)
  | trim (front : Bool) (longest : Bool) (pattern : List Piece)
  /-- There is no such change, which is told only when the value is asked for. -/
  | unknown

/-- For a document the word is its content. -/
structure Redirection where
  descriptor : Nat
  direction : Direction
  word : List Piece

structure Assignment where
  name : List Char
  value : List Piece

inductive Command where
  | nothing
  | simple (line : Nat) (assignments : List Assignment) (words : List (List Piece)) (redirections : List Redirection)
  | redirected (line : Nat) (body : Command) (redirections : List Redirection)
  | subshell (body : Command)
  | sequence (first second : Command)
  | andThen (first second : Command)
  | orElse (first second : Command)
  | negated (body : Command)
  | pipe (left right : Command)
  | background (body : Command)
  | choice (condition body other : Command)
  | loop (untilTrue : Bool) (condition body : Command)
  | each (line : Nat) (name : List Char) (words : Option (List (List Piece))) (body : Command)
  | select (line : Nat) (word : List Piece) (branches : List (List (List Piece) × Command))
  | define (name : List Char) (body : Command)

end

abbrev Word := List Piece

namespace Word

def bareText? : Word → Option (List Char)
  | [] => some []
  | .bare c :: rest => (bareText? rest).map (c :: ·)
  | _ => none

/-- The characters of a word, without its expansions. -/
def plainText (word : Word) : List Char :=
  word.filterMap fun
    | .bare c | .kept c => some c
    | _ => none

end Word

def isNameStart (c : Char) : Bool := c.isAlpha || c == '_'

def isNameChar (c : Char) : Bool := c.isAlphanum || c == '_'

def isName (cs : List Char) : Bool := cs.all isNameChar && cs.head?.any isNameStart

/-- A name with an equals sign after it, all of it bare, and the value. -/
def Word.assignment? (word : Word) : Option Assignment :=
  let rec go (name : List Char) : Word → Option Assignment
    | .bare '=' :: value => if isName name.reverse then some ⟨name.reverse, value⟩ else none
    | .bare c :: rest => if isNameChar c then go (c :: name) rest else none
    | _ => none
  go [] word

end AppGrants.Shell
