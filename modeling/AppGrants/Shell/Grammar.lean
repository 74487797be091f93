import AppGrants.Shell.Token

/-! Commands from the tokens of a script. Words of the language are known where a command could begin; a script is read one
line of commands at a time. -/
namespace AppGrants.Shell

/-- Commands of the shell whose names no function may have. -/
def specialNames : List String :=
  [":", ".", "break", "continue", "eval", "exec", "exit", "export", "local", "readonly", "return", "set", "shift", "times",
    "trap", "unset"]

namespace Grammar

open Reader

/-- How far a list of commands goes: to the end of a line, or to a token that ends a list; it may be empty or not. -/
inductive Extent where
  | line
  | block
  | optional
deriving DecidableEq, Repr

/-- Tokens that end a list where a command could begin. -/
def endsList : Token → Bool
  | .operator text => [")", ";;"].contains text
  | .keyword text => ["do", "done", "elif", "else", "esac", "fi", "then", "\x7d"].contains text
  | _ => false

def joined (before after : Command) : Command :=
  match before with
  | .nothing => after
  | before => .sequence before after

/-- What a simple command has of each kind, in reverse. -/
structure Parts where
  assignments : List Assignment := []
  words : List Word := []
  redirections : List Redirection := []

def Parts.command (parts : Parts) (line : Nat) : Command :=
  .simple line parts.assignments.reverse parts.words.reverse parts.redirections.reverse

/-- A word after an assignment or at the beginning may be one more assignment. -/
def Parts.add (parts : Parts) (word : Word) : Parts :=
  match parts.words, word.assignment? with
  | [], some assignment => { parts with assignments := assignment :: parts.assignments }
  | words, _ => { parts with words := word :: words }

def directionOf (symbol : String) : Direction :=
  match symbol with
  | "<<-" | "<<" => .document
  | "<&" | ">&" => .duplicate
  | "<>" => .both
  | "<" => .read
  | ">>" => .append
  | ">|" => .replace
  | _ => .write

/-- The text of a token as a pattern, which words of the language may be. -/
def patternOf : Token → Word
  | .word word => word
  | .keyword text => text.toList.map .bare
  | _ => []

def isFunctionName (name : List Char) : Bool := isName name && !specialNames.contains (String.ofList name)

mutual

def list : Nat → Extent → Reader Command
  | 0, _ => pure .nothing
  | fuel + 1, extent => listAfter fuel extent (extent = .optional) .nothing

/-- The rest of a list after some of its commands. -/
def listAfter : Nat → Extent → (mayEnd : Bool) → Command → Reader Command
  | 0, _, _, before => pure before
  | fuel + 1, extent, mayEnd, before => do
    let ofLine := extent = .line
    let token ← next fuel (!ofLine) true
    match token with
    | .newline => pure before
    | .endOfScript =>
      hold token
      pure before
    | token =>
      hold token
      if mayEnd && endsList token then pure before
      else
        let command ← andOr fuel
        let after ← next fuel false false
        match after with
        | .operator "&" => listAfter fuel extent (!ofLine) (joined before (.background command))
        | .operator ";" => listAfter fuel extent (!ofLine) (joined before command)
        | .newline =>
          hold after
          listAfter fuel extent (!ofLine) (joined before command)
        | .endOfScript =>
          hold after
          pure (joined before command)
        | after =>
          if ofLine then unexpected after none
          else
            hold after
            pure (joined before command)

/-- The next token of the script, whose words may have commands in them. -/
def next : Nat → (acrossLines asKeyword : Bool) → Reader Token
  | 0, _, _ => pure .endOfScript
  | fuel + 1, acrossLines, asKeyword => Token.next (inner fuel) fuel acrossLines asKeyword

/-- The commands within a word, up to a parenthesis or up to the end of their own text. -/
def inner : Nat → Token.Commands
  | 0, _ => pure .nothing
  | fuel + 1, inParentheses => do
    let body ← list fuel .optional
    if inParentheses then expect fuel (.operator ")")
    return body

def expect : Nat → Token → Reader Unit
  | 0, _ => pure ()
  | fuel + 1, token => do
    let found ← next fuel false false
    if found.called != token.called then unexpected found (some token)

/-- The same across lines and for words of the language. -/
def expectKeyword : Nat → String → Reader Unit
  | 0, _ => pure ()
  | fuel + 1, text => do
    let found ← next fuel true true
    if found.called != (Token.keyword text).called then unexpected found (some (.keyword text))

def andOr : Nat → Reader Command
  | 0 => pure .nothing
  | fuel + 1 => do andOrAfter fuel (← pipeline fuel)

/-- Both operators bind alike and to the left. -/
def andOrAfter : Nat → Command → Reader Command
  | 0, first => pure first
  | fuel + 1, first => do
    let operator ← next fuel false false
    let second : Reader Command := do
      hold (← next fuel true true)
      pipeline fuel
    match operator with
    | .operator "&&" => andOrAfter fuel (.andThen first (← second))
    | .operator "||" => andOrAfter fuel (.orElse first (← second))
    | operator =>
      hold operator
      pure first

def pipeline : Nat → Reader Command
  | 0 => pure .nothing
  | fuel + 1 => do
    match ← next fuel false false with
    | .keyword "!" =>
      hold (← next fuel false true)
      return .negated (← pipe fuel)
    | token =>
      hold token
      pipe fuel

def pipe : Nat → Reader Command
  | 0 => pure .nothing
  | fuel + 1 => do
    let first ← command fuel
    match ← next fuel false false with
    | .operator "|" =>
      hold (← next fuel true true)
      return .pipe first (← pipe fuel)
    | token =>
      hold token
      return first

def command : Nat → Reader Command
  | 0 => pure .nothing
  | fuel + 1 => do
    let line := (← get).line
    match ← next fuel false false with
    | .keyword "if" => closed fuel line (.keyword "fi") (← condition fuel)
    | .keyword "while" => closed fuel line (.keyword "done") (← loop fuel false)
    | .keyword "until" => closed fuel line (.keyword "done") (← loop fuel true)
    | .keyword "for" => closed fuel line (.keyword "done") (← each fuel line)
    | .keyword "case" => redirected fuel line [] (← select fuel line)
    | .operator "(" => closed fuel line (.operator ")") (.subshell (← list fuel .block))
    | .keyword "\x7b" => closed fuel line (.keyword "\x7d") (← list fuel .block)
    | .word word => do
      hold (.word word)
      simple fuel line {}
    | .redirection descriptor symbol => do
      hold (.redirection descriptor symbol)
      simple fuel line {}
    | token => unexpected token none

/-- The token that ends a command, and the redirections that may stand after it. -/
def closed : Nat → Nat → Token → Command → Reader Command
  | 0, _, _, body => pure body
  | fuel + 1, line, token, body => do
    expect fuel token
    redirected fuel line [] body

def redirected : Nat → Nat → List Redirection → Command → Reader Command
  | 0, _, _, body => pure body
  | fuel + 1, line, found, body => do
    match ← next fuel false true with
    | .redirection descriptor symbol => redirected fuel line ((← redirection fuel descriptor symbol) :: found) body
    | token =>
      hold token
      return if found.isEmpty then body else .redirected line body found.reverse

def redirection : Nat → Option Nat → String → Reader Redirection
  | 0, _, symbol => pure ⟨0, directionOf symbol, []⟩
  | fuel + 1, descriptor, symbol => do
    let descriptor := descriptor.getD (if symbol.startsWith "<" then 0 else 1)
    match ← next fuel false false with
    | .word word =>
      match directionOf symbol with
      | .document => return ⟨descriptor, .document, ← Token.document (inner fuel) fuel (symbol = "<<-") word⟩
      | direction => return ⟨descriptor, direction, word⟩
    | token => unexpected token none

def simple : Nat → Nat → Parts → Reader Command
  | 0, line, parts => pure (parts.command line)
  | fuel + 1, line, parts => do
    let token ← next fuel false false
    match token, parts with
    | .word word, parts => simple fuel line (parts.add word)
    | .redirection descriptor symbol, parts =>
      let found ← redirection fuel descriptor symbol
      simple fuel line { parts with redirections := found :: parts.redirections }
    | .operator "(", ⟨[], [name], []⟩ => do
      expect fuel (.operator ")")
      match name.bareText? with
      | some name =>
        if isFunctionName name then
          hold (← next fuel true true)
          return .define name (← command fuel)
        else refuse .badFunctionName
      | none => refuse .badFunctionName
    | token, parts => do
      hold token
      return parts.command line

/-- A condition with what follows from it, up to the word that ends it. -/
def condition : Nat → Reader Command
  | 0 => pure .nothing
  | fuel + 1 => do
    let test ← list fuel .block
    expect fuel (.keyword "then")
    let body ← list fuel .block
    match ← next fuel false false with
    | .keyword "elif" => return .choice test body (← condition fuel)
    | .keyword "else" => return .choice test body (← list fuel .block)
    | token =>
      hold token
      return .choice test body .nothing

def loop : Nat → Bool → Reader Command
  | 0, _ => pure .nothing
  | fuel + 1, untilTrue => do
    let test ← list fuel .block
    expect fuel (.keyword "do")
    return .loop untilTrue test (← list fuel .block)

def each : Nat → Nat → Reader Command
  | 0, _ => pure .nothing
  | fuel + 1, line => do
    match ← next fuel false false with
    | .word word =>
      match word.bareText? with
      | some name =>
        if !isName name then refuse .badLoopVariable
        else
          let words ← eachWords fuel
          expectKeyword fuel "do"
          return .each line name words (← list fuel .block)
      | none => refuse .badLoopVariable
    | _ => refuse .badLoopVariable

/-- The words that a loop goes over; without any it goes over the arguments. -/
def eachWords : Nat → Reader (Option (List Word))
  | 0 => pure none
  | fuel + 1 => do
    match ← next fuel true true with
    | .keyword "in" =>
      let words ← «words» fuel []
      match ← next fuel false false with
      | .newline | .operator ";" => return some words
      | token => unexpected token none
    | .operator ";" => return none
    | token =>
      hold token
      return none

def «words» : Nat → List Word → Reader (List Word)
  | 0, found => pure found.reverse
  | fuel + 1, found => do
    match ← next fuel false false with
    | .word word => «words» fuel (word :: found)
    | token =>
      hold token
      return found.reverse

def select : Nat → Nat → Reader Command
  | 0, _ => pure .nothing
  | fuel + 1, line => do
    match ← next fuel false false with
    | .word word =>
      expectKeyword fuel "in"
      return .select line word (← branches fuel [])
    | token => unexpected token (some (.word []))

/-- The branches of a selection, through the word that ends it. -/
def branches : Nat → List (List Word × Command) → Reader (List (List Word × Command))
  | 0, found => pure found.reverse
  | fuel + 1, found => do
    match ← next fuel true true with
    | .keyword "esac" => return found.reverse
    | token =>
      let first ← match token with
        | .operator "(" => next fuel false false
        | token => pure token
      let patterns ← patterns fuel [patternOf first]
      let found := (patterns, ← list fuel .optional) :: found
      match ← next fuel true true with
      | .keyword "esac" => return found.reverse
      | .operator ";;" => branches fuel found
      | token => unexpected token (some (.operator ";;"))

def patterns : Nat → List Word → Reader (List Word)
  | 0, found => pure found.reverse
  | fuel + 1, found => do
    match ← next fuel false false with
    | .operator "|" => patterns fuel (patternOf (← next fuel false false) :: found)
    | .operator ")" => return found.reverse
    | token => unexpected token (some (.operator ")"))

end

/-- Enough for every reader on its way through a text, with the readers that it calls. -/
def fuelFor (text : List Char) : Nat := 16 * (text.length + 4)

end Grammar

/-- The next line of commands, or nothing at the end of the script. -/
def Cursor.command? (cursor : Cursor) : Except SyntaxFault (Option Command × Cursor) :=
  let fuel := Grammar.fuelFor cursor.rest
  (do
    let token ← Grammar.next fuel false true
    match token with
    | .endOfScript => return none
    | token =>
      Reader.hold token
      return some (← Grammar.list fuel .line) : Reader (Option Command)) cursor

end AppGrants.Shell
