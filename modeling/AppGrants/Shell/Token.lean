import AppGrants.Shell.Syntax

/-! The words and signs of a script. Single quotes keep everything, double quotes keep all but expansions, and a backslash
keeps the next character; a comment begins with a number sign where a word could begin. -/
namespace AppGrants.Shell

inductive Token where
  | endOfScript
  | newline
  | operator (symbol : String)
  | keyword (text : String)
  | redirection (descriptor : Option Nat) (symbol : String)
  | word (word : Word)

/-- What a token is called in a complaint. -/
def Token.called : Token → String
  | endOfScript => "end of file"
  | newline => "newline"
  | operator text | keyword text => "\"" ++ text ++ "\""
  | redirection _ _ => "redirection"
  | word _ => "word"

/-- Why a text is no script. -/
inductive SyntaxCause where
  | unexpected (found : Token) (expected : Option Token)
  | openQuotes
  | openBraces
  | openArithmetic
  | openBackquotes
  | badLoopVariable
  | badFunctionName
  | badDescriptor

def SyntaxCause.message : SyntaxCause → String
  | unexpected found none => found.called ++ " unexpected"
  | unexpected found (some expected) => found.called ++ " unexpected (expecting " ++ expected.called ++ ")"
  | openQuotes => "Unterminated quoted string"
  | openBraces => "Missing '\x7d'"
  | openArithmetic => "Missing '))'"
  | openBackquotes => "EOF in backquote substitution"
  | badLoopVariable => "Bad for loop variable"
  | badFunctionName => "Bad function name"
  | badDescriptor => "Bad fd number"

structure SyntaxFault where
  cause : SyntaxCause
  line : Nat

/-- What is left of a script. A token that has been looked at is held for the next reader. -/
structure Cursor where
  rest : List Char
  line : Nat := 1
  /-- Lines of documents that have been taken out after the current line. -/
  taken : Nat := 0
  held : Option Token := none

abbrev Reader := StateT Cursor (Except SyntaxFault)

namespace Reader

def refuse (cause : SyntaxCause) : Reader α := do throw ⟨cause, (← get).line⟩

def unexpected (found : Token) (expected : Option Token) : Reader α := refuse (.unexpected found expected)

def peek? : Reader (Option Char) := do return (← get).rest.head?

/-- Goes on by so many characters. -/
def skip (count : Nat) : Reader Unit :=
  modify fun cursor =>
    { cursor with rest := cursor.rest.drop count, line := cursor.line + (cursor.rest.take count).count '\n' }

def takeWhile (p : Char → Bool) : Reader (List Char) := do
  let text := (← get).rest.takeWhile p
  skip text.length
  return text

def hold (token : Token) : Reader Unit := modify ({ · with held := some token })

/-- Reads a text of its own, whose lines are counted from the given one on. -/
def within (reader : Reader α) (line : Nat) (text : List Char) : Reader α := fun cursor => do
  let (value, _) ← reader { rest := text, line }
  return (value, cursor)

end Reader

namespace Token

open Reader

def isSpecialParameter (c : Char) : Bool := "@*#?-$!".toList.contains c || c.isDigit

/-- Characters that end a word. -/
def endsWord (c : Char) : Bool := " \t\n;&|<>()".toList.contains c

/-- The text up to the end of single quotes. -/
def singleQuoted : Reader (List Char) := do
  let text ← takeWhile (· != '\'')
  if (← peek?).isNone then refuse .openQuotes
  skip 1
  return text

/-- A script between backquotes, which a backslash keeps from ending. -/
def backquoted (quoted : Bool) : List Char → Option (List Char × List Char)
  | [] => none
  | '\x60' :: rest => some ([], rest)
  | '\\' :: c :: rest =>
    (backquoted quoted rest).map fun (text, rest) =>
      if c = '\n' then (text, rest)
      else (if "`\\$".toList.contains c || quoted && c = '"' then c :: text else '\\' :: c :: text, rest)
  | c :: rest => (backquoted quoted rest).map fun (text, rest) => (c :: text, rest)

/-- How the characters of a word are read, and where they end. -/
inductive Mode where
  | word
  | quotes
  | braces (quoted : Bool)
  | document
  | arithmetic (depth : Nat)
deriving DecidableEq, Repr

namespace Mode

def isQuoted : Mode → Bool
  | word => false
  | braces quoted => quoted
  | _ => true

/-- Whether a backslash between quotes keeps the character and is gone. -/
def keeps (mode : Mode) (c : Char) : Bool :=
  "$`\\".toList.contains c || (c == '"' && mode != document) || (c == '\x7d' && mode matches braces _)

/-- What is wrong with a text that ends in this mode. -/
def openAtEnd : Mode → Option SyntaxCause
  | word | document => none
  | quotes | braces true => some .openQuotes
  | braces false => some .openBraces
  | arithmetic _ => some .openArithmetic

end Mode

/-- Reads a list of commands, up to a closing parenthesis or up to the end. -/
abbrev Commands := Bool → Reader Command

/-- The name of a parameter in braces; nothing where there is none. A number sign may instead ask for a length. -/
def parameterName : Reader (List Char × Bool) := do
  match (← get).rest with
  | '#' :: c :: d :: _ =>
    if isNameChar c then
      skip 1
      return (← if c.isDigit then takeWhile Char.isDigit else takeWhile isNameChar, true)
    else if c != '\x7d' && d = '\x7d' then
      skip 2
      return (if isSpecialParameter c then [c] else [], true)
    else
      skip 1
      return (['#'], false)
  | c :: _ =>
    if isNameStart c then return (← takeWhile isNameChar, false)
    else if c.isDigit then return (← takeWhile Char.isDigit, false)
    else if isSpecialParameter c then
      skip 1
      return ([c], false)
    else return ([], false)
  | [] => return ([], false)

/-- Between quotes all arguments alone are as many fields as there are arguments, even if there is none. -/
def standsForArguments : Word → Bool
  | [.parameter true ['@'] .none] => true
  | _ => false

mutual

/-- The pieces of a word up to its end; those before are given in reverse. -/
def pieces (commands : Commands) : Nat → Mode → Word → Reader Word
  | 0, _, before => pure before.reverse
  | fuel + 1, mode, before => do
    let go (mode : Mode) (pieces : Word) (count : Nat) : Reader Word := do
      skip count
      Token.pieces commands fuel mode (pieces.reverse ++ before)
    match (← get).rest with
    | [] =>
      match mode.openAtEnd with
      | some cause => refuse cause
      | none => pure before.reverse
    | '\\' :: '\n' :: _ => go mode [] 2
    | '\\' :: c :: _ => go mode (if mode.isQuoted && !mode.keeps c then [.kept '\\', .kept c] else [.kept c]) 2
    | ['\\'] => go mode [.kept '\\'] 1
    | '$' :: _ =>
      skip 1
      go mode (← dollar commands fuel mode.isQuoted) 0
    | '\x60' :: rest =>
      match backquoted mode.isQuoted rest with
      | none => refuse .openBackquotes
      | some (text, after) =>
        let body ← within (commands false) 1 text
        go mode [.output mode.isQuoted body] (1 + (rest.length - after.length))
    | c :: _ =>
      match mode, c with
      | .quotes, '"' | .braces _, '\x7d' =>
        skip 1
        pure before.reverse
      | .word, '"' | .braces _, '"' =>
        skip 1
        let inside ← Token.pieces commands fuel .quotes []
        go mode (if standsForArguments inside then inside else .emptyQuotes :: inside) 0
      | .word, '\'' | .braces false, '\'' =>
        skip 1
        go mode (.emptyQuotes :: (← singleQuoted).map .kept) 0
      | .arithmetic depth, '(' => go (.arithmetic (depth + 1)) [.kept c] 1
      | .arithmetic (depth + 1), ')' => go (.arithmetic depth) [.kept c] 1
      | .arithmetic 0, ')' =>
        if (← get).rest.take 2 = [')', ')'] then
          skip 2
          pure before.reverse
        else go mode [.kept c] 1
      | mode, c =>
        if mode = .word && endsWord c then pure before.reverse
        else go mode [if mode.isQuoted then .kept c else .bare c] 1

/-- An expansion after its dollar sign; without one the sign stands for itself. -/
def dollar (commands : Commands) : Nat → Bool → Reader Word
  | 0, _ => pure []
  | fuel + 1, quoted => do
    match (← get).rest with
    | '(' :: '(' :: _ =>
      skip 2
      return [.arithmetic quoted (← pieces commands fuel (.arithmetic 0) [])]
    | '(' :: _ =>
      skip 1
      return [.output quoted (← commands true)]
    | '\x7b' :: _ =>
      skip 1
      let (name, isLength) ← parameterName
      let change ← change commands fuel quoted
      match isLength, change with
      | true, .none => return [.parameter quoted name (if name.isEmpty then .unknown else .length)]
      | true, _ => return [.parameter quoted name .unknown]
      | false, change => return [.parameter quoted name (if name.isEmpty then .unknown else change)]
    | c :: _ =>
      if isNameStart c then return [.parameter quoted (← takeWhile isNameChar) .none]
      else if isSpecialParameter c then
        skip 1
        return [.parameter quoted [c] .none]
      else return [if quoted then .kept '$' else .bare '$']
    | [] => return [if quoted then .kept '$' else .bare '$']

/-- What stands after the name of a parameter, up to the closing brace. -/
def change (commands : Commands) : Nat → Bool → Reader Change
  | 0, _ => pure .unknown
  | fuel + 1, quoted => do
    let word (quoted : Bool) (count : Nat) : Reader Word := do
      skip count
      pieces commands fuel (.braces quoted) []
    match (← get).rest with
    | '\x7d' :: _ =>
      skip 1
      return .none
    | '%' :: '%' :: _ => return .trim false true (← word false 2)
    | '%' :: _ => return .trim false false (← word false 1)
    | '#' :: '#' :: _ => return .trim true true (← word false 2)
    | '#' :: _ => return .trim true false (← word false 1)
    | ':' :: c :: _ =>
      let instead ← word quoted 2
      return if "-=+?".toList.contains c then .instead c true instead else .unknown
    | c :: _ =>
      let instead ← word quoted 1
      return if "-=+?".toList.contains c then .instead c false instead else .unknown
    | [] => refuse (if quoted then .openQuotes else .openBraces)

end

/-- Blanks and lines that go on, and what follows them. -/
def blanks : List Char → List Char × Nat
  | ' ' :: rest | '\t' :: rest =>
    let (rest, count) := blanks rest
    (rest, count + 1)
  | '\\' :: '\n' :: rest =>
    let (rest, count) := blanks rest
    (rest, count + 2)
  | cs => (cs, 0)

def operators : List String := [";;", "&&", "||", ";", "&", "|", "(", ")"]

def redirections : List String := ["<<-", "<<", "<&", "<>", "<", ">>", ">&", ">|", ">"]

def startsWith? (symbols : List String) (cs : List Char) : Option String :=
  symbols.find? fun symbol => symbol.toList.isPrefixOf cs

/-- The next token of the script. A descriptor is one digit directly before a redirection. -/
def scan (commands : Commands) (fuel : Nat) : Reader Token := do
  skip (blanks (← get).rest).2
  if (← peek?) = some '#' then
    let _ ← takeWhile (· != '\n')
  let sign (token : String → Token) (symbol : String) (more : Nat) : Reader Token := do
    skip (symbol.length + more)
    return token symbol
  match (← get).rest with
  | [] => return .endOfScript
  | '\n' :: _ =>
    skip 1
    modify fun cursor => { cursor with line := cursor.line + cursor.taken, taken := 0 }
    return .newline
  | c :: rest =>
    match startsWith? operators (c :: rest), startsWith? redirections (c :: rest), startsWith? redirections rest with
    | some symbol, _, _ => sign .operator symbol 0
    | _, some symbol, _ => sign (.redirection none) symbol 0
    | _, _, found =>
      match c.isDigit, found with
      | true, some symbol => sign (.redirection (some (c.toNat - '0'.toNat))) symbol 1
      | _, _ => return .word (← pieces commands fuel .word [])

def keywords : List String :=
  ["!", "case", "do", "done", "elif", "else", "esac", "fi", "for", "if", "in", "then", "until", "while", "\x7b", "\x7d"]

/-- A word of the language, where such words are looked for. -/
def known (token : Token) : Token :=
  match token with
  | .word found =>
    match found.bareText?.map String.ofList with
    | some text => if keywords.contains text then .keyword text else token
    | none => token
  | token => token

/-- The next token, or the one that is held; ends of lines before it may be passed over. -/
def next (commands : Commands) : Nat → (acrossLines asKeyword : Bool) → Reader Token
  | 0, _, _ => pure .endOfScript
  | fuel + 1, acrossLines, asKeyword => do
    let token ← match (← get).held with
      | some token => do
        modify ({ · with held := none })
        pure token
      | none => scan commands fuel
    match token, acrossLines with
    | .newline, true => next commands fuel acrossLines asKeyword
    | token, _ => return if asKeyword then known token else token

/-- The lines of a document up to the one that ends it, what follows, and how many lines these are. -/
def documentLines (stripTabs : Bool) (last : List Char) : Nat → List Char → List Char × List Char × Nat
  | 0, cs => ([], cs, 0)
  | _, [] => ([], [], 0)
  | fuel + 1, cs =>
    let line := cs.takeWhile (· != '\n')
    let feed := (cs.dropWhile (· != '\n')).take 1
    let rest := (cs.dropWhile (· != '\n')).drop 1
    let shown := if stripTabs then line.dropWhile (· == '\t') else line
    if shown = last then ([], rest, 1)
    else
      let (text, rest, count) := documentLines stripTabs last fuel rest
      (shown ++ feed ++ text, rest, count + 1)

/-- Passes over the tokens up to the end of the line. -/
def passLine (commands : Commands) : Nat → Reader Unit
  | 0 => pure ()
  | fuel + 1 => do
    match ← scan commands fuel with
    | .newline | .endOfScript => pure ()
    | _ => passLine commands fuel

/-- A document after the word that ends it was read: its lines are those after the token that ends the current line. -/
def document (commands : Commands) (fuel : Nat) (stripTabs : Bool) (last : Word) : Reader Word := do
  let cursor ← get
  let ahead := match passLine commands fuel cursor with
    | .ok (_, after) => cursor.rest.length - after.rest.length
    | .error _ => (cursor.rest.takeWhile (· != '\n')).length + 1
  let (text, rest, count) :=
    documentLines stripTabs last.plainText (cursor.rest.length + 1) (cursor.rest.drop ahead)
  set { cursor with rest := cursor.rest.take ahead ++ rest, taken := cursor.taken + count }
  if last.bareText?.isSome then within (pieces commands fuel .document []) (cursor.line + cursor.taken + 1) text
  else return text.map .kept

end Token
end AppGrants.Shell
