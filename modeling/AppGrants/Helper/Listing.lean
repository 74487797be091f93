import AppGrants.Outcome
import AppGrants.Package
import AppGrants.Text.Digit

/-! What the package manager prints: users, the packages of a user, and overlays. What does not have the form of an entry
is passed over. -/
namespace AppGrants.Helper

open Text

structure UserEntry where
  id : Int32
  running : Bool
deriving DecidableEq, Repr

/-- The digits of a number at the beginning, at least one, and what follows. -/
def digits? (cs : List Char) : Option (List Char × List Char) :=
  let digits := cs.takeWhile isDigit
  if digits.isEmpty then none else some (digits, cs.dropWhile isDigit)

/-- A number that is neither negative nor too large; other digits than those of ASCII have no value. -/
def number? (digits : List Char) : Option Int32 :=
  (natOfDigits? digits).bind fun n => if n < 2147483648 then some (Int32.ofNat n) else none

/-- Blanks, at least one, and a word after them. -/
def wordAfterBlanks? (word : List Char) (cs : List Char) : Option (List Char) :=
  match cs with
  | c :: rest => if isBlank c then word.isPrefixOf? (trimStart rest) else none
  | [] => none

namespace UserEntry

/-- After the closing brace an entry may tell that the user is running. -/
def runningAfter (cs : List Char) : Bool × List Char :=
  match wordAfterBlanks? "running".toList cs with
  | some rest => (true, rest)
  | none => (false, cs)

/-- The part of an entry after its digits. -/
def tail? : List Char → Option (Bool × List Char)
  | ':' :: rest =>
    match rest.dropWhile (· != '\x7d') with
    | _ :: rest => some (runningAfter rest)
    | [] => none
  | _ => none

/-- An entry that stands at the beginning: its digits, whether the user is running, and what follows. -/
def first? (cs : List Char) : Option ((List Char × Bool) × List Char) := do
  let rest ← "UserInfo\x7b".toList.isPrefixOf? cs
  let (digits, rest) ← digits? rest
  let (running, rest) ← tail? rest
  some ((digits, running), rest)

/-- All entries from left to right; an entry may begin only after the one before has ended, which is `skip` characters
further on. -/
def scan : Nat → List Char → List (List Char × Bool)
  | _, [] => []
  | skip + 1, _ :: rest => scan skip rest
  | 0, c :: rest =>
    match first? (c :: rest) with
    | some (entry, after) => entry :: scan (rest.length - after.length) rest
    | none => scan 0 rest

/-- Entries without a number that fits are left out. -/
def parseAll (output : String) : List UserEntry :=
  (scan 0 output.toList).filterMap fun (digits, running) => (number? digits).map (⟨·, running⟩)

end UserEntry

/-- A line about a package: its path, its name, and the digits of its uid. -/
structure PackageLine where
  path : List Char
  name : List Char
  digits : List Char
deriving DecidableEq, Repr

namespace PackageLine

def isNameChar (c : Char) : Bool := c.isAlphanum || c == '_' || c == '.'

/-- The name and the uid as they stand after the path. -/
def tail? (cs : List Char) : Option (List Char × List Char) :=
  let name := cs.takeWhile isNameChar
  if name.isEmpty then none
  else do
    let rest ← wordAfterBlanks? "uid:".toList (cs.dropWhile isNameChar)
    let (digits, _) ← digits? rest
    some (name, digits)

/-- The path ends at the last equals sign that a name and a uid follow. -/
def split? : List Char → Option PackageLine
  | [] => none
  | c :: rest =>
    match split? rest with
    | some line => some { line with path := c :: line.path }
    | none => if c = '=' then (tail? rest).map fun (name, digits) => ⟨[], name, digits⟩ else none

/-- No path is empty. -/
def ofLine? (line : List Char) : Option PackageLine :=
  match "package:".toList.isPrefixOf? (trim line) with
  | some (c :: rest) => (split? rest).map fun line => { line with path := c :: line.path }
  | _ => none

end PackageLine

def systemPaths : List String := ["/system/", "/system_ext/", "/product/", "/vendor/", "/odm/", "/apex/"]

def isSystemPath (path : List Char) : Bool := systemPaths.any fun front => front.toList.isPrefixOf path

/-- The result of arithmetic on numbers of a fixed width. -/
def fitted (overflow : Overflow) (operation : String) (n : Int) : Outcome Int32 :=
  if overflow = .wraps || (Int32.minValue.toInt ≤ n && n ≤ Int32.maxValue.toInt) then .done (Int32.ofInt n)
  else .panicked ("attempt to " ++ operation ++ " with overflow")

/-- The uid that an app has under a user, whether an app id or a full uid was printed. -/
def uidOf (overflow : Overflow) (user printed : Int32) : Outcome Uid :=
  (fitted overflow "multiply" (user.toInt * Uid.perUser.toInt)).bind fun base =>
    fitted overflow "add" (base.toInt + (Uid.appId printed).toInt)

namespace PackageLine

def toPackage (overflow : Overflow) (user printed : Int32) (line : PackageLine) : Outcome PackageMeta :=
  (uidOf overflow user printed).map fun uid =>
    { packageName := String.ofList line.name, uid
      sourceDir := some (String.ofList line.path)
      flags := if isSystemPath line.path then .system else {} }

/-- The packages of a user in the order of their lines. -/
def parseAll (overflow : Overflow) (output : String) (user : Int32) : Outcome (List PackageMeta) :=
  Ending.forAll (fun (printed, line) => line.toPackage overflow user printed)
    ((lines output.toList).filterMap fun text => do
      let line ← ofLine? text
      let printed ← number? line.digits
      some (printed, line))

end PackageLine

namespace Overlay

/-- The name of an overlay stands after a mark in brackets, of one character. -/
def ofLine? (line : List Char) : Option String :=
  match trimStart line with
  | '[' :: _ :: ']' :: c :: rest =>
    let name := (trimStart rest).takeWhile (!isBlank ·)
    if isBlank c && !name.isEmpty then some (String.ofList name) else none
  | _ => none

def parseAll (output : String) : List String := (lines output.toList).filterMap ofLine?

end Overlay
end AppGrants.Helper
