import AppGrants.Record
import AppGrants.Text.Alphanumeric
import AppGrants.Text.CaseMap

/-! A name for the owner of a uid that several packages share: fixed for the platform's own uids, otherwise the best
of the members' labels and of the dotted beginning that their package names have in common. -/
namespace AppGrants.Catalog

abbrev OwnerNaming := Uid → List AppRecord → Option String

namespace OwnerName

def wellKnown : List (Int32 × String) := [
  (1000, "Android System"), (1001, "Phone Services"), (1002, "Bluetooth"), (1027, "NFC Service"), (2000, "Shell")]

def genericSegments : List (List Char) :=
  ["com", "org", "net", "android", "app", "apps", "service", "provider"].map String.toList

structure Candidate where
  text : List Char
  confidence : Nat
deriving DecidableEq, Repr

/-- Words with single blanks between them; none if there is no word. -/
def normalized? (cs : List Char) : Option (List Char) :=
  match Text.words cs with
  | [] => none
  | words => some (Text.joinWith [' '] words)

def asciiLower (cs : List Char) : List Char := cs.map Char.toLower

/-- A text that repeats another but for ASCII case is no candidate of its own. -/
def addCandidate (candidates : List Candidate) (cs : List Char) (confidence : Nat) : List Candidate :=
  match normalized? cs with
  | none => candidates
  | some text =>
    if candidates.any fun held => asciiLower held.text == asciiLower text then candidates
    else candidates ++ [⟨text, confidence⟩]

/-- The words of letters and digits. -/
def nameWords (cs : List Char) : List (List Char) :=
  Text.words (cs.map fun c => if Text.isAlphanumeric c then c.toLower else ' ')

def commonStart : List (List Char) → List (List Char) → List (List Char)
  | a :: as, b :: bs => if a = b then a :: commonStart as bs else []
  | _, _ => []

def segments (packageName : String) : List (List Char) := Text.parts (· == '.') packageName.toList

/-- The segments that all package names begin with. -/
def commonSegments : List AppRecord → List (List Char)
  | [] => []
  | first :: others => others.foldl (fun shared member => commonStart shared (segments member.packageName))
      (segments first.packageName)

def meaningful (segments : List (List Char)) : List (List Char) :=
  (segments.map asciiLower).filter fun segment => !segment.isEmpty && !genericSegments.contains segment

def titleCase : List Char → List Char
  | [] => []
  | c :: rest => Text.upperChar c ++ rest

def score (shared : List (List Char)) (candidate : Candidate) : Int :=
  let words := nameWords candidate.text
  let known : Nat := (words.filter shared.contains).length
  let bare := candidate.text.contains '.' && !candidate.text.contains ' '
  let short := words.length == 1 && candidate.text.length ≤ 3
  (candidate.confidence : Int) * 10 + (known : Int) * 18 - (if bare then 40 else 0) - (if short then 30 else 0)

/-- Higher scores first; of equal scores the smallest text. -/
def compareCandidates (shared : List (List Char)) (left right : Candidate) : Ordering :=
  (compare (score shared left) (score shared right)).then (Text.compareChars right.text left.text)

def candidates (members : List AppRecord) (shared : List (List Char)) : List Candidate :=
  let labels := match members with
    | [] => []
    | first :: others => others.foldl (fun held member => addCandidate held member.displayLabel.toList 2)
        (addCandidate [] first.displayLabel.toList 5)
  match shared.getLast? with
  | some last => addCandidate labels (titleCase last) 3
  | none => labels

def best (order : α → α → Ordering) : List α → Option α
  | [] => none
  | first :: others => some (others.foldl (fun held item => if order held item == .gt then held else item) first)

def ofMembers (members : List AppRecord) : Option String :=
  let shared := meaningful (commonSegments members)
  (best (compareCandidates shared) (candidates members shared)).map fun candidate => String.ofList candidate.text

end OwnerName

/-- Names given by hand come first, then those of the platform. -/
def ownerName (overrides : List (Int32 × String)) : OwnerNaming := fun uid members =>
  match overrides.lookup uid with
  | some name => some name
  | none =>
    match OwnerName.wellKnown.lookup uid.appId with
    | some name => some name
    | none => OwnerName.ofMembers members

end AppGrants.Catalog
