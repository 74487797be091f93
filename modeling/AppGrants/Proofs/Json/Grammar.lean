import AppGrants.Json.Print
import Mathlib.Data.List.Forall2

/-! How JSON may be written: with gaps between its parts, characters of strings escaped or not, and numbers of any size. The fields
of an object stand in any order. -/
namespace AppGrants.Json

/-- What may stand between two parts of a text. -/
def Gap (cs : List Char) : Prop := ∀ c ∈ cs, c ∈ [' ','\n','\t','\r']

/-- The escapes of one letter, with the characters that they stand for. -/
def shortEscapes : List (Char × Char) :=
  [('"','"'),('\\','\\'),('/','/'),('b','\x08'),('f','\x0c'),('n','\n'),('r','\r'),('t','\t')]

/-- A hexadecimal digit, in either case. -/
def HexDigit (c : Char) (n : Nat) : Prop := n < 16 ∧ (c = hexDigit n ∨ c = (hexDigit n).toUpper)

/-- The four digits of a word of 16 bits. -/
inductive HexWord : Nat → List Char → Prop where
  | digits {a b c d : Char} {w x y z : Nat} (first : HexDigit a w) (second : HexDigit b x) (third : HexDigit c y)
      (fourth : HexDigit d z) : HexWord (((w * 16 + x) * 16 + y) * 16 + z) [a,b,c,d]

/-- A character within a string, as it is or escaped; one that takes more than 16 bits is escaped by a pair of words. -/
inductive SpellsChar : Char → List Char → Prop where
  | plain {c : Char} (unquoted : c ≠ '"') (unescaped : c ≠ '\\') (printable : 0x20 ≤ c.toNat) : SpellsChar c [c]
  | short {code c : Char} (listed : (code,c) ∈ shortEscapes) : SpellsChar c ['\\',code]
  | word {c : Char} {digits : List Char} (word : HexWord c.toNat digits) : SpellsChar c ('\\' :: 'u' :: digits)
  | pair {c : Char} {leading trailing : Nat} {first second : List Char} (leads : HexWord (0xD800 + leading) first)
      (trails : HexWord (0xDC00 + trailing) second) (high : leading < 0x400) (low : trailing < 0x400)
      (means : c.toNat = 0x10000 + leading * 0x400 + trailing) :
      SpellsChar c ('\\' :: 'u' :: first ++ '\\' :: 'u' :: second)

/-- A text between its quotes. -/
inductive Spells : List Char → List Char → Prop where
  | nil : Spells [] []
  | cons {c : Char} {text piece raw : List Char} (first : SpellsChar c piece) (rest : Spells text raw) :
      Spells (c :: text) (piece ++ raw)

/-- Anything that may stand between quotes, also where its words of 16 bits make no characters. -/
inductive Raw : List Char → Prop where
  | nil : Raw []
  | plain {c : Char} {raw : List Char} (unquoted : c ≠ '"') (unescaped : c ≠ '\\') (printable : 0x20 ≤ c.toNat)
      (rest : Raw raw) : Raw (c :: raw)
  | short {code c : Char} {raw : List Char} (listed : (code,c) ∈ shortEscapes) (rest : Raw raw) : Raw ('\\' :: code :: raw)
  | word {n : Nat} {digits raw : List Char} (word : HexWord n digits) (rest : Raw raw) : Raw ('\\' :: 'u' :: digits ++ raw)

def Digits (cs : List Char) : Prop := cs ≠ [] ∧ ∀ c ∈ cs, c.isDigit = true

/-- A number without its sign up to the decimal point: no zero before another digit. -/
def WholePart (cs : List Char) : Prop := Digits cs ∧ (cs.head? = some '0' → cs = ['0'])

inductive FractionPart : List Char → Prop where
  | none : FractionPart []
  | some {digits : List Char} (digits_only : Digits digits) : FractionPart ('.' :: digits)

inductive ExponentPart : List Char → Prop where
  | none : ExponentPart []
  | some {mark : Char} {sign digits : List Char} (marks : mark = 'e' ∨ mark = 'E')
      (signed : sign = [] ∨ sign = ['+'] ∨ sign = ['-']) (digits_only : Digits digits) : ExponentPart (mark :: sign ++ digits)

inductive NumberText : List Char → Prop where
  | parts {sign whole fraction exponent : List Char} (signed : sign = [] ∨ sign = ['-']) (is_whole : WholePart whole)
      (is_fraction : FractionPart fraction) (is_exponent : ExponentPart exponent) :
      NumberText (sign ++ whole ++ fraction ++ exponent)

/-- An item of a list, with the gaps around it. -/
structure Spaced where
  before : List Char
  value : List Char
  after : List Char

/-- A field of an object: its name as it stands between the quotes, its value, and the gaps around both. -/
structure Entry where
  before : List Char
  name : List Char
  colon : List Char
  item : Spaced

structure Spaced.Gaps (item : Spaced) : Prop where
  before : Gap item.before
  after : Gap item.after

structure Entry.Gaps (entry : Entry) : Prop where
  before : Gap entry.before
  colon : Gap entry.colon
  item : entry.item.Gaps

def Spaced.text (item : Spaced) : List Char := item.before ++ item.value ++ item.after

def Entry.text (entry : Entry) : List Char :=
  entry.before ++ '"' :: entry.name ++ '"' :: entry.colon ++ ':' :: entry.item.text

/-- The parts with commas between them; a gap where there is no part. -/
def separated (gap : List Char) : List (List Char) → List Char
  | [] => gap
  | first :: others => first ++ others.flatMap (',' :: ·)

def listText (gap : List Char) (items : List Spaced) : List Char := '[' :: separated gap (items.map Spaced.text) ++ [']']

def objectText (gap : List Char) (entries : List Entry) : List Char :=
  '\x7b' :: separated gap (entries.map Entry.text) ++ ['\x7d']

/-- The text of any JSON value. -/
inductive IsValue : List Char → Prop where
  | null : IsValue ['n','u','l','l']
  | true : IsValue ['t','r','u','e']
  | false : IsValue ['f','a','l','s','e']
  | number {cs : List Char} (number : NumberText cs) : IsValue cs
  | text {raw : List Char} (inside : Raw raw) : IsValue ('"' :: raw ++ ['"'])
  | list {gap : List Char} {items : List Spaced} (blank : Gap gap) (gaps : ∀ item ∈ items, item.Gaps)
      (values : ∀ item ∈ items, IsValue item.value) : IsValue (listText gap items)
  | object {gap : List Char} {entries : List Entry} (blank : Gap gap) (gaps : ∀ entry ∈ entries, entry.Gaps)
      (names : ∀ entry ∈ entries, Raw entry.name) (values : ∀ entry ∈ entries, IsValue entry.item.value) :
      IsValue (objectText gap entries)

/-- The texts that something may be written as. -/
abbrev Texts := List Char → Prop

namespace Texts

def null : Texts := (· = ['n','u','l','l'])

def boolean : Bool → Texts
  | true => (· = ['t','r','u','e'])
  | false => (· = ['f','a','l','s','e'])

def whole (n : Int) : Texts := (· = (toString n).toList)

def quoted (text : String) : Texts := fun cs => ∃ raw, Spells text.toList raw ∧ cs = '"' :: raw ++ ['"']

/-- Null where there is no value. -/
def nullable (write : α → Texts) : Option α → Texts
  | some value => write value
  | none => null

def list (items : List Texts) : Texts := fun cs => ∃ gap spaced, Gap gap ∧ (∀ item ∈ spaced, item.Gaps) ∧
  List.Forall₂ (fun (texts : Texts) (item : Spaced) => texts item.value) items spaced ∧ cs = listText gap spaced

/-- The entries are the fields that are given, in their order; between them there may be others with names that are not known. -/
inductive Entries (known : List String) : List (String × Texts) → List Entry → Prop where
  | nil : Entries known [] []
  | given {name : String} {texts : Texts} {fields : List (String × Texts)} {entry : Entry} {entries : List Entry}
      (gaps : entry.Gaps) (named : Spells name.toList entry.name) (written : texts entry.item.value)
      (others : Entries known fields entries) : Entries known ((name,texts) :: fields) (entry :: entries)
  | other {name : String} {fields : List (String × Texts)} {entry : Entry} {entries : List Entry}
      (gaps : entry.Gaps) (named : Spells name.toList entry.name) (unknown : name ∉ known)
      (written : IsValue entry.item.value) (others : Entries known fields entries) :
      Entries known fields (entry :: entries)

/-- An object of the given fields in any order, and of others whose names are not known. -/
def object (known : List String) (fields : List (String × Texts)) : Texts := fun cs =>
  ∃ gap order entries, Gap gap ∧ List.Perm order fields ∧ Entries known order entries ∧ cs = objectText gap entries

end Texts

/-- The text as a whole, with gaps around it. -/
def Writes (texts : Texts) (text : String) : Prop :=
  ∃ before cs after, Gap before ∧ texts cs ∧ Gap after ∧ text.toList = before ++ cs ++ after

end AppGrants.Json
