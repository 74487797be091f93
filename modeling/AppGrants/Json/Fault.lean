import AppGrants.Json.Doc
import AppGrants.Text.Quoted
import AppGrants.Text.Utf8

/-! Why a text is not the document that was asked for: it breaks the grammar, it ends too early, or it is a document
of another shape. -/
namespace AppGrants.Json

inductive Cut where
  | value
  | list
  | object
  | text
deriving DecidableEq, Repr

inductive Malformed where
  | expectedColon
  | expectedListEnd
  | expectedObjectEnd
  | expectedWord
  | expectedValue
  | invalidEscape
  | invalidNumber
  | numberOutOfRange
  | loneSurrogate
  | brokenSurrogatePair
  | controlCharacter
  | keyNotText
  | trailingComma
  | trailingCharacters
  | tooDeep
deriving DecidableEq, Repr

inductive Found where
  | null
  | bool (value : Bool)
  | number (value : Number)
  | text (value : String)
  | list
  | object
deriving DecidableEq, Repr

inductive Mismatch where
  | wrongType (found : Found) (expected : String)
  | wrongValue (found : Found) (expected : String)
  | wrongLength (length : Nat) (expected : String)
  | unknownVariant (name : String) (variants : List String)
  | missingField (name : String)
  | duplicateField (name : String)
deriving DecidableEq, Repr

inductive Cause where
  | malformed (what : Malformed)
  | cut (within : Cut)
  | mismatch (what : Mismatch)
deriving DecidableEq, Repr

/-- A place in a text: lines are counted from one, and columns are the bytes since the line began. -/
structure Place where
  line : Nat
  column : Nat
deriving DecidableEq, Repr

/-- A document that is not a text has no places. -/
structure Fault where
  cause : Cause
  place : Option Place
deriving DecidableEq, Repr

def Found.ofDoc : Doc → Found
  | .null => .null
  | .bool value => .bool value
  | .number value => .number value
  | .text value => .text value
  | .list _ => .list
  | .object _ => .object

def Number.describe : Number → String
  | .whole n => toString n
  | .real x => x.text

def Found.describe : Found → String
  | .null => "null"
  | .bool value => "boolean `" ++ toString value ++ "`"
  | .number (.whole n) => "integer `" ++ toString n ++ "`"
  | .number (.real x) => "floating point `" ++ x.text ++ "`"
  | .text value => "string " ++ Text.quoted value
  | .list => "sequence"
  | .object => "map"

def Cut.describe : Cut → String
  | .value => "a value"
  | .list => "a list"
  | .object => "an object"
  | .text => "a string"

def Malformed.describe : Malformed → String
  | .expectedColon => "expected `:`"
  | .expectedListEnd => "expected `,` or `]`"
  | .expectedObjectEnd => "expected `,` or `\x7d`"
  | .expectedWord => "expected ident"
  | .expectedValue => "expected value"
  | .invalidEscape => "invalid escape"
  | .invalidNumber => "invalid number"
  | .numberOutOfRange => "number out of range"
  | .loneSurrogate => "lone leading surrogate in hex escape"
  | .brokenSurrogatePair => "unexpected end of hex escape"
  | .controlCharacter => "control character (\\u0000-\\u001F) found while parsing a string"
  | .keyNotText => "key must be a string"
  | .trailingComma => "trailing comma"
  | .trailingCharacters => "trailing characters"
  | .tooDeep => "recursion limit exceeded"

def ticked (name : String) : String := "`" ++ name ++ "`"

def oneOf : List String → String
  | [only] => ticked only
  | [first, second] => ticked first ++ " or " ++ ticked second
  | names => "one of " ++ ", ".intercalate (names.map ticked)

def Mismatch.describe : Mismatch → String
  | .wrongType found expected => "invalid type: " ++ found.describe ++ ", expected " ++ expected
  | .wrongValue found expected => "invalid value: " ++ found.describe ++ ", expected " ++ expected
  | .wrongLength length expected => "invalid length " ++ toString length ++ ", expected " ++ expected
  | .unknownVariant name variants => "unknown variant " ++ ticked name ++ ", expected " ++ oneOf variants
  | .missingField name => "missing field " ++ ticked name
  | .duplicateField name => "duplicate field " ++ ticked name

def Cause.describe : Cause → String
  | .malformed what => what.describe
  | .cut within => "EOF while parsing " ++ within.describe
  | .mismatch what => what.describe

/-- The place after so many bytes. -/
def Place.after (bytes : Text.Bytes) (count : Nat) : Place :=
  let passed := bytes.take count
  ⟨passed.count 0x0A + 1, (passed.reverse.takeWhile (· != 0x0A)).length⟩

def Place.describe (place : Place) : String :=
  " at line " ++ toString place.line ++ " column " ++ toString place.column

def Fault.message (fault : Fault) : String := fault.cause.describe ++ (fault.place.map Place.describe).getD ""

end AppGrants.Json
