import AppGrants.Json.Fault

/-! What a document is expected to be. A record names its fields in order; it is written as an object, and read also
from a list of the values in that order. -/
namespace AppGrants.Json

/-- A field that is not there: refused, taken for null (but not in a list), or left to its default. -/
inductive Presence where
  | required
  | optional
  | defaulted
deriving DecidableEq, Repr

inductive Width where
  | signed32
  | unsigned32
  | unsigned64
deriving DecidableEq, Repr

def Width.name : Width → String
  | .signed32 => "i32"
  | .unsigned32 => "u32"
  | .unsigned64 => "u64"

def Width.holds : Width → Int → Bool
  | .signed32, n => -2147483648 ≤ n && n < 2147483648
  | .unsigned32, n => 0 ≤ n && n < 4294967296
  | .unsigned64, n => 0 ≤ n && n < 18446744073709551616

/-- A field's name and whether null is a value of it. -/
structure FieldRule where
  name : String
  presence : Presence
  nullable : Bool
deriving DecidableEq, Repr

inductive Shape where
  | boolean
  | whole (width : Width)
  | text
  | path
  | unit
  | anything
  | listOf (item : Shape)
  | choice (variants : List String)
  | record (name : String) (fields : List (FieldRule × Shape))
deriving Repr

namespace Field

def required (name : String) (shape : Shape) : FieldRule × Shape := (⟨name, .required, false⟩, shape)

def defaulted (name : String) (shape : Shape) : FieldRule × Shape := (⟨name, .defaulted, false⟩, shape)

def nullable (name : String) (shape : Shape) : FieldRule × Shape := (⟨name, .optional, true⟩, shape)

def nullableDefaulted (name : String) (shape : Shape) : FieldRule × Shape := (⟨name, .defaulted, true⟩, shape)

end Field

namespace Shape

/-- What a message says was expected. -/
def expected : Shape → String
  | boolean => "a boolean"
  | whole width => width.name
  | text => "a string"
  | path => "path string"
  | unit => "unit"
  | anything => "any valid JSON value"
  | listOf _ => "a sequence"
  | choice _ => "string or map"
  | record name _ => "struct " ++ name

def expectedElements (name : String) (count : Nat) : String :=
  "struct " ++ name ++ " with " ++ toString count ++ if count = 1 then " element" else " elements"

end Shape

/-- The fields that were read, in the order of the record, or the first required one that was not. -/
def collectFields (read : List (String × Doc)) : List (FieldRule × Shape) → Except Mismatch (List (String × Doc))
  | [] => .ok []
  | (rule, _) :: rest =>
    match read.lookup rule.name, rule.presence with
    | some value, _ => (collectFields read rest).map ((rule.name, value) :: ·)
    | none, .required => .error (.missingField rule.name)
    | none, _ => collectFields read rest

end AppGrants.Json
