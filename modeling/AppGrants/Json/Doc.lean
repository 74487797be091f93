import AppGrants.Decimal.Double
import AppGrants.Text.Order

/-! Documents: the values that a JSON text stands for. An object keeps its fields in the order of the text. -/
namespace AppGrants.Json

inductive Number where
  | whole (n : Int)
  | real (x : Double)
deriving DecidableEq, Repr

inductive Doc where
  | null
  | bool (value : Bool)
  | number (value : Number)
  | text (value : String)
  | list (items : List Doc)
  | object (fields : List (String × Doc))
deriving Repr, Inhabited

namespace Doc

def whole (n : Int) : Doc := .number (.whole n)

def nat (n : Nat) : Doc := .number (.whole n)

/-- The field put in its place by name, an earlier one of that name replaced. -/
def insertField (name : String) (value : Doc) : List (String × Doc) → List (String × Doc)
  | [] => [(name, value)]
  | (other, held) :: rest =>
    match Text.compareTexts name other with
    | .lt => (name, value) :: (other, held) :: rest
    | .eq => (name, value) :: rest
    | .gt => (other, held) :: insertField name value rest

mutual

/-- All objects with their fields in the order of names, the last of equal names kept. -/
def sorted : Doc → Doc
  | .list items => .list (sortedItems items)
  | .object fields => .object (sortedFields [] fields)
  | other => other

def sortedItems : List Doc → List Doc
  | [] => []
  | item :: rest => item.sorted :: sortedItems rest

def sortedFields (kept : List (String × Doc)) : List (String × Doc) → List (String × Doc)
  | [] => kept
  | (name, value) :: rest => sortedFields (insertField name value.sorted kept) rest

end

def field? (name : String) : Doc → Option Doc
  | .object fields => fields.lookup name
  | _ => none

def asBool : Doc → Bool
  | .bool value => value
  | _ => false

def asInt : Doc → Int
  | .number (.whole n) => n
  | _ => 0

def asText : Doc → String
  | .text value => value
  | _ => ""

def asList : Doc → List Doc
  | .list items => items
  | _ => []

def isNull : Doc → Bool
  | .null => true
  | _ => false

/-- The field read by `read`, or `default` where it is absent. -/
def fieldOr (doc : Doc) (name : String) (default : α) (read : Doc → α) : α :=
  match doc.field? name with
  | some value => read value
  | none => default

/-- The field read by `read`, or none where it is absent or null. -/
def optional (doc : Doc) (name : String) (read : Doc → α) : Option α :=
  match doc.field? name with
  | some .null => none
  | some value => some (read value)
  | none => none

end Doc
end AppGrants.Json
