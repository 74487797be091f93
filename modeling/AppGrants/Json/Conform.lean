import AppGrants.Json.Shape

/-! A document that is already read, taken as a value of a shape. The faults are those of reading, in the order of
the document's own parts. -/
namespace AppGrants.Json

def foundInstead (doc : Doc) (expected : String) : Except Mismatch α :=
  .error (.wrongType (.ofDoc doc) expected)

def conformVariant (variants : List String) (name : String) : Except Mismatch Doc :=
  if variants.contains name then .ok (.text name) else .error (.unknownVariant name variants)

/-- A choice: its name, or an object that holds nothing under its name. -/
def conformChoice (variants : List String) : Doc → Except Mismatch Doc
  | .text name => conformVariant variants name
  | .object [(name, .null)] => conformVariant variants name
  | .object [(name, .object [])] => conformVariant variants name
  | .object [(name, held)] => do
    let _ ← conformVariant variants name
    foundInstead held Shape.unit.expected
  | .object _ => .error (.wrongValue .object "map with a single key")
  | other => foundInstead other (Shape.choice variants).expected

mutual

def conform : Doc → Shape → Except Mismatch Doc
  | doc, .anything => .ok doc
  | .bool value, .boolean => .ok (.bool value)
  | .null, .unit => .ok .null
  | .text value, .text => .ok (.text value)
  | .text value, .path => .ok (.text value)
  | .number (.whole n), .whole width =>
    if width.holds n then .ok (.whole n)
    else .error (.wrongValue (.number (.whole n)) width.name)
  | doc, .choice variants => conformChoice variants doc
  | .list items, .listOf item => (conformItems items item).map .list
  | .list items, .record name fields => do
    let values ← conformPositions items 0 (Shape.expectedElements name fields.length) fields
    if fields.length < items.length then .error (.wrongLength items.length "fewer elements in array")
    else .ok (.object values)
  | .object entries, .record _ fields => do
    let held ← conformEntries entries [] fields
    (collectFields held fields).map .object
  | doc, shape => foundInstead doc shape.expected

def conformItems : List Doc → Shape → Except Mismatch (List Doc)
  | [], _ => .ok []
  | item :: rest, shape => do
    let value ← conform item shape
    let values ← conformItems rest shape
    .ok (value :: values)

/-- The values of a record by position; those that are missing have to have a default. -/
def conformPositions : List Doc → Nat → String → List (FieldRule × Shape) → Except Mismatch (List (String × Doc))
  | _, _, _, [] => .ok []
  | [], index, whole, (rule, _) :: fields =>
    if rule.presence = .defaulted then conformPositions [] (index + 1) whole fields
    else .error (.wrongLength index whole)
  | item :: rest, index, whole, (rule, shape) :: fields => do
    let value ← conformNullable item rule shape
    let values ← conformPositions rest (index + 1) whole fields
    .ok ((rule.name, value) :: values)

def conformNullable (doc : Doc) (rule : FieldRule) (shape : Shape) : Except Mismatch Doc :=
  if rule.nullable && doc.isNull then .ok .null else conform doc shape

def conformEntries : List (String × Doc) → List (String × Doc) → List (FieldRule × Shape) →
    Except Mismatch (List (String × Doc))
  | [], held, _ => .ok held
  | (name, doc) :: rest, held, fields =>
    match fields.find? (·.1.name == name) with
    | none => conformEntries rest held fields
    | some (rule, shape) =>
      if (held.lookup name).isSome then .error (.duplicateField name)
      else do
        let value ← conformNullable doc rule shape
        conformEntries rest ((name, value) :: held) fields

end

end AppGrants.Json
