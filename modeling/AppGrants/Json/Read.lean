import AppGrants.Json.Shape
import AppGrants.Json.Skip

/-! Reading a text against a shape, from left to right: the first fault in reading order is the one that is told. A
field that is missing shows only at the end of its record. -/
namespace AppGrants.Json

/-- Why a value that has begun is refused: it is of another type, or it is none. Lists and objects are not looked into. -/
def refusal (expected : String) (cs : List Char) : Stop :=
  let wrong (found : Found) (left : List Char) : Stop := ⟨.mismatch (.wrongType found expected), left, 0⟩
  let afterWord (word : List Char) (found : Found) (rest : List Char) : Stop :=
    match readWord word rest with
    | .ok left => wrong found left
    | .error stop => stop
  match cs with
  | [] => ⟨.cut .value, [], 0⟩
  | 'n' :: rest => afterWord ['u', 'l', 'l'] .null rest
  | 't' :: rest => afterWord ['r', 'u', 'e'] (.bool true) rest
  | 'f' :: rest => afterWord ['a', 'l', 's', 'e'] (.bool false) rest
  | '"' :: rest =>
    match readText rest with
    | .ok (value, left) => wrong (.text value) left
    | .error stop => stop
  | '[' :: _ => wrong .list cs
  | '\x7b' :: _ => wrong .object cs
  | c :: _ =>
    if startsNumber c then
      match readNumber cs with
      | .ok (value, left) => wrong (.number value) left
      | .error stop => stop
    else ⟨.malformed .expectedValue, cs, 1⟩

def readColon (cs : List Char) : Except Stop (List Char) :=
  match skipGaps cs with
  | ':' :: rest => .ok rest
  | [] => cut .object
  | rest => malformed .expectedColon rest

/-- The items of a list after its bracket, to the closing one; each item takes a character at least. -/
def readItems (item : Reader α) : Nat → Bool → Reader (List α)
  | 0, _, _ => cut .list
  | fuel + 1, first, cs =>
    match skipGaps cs with
    | [] => cut .list
    | ']' :: rest => .ok ([], rest)
    | ',' :: rest =>
      if first then (item (',' :: rest)).bind fun (value, rest) => more value rest fuel
      else match skipGaps rest with
        | ']' :: rest => malformed .trailingComma (']' :: rest)
        | [] => cut .value
        | rest => (item rest).bind fun (value, rest) => more value rest fuel
    | rest =>
      if first then (item rest).bind fun (value, rest) => more value rest fuel
      else malformed .expectedListEnd rest
where
  more (value : α) (rest : List Char) (fuel : Nat) : Except Stop (List α × List Char) :=
    (readItems item fuel false rest).map fun (values, rest) => (value :: values, rest)

/-- Whether another item of a list follows, with the place where it begins. -/
def nextItem (first : Bool) (cs : List Char) : Except Stop (Option (List Char)) :=
  match skipGaps cs with
  | [] => cut .list
  | ']' :: _ => .ok none
  | ',' :: rest =>
    if first then .ok (some (',' :: rest))
    else match skipGaps rest with
      | ']' :: rest => malformed .trailingComma (']' :: rest)
      | [] => cut .value
      | rest => .ok (some rest)
  | rest => if first then .ok (some rest) else malformed .expectedListEnd rest

/-- What is left where a list or an object is given up: its closing bracket is passed if it comes next. -/
def pastEnd (closing : Char) (cs : List Char) : List Char :=
  match skipGaps cs with
  | c :: rest => if c = closing then rest else c :: rest
  | [] => []

/-- The end of a list whose reader wants no more of it. -/
def closeList (cs : List Char) : Except Stop (List Char) :=
  match skipGaps cs with
  | ']' :: rest => .ok rest
  | ',' :: rest =>
    match skipGaps rest with
    | ']' :: rest => malformed .trailingComma (']' :: rest)
    | rest => malformed .trailingCharacters rest
  | [] => cut .list
  | rest => malformed .trailingCharacters rest

/-- A null where the rule admits one, or else a value. -/
def readNullable (rule : FieldRule) (value : Reader Doc) : Reader Doc := fun cs =>
  if rule.nullable then
    match skipGaps cs with
    | 'n' :: rest => (readWord ['u', 'l', 'l'] rest).map fun rest => (.null, rest)
    | rest => value rest
  else value cs

/-- The values of a record from a list, by position. -/
def readPositions (read : Shape → Reader Doc) (whole : String) :
    Nat → List (FieldRule × Shape) → Reader (List (String × Doc))
  | _, [], cs => .ok ([], cs)
  | index, (rule, shape) :: rest, cs =>
    match nextItem (index == 0) cs with
    | .error fault => .error fault
    | .ok (some start) =>
      (readNullable rule (read shape) start).bind fun (value, cs) =>
        (readPositions read whole (index + 1) rest cs).map fun (values, cs) => ((rule.name, value) :: values, cs)
    | .ok none =>
      if rule.presence = .defaulted then readPositions read whole (index + 1) rest cs
      else mismatch (.wrongLength index whole) (pastEnd ']' cs)

/-- The fields of an object after its brace. `member` sees each name before the colon and gives the reader of what
is held so far together with the value; each field takes a character at least. -/
def readMembers (member : σ → String → Except Mismatch (Reader σ)) : Nat → Bool → σ → Reader σ
  | 0, _, _, _ => cut .object
  | fuel + 1, first, held, cs =>
    match skipGaps cs with
    | [] => cut .object
    | '\x7d' :: rest => .ok (held, rest)
    | '"' :: rest => if first then entry held rest fuel else malformed .expectedObjectEnd ('"' :: rest)
    | ',' :: rest =>
      if first then malformed .keyNotText (',' :: rest)
      else match skipGaps rest with
        | '"' :: rest => entry held rest fuel
        | '\x7d' :: rest => malformed .trailingComma ('\x7d' :: rest)
        | [] => cut .value
        | rest => malformed .keyNotText rest
    | rest => malformed (if first then .keyNotText else .expectedObjectEnd) rest
where
  entry (held : σ) (rest : List Char) (fuel : Nat) : Except Stop (σ × List Char) := do
    let (name, rest) ← readText rest
    let value ← fitting (pastEnd '\x7d' rest) (member held name)
    let rest ← readColon rest
    let (held, rest) ← value rest
    readMembers member fuel false held rest

/-- A known field is read once; any other is passed over. -/
def recordMember (read : Shape → Reader Doc) (fields : List (FieldRule × Shape)) (held : List (String × Doc))
    (name : String) : Except Mismatch (Reader (List (String × Doc))) :=
  match fields.find? (·.1.name == name) with
  | none => .ok fun cs => (skip cs).map fun rest => (held, rest)
  | some (rule, shape) =>
    if (held.lookup name).isSome then .error (.duplicateField name)
    else .ok fun cs => (readNullable rule (read shape) cs).map fun (value, rest) => ((name, value) :: held, rest)

def anyMember (read : Reader Doc) (held : List (String × Doc)) (name : String) :
    Except Mismatch (Reader (List (String × Doc))) :=
  .ok fun cs => (read cs).map fun (value, rest) => ((name, value) :: held, rest)

/-- A variant by its name, after the opening quote. -/
def readVariant (variants : List String) : Reader String := fun cs => do
  let (name, rest) ← readText cs
  if variants.contains name then .ok (name, rest) else mismatch (.unknownVariant name variants) rest

/-- A choice from an object of one field, after its brace: the field's name is the variant and its value is null. -/
def readWrappedVariant (variants : List String) : Reader Doc := fun cs =>
  match skipGaps cs with
  | '"' :: rest => do
    let (name, rest) ← readVariant variants rest
    let rest ← readColon rest
    match skipGaps rest with
    | 'n' :: rest =>
      let rest ← readWord ['u', 'l', 'l'] rest
      match skipGaps rest with
      | '\x7d' :: rest => .ok (.text name, rest)
      | [] => cut .object
      | rest => malformedAfter 0 .expectedValue rest
    | rest => .error (refusal Shape.unit.expected rest)
  | '\x7d' :: rest => malformed .expectedValue ('\x7d' :: rest)
  | [] => cut .object
  | rest => malformed .keyNotText rest

/-- A value of the shape, with at most `depth` lists and objects within each other. -/
def read : Nat → Shape → Reader Doc
  | depth, shape, cs =>
    let cs := skipGaps cs
    let refuse : Except Stop (Doc × List Char) := .error (refusal shape.expected cs)
    match shape, cs with
    | _, [] => cut .value
    | .boolean, 't' :: rest => (readWord ['r', 'u', 'e'] rest).map fun rest => (.bool true, rest)
    | .boolean, 'f' :: rest => (readWord ['a', 'l', 's', 'e'] rest).map fun rest => (.bool false, rest)
    | .unit, 'n' :: rest => (readWord ['u', 'l', 'l'] rest).map fun rest => (.null, rest)
    | .whole width, c :: rest =>
      if startsNumber c then (readNumber (c :: rest)).bind fun (value, rest) =>
        match value with
        | .whole n =>
          if width.holds n then .ok (.whole n, rest) else mismatch (.wrongValue (.number value) width.name) rest
        | .real _ => mismatch (.wrongType (.number value) width.name) rest
      else refuse
    | .text, '"' :: rest => (readText rest).map fun (value, rest) => (.text value, rest)
    | .path, '"' :: rest => (readText rest).map fun (value, rest) => (.text value, rest)
    | .choice variants, '"' :: rest => (readVariant variants rest).map fun (name, rest) => (.text name, rest)
    | .choice variants, '\x7b' :: rest =>
      match depth with
      | 0 => malformed .tooDeep cs
      | _ + 1 => readWrappedVariant variants rest
    | .choice _, _ => malformed .expectedValue cs
    | .listOf item, '[' :: rest =>
      match depth with
      | 0 => malformed .tooDeep cs
      | depth + 1 =>
        (readItems (read depth item) (rest.length + 1) true rest).map fun (items, rest) => (.list items, rest)
    | .record name fields, '[' :: rest =>
      match depth with
      | 0 => malformed .tooDeep cs
      | depth + 1 => do
        let (values, rest) ←
          readPositions (read depth) (Shape.expectedElements name fields.length) 0 fields rest
        let rest ← closeList rest
        .ok (.object values, rest)
    | .record _ fields, '\x7b' :: rest =>
      match depth with
      | 0 => malformed .tooDeep cs
      | depth + 1 => do
        let (held, rest) ← readMembers (recordMember (read depth) fields) (rest.length + 1) true [] rest
        let values ← fitting rest (collectFields held fields)
        .ok (.object values, rest)
    | .anything, 'n' :: rest => (readWord ['u', 'l', 'l'] rest).map fun rest => (.null, rest)
    | .anything, 't' :: rest => (readWord ['r', 'u', 'e'] rest).map fun rest => (.bool true, rest)
    | .anything, 'f' :: rest => (readWord ['a', 'l', 's', 'e'] rest).map fun rest => (.bool false, rest)
    | .anything, '"' :: rest => (readText rest).map fun (value, rest) => (.text value, rest)
    | .anything, '[' :: rest =>
      match depth with
      | 0 => malformed .tooDeep cs
      | depth + 1 =>
        (readItems (read depth .anything) (rest.length + 1) true rest).map fun (items, rest) => (.list items, rest)
    | .anything, '\x7b' :: rest =>
      match depth with
      | 0 => malformed .tooDeep cs
      | depth + 1 => (readMembers (anyMember (read depth .anything)) (rest.length + 1) true [] rest).map
        fun (fields, rest) => (.object fields.reverse, rest)
    | .anything, c :: rest =>
      if startsNumber c then (readNumber (c :: rest)).map fun (value, rest) => (.number value, rest)
      else malformed .expectedValue (c :: rest)
    | _, _ => refuse

def depthLimit : Nat := 127

/-- What is left after a whole document may only be blank. -/
def finish (value : α) (rest : List Char) : Except Stop α :=
  match skipGaps rest with
  | [] => .ok value
  | rest => malformed .trailingCharacters rest

/-- A reader's value for a whole text. -/
def readAll (reader : Reader α) (text : String) : Except Fault α :=
  match (reader text.toList).bind fun (value, rest) => finish value rest with
  | .ok value => .ok value
  | .error stop => .error (stop.fault text)

def readDocument (shape : Shape) : String → Except Fault Doc := readAll (read depthLimit shape)

end AppGrants.Json
