import AppGrants.Package
import AppGrants.Service.Capabilities

/-! The lines that are exchanged with the privileged helper: one document per line, requests and responses matched by
their ids. -/
namespace AppGrants.Service

open Json

def protocolVersion : UInt32 := 1

inductive Method where
  | hello
  | listUserIds (strategy : UserStrategy)
  | listPackages (flags : UInt32)
  | shutdown
deriving DecidableEq, Repr

namespace Method

def name : Method → String
  | hello => "hello"
  | listUserIds _ => "listUserIds"
  | listPackages _ => "listPackages"
  | shutdown => "shutdown"

def names : List String := ["hello", "listUserIds", "listPackages", "shutdown"]

def fields : Method → List (String × Doc)
  | hello => []
  | listUserIds strategy => [("strategy", Codec.toDoc strategy)]
  | listPackages flags => [("flags", Codec.toDoc flags)]
  | shutdown => []

end Method

structure Request where
  id : Nat
  method : Method
deriving DecidableEq, Repr

namespace Request

def toDoc (request : Request) : Doc := .object (
  [("id", .nat request.id), ("method", .text request.method.name)] ++ request.method.fields)

def encode (request : Request) : String := request.toDoc.compact

/-- What has been read of a request: its id, and all other fields in their order. -/
structure Draft where
  id : Option Nat := none
  fields : List (String × Doc) := []

def draftMember (draft : Draft) (name : String) : Except Mismatch (Reader Draft) :=
  if name = "id" then
    if draft.id.isSome then .error (.duplicateField name)
    else .ok fun cs => (read (depthLimit - 1) (.whole .unsigned64) cs).map
      fun (value, rest) => ({ draft with id := some value.asInt.toNat }, rest)
  else .ok fun cs => (read (depthLimit - 1) .anything cs).map
    fun (value, rest) => ({ draft with fields := draft.fields ++ [(name, value)] }, rest)

/-- A method is named, or given by its place among the names. -/
def methodName : Doc → Except Mismatch String
  | .text name => if Method.names.contains name then .ok name else .error (.unknownVariant name Method.names)
  | .number (.whole n) =>
    if n < 0 then .error (.wrongType (.number (.whole n)) "variant identifier")
    else match Method.names[n.toNat]? with
      | some name => .ok name
      | none => .error (.wrongValue (.number (.whole n)) "variant index 0 <= i < 4")
  | other => .error (.wrongType (.ofDoc other) "variant identifier")

/-- The method's name and the fields beside it; the first one counts, and a second one is refused. -/
def splitMethod : Option String → List (String × Doc) → Except Mismatch (Option String × List (String × Doc))
  | named, [] => .ok (named, [])
  | named, (name, value) :: rest =>
    if name = "method" then
      if named.isSome then .error (.duplicateField name)
      else do
        let method ← methodName value
        splitMethod (some method) rest
    else do
      let (method, others) ← splitMethod named rest
      .ok (method, (name, value) :: others)

/-- The one field that a method has; others are passed over. -/
def argument (name : String) (shape : Shape) (fields : List (String × Doc)) : Except Mismatch Doc := do
  let rules := [Field.required name shape]
  let held ← conformEntries fields [] rules
  let values ← collectFields held rules
  .ok (((Doc.object values).field? name).getD .null)

def methodOf (name : String) (fields : List (String × Doc)) : Except Mismatch Method :=
  if name = "listUserIds" then
    (argument "strategy" (Codec.shape UserStrategy) fields).map fun doc => .listUserIds (Codec.ofDoc doc)
  else if name = "listPackages" then
    (argument "flags" (Codec.shape UInt32) fields).map fun doc => .listPackages (Codec.ofDoc doc)
  else if name = "shutdown" then .ok .shutdown
  else .ok .hello

def ofDraft (draft : Draft) : Except Mismatch Request :=
  match draft.id with
  | none => .error (.missingField "id")
  | some id => do
    let (named, fields) ← splitMethod none draft.fields
    match named with
    | none => .error (.missingField "method")
    | some name => (methodOf name fields).map (⟨id, ·⟩)

/-- A request is an object; its fields may come in any order, and unknown ones are ignored. -/
def reader : Reader Request := fun cs =>
  match skipGaps cs with
  | '\x7b' :: rest => do
    let (draft, rest) ← readMembers draftMember (rest.length + 1) true {} rest
    let request ← fitting rest (ofDraft draft)
    .ok (request, rest)
  | rest => .error (refusal "struct WireRequest" rest)

def decode : String → Except Fault Request := readAll reader

end Request

structure Response where
  id : Nat
  ok : Bool
  result : Option Doc
  error : Option String

namespace Response

def shape : Shape := .record "WireResponse" [
  Field.required "id" (.whole .unsigned64), Field.required "ok" .boolean, Field.nullableDefaulted "result" .anything,
  Field.nullableDefaulted "error" .text]

def toDoc (response : Response) : Doc := .object (
  [("id", .nat response.id), ("ok", .bool response.ok)] ++ unlessNone "result" response.result ++
    unlessNone "error" response.error)

def ofDoc (doc : Doc) : Response where
  id := doc.fieldOr "id" 0 (·.asInt.toNat)
  ok := doc.fieldOr "ok" false Codec.ofDoc
  result := doc.optional "result" Doc.sorted
  error := doc.optional "error" Codec.ofDoc

instance : Codec Response := ⟨shape, toDoc, ofDoc⟩

def success [Codec α] (id : Nat) (value : α) : Response := ⟨id, true, some (Codec.toDoc value).sorted, none⟩

def failure (id : Nat) (message : String) : Response := ⟨id, false, none, some message⟩

/-- The value that the response brings; without one it brings null. -/
def intoResult [Codec α] (response : Response) : Except TransportError α :=
  if !response.ok then .error ⟨response.error.getD "helper reported an error"⟩
  else match fromDoc (response.result.getD .null) with
    | .ok value => .ok value
    | .error fault => .error ⟨"decode result failed: " ++ fault.message⟩

end Response

structure Hello where
  protocolVersion : UInt32
  capabilities : Capabilities
deriving DecidableEq, Repr

instance : Codec Hello where
  shape := .record "HelloPayload" [
    Field.required "protocolVersion" (.whole .unsigned32), Field.required "capabilities" Capabilities.shape]
  toDoc hello := .object [
    ("protocolVersion", Codec.toDoc hello.protocolVersion), ("capabilities", Codec.toDoc hello.capabilities)]
  ofDoc doc := ⟨doc.fieldOr "protocolVersion" 0 Codec.ofDoc, doc.fieldOr "capabilities" {} Codec.ofDoc⟩

end AppGrants.Service
