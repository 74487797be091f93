import AppGrants.Json.Read
import AppGrants.Json.Conform
import AppGrants.Json.Print

/-! Values with a written form: the shape of their documents, and the way to and from one. -/
namespace AppGrants.Json

/-- `ofDoc` is meant for documents of the shape, in which absent fields are left out. -/
class Codec (α : Type) where
  shape : Shape
  toDoc : α → Doc
  ofDoc : Doc → α

def encode [Codec α] (value : α) : String := (Codec.toDoc value).compact

def decode [Codec α] (text : String) : Except Fault α :=
  (readDocument (Codec.shape α) text).map Codec.ofDoc

/-- The value that a document holds which is already read. -/
def fromDoc [Codec α] (doc : Doc) : Except Fault α :=
  match conform doc (Codec.shape α) with
  | .ok doc => .ok (Codec.ofDoc doc)
  | .error what => .error ⟨.mismatch what, none⟩

instance : Codec Doc where
  shape := .anything
  toDoc := id
  ofDoc := id

instance : Codec Unit where
  shape := .unit
  toDoc _ := .null
  ofDoc _ := ()

instance : Codec Bool where
  shape := .boolean
  toDoc := .bool
  ofDoc := Doc.asBool

instance : Codec Int32 where
  shape := .whole .signed32
  toDoc n := .whole n.toInt
  ofDoc doc := Int32.ofInt doc.asInt

instance : Codec UInt32 where
  shape := .whole .unsigned32
  toDoc n := .nat n.toNat
  ofDoc doc := UInt32.ofNat doc.asInt.toNat

instance : Codec String where
  shape := .text
  toDoc := .text
  ofDoc := Doc.asText

instance [Codec α] : Codec (List α) where
  shape := .listOf (Codec.shape α)
  toDoc items := .list (items.map Codec.toDoc)
  ofDoc doc := doc.asList.map Codec.ofDoc

/-- A field of an optional value that is left out where there is none. -/
def unlessNone [Codec α] (name : String) : Option α → List (String × Doc)
  | some value => [(name, Codec.toDoc value)]
  | none => []

/-- An optional value, null where there is none. -/
def orNull [Codec α] : Option α → Doc
  | some value => Codec.toDoc value
  | none => .null

end AppGrants.Json
