import AppGrants.Json.Codec
import AppGrants.Proofs.Json.Sorting

/-! Values taken back from their documents, whose fields may have been sorted meanwhile. -/
namespace AppGrants.Json
variable {α : Type}

/-- The entries of an object are taken up one after another, from what is held to what is held then. -/
inductive Accepts (rules : List (FieldRule × Shape)) :
    List (String × Doc) → List (String × Doc) → List (String × Doc) → Prop where
  | nothing {held : List (String × Doc)} : Accepts rules held [] held
  | field {held rest last : List (String × Doc)} {name : String} {doc value : Doc} {rule : FieldRule} {shape : Shape}
      (finds : rules.find? (·.1.name == name) = some (rule,shape)) (fresh : held.lookup name = none)
      (conforms : conformNullable doc rule shape = .ok value) (others : Accepts rules ((name,value) :: held) rest last) :
      Accepts rules held ((name,doc) :: rest) last

section
variable {rules : List (FieldRule × Shape)} {held rest last values : List (String × Doc)} {name : String} {rule : FieldRule}
  {shape : Shape}

theorem Accepts.conformEntries_eq {entries : List (String × Doc)} (accepts : Accepts rules held entries last) :
    conformEntries entries held rules = .ok last := by
  induction accepts with
  | nothing => rw [conformEntries]
  | field finds fresh conforms _ ih =>
    rw [conformEntries,finds]
    simp only [fresh,Option.isSome_none,Bool.false_eq_true,if_false,conforms]
    exact ih

theorem Accepts.optional [Codec α] {value? : Option α} (finds : rules.find? (·.1.name == name) = some (rule,shape))
    (fresh : held.lookup name = none)
    (conforms : ∀ value ∈ value?, conformNullable (Codec.toDoc value) rule shape = .ok (Codec.toDoc value))
    (others : Accepts rules (unlessNone name value? ++ held) rest last) :
    Accepts rules held (unlessNone name value? ++ rest) last := by
  cases value? with
  | none => exact others
  | some value => exact .field finds fresh (conforms value rfl) others

theorem conform_record {entries : List (String × Doc)} (accepts : Accepts rules [] entries held)
    (collects : collectFields held rules = .ok values) :
    conform (.object entries) (.record name rules) = .ok (.object values) := by
  rw [conform,accepts.conformEntries_eq]
  change (collectFields held rules).map Doc.object = _
  rw [collects]
  rfl

theorem conform_null : conform .null .unit = .ok .null := by rw [conform]

theorem conform_boolean (value : Bool) : conform (.bool value) .boolean = .ok (.bool value) := by rw [conform]

theorem conform_text (text : String) : conform (.text text) .text = .ok (.text text) := by rw [conform]

theorem conform_choice (doc : Doc) (variants : List String) : conform doc (.choice variants) = conformChoice variants doc := by
  rw [conform]

theorem conformNullable_value {doc value : Doc} (conforms : conform doc shape = .ok value) (given : doc.isNull = false) :
    conformNullable doc rule shape = .ok value := by
  rw [conformNullable,given,Bool.and_false,if_neg Bool.false_ne_true,conforms]

theorem conformNullable_text (text : String) : conformNullable (Codec.toDoc text) rule .text = .ok (Codec.toDoc text) :=
  conformNullable_value (conform_text text) rfl

end

theorem conform_int32 (n : Int32) : conform (Codec.toDoc n) (.whole .signed32) = .ok (Codec.toDoc n) := by
  have least := n.le_toInt
  have greatest := n.toInt_lt
  have holds : Width.signed32.holds n.toInt = true := by
    simp only [Width.holds,Bool.and_eq_true,decide_eq_true_eq]
    omega
  change conform (.number (.whole n.toInt)) _ = _
  rw [conform,if_pos holds]
  rfl

theorem conform_uint32 (n : UInt32) : conform (Codec.toDoc n) (.whole .unsigned32) = .ok (Codec.toDoc n) := by
  have greatest := n.toNat_lt
  have holds : Width.unsigned32.holds n.toNat = true := by
    simp only [Width.holds,Bool.and_eq_true,decide_eq_true_eq]
    omega
  change conform (.number (.whole n.toNat)) _ = _
  rw [conform,if_pos holds]
  rfl

theorem ofDoc_int32 (n : Int32) : Codec.ofDoc (Codec.toDoc n) = n := Int32.ofInt_toInt n

theorem ofDoc_uint32 (n : UInt32) : Codec.ofDoc (Codec.toDoc n) = n := UInt32.ofNat_toNat

/-- The value is taken back from its document, with the fields sorted. -/
def Resumes [Codec α] (value : α) : Prop :=
  ∃ doc, conform (Codec.toDoc value).sorted (Codec.shape α) = .ok doc ∧ Codec.ofDoc doc = value

namespace Resumes
variable [Codec α]

theorem fromDoc_eq {value : α} (resumes : Resumes value) : fromDoc (Codec.toDoc value).sorted = .ok value := by
  obtain ⟨doc,conforms,same⟩ := resumes
  rw [fromDoc,conforms]
  exact congrArg Except.ok same

theorem list {values : List α} (resumes : ∀ value ∈ values, Resumes value) : Resumes values := by
  have items : ∃ docs, conformItems (Doc.sortedItems (values.map Codec.toDoc)) (Codec.shape α) = .ok docs ∧
      docs.map Codec.ofDoc = values := by
    induction values with
    | nil => exact ⟨[],by rw [List.map_nil,Doc.sortedItems,conformItems],rfl⟩
    | cons value rest ih =>
      obtain ⟨doc,conforms,same⟩ := resumes value (.head _)
      obtain ⟨docs,others,equal⟩ := ih fun other member => resumes other (.tail _ member)
      refine ⟨doc :: docs,?_,?_⟩
      · rw [List.map_cons,Doc.sortedItems,conformItems,conforms,others]
        rfl
      · rw [List.map_cons,same,equal]
  obtain ⟨docs,conforms,same⟩ := items
  refine ⟨.list docs,?_,same⟩
  change conform (.list (Doc.sortedItems (values.map Codec.toDoc))) (.listOf (Codec.shape α)) = _
  rw [conform,conforms]
  rfl

theorem int32 (n : Int32) : Resumes n := ⟨Codec.toDoc n,conform_int32 n,ofDoc_int32 n⟩

theorem unit : Resumes () := ⟨.null,conform_null,rfl⟩

end Resumes
section
variable [Codec α] {depth : Nat}

/-- The document of the value can be written within others, and the value is taken back from it. -/
structure Carried (depth : Nat) (value : α) : Prop where
  plain : (Codec.toDoc value).Plain depth
  resumes : Resumes value

theorem Carried.list {values : List α} (carried : ∀ value ∈ values, Carried depth value) : Carried (depth + 1) values where
  plain := by
    intro doc member
    obtain ⟨value,inside,rfl⟩ := List.mem_map.mp member
    exact (carried value inside).plain
  resumes := .list fun value member => (carried value member).resumes

end
end AppGrants.Json
