import AppGrants.Proofs.Json.Printing
import AppGrants.Proofs.Text.Order

/-! Documents with their fields in the order of names. Sorting them again changes nothing. -/
namespace AppGrants.Json
open Text (compareTexts)
variable {name : String} {value : Doc} {kept fields : List (String × Doc)}

def Ascending (fields : List (String × Doc)) : Prop := fields.Pairwise fun one other => compareTexts one.1 other.1 = .lt

namespace Doc

theorem mem_insertField {field : String × Doc} (member : field ∈ insertField name value kept) :
    field = (name,value) ∨ field ∈ kept := by
  induction kept with
  | nil => simpa [insertField] using member
  | cons first rest ih =>
    rw [insertField] at member
    split at member
    · simpa using member
    · rcases List.mem_cons.mp member with rfl | later
      · exact .inl rfl
      · exact .inr (.tail _ later)
    · rcases List.mem_cons.mp member with rfl | later
      · exact .inr (.head _)
      · exact (ih later).imp_right (.tail _)

theorem ascending_insertField (ascending : Ascending kept) : Ascending (insertField name value kept) := by
  induction kept with
  | nil => exact List.pairwise_singleton _ _
  | cons first rest ih =>
    obtain ⟨least,others⟩ := List.pairwise_cons.mp ascending
    rw [insertField]
    split
    next before =>
      refine List.pairwise_cons.mpr ⟨fun field member => ?_,ascending⟩
      rcases List.mem_cons.mp member with rfl | later
      · exact before
      · exact Std.TransCmp.lt_trans before (least field later)
    next same =>
      obtain rfl : name = first.1 := Std.LawfulEqCmp.eq_of_compare same
      exact List.pairwise_cons.mpr ⟨least,others⟩
    next behind =>
      refine List.pairwise_cons.mpr ⟨fun field member => ?_,ih others⟩
      rcases mem_insertField member with rfl | later
      · exact Std.OrientedCmp.gt_iff_lt.mp behind
      · exact least field later

theorem insertField_last (greatest : ∀ field ∈ kept, compareTexts field.1 name = .lt) :
    insertField name value kept = kept ++ [(name,value)] := by
  induction kept with
  | nil => rfl
  | cons first rest ih =>
    have behind : compareTexts name first.1 = .gt := Std.OrientedCmp.gt_iff_lt.mpr (greatest first (.head _))
    rw [insertField,behind,ih fun field member => greatest field (.tail _ member)]
    rfl

theorem sortedItems_eq (items : List Doc) : sortedItems items = items.map sorted := by
  induction items with
  | nil => rfl
  | cons item rest ih => rw [sortedItems,ih,List.map_cons]

theorem ascending_sortedFields (ascending : Ascending kept) : Ascending (sortedFields kept fields) := by
  induction fields generalizing kept with
  | nil => exact ascending
  | cons field rest ih => exact ih (ascending_insertField ascending)

theorem mem_sortedFields {field : String × Doc} (member : field ∈ sortedFields kept fields) :
    field ∈ kept ∨ ∃ written ∈ fields, field.2 = written.2.sorted := by
  induction fields generalizing kept with
  | nil => exact .inl member
  | cons first rest ih =>
    rcases ih member with earlier | ⟨written,later,same⟩
    · rcases mem_insertField earlier with rfl | held
      · exact .inr ⟨first,.head _,rfl⟩
      · exact .inl held
    · exact .inr ⟨written,.tail _ later,same⟩

theorem sortedFields_of_ascending (ascending : Ascending (kept ++ fields))
    (settled : ∀ field ∈ fields, field.2.sorted = field.2) : sortedFields kept fields = kept ++ fields := by
  induction fields generalizing kept with
  | nil => exact (List.append_nil kept).symm
  | cons field rest ih =>
    obtain ⟨-,-,across⟩ := List.pairwise_append.mp ascending
    have last : insertField field.1 field.2 kept = kept ++ [field] :=
      insertField_last fun other member => across other member field (.head _)
    rw [List.append_cons] at ascending ⊢
    rw [sortedFields,settled field (.head _),last]
    exact ih ascending fun other member => settled other (.tail _ member)

mutual

theorem sorted_sorted : (doc : Doc) → doc.sorted.sorted = doc.sorted
  | .null | .bool _ | .number _ | .text _ => rfl
  | .list items => by
    rw [sorted,sorted,sorted_sortedItems items]
  | .object fields => by
    have settled : ∀ field ∈ sortedFields [] fields, field.2.sorted = field.2 := by
      intro field member
      rcases mem_sortedFields member with nothing | ⟨written,inside,same⟩
      · cases nothing
      · rw [same]
        exact sorted_values fields written inside
    rw [sorted,sorted,sortedFields_of_ascending (ascending_sortedFields .nil) settled,List.nil_append]

theorem sorted_sortedItems : (items : List Doc) → sortedItems (sortedItems items) = sortedItems items
  | [] => rfl
  | item :: rest => by rw [sortedItems,sortedItems,sorted_sorted item,sorted_sortedItems rest]

theorem sorted_values : (fields : List (String × Doc)) → ∀ field ∈ fields, field.2.sorted.sorted = field.2.sorted
  | [], _, member => by cases member
  | (name,value) :: rest, field, member => by
    rcases List.mem_cons.mp member with rfl | later
    · exact sorted_sorted value
    · exact sorted_values rest field later

end

theorem plain_sorted : {depth : Nat} → {doc : Doc} → doc.Plain depth → doc.sorted.Plain depth
  | _, .null, plain | _, .bool _, plain | _, .number _, plain | _, .text _, plain => plain
  | depth + 1, .list items, plain => by
    rw [sorted,sortedItems_eq]
    intro item member
    obtain ⟨written,inside,rfl⟩ := List.mem_map.mp member
    exact plain_sorted (plain written inside)
  | depth + 1, .object fields, plain => by
    intro field member
    rcases mem_sortedFields member with nothing | ⟨written,inside,same⟩
    · cases nothing
    · exact same ▸ plain_sorted (plain written inside)
  | 0, .list _, plain => plain.elim
  | 0, .object _, plain => plain.elim

end Doc
end AppGrants.Json
