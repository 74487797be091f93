import AppGrants.Proofs.Catalog.Grouping
import AppGrants.Proofs.Text.Order
import Mathlib.Order.Compare

/-! The orders of records and groups are linear but for what they do not look at, so that a sorted list is in order, and the
same for every order in which its items came. -/
namespace AppGrants
open Std

instance : TransCmp Uid.order := inferInstanceAs (TransCmp (compareOn Int32.toInt))

instance : LawfulEqCmp Uid.order where
  eq_of_compare := (Uid.order_eq_iff ..).mp
  compare_self := (Uid.order_eq_iff ..).mpr rfl

namespace PackageIdentity

instance : TransCmp order :=
  inferInstanceAs (TransCmp (compareLex (Ordering.byKey packageName Text.compareTexts) (Ordering.byKey uid Uid.order)))

instance : LawfulEqCmp order where
  eq_of_compare := by
    intro left right same
    obtain ⟨name,uid⟩ := Ordering.then_eq_eq.mp same
    have name := LawfulEqCmp.eq_of_compare name
    have uid := LawfulEqCmp.eq_of_compare uid
    cases left
    cases right
    simp_all
  compare_self := by
    intro identity
    simp [order,ReflCmp.compare_self]

end PackageIdentity

namespace Catalog

instance (labels : Collation) [TransCmp labels] : TransCmp (compareRecords labels) :=
  inferInstanceAs (TransCmp (compareLex (compareOn rank) (compareLex (Ordering.byKey AppRecord.displayLabel labels)
    (Ordering.byKey AppRecord.identity PackageIdentity.order))))

instance : TransCmp compareMembers := inferInstanceAs (TransCmp (compareRecords Text.compareFolded))

theorem identity_eq_of_compareRecords {labels : Collation} {left right : AppRecord}
    (same : compareRecords labels left right = .eq) : left.identity = right.identity := by
  obtain ⟨-,rest⟩ := Ordering.then_eq_eq.mp same
  obtain ⟨-,identity⟩ := Ordering.then_eq_eq.mp rest
  exact LawfulEqCmp.eq_of_compare identity

namespace Group

/-- The label that the place of a group depends on. -/
def placingLabel (group : Group) : List Char :=
  if group.rank = 2 then [] else Text.foldCase group.primary.displayLabel.toList

theorem order_eq : order = compareLex (compareOn rank)
    (compareLex (Ordering.byKey placingLabel Text.compareChars) (Ordering.byKey uid Uid.order)) := by
  funext left right
  change _ = (compare left.rank right.rank).then
    ((Text.compareChars left.placingLabel right.placingLabel).then (Uid.order left.uid right.uid))
  by_cases ranks : left.rank = right.rank
  · by_cases shared : left.rank = 2
    · have shared' : right.rank = 2 := ranks ▸ shared
      simp [order,placingLabel,shared,shared',Text.compareChars]
    · have shared' : right.rank ≠ 2 := ranks ▸ shared
      simp [order,placingLabel,shared,shared',Text.compareFolded]
  · -- Groups of different ranks are told apart before their labels are looked at.
    have apart : compare left.rank right.rank ≠ .eq := fun same => ranks (Nat.compare_eq_eq.mp same)
    unfold order
    cases first : compare left.rank right.rank with
    | lt | gt => rfl
    | eq => exact absurd first apart

instance : TransCmp order := by
  rw [order_eq]
  infer_instance

theorem uid_eq_of_order {left right : Group} (same : order left right = .eq) : left.uid = right.uid := by
  rw [order_eq] at same
  obtain ⟨-,rest⟩ := Ordering.then_eq_eq.mp same
  obtain ⟨-,uid⟩ := Ordering.then_eq_eq.mp rest
  exact LawfulEqCmp.eq_of_compare uid

end Group

section
variable {α : Type} {order : α → α → Ordering} [TransCmp order]

theorem not_gt_trans {a b c : α} (first : (order a b != .gt) = true) (second : (order b c != .gt) = true) :
    (order a c != .gt) = true := by
  have first : (order a b).isLE := by simpa [Ordering.isLE_iff_ne_gt] using first
  have second : (order b c).isLE := by simpa [Ordering.isLE_iff_ne_gt] using second
  simpa [Ordering.isLE_iff_ne_gt] using TransCmp.isLE_trans first second

theorem not_gt_total (a b : α) : (order a b != .gt || order b a != .gt) = true := by
  have swapped : order b a = (order a b).swap := OrientedCmp.eq_swap
  rw [swapped]
  cases order a b <;> rfl

theorem pairwise_sortBy (items : List α) : (sortBy order items).Pairwise fun left right => order left right ≠ .gt := by
  have sorted : (sortBy order items).Pairwise fun left right => (order left right != .gt) = true :=
    List.pairwise_mergeSort (fun _ _ _ => not_gt_trans) not_gt_total items
  exact sorted.imp fun ordered => by simpa using ordered

theorem pairwise_sortBy_lt {items : List α} (apart : (sortBy order items).Pairwise fun left right => order left right ≠ .eq) :
    (sortBy order items).Pairwise fun left right => order left right = .lt := by
  refine (apart.and (pairwise_sortBy items)).imp ?_
  intro left right both
  cases compared : order left right with
  | lt => rfl
  | eq => exact absurd compared both.1
  | gt => exact absurd compared both.2

/-- Where items that compare equal are the same, it does not matter in which order they came. -/
theorem sortBy_eq_of_perm {items others : List α} (perm : items.Perm others)
    (determined : ∀ left ∈ items, ∀ right ∈ items, order left right = .eq → left = right) :
    sortBy order items = sortBy order others := by
  have same : (sortBy order items).Perm (sortBy order others) :=
    (sortBy_perm order items).trans (perm.trans (sortBy_perm order others).symm)
  refine List.Perm.eq_of_pairwise ?_ (pairwise_sortBy items) (pairwise_sortBy others) same
  intro left right member member' before after
  have inside : left ∈ items := (sortBy_perm order items).mem_iff.mp member
  have inside' : right ∈ items := perm.mem_iff.mpr ((sortBy_perm order others).mem_iff.mp member')
  apply determined left inside right inside'
  cases compared : order left right with
  | eq => rfl
  | lt => exact absurd (OrientedCmp.gt_iff_lt.mpr compared) after
  | gt => exact absurd compared before

theorem sortBy_sortBy (items : List α) : sortBy order (sortBy order items) = sortBy order items :=
  List.mergeSort_of_pairwise ((pairwise_sortBy items).imp fun ordered => by simpa using ordered)

/-- `item` belongs between `front` and `back`. -/
private structure Divides (order : α → α → Ordering) (item : α) (front back : List α) : Prop where
  front : ∀ other ∈ front, order item other = .gt
  back : ∀ other ∈ back, order item other ≠ .gt

variable (order) in
private theorem exists_sortBy_cons (item : α) (rest : List α) : ∃ front back, sortBy order (item :: rest) = front ++ item :: back ∧
    sortBy order rest = front ++ back ∧ Divides order item front back := by
  let before (left right : α) : Bool := order left right != .gt
  have chained (a b c : α) : before a b = true → before b c = true → before a c = true := not_gt_trans
  have total (a b : α) : (before a b || before b a) = true := not_gt_total a b
  obtain ⟨front,back,whole,others,greater⟩ := List.mergeSort_cons chained total item rest
  have sorted : (sortBy order (item :: rest)).Pairwise fun left right => order left right ≠ .gt := pairwise_sortBy _
  rw [sortBy,whole] at sorted
  have least := (List.pairwise_cons.mp (List.pairwise_append.mp sorted).2.1).1
  exact ⟨front,back,whole,others,fun other member => by simpa [before] using greater other member,least⟩

end

namespace Divides
variable {α : Type} {order : α → α → Ordering} {item : α} {front back : List α}

private theorem filter (divides : Divides order item front back) (keeps : α → Bool) :
    Divides order item (front.filter keeps) (back.filter keeps) where
  front other member := divides.front other (List.mem_of_mem_filter member)
  back other member := divides.back other (List.mem_of_mem_filter member)

private theorem filter_append (divides : Divides order item front back) :
    (front ++ back).filter (order item · == .gt) = front := by
  have kept : front.filter (order item · == .gt) = front :=
    List.filter_eq_self.mpr fun other member => by simpa using divides.front other member
  have dropped : back.filter (order item · == .gt) = [] :=
    List.filter_eq_nil_iff.mpr fun other member => by simpa using divides.back other member
  rw [List.filter_append,kept,dropped,List.append_nil]

private theorem unique {front' back' : List α} (divides : Divides order item front back)
    (divides' : Divides order item front' back') (same : front ++ back = front' ++ back') : front = front' ∧ back = back' := by
  have fronts : front = front' := by rw [← divides.filter_append,same,divides'.filter_append]
  exact ⟨fronts,List.append_cancel_left (fronts ▸ same)⟩

end Divides

/-- Sorting is stable, so that it does not matter whether items are left out before or after it. -/
theorem filter_sortBy {α : Type} {order : α → α → Ordering} [TransCmp order] (keeps : α → Bool) (items : List α) :
    (sortBy order items).filter keeps = sortBy order (items.filter keeps) := by
  induction items with
  | nil => simp [sortBy]
  | cons item rest ih =>
    obtain ⟨front,back,whole,others,divides⟩ := exists_sortBy_cons order item rest
    rw [others,List.filter_append] at ih
    rw [whole,List.filter_append]
    cases kept : keeps item with
    | true =>
      -- the place of the item among the kept ones is where it was among all
      obtain ⟨front',back',whole',others',divides'⟩ := exists_sortBy_cons order item (rest.filter keeps)
      obtain ⟨fronts,backs⟩ := (divides.filter keeps).unique divides' (ih.trans others')
      rw [List.filter_cons_of_pos kept,List.filter_cons_of_pos kept,whole',fronts,backs]
    | false =>
      have left_out : ¬keeps item = true := by simp [kept]
      rw [List.filter_cons_of_neg left_out,List.filter_cons_of_neg left_out,ih]

end Catalog
end AppGrants
