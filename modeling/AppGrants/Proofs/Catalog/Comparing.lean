import AppGrants.Proofs.Catalog.Sorting
import Mathlib.Data.List.Forall2

/-! The comparisons that lists, groups and their members are sorted by never contradict themselves, so that what is sorted
by them is determined but for items that they do not tell apart. -/
namespace AppGrants
open Std

namespace Catalog

def Arranged {α : Type} (order : α → α → Ordering) (items : List α) : Prop :=
  items.Pairwise fun left right => order left right ≠ .gt

/-- A comparison that is safe to sort by. -/
structure Sorts {α : Type} (order : α → α → Ordering) : Prop where
  swapped left right : order right left = (order left right).swap
  transitive outcome left middle right :
    order left middle = outcome → order middle right = outcome → order left right = outcome
  chained left middle right : order left middle ≠ .gt → order middle right ≠ .gt → order left right ≠ .gt
  total left right : order left right ≠ .gt ∨ order right left ≠ .gt
  sorted items : (sortBy order items).Perm items ∧ Arranged order (sortBy order items)
  unique items others : items.Perm others → Arranged order items → Arranged order others →
    List.Forall₂ (fun left right => order left right = .eq) items others

section
variable {α : Type} {order : α → α → Ordering}

variable (order) in
/-- Of every item both lists have as many that compare equal to it. -/
def Alike (items others : List α) : Prop :=
  ∀ item, items.countP (order item · == .eq) = others.countP (order item · == .eq)

theorem Alike.symm {items others : List α} (alike : Alike order items others) : Alike order others items :=
  fun item => (alike item).symm

variable [TransCmp order]

theorem Alike.exists_tied {item : α} {items others : List α} (alike : Alike order (item :: items) others) :
    ∃ other ∈ others, order item other = .eq := by
  have counted : 0 < others.countP (order item · == .eq) := by
    rw [← alike item]
    simp [ReflCmp.compare_self]
  obtain ⟨other,member,same⟩ := List.countP_pos_iff.mp counted
  exact ⟨other,member,by simpa using same⟩

theorem Alike.tail {item other : α} {items others : List α} (alike : Alike order (item :: items) (other :: others))
    (tied : order item other = .eq) : Alike order items others := by
  intro another
  have same : order another item = order another other := TransCmp.congr_right tied
  have counts := alike another
  rw [List.countP_cons,List.countP_cons,same] at counts
  exact Nat.add_right_cancel counts

theorem Arranged.head_not_gt {item other : α} {items others : List α} (arranged : Arranged order (other :: others))
    (alike : Alike order (item :: items) (other :: others)) : order other item ≠ .gt := by
  obtain ⟨tied,member,same⟩ := alike.exists_tied
  have least : order other tied ≠ .gt := by
    rcases List.mem_cons.mp member with rfl | later
    · simp [ReflCmp.compare_self]
    · exact (List.pairwise_cons.mp arranged).1 tied later
  rwa [TransCmp.congr_right same]

theorem Alike.forall₂ {items others : List α} (alike : Alike order items others) (arranged : Arranged order items)
    (arranged' : Arranged order others) : List.Forall₂ (fun left right => order left right = .eq) items others := by
  induction items generalizing others with
  | nil =>
    cases others with
    | nil => exact .nil
    | cons other others =>
      obtain ⟨_,none,-⟩ := alike.symm.exists_tied
      exact absurd none List.not_mem_nil
  | cons item items ih =>
    cases others with
    | nil =>
      obtain ⟨_,none,-⟩ := alike.exists_tied
      exact absurd none List.not_mem_nil
    | cons other others =>
      -- neither head comes before the other one
      have tied : order item other = .eq := OrientedCmp.isLE_antisymm
        (Ordering.isLE_iff_ne_gt.mpr (arranged.head_not_gt alike.symm)) (Ordering.isLE_iff_ne_gt.mpr (arranged'.head_not_gt alike))
      exact .cons tied (ih (alike.tail tied) (List.pairwise_cons.mp arranged).2 (List.pairwise_cons.mp arranged').2)

variable (order) in
theorem sorts_of_transCmp : Sorts order where
  swapped left right := OrientedCmp.eq_swap
  transitive outcome left middle right first second := by
    cases outcome with
    | lt => exact TransCmp.lt_trans first second
    | eq => exact TransCmp.eq_trans first second
    | gt => exact TransCmp.gt_trans first second
  chained left middle right first second := by simpa using not_gt_trans (by simpa using first) (by simpa using second)
  total left right := by simpa using @not_gt_total _ order _ left right
  sorted items := ⟨sortBy_perm order items,pairwise_sortBy items⟩
  unique items others perm arranged arranged' :=
    Alike.forall₂ (fun _ => perm.countP_eq _) arranged arranged'

end

theorem sorts_iff {α : Type} {order : α → α → Ordering} : Sorts order ↔ TransCmp order where
  mp sorts :=
    { eq_swap := sorts.swapped ..
      isLE_trans := by
        intro left middle right
        simpa only [Ordering.isLE_iff_ne_gt] using sorts.chained left middle right }
  mpr _ := sorts_of_transCmp order

/-- A record for a label alone. -/
def labelled (label : String) : AppRecord := ⟨label,⟨"",0⟩,{ packageName := "", uid := 0 },none⟩

theorem compareRecords_labelled (labels : Collation) : Ordering.byKey labelled (compareRecords labels) = labels := by
  funext left right
  have ranks : compare (rank (labelled left)) (rank (labelled right)) = .eq := Nat.compare_eq_eq.mpr rfl
  have identities : PackageIdentity.order (labelled left).identity (labelled right).identity = .eq := ReflCmp.compare_self
  simp only [Ordering.byKey,compareRecords,ranks,identities,Ordering.then_eq,Ordering.eq_then]
  rfl

/-- Records can be sorted by the order of their labels only where the labels can. -/
theorem sorts_compareRecords (labels : Collation) : Sorts (compareRecords labels) ↔ Sorts labels := by
  rw [sorts_iff,sorts_iff]
  constructor
  · intro lawful
    have keyed : TransCmp (Ordering.byKey labelled (compareRecords labels)) := inferInstance
    rwa [compareRecords_labelled] at keyed
  · intro lawful
    infer_instance

/-- Groups are taken as they are, whether or not what they say of their members is true. -/
theorem comparisons_sort :
    Sorts Text.compareFolded ∧
    (Sorts Text.compareLabels ∧ ∀ left right, Text.compareLabels left right = .eq ↔ left = right) ∧
    (∀ labels, (Sorts (compareRecords labels) ↔ Sorts labels) ∧
      ∀ left right, compareRecords labels left right = .eq → left.identity = right.identity) ∧
    (Sorts compareMembers ∧ ∀ left right, compareMembers left right = .eq → left.identity = right.identity) ∧
    (Sorts Group.order ∧ ∀ left right, Group.order left right = .eq → left.uid = right.uid) := by
  refine ⟨sorts_of_transCmp _,⟨sorts_of_transCmp _,?_⟩,?_,⟨sorts_of_transCmp _,?_⟩,⟨sorts_of_transCmp _,?_⟩⟩
  · exact fun _ _ => LawfulEqCmp.compare_eq_iff_eq
  · exact fun labels => ⟨sorts_compareRecords labels,fun _ _ => identity_eq_of_compareRecords⟩
  · exact fun _ _ => identity_eq_of_compareRecords
  · exact fun _ _ => Group.uid_eq_of_order

/-- No member, yet a root grant among them. -/
def hollow : Group where
  uid := 10001
  members := []
  primary := labelled "App"
  anyAllowsRoot := true
  anyCustom := false
  shouldUnmount := false
  ownerLabel := none

/-- Two members, none of which is the one shown. -/
def crowded : Group := { hollow with members := [labelled "b",labelled "a"], primary := labelled "APP", anyCustom := true }

theorem comparisons_sort_untrue : Group.order hollow crowded = .eq ∧ hollow ≠ crowded ∧ hollow.uid = crowded.uid ∧
    List.Forall₂ (fun left right => Group.order left right = .eq) [hollow,crowded] [crowded,hollow] := by
  have tied : Group.order hollow crowded = .eq := by decide +kernel
  have tied' : Group.order crowded hollow = .eq := by decide +kernel
  obtain ⟨-,-,-,-,sorts,uids⟩ := comparisons_sort
  refine ⟨tied,by decide,uids _ _ tied,sorts.unique _ _ (.swap ..) ?_ ?_⟩
  · simp [Arranged,tied]
  · simp [Arranged,tied']

end Catalog
end AppGrants
