import AppGrants.Proofs.Catalog.Records
import Mathlib.Data.List.Perm.Basic

/-! Groups as the catalog keeps them: they divide the visible records by uid, and what a group says of its members is true
of them, also after some of them were replaced. -/
namespace AppGrants

theorem Uid.order_eq_iff (left right : Int32) : Uid.order left right = .eq ↔ left = right := by
  unfold Uid.order
  rw [Int.compare_eq_eq,Int32.toInt_inj]

theorem mem_insertAscending (n other : Int32) (numbers : List Int32) :
    other ∈ insertAscending n numbers ↔ other = n ∨ other ∈ numbers := by
  induction numbers with
  | nil => simp [insertAscending]
  | cons m rest ih =>
    unfold insertAscending
    split
    next => simp
    next same =>
      have equal := (Uid.order_eq_iff n m).mp same
      simp [equal]
    next => simp only [List.mem_cons,ih]; tauto

def Ascending (numbers : List Int32) : Prop := numbers.Pairwise fun left right => left.toInt < right.toInt

theorem insertAscending_ascending (n : Int32) {numbers : List Int32} (sorted : Ascending numbers) :
    Ascending (insertAscending n numbers) := by
  induction numbers with
  | nil => simp [insertAscending,Ascending]
  | cons m rest ih =>
    obtain ⟨least,tail⟩ := List.pairwise_cons.mp sorted
    unfold insertAscending
    split
    next before =>
      have less : n.toInt < m.toInt := Int.compare_eq_lt.mp before
      refine List.pairwise_cons.mpr ⟨?_,sorted⟩
      intro other member
      rcases List.mem_cons.mp member with rfl | inside
      · exact less
      · exact Int.lt_trans less (least other inside)
    next => exact sorted
    next after =>
      have greater : m.toInt < n.toInt := Int.compare_eq_gt.mp after
      refine List.pairwise_cons.mpr ⟨?_,ih tail⟩
      intro other member
      rcases (mem_insertAscending n other rest).mp member with rfl | inside
      · exact greater
      · exact least other inside

private theorem ascending_fold (numbers kept : List Int32) (sorted : Ascending kept) :
    Ascending (numbers.foldl (fun kept n => insertAscending n kept) kept) ∧
      ∀ n, n ∈ numbers.foldl (fun kept n => insertAscending n kept) kept ↔ n ∈ kept ∨ n ∈ numbers := by
  induction numbers generalizing kept with
  | nil => simp [sorted]
  | cons first rest ih =>
    obtain ⟨order,members⟩ := ih _ (insertAscending_ascending first sorted)
    refine ⟨order,fun n => ?_⟩
    rw [List.foldl_cons,members,mem_insertAscending,List.mem_cons]
    tauto

theorem ascending_sorted (numbers : List Int32) : Ascending (ascending numbers) :=
  (ascending_fold numbers [] .nil).1

theorem mem_ascending (numbers : List Int32) (n : Int32) : n ∈ ascending numbers ↔ n ∈ numbers := by
  unfold ascending
  simpa using (ascending_fold numbers [] .nil).2 n

theorem ascending_distinct (numbers : List Int32) : (ascending numbers).Nodup :=
  (ascending_sorted numbers).imp fun less same => by simp [same] at less

namespace Catalog

/-- Items taken key by key are all items, each once. -/
theorem flatMap_filter_perm {α κ : Type} [DecidableEq κ] (key : α → κ) (keys : List κ) (items : List α)
    (distinct : keys.Nodup) (covered : ∀ item ∈ items, key item ∈ keys) :
    (keys.flatMap fun k => items.filter (key · == k)).Perm items := by
  induction keys generalizing items with
  | nil =>
    have none : items = [] := List.eq_nil_iff_forall_not_mem.mpr fun item member => by simpa using covered item member
    simp [none]
  | cons k rest ih =>
    obtain ⟨fresh,distinct⟩ := List.nodup_cons.mp distinct
    let others := items.filter fun item => !(key item == k)
    have later : (rest.flatMap fun j => others.filter (key · == j)).Perm others := by
      refine ih others distinct fun item member => ?_
      obtain ⟨inside,other⟩ := List.mem_filter.mp member
      exact (List.mem_cons.mp (covered item inside)).resolve_left (by simpa using other)
    have same : (rest.flatMap fun j => others.filter (key · == j)) = rest.flatMap fun j => items.filter (key · == j) := by
      refine List.flatMap_congr fun j member => ?_
      rw [List.filter_filter]
      refine List.filter_congr fun item _ => ?_
      by_cases equal : key item = j
      · have apart : j ≠ k := fun same => fresh (same ▸ member)
        simp [equal,apart]
      · simp [equal]
    rw [List.flatMap_cons,← same]
    exact (List.Perm.append_left _ later).trans (List.filter_append_perm _ items)

theorem sortBy_perm {α : Type} (order : α → α → Ordering) (items : List α) : (sortBy order items).Perm items :=
  List.mergeSort_perm ..

theorem list_perm (filters : Filters) (selfPackage : String) (labels : Collation) (records : List AppRecord) :
    (list filters selfPackage labels records).Perm (records.filter (filters.shows selfPackage)) :=
  sortBy_perm ..

/-- What a group says of its members is true. -/
structure Group.Consistent (group : Group) : Prop where
  uid : ∀ member ∈ group.members, member.uid = group.uid
  primary : group.members.head? = some group.primary
  root : group.anyAllowsRoot = group.members.any AppRecord.allowsRoot
  custom : group.anyCustom = group.members.any AppRecord.hasCustomProfile
  owner : group.ownerLabel.isSome → group.isShared

section
variable (shouldUnmount : Uid → Bool) (naming : OwnerNaming) (records : List AppRecord)

theorem ofUid?_members (uid : Uid) :
    (Group.ofUid? shouldUnmount naming records uid).elim [] Group.members =
      sortBy compareMembers (records.filter (·.uid == uid)) := by
  unfold Group.ofUid?
  split
  next empty => simp [empty]
  next first others found => simp [found,Group.ofMembers]

theorem ofUid?_uid {uid : Uid} {group : Group}
    (found : Group.ofUid? shouldUnmount naming records uid = some group) : group.uid = uid := by
  unfold Group.ofUid? at found
  split at found
  · simp at found
  · simp only [Option.some.injEq] at found
    rw [← found]
    rfl

private theorem ofUid?_consistent {uid : Uid} {group : Group}
    (found : Group.ofUid? shouldUnmount naming records uid = some group) : group.Consistent := by
  have members := ofUid?_members shouldUnmount naming records uid
  rw [found] at members
  have all : ∀ member ∈ group.members, member.uid = uid := by
    intro member inside
    rw [Option.elim_some] at members
    rw [members] at inside
    have listed := (sortBy_perm _ _).mem_iff.mp inside
    simpa using (List.mem_filter.mp listed).2
  unfold Group.ofUid? at found
  split at found
  · simp at found
  next first others sorted =>
    simp only [Option.some.injEq] at found
    subst found
    refine ⟨all,rfl,rfl,rfl,?_⟩
    cases others <;> simp [Group.ofMembers,Group.isShared]

theorem group_members_perm : ((group shouldUnmount naming records).flatMap Group.members).Perm records := by
  have flat (list : List Uid) : (list.filterMap (Group.ofUid? shouldUnmount naming records)).flatMap Group.members =
      list.flatMap fun uid => sortBy compareMembers (records.filter (·.uid == uid)) := by
    induction list with
    | nil => rfl
    | cons uid rest ih =>
      have members := ofUid?_members shouldUnmount naming records uid
      rw [List.filterMap_cons]
      cases found : Group.ofUid? shouldUnmount naming records uid with
      | none =>
        rw [found,Option.elim_none] at members
        simp only [List.flatMap_cons,← members,List.nil_append,ih]
      | some group =>
        rw [found,Option.elim_some] at members
        simp only [List.flatMap_cons,← members,ih]
  refine ((sortBy_perm ..).flatMap_right _).trans ?_
  rw [flat]
  refine (List.Perm.flatMap_left _ fun uid _ => sortBy_perm ..).trans ?_
  exact flatMap_filter_perm AppRecord.uid (ascending (records.map (·.uid))) records (ascending_distinct _)
    fun record member => (mem_ascending ..).mpr (List.mem_map_of_mem member)

theorem group_uids_distinct : ((group shouldUnmount naming records).map Group.uid).Nodup := by
  refine ((sortBy_perm ..).map Group.uid).nodup_iff.mpr ?_
  refine List.pairwise_map.mpr (List.Pairwise.filterMap _ ?_ (ascending_distinct _))
  intro uid other apart first foundFirst second foundSecond
  rw [ofUid?_uid shouldUnmount naming records foundFirst,ofUid?_uid shouldUnmount naming records foundSecond]
  exact apart

theorem group_members_eq {group : Group} (member : group ∈ Catalog.group shouldUnmount naming records) :
    group.members = sortBy compareMembers (records.filter (·.uid == group.uid)) := by
  have inside := (sortBy_perm ..).mem_iff.mp member
  obtain ⟨uid,-,found⟩ := List.mem_filterMap.mp inside
  have members := ofUid?_members shouldUnmount naming records uid
  rw [found,Option.elim_some] at members
  rw [members,ofUid?_uid shouldUnmount naming records found]

theorem group_consistent {group : Group} (member : group ∈ Catalog.group shouldUnmount naming records) :
    group.Consistent := by
  have inside := (sortBy_perm ..).mem_iff.mp member
  obtain ⟨uid,-,found⟩ := List.mem_filterMap.mp inside
  exact ofUid?_consistent shouldUnmount naming records found

end

end Catalog
end AppGrants
