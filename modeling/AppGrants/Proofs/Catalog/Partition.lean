import AppGrants.Proofs.Catalog.Ranks
import AppGrants.Proofs.Catalog.Sorting

/-! Grouping divides the records by uid in one way only: which groups there are, in which order, and what each of them shows
does not depend on the order of the records. -/
namespace AppGrants.Catalog

/-- A group that has the records of its uid in their order, and the rank of the one that it shows. -/
structure Group.Gathers (records : List AppRecord) (group : Group) : Prop where
  members : group.members.Perm (records.filter (·.uid == group.uid))
  sorted : group.members.Pairwise fun left right => compareMembers left right ≠ .gt
  primary : group.members.head? = some group.primary
  owner : group.ownerLabel.isSome → 2 ≤ group.members.length
  root : group.rank = 0 ↔ Catalog.rank group.primary = 0
  custom : group.rank = 1 ↔ Catalog.rank group.primary = 1

section
variable {group : Group}

theorem rank_le_of_compareMembers {left right : AppRecord} (ordered : compareMembers left right ≠ .gt) :
    rank left ≤ rank right := by
  by_contra behind
  have greater : compare (rank left) (rank right) = .gt := Nat.compare_eq_gt.mpr (Nat.lt_of_not_le behind)
  apply ordered
  simp [compareMembers,compareRecords,greater]

theorem rank_primary_le (sorted : group.members.Pairwise fun left right => compareMembers left right ≠ .gt)
    (primary : group.members.head? = some group.primary) :
    ∀ member ∈ group.members, rank group.primary ≤ rank member := by
  obtain ⟨others,members⟩ := List.head?_eq_some_iff.mp primary
  rw [members] at sorted ⊢
  obtain ⟨first,-⟩ := List.pairwise_cons.mp sorted
  intro member inside
  rcases List.mem_cons.mp inside with rfl | later
  · exact Nat.le_refl _
  · exact rank_le_of_compareMembers (first member later)

namespace Group

theorem rank_eq_zero_iff : group.rank = 0 ↔ group.anyAllowsRoot = true := by
  unfold Group.rank
  split
  next rooted => simp [rooted]
  next rootless => grind

theorem rank_eq_one_iff : group.rank = 1 ↔ group.anyAllowsRoot = false ∧ group.anyCustom = true := by
  unfold Group.rank
  grind

namespace Consistent
variable (consistent : group.Consistent) (least : ∀ member ∈ group.members, Catalog.rank group.primary ≤ Catalog.rank member)
include consistent least

theorem anyAllowsRoot_iff : group.anyAllowsRoot = true ↔ Catalog.rank group.primary = 0 := by
  have shown := List.mem_of_mem_head? consistent.primary
  rw [consistent.root,List.any_eq_true]
  constructor
  · rintro ⟨member,inside,rooted⟩
    have first := (Catalog.rank_eq_zero_iff member).mpr rooted
    have before := least member inside
    omega
  · intro first
    exact ⟨group.primary,shown,(Catalog.rank_eq_zero_iff _).mp first⟩

theorem anyCustom_iff (rootless : group.anyAllowsRoot = false) : group.anyCustom = true ↔ Catalog.rank group.primary = 1 := by
  have shown := List.mem_of_mem_head? consistent.primary
  have none_rooted : ∀ member ∈ group.members, member.allowsRoot = false := by
    rw [consistent.root] at rootless
    simpa using rootless
  have not_first : Catalog.rank group.primary ≠ 0 := by
    intro first
    have rooted := (consistent.anyAllowsRoot_iff least).mpr first
    simp [rootless] at rooted
  rw [consistent.custom,List.any_eq_true]
  constructor
  · rintro ⟨member,inside,custom⟩
    have second := (Catalog.rank_eq_one_iff (none_rooted member inside)).mpr custom
    have before := least member inside
    omega
  · intro second
    exact ⟨group.primary,shown,(Catalog.rank_eq_one_iff (none_rooted _ shown)).mp second⟩

theorem rank_root : group.rank = 0 ↔ Catalog.rank group.primary = 0 := by
  rw [Group.rank_eq_zero_iff,consistent.anyAllowsRoot_iff least]

theorem rank_custom : group.rank = 1 ↔ Catalog.rank group.primary = 1 := by
  rw [Group.rank_eq_one_iff]
  constructor
  · rintro ⟨rootless,custom⟩
    exact (consistent.anyCustom_iff least rootless).mp custom
  · intro second
    have rootless : group.anyAllowsRoot = false := by
      rw [Bool.eq_false_iff,Ne,consistent.anyAllowsRoot_iff least]
      omega
    exact ⟨rootless,(consistent.anyCustom_iff least rootless).mpr second⟩

end Consistent
end Group
end

section
variable (shouldUnmount : Uid → Bool) (naming : OwnerNaming) {records others : List AppRecord}

theorem group_gathers {one : Group} (member : one ∈ group shouldUnmount naming records) : one.Gathers records := by
  have consistent := group_consistent shouldUnmount naming records member
  have members := group_members_eq shouldUnmount naming records member
  have sorted : one.members.Pairwise fun left right => compareMembers left right ≠ .gt := by
    rw [members]
    exact pairwise_sortBy _
  have least := rank_primary_le sorted consistent.primary
  refine ⟨?_,sorted,consistent.primary,?_,consistent.rank_root least,consistent.rank_custom least⟩
  · rw [members]
    exact sortBy_perm ..
  · intro named
    have shared := consistent.owner named
    simp only [Group.isShared,decide_eq_true_eq] at shared
    exact shared

theorem group_increasing : (group shouldUnmount naming records).Pairwise fun left right => Group.order left right = .lt := by
  have uids := group_uids_distinct shouldUnmount naming records
  refine pairwise_sortBy_lt ((List.pairwise_map.mp uids).imp ?_)
  intro left right different same
  exact different (Group.uid_eq_of_order same)

theorem ascending_of_perm {numbers more : List Int32} (perm : numbers.Perm more) : ascending numbers = ascending more := by
  have same : (ascending numbers).Perm (ascending more) := by
    refine (List.perm_ext_iff_of_nodup (ascending_distinct _) (ascending_distinct _)).mpr fun n => ?_
    rw [mem_ascending,mem_ascending,perm.mem_iff]
  refine List.Perm.eq_of_pairwise ?_ (ascending_sorted numbers) (ascending_sorted more) same
  intro left right _ _ before after
  exact absurd before (Int.lt_asymm after)

theorem ofUid?_of_perm (distinct : (records.map (·.identity)).Nodup) (perm : records.Perm others) (uid : Uid) :
    Group.ofUid? shouldUnmount naming records uid = Group.ofUid? shouldUnmount naming others uid := by
  have sorted : sortBy compareMembers (records.filter (·.uid == uid)) = sortBy compareMembers (others.filter (·.uid == uid)) := by
    apply sortBy_eq_of_perm (perm.filter _)
    intro left inside right inside' same
    have left_mem := (List.mem_filter.mp inside).1
    have right_mem := (List.mem_filter.mp inside').1
    exact List.inj_on_of_nodup_map distinct left_mem right_mem (identity_eq_of_compareRecords same)
  unfold Group.ofUid?
  rw [sorted]

theorem group_of_perm (distinct : (records.map (·.identity)).Nodup) (perm : records.Perm others) :
    group shouldUnmount naming records = group shouldUnmount naming others := by
  have made : Group.ofUid? shouldUnmount naming records = Group.ofUid? shouldUnmount naming others := by
    funext uid
    exact ofUid?_of_perm shouldUnmount naming distinct perm uid
  unfold group
  rw [made,ascending_of_perm (perm.map (·.uid))]

end

/-- The groups are the records divided by uid, each once and in a strict order; for records of different identities they are the
same in whichever order the records are given. -/
theorem group_partitions (shouldUnmount : Uid → Bool) (naming : OwnerNaming) (records : List AppRecord) :
    let groups := group shouldUnmount naming records
    (groups.flatMap Group.members).Perm records ∧ (groups.map Group.uid).Nodup ∧ (∀ one ∈ groups, one.Gathers records) ∧
      groups.Pairwise (fun left right => Group.order left right = .lt) ∧
      ((records.map (·.identity)).Nodup → ∀ others : List AppRecord, others.Perm records →
        group shouldUnmount naming others = groups) := by
  refine ⟨group_members_perm ..,group_uids_distinct ..,fun one member => group_gathers _ _ member,group_increasing ..,?_⟩
  intro distinct others perm
  exact (group_of_perm shouldUnmount naming distinct perm.symm).symm

def twoRecords : List AppRecord :=
  ["b", "a"].map fun packageName => .ofPackage { packageName, uid := 10001 } none

theorem group_partitions_two : (twoRecords.map (·.identity)).Nodup ∧
    group (fun _ => false) (fun _ _ => none) twoRecords.reverse = group (fun _ => false) (fun _ _ => none) twoRecords := by
  have distinct : (twoRecords.map (·.identity)).Nodup := by decide
  obtain ⟨-,-,-,-,same⟩ := group_partitions (fun _ => false) (fun _ _ => none) twoRecords
  exact ⟨distinct,same distinct _ (List.reverse_perm _)⟩

end AppGrants.Catalog
