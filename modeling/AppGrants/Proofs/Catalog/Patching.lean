import AppGrants.Proofs.Catalog.Grouping

/-! Replacing records in their places. The changes between a list and its rereading touch whatever became another record,
so that patching rereads the records of that list wherever they stand. -/
namespace AppGrants.Catalog

theorem mem_changes {store : StoreView} {before : List AppRecord} {identity : PackageIdentity} {record : AppRecord} :
    (identity,record) ∈ changes before (before.map (reread store)) ↔
      ∃ old ∈ before, old.profile ≠ (reread store old).profile ∧ old.identity = identity ∧ reread store old = record := by
  have pairs : before.zip (before.map (reread store)) = before.map fun old => (old,reread store old) := by
    simpa using List.zip_map' (f := id) (g := reread store) (l := before)
  simp only [changes,Patches.ofPairs,pairs,List.mem_reverse,List.mem_map,List.mem_filter,Prod.exists,Prod.mk.injEq]
  constructor
  · rintro ⟨old,new,⟨⟨source,inside,rfl,rfl⟩,changed⟩,rfl,rfl⟩
    exact ⟨source,inside,by simpa using changed,rfl,rfl⟩
  · rintro ⟨old,inside,changed,rfl,rfl⟩
    exact ⟨old,reread store old,⟨⟨old,inside,rfl,rfl⟩,by simpa using changed⟩,rfl,rfl⟩

theorem eq_reread {store : StoreView} {record : AppRecord} (same : record.profile = (reread store record).profile) :
    record = reread store record := by
  unfold reread at same ⊢
  exact congrArg record.withProfile same

/-- A record of the list becomes what it is on rereading, whether the changes name it or not. -/
theorem patch_changes {store : StoreView} {before : List AppRecord} (distinct : (before.map (·.identity)).Nodup)
    {record : AppRecord} (member : record ∈ before) :
    (changes before (before.map (reread store))).patch record = reread store record := by
  unfold Patches.patch
  cases found : (changes before (before.map (reread store))).lookup record.identity with
  | none =>
    have unnamed := List.lookup_eq_none_iff.mp found
    by_cases same : record.profile = (reread store record).profile
    · exact eq_reread same
    · have named := mem_changes.mpr ⟨record,member,same,rfl,rfl⟩
      simpa using unnamed _ named
  | some new =>
    obtain ⟨earlier,later,split,-⟩ := List.lookup_eq_some_iff.mp found
    have named : (record.identity,new) ∈ changes before (before.map (reread store)) := by simp [split]
    obtain ⟨old,inside,-,identity,rfl⟩ := mem_changes.mp named
    rw [List.inj_on_of_nodup_map distinct inside member identity]
    rfl

/-- A record gives way to one of its own identity only. -/
theorem patch_identity (before after : List AppRecord) (record : AppRecord) :
    ((changes before after).patch record).identity = record.identity := by
  unfold Patches.patch
  cases found : (changes before after).lookup record.identity with
  | none => rfl
  | some new =>
    obtain ⟨earlier,later,split,-⟩ := List.lookup_eq_some_iff.mp found
    have named : (record.identity,new) ∈ changes before after := by simp [split]
    simp only [changes,Patches.ofPairs,List.mem_reverse,List.mem_map,Prod.mk.injEq] at named
    obtain ⟨pair,-,identity,rfl⟩ := named
    exact identity

/-- Where a group stands and what it is, but for the profiles of its members. -/
structure Place where
  uid : Uid
  members : List PackageIdentity
  primary : PackageIdentity
  ownerLabel : Option String
  shouldUnmount : Bool
deriving DecidableEq

def Group.place (group : Group) : Place :=
  ⟨group.uid,group.members.map (·.identity),group.primary.identity,group.ownerLabel,group.shouldUnmount⟩

namespace Patches
variable (patches : Patches)

theorem patch_of_untouched {patches : Patches} {record : AppRecord} (untouched : patches.touches record = false) :
    patches.patch record = record := by
  have absent : patches.lookup record.identity = none := by
    cases found : patches.lookup record.identity <;> simp [touches,found] at untouched ⊢
  rw [patch,absent,Option.getD_none]

/-- A group without replaced members is left alone, which makes no difference to its members. -/
theorem patchGroup_cases (group : Group) :
    (group.members.map patches.patch = group.members ∧ (patches.patchGroup group).1 = group) ∨
      (patches.patchGroup group).1 = { group with
        members := group.members.map patches.patch
        primary := patches.patch group.primary
        anyAllowsRoot := (group.members.map patches.patch).any AppRecord.allowsRoot
        anyCustom := (group.members.map patches.patch).any AppRecord.hasCustomProfile } := by
  by_cases untouched : group.members.countP patches.touches = 0
  · refine .inl ⟨?_,by simp [patchGroup,patchAll,untouched]⟩
    have none := List.countP_eq_zero.mp untouched
    have fixed : ∀ record ∈ group.members, patches.patch record = record :=
      fun record member => patch_of_untouched (by simpa using none record member)
    exact (List.map_congr_left fixed).trans (List.map_id _)
  · exact .inr (by simp [patchGroup,patchAll,untouched])

theorem patchGroup_members (group : Group) : (patches.patchGroup group).1.members = group.members.map patches.patch := by
  rcases patchGroup_cases patches group with ⟨same,left⟩ | patched
  · rw [left,same]
  · rw [patched]

@[simp] theorem patchGroup_uid (group : Group) : (patches.patchGroup group).1.uid = group.uid := by
  rcases patchGroup_cases patches group with ⟨-,equal⟩ | equal <;> rw [equal]

theorem patchGroup_consistent {group : Group} (consistent : group.Consistent)
    (identity : ∀ record ∈ group.members, (patches.patch record).identity = record.identity) :
    (patches.patchGroup group).1.Consistent := by
  rcases patchGroup_cases patches group with ⟨-,left⟩ | patched
  · rw [left]
    exact consistent
  · rw [patched]
    refine ⟨?_,by simp [List.head?_map,consistent.primary],rfl,rfl,?_⟩
    · intro member inside
      obtain ⟨old,listed,rfl⟩ := List.mem_map.mp inside
      rw [← consistent.uid old listed]
      exact congrArg PackageIdentity.uid (identity old listed)
    · intro named
      simpa [Group.isShared] using consistent.owner named

theorem patchGroups_eq (groups : List Group) :
    (patches.patchGroups groups).1 = groups.map fun group => (patches.patchGroup group).1 := by
  simp [patchGroups]

theorem patchGroups_members (groups : List Group) :
    (patches.patchGroups groups).1.flatMap Group.members = (groups.flatMap Group.members).map patches.patch := by
  rw [patchGroups_eq,List.flatMap_map,List.map_flatMap]
  exact List.flatMap_congr fun group _ => patchGroup_members patches group

theorem patchGroups_uids (groups : List Group) :
    (patches.patchGroups groups).1.map Group.uid = groups.map Group.uid := by
  simp [patchGroups_eq]

/-- Patching moves nothing. -/
theorem patchAll_identities (before after records : List AppRecord) :
    ((changes before after).patchAll records).1.map (·.identity) = records.map (·.identity) := by
  simp [patchAll,Function.comp_def,patch_identity]

theorem patchGroup_place (before after : List AppRecord) (group : Group) :
    ((changes before after).patchGroup group).1.place = group.place := by
  rcases patchGroup_cases (changes before after) group with ⟨-,left⟩ | patched
  · rw [left]
  · simp [patched,Group.place,Function.comp_def,patch_identity]

theorem patchGroups_places (before after : List AppRecord) (groups : List Group) :
    ((changes before after).patchGroups groups).1.map Group.place = groups.map Group.place := by
  rw [patchGroups_eq,List.map_map]
  exact List.map_congr_left fun group _ => patchGroup_place before after group

end Patches
end AppGrants.Catalog
