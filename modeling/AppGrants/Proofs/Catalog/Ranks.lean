import AppGrants.Proofs.Catalog.Coherence

/-! Rereading that moves no rank. What is listed, in which order, how it is grouped and what a group is called depend on the
profiles through the ranks only; so a list and its groups made anew are what patching makes of them. -/
namespace AppGrants.Catalog

/-- The profiles in the store leave every record its rank. -/
def KeepsRanks (store : StoreView) (records : List AppRecord) : Prop :=
  ∀ record ∈ records, rank (reread store record) = rank record

theorem KeepsRanks.subset {store : StoreView} {records others : List AppRecord} (keeps : KeepsRanks store records)
    (inside : ∀ record ∈ others, record ∈ records) : KeepsRanks store others :=
  fun record member => keeps record (inside record member)

theorem rank_eq_zero_iff (record : AppRecord) : rank record = 0 ↔ record.allowsRoot = true := by
  unfold rank
  split
  next rooted => simp [rooted]
  next rootless => split <;> simp [rootless]

/-- A record without a root grant is ranked by whether it has a profile of its own. -/
theorem rank_eq_one_iff {record : AppRecord} (rootless : record.allowsRoot = false) :
    rank record = 1 ↔ record.hasCustomProfile = true := by
  simp [rank,rootless]

section
variable {left right : AppRecord}

theorem allowsRoot_of_rank (same : rank left = rank right) : left.allowsRoot = right.allowsRoot := by
  rw [Bool.eq_iff_iff,← rank_eq_zero_iff,← rank_eq_zero_iff,same]

theorem hasCustomProfile_of_rank (same : rank left = rank right) (rootless : left.allowsRoot = false) :
    left.hasCustomProfile = right.hasCustomProfile := by
  have rootless' : right.allowsRoot = false := (allowsRoot_of_rank same).symm.trans rootless
  rw [Bool.eq_iff_iff,← rank_eq_one_iff rootless,← rank_eq_one_iff rootless',same]

theorem listedByProfile_of_rank (same : rank left = rank right) :
    (left.allowsRoot || left.hasCustomProfile) = (right.allowsRoot || right.hasCustomProfile) := by
  rw [← allowsRoot_of_rank same]
  cases rootless : left.allowsRoot with
  | true => rfl
  | false => rw [hasCustomProfile_of_rank same rootless]

end

/-- What is sorted by the images is the image of what is sorted. -/
theorem sortBy_map {α β : Type} (order : α → α → Ordering) (order' : β → β → Ordering) (f : α → β) (items : List α)
    (same : ∀ a ∈ items, ∀ b ∈ items, order' (f a) (f b) = order a b) :
    sortBy order' (items.map f) = (sortBy order items).map f := by
  unfold sortBy
  refine (List.map_mergeSort fun a inside b inside' => ?_).symm
  rw [same a inside b inside']

section
variable {store : StoreView} {records : List AppRecord}

theorem shows_reread (filters : Filters) (selfPackage : String) {record : AppRecord}
    (same : rank (reread store record) = rank record) :
    filters.shows selfPackage (reread store record) = filters.shows selfPackage record := by
  unfold Filters.shows
  rw [listedByProfile_of_rank same]
  rfl

theorem compareRecords_reread (labels : Collation) {left right : AppRecord}
    (same : rank (reread store left) = rank left) (same' : rank (reread store right) = rank right) :
    compareRecords labels (reread store left) (reread store right) = compareRecords labels left right := by
  unfold compareRecords
  rw [same,same']
  rfl

theorem sortBy_reread (keeps : KeepsRanks store records) (labels : Collation) :
    sortBy (compareRecords labels) (records.map (reread store)) =
      (sortBy (compareRecords labels) records).map (reread store) :=
  sortBy_map _ _ _ _ fun left inside right inside' => compareRecords_reread labels (keeps left inside) (keeps right inside')

theorem list_reread (keeps : KeepsRanks store records) (filters : Filters) (selfPackage : String) (labels : Collation) :
    list filters selfPackage labels (records.map (reread store)) =
      (list filters selfPackage labels records).map (reread store) := by
  have filtered : (records.map (reread store)).filter (filters.shows selfPackage) =
      (records.filter (filters.shows selfPackage)).map (reread store) := by
    rw [List.filter_map]
    exact congrArg _ (List.filter_congr fun record member => shows_reread filters selfPackage (keeps record member))
  unfold list
  rw [filtered]
  exact sortBy_reread (keeps.subset fun record member => (List.mem_filter.mp member).1) labels

/-- Names are made of labels and package names. -/
theorem ownerName_reread (store : StoreView) (overrides : List (Int32 × String)) (uid : Uid) (members : List AppRecord) :
    ownerName overrides uid (members.map (reread store)) = ownerName overrides uid members := by
  have named : OwnerName.ofMembers (members.map (reread store)) = OwnerName.ofMembers members := by
    cases members with
    | nil => rfl
    | cons first others =>
      simp only [OwnerName.ofMembers,OwnerName.commonSegments,OwnerName.candidates,List.map_cons,List.foldl_map]
      rfl
  unfold ownerName
  rw [named]

/-- A group whose members have new profiles. -/
def Group.reread (store : StoreView) (group : Group) : Group := { group with
  members := group.members.map (Catalog.reread store)
  primary := Catalog.reread store group.primary
  anyAllowsRoot := (group.members.map (Catalog.reread store)).any AppRecord.allowsRoot
  anyCustom := (group.members.map (Catalog.reread store)).any AppRecord.hasCustomProfile }

theorem any_map_congr {α : Type} (f : α → α) (claim : α → Bool) (items : List α)
    (same : ∀ item ∈ items, claim (f item) = claim item) : (items.map f).any claim = items.any claim := by
  induction items with
  | nil => rfl
  | cons first rest ih =>
    rw [List.map_cons,List.any_cons,List.any_cons,same first (by simp),
      ih fun item member => same item (List.mem_cons_of_mem _ member)]

theorem Group.rank_reread {group : Group} (consistent : group.Consistent) (keeps : KeepsRanks store group.members) :
    (group.reread store).rank = group.rank := by
  have roots : (group.reread store).anyAllowsRoot = group.anyAllowsRoot := by
    rw [consistent.root]
    exact any_map_congr _ _ _ fun record member => allowsRoot_of_rank (keeps record member)
  have shared : (group.reread store).isShared = group.isShared := by
    simp [Group.isShared,Group.reread]
  unfold Group.rank
  rw [roots,shared]
  cases rooted : group.anyAllowsRoot with
  | true => rfl
  | false =>
    -- only where no member has a root grant do the custom profiles decide, and there the ranks tell of them
    have rootless : ∀ record ∈ group.members, record.allowsRoot = false := by
      rw [consistent.root] at rooted
      simpa using rooted
    have customs : (group.reread store).anyCustom = group.anyCustom := by
      rw [consistent.custom]
      refine any_map_congr _ _ _ fun record member => ?_
      refine hasCustomProfile_of_rank (keeps record member) ?_
      rw [allowsRoot_of_rank (keeps record member),rootless record member]
    rw [customs]
    rfl

theorem Group.order_reread {left right : Group} (consistent : left.Consistent) (consistent' : right.Consistent)
    (keeps : KeepsRanks store left.members) (keeps' : KeepsRanks store right.members) :
    Group.order (left.reread store) (right.reread store) = Group.order left right := by
  unfold Group.order
  rw [rank_reread consistent keeps,rank_reread consistent' keeps']
  rfl

theorem ofUid?_reread (keeps : KeepsRanks store records) (shouldUnmount : Uid → Bool) (overrides : List (Int32 × String))
    (uid : Uid) :
    Group.ofUid? shouldUnmount (ownerName overrides) (records.map (reread store)) uid =
      (Group.ofUid? shouldUnmount (ownerName overrides) records uid).map (Group.reread store) := by
  have chosen : (records.map (reread store)).filter (·.uid == uid) = (records.filter (·.uid == uid)).map (reread store) := by
    rw [List.filter_map]
    rfl
  have sorted : sortBy compareMembers ((records.map (reread store)).filter (·.uid == uid)) =
      (sortBy compareMembers (records.filter (·.uid == uid))).map (reread store) := by
    rw [chosen]
    exact sortBy_reread (keeps.subset fun record member => (List.mem_filter.mp member).1) _
  unfold Group.ofUid?
  rw [sorted]
  cases sortBy compareMembers (records.filter (·.uid == uid)) with
  | nil => rfl
  | cons first others =>
    have named := ownerName_reread store overrides uid (first :: others)
    rw [List.map_cons] at named ⊢
    simp only [Group.ofMembers,named,List.isEmpty_map,Option.map_some]
    rfl

theorem group_reread (keeps : KeepsRanks store records) (shouldUnmount : Uid → Bool) (overrides : List (Int32 × String)) :
    group shouldUnmount (ownerName overrides) (records.map (reread store)) =
      (group shouldUnmount (ownerName overrides) records).map (Group.reread store) := by
  have uids : (records.map (reread store)).map (·.uid) = records.map (·.uid) := by
    rw [List.map_map]
    rfl
  have made : (ascending (records.map (·.uid))).filterMap
        (Group.ofUid? shouldUnmount (ownerName overrides) (records.map (reread store))) =
      ((ascending (records.map (·.uid))).filterMap (Group.ofUid? shouldUnmount (ownerName overrides) records)).map
        (Group.reread store) := by
    rw [List.map_filterMap]
    exact List.filterMap_congr fun uid _ => ofUid?_reread keeps shouldUnmount overrides uid
  have steady (one : Group) (member : one ∈ (ascending (records.map (·.uid))).filterMap
      (Group.ofUid? shouldUnmount (ownerName overrides) records)) :
      one.Consistent ∧ KeepsRanks store one.members := by
    have listed : one ∈ group shouldUnmount (ownerName overrides) records := (sortBy_perm ..).mem_iff.mpr member
    refine ⟨group_consistent _ _ _ listed,keeps.subset fun record inside => ?_⟩
    exact (group_members_perm ..).mem_iff.mp (List.mem_flatMap.mpr ⟨one,listed,inside⟩)
  unfold group
  rw [uids,made]
  refine sortBy_map _ _ _ _ fun left member right member' => ?_
  exact Group.order_reread (steady left member).1 (steady right member').1 (steady left member).2 (steady right member').2

end

/-- Where what was changed is patched in, groups are as after rereading all of their members. -/
theorem patchGroups_reread {selfPackage : String} {records visible : List AppRecord} {groups : List Group}
    (coherent : CoherentRecords records) (views : CoherentViews selfPackage records visible groups) (store : StoreView) :
    ((changes records (records.map (reread store))).patchGroups groups).1 = groups.map (Group.reread store) := by
  rw [Patches.patchGroups_eq]
  refine List.map_congr_left fun group member => ?_
  have patched : ∀ record ∈ group.members,
      (changes records (records.map (reread store))).patch record = reread store record :=
    fun record inside => views.patch coherent store (views.mem_visible member inside)
  have consistent := views.consistent group member
  have primary : group.primary ∈ group.members := List.mem_of_mem_head? consistent.primary
  have members := List.map_congr_left patched
  rcases Patches.patchGroup_cases (changes records (records.map (reread store))) group with ⟨same,left⟩ | new
  · -- nothing of the group has changed, so that its flags are those of the same members
    have fixed : group.members.map (reread store) = group.members := members.symm.trans same
    have fixed_primary : reread store group.primary = group.primary := by
      have heads := congrArg List.head? fixed
      rw [List.head?_map,consistent.primary] at heads
      exact Option.some.inj heads
    rw [left,Group.reread,fixed,fixed_primary,← consistent.root,← consistent.custom]
  · rw [new,members,patched _ primary]
    rfl

theorem Snapshot.rebuilt_eq_self_iff (rules : Rules) (shouldUnmount : Uid → Bool) (snapshot : Snapshot) :
    snapshot.rebuilt rules shouldUnmount = snapshot ↔
      snapshot.visibleRecords = list snapshot.filters rules.selfPackage rules.collation snapshot.allRecords ∧
        snapshot.groups = group shouldUnmount rules.naming snapshot.visibleRecords := by
  constructor
  · intro fresh
    have visible := congrArg Snapshot.visibleRecords fresh
    have groups := congrArg Snapshot.groups fresh
    exact ⟨visible.symm,by rw [← groups,← visible]; rfl⟩
  · rintro ⟨visible,groups⟩
    simp only [rebuilt,← visible,← groups]

/-- If no rank moves, patching in place publishes what sorting and grouping anew would. -/
theorem Feed.patch_eq_reload {rules : Rules} {feed : Feed} (coherent : feed.Coherent rules)
    {overrides : List (Int32 × String)} (named : rules.naming = ownerName overrides) {shouldUnmount : Uid → Bool}
    (fresh : feed.snapshot.rebuilt rules shouldUnmount = feed.snapshot) {store : StoreView}
    (keeps : KeepsRanks store feed.snapshot.allRecords) :
    feed.patch rules feed.snapshot.allRecords (feed.snapshot.allRecords.map (reread store)) =
      feed.reload rules shouldUnmount (feed.snapshot.allRecords.map (reread store)) := by
  obtain ⟨visible,groups⟩ := (Snapshot.rebuilt_eq_self_iff ..).mp fresh
  rw [coherent.filters] at visible
  have shown : ∀ record ∈ feed.snapshot.visibleRecords, record ∈ feed.snapshot.allRecords :=
    fun record member => List.mem_of_find?_eq_some (coherent.views.current record member)
  have visible_anew : list feed.filters rules.selfPackage rules.collation (feed.snapshot.allRecords.map (reread store)) =
      feed.snapshot.visibleRecords.map (reread store) := by
    rw [list_reread keeps,← visible]
  have groups_anew : group shouldUnmount rules.naming (feed.snapshot.visibleRecords.map (reread store)) =
      feed.snapshot.groups.map (Group.reread store) := by
    rw [named,group_reread (keeps.subset shown),groups,named]
  unfold Feed.patch Feed.reload publish
  simp only [Snapshot.patched,Snapshot.rebuilt,coherent.views.patchAll coherent.records,
    patchGroups_reread coherent.records coherent.views,visible_anew,groups_anew]

end AppGrants.Catalog
