import AppGrants.Catalog.Feed
import AppGrants.Proofs.Catalog.Patching

/-! What is published fits together: records, visible records, groups and search tell the same of every app, and they go
with the settings. Whatever a feed does next keeps it so. -/
namespace AppGrants.Catalog

/-- A record as it is made of its package, which is no overlay. -/
structure Made (record : AppRecord) : Prop where
  derived : record = .ofPackage record.package record.profile
  no_overlay : record.package.isResourceOverlay = false

/-- All records, each for another identity and as its package makes it. -/
structure CoherentRecords (records : List AppRecord) : Prop where
  distinct : (records.map (·.identity)).Nodup
  made : ∀ record ∈ records, Made record

/-- The visible records and the groups show the records as they are. -/
structure CoherentViews (selfPackage : String) (records visible : List AppRecord) (groups : List Group) : Prop where
  distinct : (visible.map (·.identity)).Nodup
  not_self : ∀ record ∈ visible, record.packageName ≠ selfPackage
  current : ∀ record ∈ visible, findIdentity records record.identity = some record
  members : (groups.flatMap Group.members).Perm visible
  uids : (groups.map Group.uid).Nodup
  consistent : ∀ group ∈ groups, group.Consistent

/-- A feed whose snapshot is coherent and shows the settings. -/
structure Feed.Coherent (rules : Rules) (feed : Feed) : Prop where
  records : CoherentRecords feed.snapshot.allRecords
  views : CoherentViews rules.selfPackage feed.snapshot.allRecords feed.snapshot.visibleRecords feed.snapshot.groups
  filters : feed.snapshot.filters = feed.filters
  mark : feed.snapshot.needsRefresh = feed.needsRefresh
  search : feed.snapshot.search = Catalog.search rules.pinyin feed.searchText feed.snapshot.visibleRecords
    feed.snapshot.groups (feed.snapshot.isRefreshing && feed.snapshot.allRecords.isEmpty)

theorem CoherentRecords.nil : CoherentRecords [] := ⟨by simp,by simp⟩

theorem CoherentRecords.find {records : List AppRecord} (coherent : CoherentRecords records) {record : AppRecord}
    (member : record ∈ records) : findIdentity records record.identity = some record := by
  unfold findIdentity
  cases found : records.find? (·.identity == record.identity) with
  | none => simpa using List.find?_eq_none.mp found record member
  | some other =>
    have identity : other.identity = record.identity := by simpa using List.find?_some found
    rw [List.inj_on_of_nodup_map coherent.distinct (List.mem_of_find?_eq_some found) member identity]

theorem CoherentRecords.of_join {store : StoreView} {packages : List PackageMeta} {records : List AppRecord}
    (joined : joinProfiles store packages = .done records) : CoherentRecords records := by
  obtain ⟨-,rfl⟩ := (joinProfiles_done_iff ..).mp joined
  refine ⟨?_,?_⟩
  · have same : ((distinctPackages packages).map (recordOf store)).map (·.identity) =
        (distinctPackages packages).map (·.identity) := by simp [recordOf,AppRecord.ofPackage]
    rw [same]
    exact distinctPackages_distinct packages
  · intro record member
    obtain ⟨package,inside,rfl⟩ := List.mem_map.mp member
    exact ⟨rfl,distinctPackages_no_overlay inside⟩

theorem CoherentRecords.reread {records : List AppRecord} (coherent : CoherentRecords records) (store : StoreView) :
    CoherentRecords (records.map (Catalog.reread store)) := by
  refine ⟨?_,?_⟩
  · rw [List.map_map]
    exact coherent.distinct
  · intro record member
    obtain ⟨old,inside,rfl⟩ := List.mem_map.mp member
    have made := coherent.made old inside
    exact ⟨congrArg (·.withProfile (shownProfile store old.packageName old.uid)) made.derived,made.no_overlay⟩

theorem CoherentViews.nil (selfPackage : String) (records : List AppRecord) : CoherentViews selfPackage records [] [] := by
  constructor <;> simp

theorem CoherentViews.rebuilt {records : List AppRecord} (coherent : CoherentRecords records) (filters : Filters)
    (selfPackage : String) (labels : Collation) (shouldUnmount : Uid → Bool) (naming : OwnerNaming) :
    CoherentViews selfPackage records (list filters selfPackage labels records)
      (group shouldUnmount naming (list filters selfPackage labels records)) := by
  have listed := list_perm filters selfPackage labels records
  have shown (record : AppRecord) (member : record ∈ list filters selfPackage labels records) :
      record ∈ records ∧ filters.shows selfPackage record = true := List.mem_filter.mp (listed.mem_iff.mp member)
  refine ⟨?_,?_,?_,group_members_perm ..,group_uids_distinct ..,fun _ => group_consistent _ _ _⟩
  · exact (listed.map (·.identity)).nodup_iff.mpr (coherent.distinct.sublist (List.filter_sublist.map _))
  · intro record member
    have visible := (shown record member).2
    simp only [Filters.shows,Bool.and_eq_true,bne_iff_ne] at visible
    exact visible.1
  · exact fun record member => coherent.find (shown record member).1

/-- The changes of a rereading make of a visible record what rereading makes of it. -/
theorem CoherentViews.patch {selfPackage : String} {records visible : List AppRecord} {groups : List Group}
    (coherent : CoherentRecords records) (views : CoherentViews selfPackage records visible groups) (store : StoreView)
    {record : AppRecord} (member : record ∈ visible) :
    (changes records (records.map (Catalog.reread store))).patch record = Catalog.reread store record :=
  patch_changes coherent.distinct (List.mem_of_find?_eq_some (views.current record member))

theorem CoherentViews.patchAll {selfPackage : String} {records visible : List AppRecord} {groups : List Group}
    (coherent : CoherentRecords records) (views : CoherentViews selfPackage records visible groups) (store : StoreView) :
    ((changes records (records.map (Catalog.reread store))).patchAll visible).1 = visible.map (Catalog.reread store) :=
  List.map_congr_left fun _ member => views.patch coherent store member

theorem CoherentViews.mem_visible {selfPackage : String} {records visible : List AppRecord} {groups : List Group}
    (views : CoherentViews selfPackage records visible groups) {group : Group} (member : group ∈ groups) {record : AppRecord}
    (inside : record ∈ group.members) : record ∈ visible :=
  views.members.mem_iff.mp (List.mem_flatMap.mpr ⟨group,member,inside⟩)

/-- Patching with the changes of a rereading keeps the views coherent, whatever they were made from. -/
theorem CoherentViews.reread {selfPackage : String} {records visible : List AppRecord} {groups : List Group}
    (coherent : CoherentRecords records) (views : CoherentViews selfPackage records visible groups) (store : StoreView) :
    CoherentViews selfPackage (records.map (Catalog.reread store))
      ((changes records (records.map (Catalog.reread store))).patchAll visible).1
      ((changes records (records.map (Catalog.reread store))).patchGroups groups).1 := by
  have visible_eq := views.patchAll coherent store
  rw [visible_eq]
  refine ⟨?_,?_,?_,?_,?_,?_⟩
  · rw [List.map_map]
    exact views.distinct
  · intro record member
    obtain ⟨old,inside,rfl⟩ := List.mem_map.mp member
    exact views.not_self old inside
  · intro record member
    obtain ⟨old,inside,rfl⟩ := List.mem_map.mp member
    exact (coherent.reread store).find (List.mem_map_of_mem (List.mem_of_find?_eq_some (views.current old inside)))
  · rw [Patches.patchGroups_members,← visible_eq]
    exact views.members.map _
  · rw [Patches.patchGroups_uids]
    exact views.uids
  · rw [Patches.patchGroups_eq]
    intro group member
    obtain ⟨old,inside,rfl⟩ := List.mem_map.mp member
    refine Patches.patchGroup_consistent _ (views.consistent old inside) fun record listed => ?_
    rw [views.patch coherent store (views.mem_visible inside listed),reread_identity]

namespace Feed
variable {rules : Rules} {feed : Feed}

theorem Coherent.start (filters : Filters) : (Feed.start filters).Coherent rules :=
  ⟨.nil,.nil _ _,rfl,rfl,rfl⟩

/-- Publishing takes the settings over and makes the search anew, so only records and views are left to look at. -/
theorem Coherent.published {edit : Snapshot → Snapshot} (filters : ∀ next, (edit next).filters = next.filters)
    (mark : ∀ next, (edit next).needsRefresh = next.needsRefresh)
    (records : CoherentRecords (feed.publish rules edit).snapshot.allRecords)
    (views : CoherentViews rules.selfPackage (feed.publish rules edit).snapshot.allRecords
      (feed.publish rules edit).snapshot.visibleRecords (feed.publish rules edit).snapshot.groups) :
    (feed.publish rules edit).Coherent rules :=
  ⟨records,views,filters _,mark _,rfl⟩

theorem Coherent.change (coherent : feed.Coherent rules) (shouldUnmount : Uid → Bool) (change : Change) :
    (feed.change rules shouldUnmount change).Coherent rules := by
  cases change with
  | showSystemApps | showOnlyPrimaryUserApps =>
    exact .published (fun _ => rfl) (fun _ => rfl) coherent.records (.rebuilt coherent.records ..)
  | searchText | markNeedsRefresh => exact .published (fun _ => rfl) (fun _ => rfl) coherent.records coherent.views

theorem Coherent.setRefreshing (coherent : feed.Coherent rules) (value : Bool) : (feed.setRefreshing rules value).Coherent rules :=
  .published (fun _ => rfl) (fun _ => rfl) coherent.records coherent.views

theorem Coherent.fail (coherent : feed.Coherent rules) (kind : FailureKind) : (feed.fail rules kind).Coherent rules :=
  .published (fun _ => rfl) (fun _ => rfl) coherent.records coherent.views

theorem Coherent.complete {records : List AppRecord} (made : CoherentRecords records) (shouldUnmount : Uid → Bool)
    (liveUserIds : List Int32) : (feed.complete rules shouldUnmount liveUserIds records).Coherent rules :=
  .published (fun _ => rfl) (fun _ => rfl) made (.rebuilt made ..)

theorem Coherent.reload (coherent : feed.Coherent rules) (shouldUnmount : Uid → Bool) (store : StoreView) :
    (feed.reload rules shouldUnmount (feed.snapshot.allRecords.map (reread store))).Coherent rules := by
  have made := coherent.records.reread store
  exact .published (fun _ => rfl) (fun _ => rfl) made (.rebuilt made ..)

theorem Coherent.patch (coherent : feed.Coherent rules) (store : StoreView) :
    (feed.patch rules feed.snapshot.allRecords (feed.snapshot.allRecords.map (reread store))).Coherent rules :=
  .published (fun _ => rfl) (fun _ => rfl) (coherent.records.reread store) (coherent.views.reread coherent.records store)

end Feed
end AppGrants.Catalog
