import AppGrants.Proofs.Refresh.Incremental

/-! A refresh of the profiles shows what a full one would, as long as the packages are those that were listed last: what is
published is made of the packages, of the store as it was read, and of the settings. -/
namespace AppGrants.Refresh
open Catalog

/-- All that records and views are made of. -/
structure Basis where
  packages : List PackageMeta
  store : Option StoreView
  filters : Filters
  searchText : String
  shouldUnmount : Uid → Bool

/-- What a full refresh that ends now, or one of the profiles that sorts anew, publishes from: the packages that it was told
itself, or those of the full refresh that published last. -/
def Watched.basis? (watched : Watched) : Deed → Option Basis
  | .completed task => some ⟨listedBy task watched.history,lookedBy task watched.history,watched.engine.feed.filters,
      watched.engine.feed.searchText,watched.engine.store.shouldUnmount⟩
  | .reloaded task true => some ⟨listedPackages watched.history,lookedBy task watched.history,watched.engine.feed.filters,
      watched.engine.feed.searchText,watched.engine.store.shouldUnmount⟩
  | _ => none

/-- Two snapshots with the same apps, shown alike. -/
structure SameApps (left right : Snapshot) : Prop where
  allRecords : left.allRecords = right.allRecords
  visibleRecords : left.visibleRecords = right.visibleRecords
  groups : left.groups = right.groups
  search : left.search = right.search

/-- What a snapshot shows is made of all that the basis says, and of nothing else. -/
structure MadeFrom (rules : Rules) (basis : Basis) (snapshot : Snapshot) : Prop where
  allRecords : ∃ store, basis.store = some store ∧
    snapshot.allRecords = (distinctPackages basis.packages).map (recordOf store)
  visibleRecords : snapshot.visibleRecords = list basis.filters rules.selfPackage rules.collation snapshot.allRecords
  groups : snapshot.groups = group basis.shouldUnmount rules.naming snapshot.visibleRecords
  search : snapshot.search = search rules.pinyin basis.searchText snapshot.visibleRecords snapshot.groups false

theorem MadeFrom.unique {rules : Rules} {basis : Basis} {left right : Snapshot} (made : MadeFrom rules basis left)
    (made' : MadeFrom rules basis right) : SameApps left right := by
  obtain ⟨store,looked,records⟩ := made.allRecords
  obtain ⟨store',looked',records'⟩ := made'.allRecords
  obtain rfl : store = store' := Option.some.inj (looked.symm.trans looked')
  have all : left.allRecords = right.allRecords := records.trans records'.symm
  have visible : left.visibleRecords = right.visibleRecords := by rw [made.visibleRecords,made'.visibleRecords,all]
  have groups : left.groups = right.groups := by rw [made.groups,made'.groups,visible]
  exact ⟨all,visible,groups,by rw [made.search,made'.search,visible,groups]⟩

namespace Watched
variable {rules : Rules} {watched : Watched} {next : Engine} {deed : Deed} {basis : Basis}

theorem Sound.allRecords_of_basis (sound : watched.Sound) (step : watched.engine.Step rules (some deed) next)
    (made : watched.basis? deed = some basis) (present : distinctPackages basis.packages ≠ []) :
    ∃ store, basis.store = some store ∧ next.snapshot.allRecords = (distinctPackages basis.packages).map (recordOf store) := by
  have shown : Shown (⟨deed,watched.engine⟩ :: watched.history) next.snapshot.allRecords := (sound.step step).shown
  -- the records are those of the packages and of the store that the history names once the deed is written down
  have same : shownStore (⟨deed,watched.engine⟩ :: watched.history) = basis.store ∧
      listedPackages (⟨deed,watched.engine⟩ :: watched.history) = basis.packages := by
    cases deed with
    | completed task =>
      cases made
      exact ⟨rfl,rfl⟩
    | reloaded task resort =>
      cases resort with
      | true =>
        cases made
        exact ⟨rfl,rfl⟩
      | false => cases made
    | _ => cases made
  rw [Shown,same.1,same.2] at shown
  cases looked : basis.store with
  | none =>
    rw [looked] at shown
    exact absurd (congrArg distinctPackages shown.1) present
  | some store =>
    rw [looked] at shown
    exact ⟨store,rfl,((joinProfiles_done_iff ..).mp shown).2⟩

theorem Sound.made (sound : watched.Sound) (step : watched.engine.Step rules (some deed) next)
    (made : watched.basis? deed = some basis) (present : distinctPackages basis.packages ≠ []) :
    MadeFrom rules basis next.snapshot := by
  have records := sound.allRecords_of_basis step made present
  have nonempty : next.snapshot.allRecords.isEmpty = false := by
    obtain ⟨store,-,all⟩ := records
    simp [all,present]
  have quiet : (next.snapshot.isRefreshing && next.snapshot.allRecords.isEmpty) = false := by rw [nonempty,Bool.and_false]
  cases step with
  | publish found publishes =>
    cases publishes with
    | complete =>
      cases made
      refine ⟨records,rfl,rfl,?_⟩
      rw [← quiet]
      rfl
    | @reload since resort before after =>
      cases resort with
      | true =>
        cases made
        refine ⟨records,rfl,rfl,?_⟩
        rw [← quiet]
        rfl
      | false => cases made
    | _ => cases made
  | move found moves => cases moves <;> cases made
  | _ => cases made

/-- What a refresh that sorts anew publishes is made of the current records and the store as it read it. -/
theorem Sound.reloads {task : Nat} (sound : watched.Sound)
    (step : watched.engine.Step rules (some (.reloaded task true)) next) :
    ∃ store, lookedBy task watched.history = some store ∧ next.feed = watched.engine.feed.reload rules
      watched.engine.store.shouldUnmount (watched.engine.snapshot.allRecords.map (reread store)) := by
  cases step with
  | publish found publishes =>
    cases publishes with
    | @reload since resort before records =>
      obtain ⟨rfl,reloaded⟩ := (sound.keeps _ _ found).fits
      obtain ⟨store,looked,read⟩ := reloaded records rfl
      obtain ⟨-,rfl⟩ := (reloadProfiles_done_iff ..).mp read
      exact ⟨store,looked,rfl⟩
  | move found moves => cases moves

end Watched

/-- To publish the same records again changes the count of snapshots only. -/
theorem reload_again {rules : Rules} {shouldUnmount : Uid → Bool} {records : List AppRecord} {feed once : Feed}
    (first : once = feed.reload rules shouldUnmount records) :
    (once.reload rules shouldUnmount records).snapshot =
      { once.snapshot with generation := once.snapshot.generation + 1 } := by
  subst first
  rfl

/-- Reading profiles again makes of joined records what joining would make of their packages. Two refreshes with one basis,
in whatever runs, publish the same; one that follows another of the profiles with the store as it was changes the count only. -/
theorem refresh_suffices (rules : Rules) (filters filters' : Filters) (store store' : StoreView) (events events' : List Event) :
    let one := watch rules (.start filters store) events
    let other := watch rules (.start filters' store') events'
    (∀ (packages : List PackageMeta) (earlier later : StoreView),
      (∀ package ∈ packages, ∀ text, earlier.lookup package.packageName package.uid ≠ .panicked text) →
        (joinProfiles earlier packages).bind (reloadProfiles later) = joinProfiles later packages) ∧
    (∀ event event' deed deed' basis, one.engine.deed? event = some deed → other.engine.deed? event' = some deed' →
      one.basis? deed = some basis → other.basis? deed' = some basis → distinctPackages basis.packages ≠ [] →
        SameApps (one.engine.apply rules event).snapshot (other.engine.apply rules event').snapshot) ∧
    ∀ event event' task task', one.engine.deed? event = some (.reloaded task true) →
      other.engine.deed? event' = some (.reloaded task' true) →
      other.engine.feed = (one.engine.apply rules event).feed → lookedBy task' other.history = lookedBy task one.history →
      other.engine.store.shouldUnmount = one.engine.store.shouldUnmount →
        (other.engine.apply rules event').snapshot =
          { other.engine.snapshot with generation := other.engine.snapshot.generation + 1 } := by
  intro one other
  have sound := watch_sound rules filters store events
  have sound' := watch_sound rules filters' store' events'
  refine ⟨fun packages earlier later readable => bind_reloadProfiles readable later,?_,?_⟩
  · intro event event' deed deed' basis done done' made made' present
    have step := one.engine.apply_step rules event
    have step' := other.engine.apply_step rules event'
    rw [done] at step
    rw [done'] at step'
    exact (sound.made step made present).unique (sound'.made step' made' present)
  · intro event event' task task' done done' kept looked unmount
    have step := one.engine.apply_step rules event
    have step' := other.engine.apply_step rules event'
    rw [done] at step
    rw [done'] at step'
    obtain ⟨read,found,published⟩ := sound.reloads step
    obtain ⟨read',found',published'⟩ := sound'.reloads step'
    obtain rfl : read' = read := Option.some.inj (found'.symm.trans (looked.trans found))
    have records : other.engine.snapshot.allRecords = one.engine.snapshot.allRecords.map (reread read') := by
      rw [Engine.snapshot,kept,published]
      rfl
    -- the second reads again what the first has read, from the same store
    have again : (one.engine.snapshot.allRecords.map (reread read')).map (reread read') =
        one.engine.snapshot.allRecords.map (reread read') := by
      rw [List.map_map]
      exact List.map_congr_left fun record _ => reread_reread read' record
    rw [records,again,unmount] at published'
    have second := reload_again (kept.trans published)
    rwa [← published'] at second

/-- The store has changed since the apps were listed; a refresh of the profiles is about to publish. -/
def rereading : List Event :=
  twoListed ++ [.storeChange emptyStore,.call (.profiles true),.take 1,.resume 1,.looked 1]

/-- Here it is a full refresh, which was told the same packages. -/
def relisting : List Event :=
  twoListed ++ [.storeChange emptyStore,.call .full,.take 1,.resume 1,.enumerated 1 (.done ([0],twoApps)),.resume 1,.looked 1]

/-- Here another refresh of the profiles has followed the first. -/
def rereadTwice : List Event :=
  rereading ++ [.resume 1,.resume 1,.call (.profiles true),.take 2,.resume 2,.looked 2]

theorem refresh_suffices_two_apps :
    let reread := (watch namedRules (.start {} (rootedStore true)) rereading).engine
    let relisted := (watch namedRules (.start {} (rootedStore true)) relisting).engine
    let again := (watch namedRules (.start {} (rootedStore true)) rereadTwice).engine
    (joinProfiles (rootedStore true) twoApps).bind (reloadProfiles emptyStore) = joinProfiles emptyStore twoApps ∧
      SameApps (reread.apply namedRules (.resume 1)).snapshot (relisted.apply namedRules (.resume 1)).snapshot ∧
      (again.apply namedRules (.resume 2)).snapshot =
        { again.snapshot with generation := again.snapshot.generation + 1 } := by
  obtain ⟨joins,publish,-⟩ := refresh_suffices namedRules {} {} (rootedStore true) (rootedStore true) rereading relisting
  obtain ⟨-,-,repeats⟩ := refresh_suffices namedRules {} {} (rootedStore true) (rootedStore true) rereading rereadTwice
  refine ⟨joins twoApps (rootedStore true) emptyStore ?_,?_,?_⟩
  · intro package _ text panicked
    cases panicked
  · exact publish (.resume 1) (.resume 1) (.reloaded 1 true) (.completed 1)
      ⟨twoApps,some emptyStore,{},"",emptyStore.shouldUnmount⟩ rfl rfl rfl rfl (by decide)
  · have read : lookedBy 1 (watch namedRules (.start {} (rootedStore true)) rereading).history = some emptyStore := rfl
    have read' : lookedBy 2 (watch namedRules (.start {} (rootedStore true)) rereadTwice).history = some emptyStore := rfl
    refine repeats (.resume 1) (.resume 2) 1 2 rfl rfl ?_ (read'.trans read.symm) rfl
    have silent : ∀ entry ∈ (watch namedRules
        (((Engine.start {} (rootedStore true)).run namedRules rereading).apply namedRules (.resume 1))
        [.resume 1,.call (.profiles true),.take 2,.resume 2,.looked 2]).history, entry.deed.publishes = false := by decide
    have kept := run_silent silent
    rw [watch_engine,watch_engine]
    exact kept

end AppGrants.Refresh
