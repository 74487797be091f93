import AppGrants.Proofs.Refresh.Coherence

/-! The newest filters meet the newest records. Unless profiles were patched since, the views are those that would be made
now of all records with the filters set last; so settings and the publication of a refresh may come in any order. -/
namespace AppGrants.Catalog

/-- A setting that decides what is visible. -/
def Change.refilters : Change → Bool
  | .showSystemApps _ | .showOnlyPrimaryUserApps _ => true
  | .searchText _ | .markNeedsRefresh => false

end AppGrants.Catalog

namespace AppGrants.Refresh
open Catalog

def Deed.rebuilds : Deed → Bool
  | .set change => change.refilters
  | .completed _ => true
  | .reloaded _ resort => resort
  | _ => false

def Deed.patches : Deed → Bool
  | .reloaded _ resort => !resort
  | _ => false

/-- The filters as they were set last. -/
def settledFilters (initial : Filters) : List Entry → Filters
  | [] => initial
  | ⟨.set (.showSystemApps value),_⟩ :: older => { settledFilters initial older with showSystemApps := value }
  | ⟨.set (.showOnlyPrimaryUserApps value),_⟩ :: older =>
    { settledFilters initial older with showOnlyPrimaryUserApps := value }
  | _ :: older => settledFilters initial older

/-- The store as it was when the views were made last. -/
def rebuildStore (initial : StoreView) : List Entry → StoreView
  | [] => initial
  | ⟨deed,engine⟩ :: older => if deed.rebuilds then engine.store else rebuildStore initial older

/-- Since the views were made last they were patched. -/
def patchedSince : List Entry → Bool
  | [] => false
  | ⟨deed,_⟩ :: older => !deed.rebuilds && (deed.patches || patchedSince older)

section
variable {deed : Deed} {engine : Engine} {older : List Entry}

theorem settledFilters_cons {initial : Filters} (keeps : deed.rebuilds = false) :
    settledFilters initial (⟨deed,engine⟩ :: older) = settledFilters initial older := by
  cases deed with
  | set change => cases change <;> simp_all [settledFilters,Deed.rebuilds,Change.refilters]
  | _ => rfl

theorem rebuildStore_cons {initial : StoreView} (keeps : deed.rebuilds = false) :
    rebuildStore initial (⟨deed,engine⟩ :: older) = rebuildStore initial older := by
  simp [rebuildStore,keeps]

theorem patchedSince_cons (keeps : deed.rebuilds = false) (whole : deed.patches = false) :
    patchedSince (⟨deed,engine⟩ :: older) = patchedSince older := by
  simp [patchedSince,keeps,whole]

end

/-- The views are made of all records, with the filters that were set last. -/
structure Newest (rules : Rules) (filters : Filters) (store : StoreView) (history : List Entry) (feed : Feed) : Prop where
  settled : feed.filters = settledFilters filters history
  views : patchedSince history = false →
    feed.snapshot.visibleRecords = list feed.filters rules.selfPackage rules.collation feed.snapshot.allRecords ∧
      feed.snapshot.groups = group (rebuildStore store history).shouldUnmount rules.naming feed.snapshot.visibleRecords

section
variable {rules : Rules} {filters : Filters} {store : StoreView} {history : List Entry} {feed next : Feed}

private theorem Newest.cons {deed : Deed} {engine : Engine} (newest : Newest rules filters store history feed)
    (keeps : deed.rebuilds = false) (whole : deed.patches = false) (same : next.filters = feed.filters)
    (records : next.snapshot.allRecords = feed.snapshot.allRecords)
    (visible : next.snapshot.visibleRecords = feed.snapshot.visibleRecords)
    (groups : next.snapshot.groups = feed.snapshot.groups) :
    Newest rules filters store (⟨deed,engine⟩ :: history) next := by
  constructor
  · rw [same,settledFilters_cons keeps,newest.settled]
  · rw [patchedSince_cons keeps whole,rebuildStore_cons keeps,same,records,visible,groups]
    exact newest.views

private theorem Newest.publishes {engine : Engine} {task : Nat} {old new : Phase} {deed : Deed}
    (newest : Newest rules filters store history engine.feed)
    (publishes : engine.Publishes rules task old new next deed) :
    Newest rules filters store (⟨deed,engine⟩ :: history) next := by
  cases publishes with
  | begin | failListed | failJoined | abandon => exact newest.cons rfl rfl rfl rfl rfl rfl
  | complete => exact ⟨newest.settled,fun _ => ⟨rfl,rfl⟩⟩
  | @reload since resort before records =>
    cases resort with
    | true => exact ⟨newest.settled,fun _ => ⟨rfl,rfl⟩⟩
    | false => exact ⟨newest.settled,by simp [patchedSince,Deed.rebuilds,Deed.patches]⟩

private theorem Newest.change {engine : Engine} (newest : Newest rules filters store history engine.feed) (change : Change) :
    Newest rules filters store (⟨.set change,engine⟩ :: history)
      (engine.feed.change rules engine.store.shouldUnmount change) := by
  cases change with
  | showSystemApps value | showOnlyPrimaryUserApps value =>
    refine ⟨?_,fun _ => ⟨rfl,rfl⟩⟩
    simp only [settledFilters,← newest.settled]
    rfl
  | searchText | markNeedsRefresh => exact newest.cons rfl rfl rfl rfl rfl rfl

theorem Newest.step {watched : Watched} {deed : Option Deed} {next : Engine}
    (newest : Newest rules filters store watched.history watched.engine.feed)
    (step : watched.engine.Step rules deed next) :
    Newest rules filters store (watched.followed deed next).history next.feed := by
  cases step with
  | change change => exact newest.change change
  | publish found publishes => exact newest.publishes publishes
  | storeChange | elapse | withdraw | note | leave | idle => exact newest
  | call | take | count => exact newest.cons rfl rfl rfl rfl rfl rfl
  | move found moves =>
    cases moves with
    | share | skip | beginReading | join | giveUp | drop => exact newest
    | list | lookJoining | lookReading => exact newest.cons rfl rfl rfl rfl rfl rfl

theorem Newest.start (filters : Filters) (store : StoreView) : Newest rules filters store [] (.start filters) := by
  refine ⟨rfl,fun _ => ⟨?_,?_⟩⟩
  · simp [Feed.start,list,sortBy]
  · simp [Feed.start,group,ascending,sortBy]

theorem watch_newest (rules : Rules) (filters : Filters) (store : StoreView) (events : List Event) :
    Newest rules filters store (watch rules (.start filters store) events).history
      (watch rules (.start filters store) events).engine.feed :=
  watch_induction (motive := fun watched => Newest rules filters store watched.history watched.engine.feed)
    (.start filters store) (fun _ _ _ newest step => newest.step step) events

end
end AppGrants.Refresh
