import AppGrants.Catalog.Records
import AppGrants.Catalog.Search

/-! What is published of the catalog. Every change makes the next snapshot from the last one; its filters and its mark are
the ones set last, and the search is made anew each time. -/
namespace AppGrants.Catalog

open Json

structure Snapshot where
  generation : Nat := 0
  allRecords : List AppRecord := []
  visibleRecords : List AppRecord := []
  groups : List Group := []
  liveUserIds : List Int32 := []
  isRefreshing : Bool := false
  needsRefresh : Bool := false
  lastError : Option FailureKind := none
  filters : Filters := {}
  search : SearchView := {}
deriving DecidableEq, Repr

/-- What does not change while a catalog is kept. -/
structure Rules where
  selfPackage : String
  naming : OwnerNaming
  collation : Collation
  pinyin : Text.Pinyin

namespace Snapshot

/-- All but the list of all records. -/
def toDoc (snapshot : Snapshot) : Doc := .object (
  [("generation", .nat snapshot.generation), ("visibleRecords", Codec.toDoc snapshot.visibleRecords),
    ("groups", .list (snapshot.groups.map Group.toDoc)), ("liveUserIds", Codec.toDoc snapshot.liveUserIds),
    ("isRefreshing", .bool snapshot.isRefreshing), ("needsRefresh", .bool snapshot.needsRefresh)] ++
    unlessNone "lastError" snapshot.lastError ++
    [("filters", Codec.toDoc snapshot.filters), ("search", snapshot.search.toDoc)])

def groupForUid (snapshot : Snapshot) (uid : Uid) : Option Group := snapshot.groups.find? (·.uid == uid)

/-- The visible records and their groups made anew from all records. -/
def rebuilt (rules : Rules) (shouldUnmount : Uid → Bool) (snapshot : Snapshot) : Snapshot :=
  let visibleRecords := Catalog.list snapshot.filters rules.selfPackage rules.collation snapshot.allRecords
  { snapshot with visibleRecords, groups := Catalog.group shouldUnmount rules.naming visibleRecords }

/-- The visible records and the groups with some records replaced, in the order that they have. -/
def patched (patches : Patches) (snapshot : Snapshot) : Snapshot :=
  { snapshot with
    visibleRecords := (patches.patchAll snapshot.visibleRecords).1
    groups := (patches.patchGroups snapshot.groups).1 }

def searched (rules : Rules) (text : String) (snapshot : Snapshot) : Snapshot :=
  let loading := snapshot.isRefreshing && snapshot.allRecords.isEmpty
  { snapshot with search := Catalog.search rules.pinyin text snapshot.visibleRecords snapshot.groups loading }

end Snapshot

/-- The settings as they were made last, and the snapshot published last. -/
structure Feed where
  filters : Filters := {}
  searchText : String := ""
  needsRefresh : Bool := false
  snapshot : Snapshot := {}
deriving DecidableEq, Repr

namespace Feed

def start (filters : Filters) : Feed := { filters, snapshot := { filters } }

/-- The next snapshot, of which `edit` is what changes besides the settings. -/
def publish (rules : Rules) (feed : Feed) (edit : Snapshot → Snapshot) : Feed :=
  let next := { feed.snapshot with
    generation := feed.snapshot.generation + 1, filters := feed.filters, needsRefresh := feed.needsRefresh }
  { feed with snapshot := (edit next).searched rules feed.searchText }

end Feed

/-- A setting that is made. -/
inductive Change where
  | showSystemApps (value : Bool)
  | showOnlyPrimaryUserApps (value : Bool)
  | searchText (text : String)
  | markNeedsRefresh
deriving DecidableEq, Repr

namespace Feed

/-- Only filters change what is visible. -/
def change (rules : Rules) (shouldUnmount : Uid → Bool) (feed : Feed) : Change → Feed
  | .showSystemApps value => publish rules { feed with filters.showSystemApps := value } (.rebuilt rules shouldUnmount)
  | .showOnlyPrimaryUserApps value =>
    publish rules { feed with filters.showOnlyPrimaryUserApps := value } (.rebuilt rules shouldUnmount)
  | .searchText text => publish rules { feed with searchText := text } id
  | .markNeedsRefresh => publish rules { feed with needsRefresh := true } id

def setRefreshing (rules : Rules) (feed : Feed) (value : Bool) : Feed :=
  feed.publish rules fun next => { next with isRefreshing := value }

/-- The end of a full refresh that found these users and records. -/
def complete (rules : Rules) (shouldUnmount : Uid → Bool) (liveUserIds : List Int32) (allRecords : List AppRecord)
    (feed : Feed) : Feed :=
  publish rules { feed with needsRefresh := false } fun next =>
    { next with allRecords, liveUserIds, isRefreshing := false, lastError := none }.rebuilt rules shouldUnmount

/-- The end of a full refresh that failed. -/
def fail (rules : Rules) (kind : FailureKind) (feed : Feed) : Feed :=
  feed.publish rules fun next => { next with isRefreshing := false, lastError := some kind }

/-- New profiles, with everything sorted and grouped anew. -/
def reload (rules : Rules) (shouldUnmount : Uid → Bool) (allRecords : List AppRecord) (feed : Feed) : Feed :=
  publish rules { feed with needsRefresh := false } fun next => { next with allRecords }.rebuilt rules shouldUnmount

/-- New profiles in the places of the old ones. -/
def patch (rules : Rules) (before allRecords : List AppRecord) (feed : Feed) : Feed :=
  publish rules { feed with needsRefresh := false } fun next =>
    { next with allRecords }.patched (changes before allRecords)

end Feed
end AppGrants.Catalog
