import AppGrants.Catalog.Filters

/-! The order of the list: apps with a root grant first, then those with a profile of their own, then the rest; within
each by label, and by identity where labels are equal. -/
namespace AppGrants.Catalog

/-- An order of labels. -/
abbrev Collation := String → String → Ordering

def rank (record : AppRecord) : Nat :=
  if record.allowsRoot then 0 else if record.hasCustomProfile then 1 else 2

def compareRecords (labels : Collation) (left right : AppRecord) : Ordering :=
  (compare (rank left) (rank right)).then
    ((labels left.displayLabel right.displayLabel).then (PackageIdentity.order left.identity right.identity))

/-- Stable: elements that compare equal keep their order. -/
def sortBy (order : α → α → Ordering) (items : List α) : List α :=
  items.mergeSort fun left right => order left right != .gt

def list (filters : Filters) (selfPackage : String) (labels : Collation) (records : List AppRecord) : List AppRecord :=
  sortBy (compareRecords labels) (records.filter (filters.shows selfPackage))

/-- The order within a group, by labels with case ignored. -/
def compareMembers : AppRecord → AppRecord → Ordering := compareRecords Text.compareFolded

end AppGrants.Catalog
