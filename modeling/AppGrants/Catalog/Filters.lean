import AppGrants.Record

/-! Which records are listed. The managing app never is; an app with a root grant or a profile of its own always is;
of the others the filters decide. -/
namespace AppGrants.Catalog

open Json

structure Filters where
  showSystemApps : Bool := false
  showOnlyPrimaryUserApps : Bool := false
deriving DecidableEq, Repr

namespace Filters

def shape : Shape := .record "DirectoryFilters" [
  Field.required "showSystemApps" .boolean, Field.required "showOnlyPrimaryUserApps" .boolean]

instance : Codec Filters where
  shape := shape
  toDoc filters := .object [
    ("showSystemApps", .bool filters.showSystemApps),
    ("showOnlyPrimaryUserApps", .bool filters.showOnlyPrimaryUserApps)]
  ofDoc doc := ⟨doc.fieldOr "showSystemApps" false Codec.ofDoc, doc.fieldOr "showOnlyPrimaryUserApps" false Codec.ofDoc⟩

/-- An app without grant or profile of its own; the shell counts as no system app. -/
def passes (filters : Filters) (record : AppRecord) : Bool :=
  (!filters.showOnlyPrimaryUserApps || record.userIndex == 0) &&
    (record.uid == Uid.shell || filters.showSystemApps || !record.isSystem)

def shows (filters : Filters) (selfPackage : String) (record : AppRecord) : Bool :=
  record.packageName != selfPackage && (record.allowsRoot || record.hasCustomProfile || filters.passes record)

end Filters
end AppGrants.Catalog
