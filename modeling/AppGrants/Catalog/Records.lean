import AppGrants.Catalog.Group
import AppGrants.ProfileStore

/-! The records of all packages, each with the profile that the store has for it. A lookup that fails leaves the record
without a profile; only a panic ends the reading. -/
namespace AppGrants.Catalog

def profileFor (store : StoreView) (packageName : String) (uid : Uid) : Outcome (Option Profile) :=
  match store.lookup packageName uid with
  | .failed _ => .done none
  | ending => ending

/-- The package behind those that are kept, unless one of them has its identity. -/
def keepNew (kept : List PackageMeta) (package : PackageMeta) : List PackageMeta :=
  if kept.any fun held => held.identity == package.identity then kept else kept ++ [package]

/-- The packages that are no overlays, of equal identities the first one. -/
def distinctPackages (packages : List PackageMeta) : List PackageMeta :=
  (packages.filter (!·.isResourceOverlay)).foldl keepNew []

def joinProfiles (store : StoreView) (packages : List PackageMeta) : Outcome (List AppRecord) :=
  Ending.forAll (fun package => (profileFor store package.packageName package.uid).map (AppRecord.ofPackage package))
    (distinctPackages packages)

def reloadProfiles (store : StoreView) (records : List AppRecord) : Outcome (List AppRecord) :=
  Ending.forAll (fun record => (profileFor store record.packageName record.uid).map record.withProfile) records

/-- The records whose profile is another than before; both lists have the same identities in the same order. -/
def changes (before after : List AppRecord) : Patches :=
  .ofPairs (((before.zip after).filter fun (old, new) =>
    old.identity == new.identity && old.profile != new.profile).map fun (_, new) => (new.identity, new))

/-- Of the records of a package the first one with the least user. -/
def findPackage (records : List AppRecord) (packageName : String) : Option AppRecord :=
  let named := records.filter (·.packageName == packageName)
  named.find? fun record => named.all fun other => record.userIndex ≤ other.userIndex

def findIdentity (records : List AppRecord) (identity : PackageIdentity) : Option AppRecord :=
  records.find? (·.identity == identity)

end AppGrants.Catalog
