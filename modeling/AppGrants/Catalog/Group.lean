import AppGrants.Catalog.Order
import AppGrants.Catalog.OwnerName

/-! Records grouped by uid. A group shows its first member, and it knows whether any member has a root grant or a
profile of its own. -/
namespace AppGrants.Catalog

open Json

structure Group where
  uid : Uid
  members : List AppRecord
  primary : AppRecord
  anyAllowsRoot : Bool
  anyCustom : Bool
  shouldUnmount : Bool
  ownerLabel : Option String
deriving DecidableEq, Repr

namespace Group

def isShared (group : Group) : Bool := group.members.length > 1

def toDoc (group : Group) : Doc := .object (
  [("uid", Codec.toDoc group.uid), ("members", Codec.toDoc group.members), ("primary", Codec.toDoc group.primary),
    ("anyAllowsRoot", .bool group.anyAllowsRoot), ("anyCustom", .bool group.anyCustom),
    ("shouldUnmount", .bool group.shouldUnmount)] ++ unlessNone "ownerLabel" group.ownerLabel)

/-- Root grants, profiles of their own, shared uids, modules to unmount, the rest. -/
def rank (group : Group) : Nat :=
  if group.anyAllowsRoot then 0
  else if group.anyCustom then 1
  else if group.isShared then 2
  else if group.shouldUnmount then 3
  else 4

/-- By rank; shared uids then by uid, other groups by the label they show and by uid. -/
def order (left right : Group) : Ordering :=
  (compare left.rank right.rank).then
    (if left.rank = 2 then Uid.order left.uid right.uid
    else (Text.compareFolded left.primary.displayLabel right.primary.displayLabel).then (Uid.order left.uid right.uid))

/-- The group of the members in the order given, which is not empty. -/
def ofMembers (shouldUnmount : Uid → Bool) (naming : OwnerNaming) (uid : Uid) (first : AppRecord)
    (others : List AppRecord) : Group :=
  let members := first :: others
  { uid, members, primary := first
    anyAllowsRoot := members.any AppRecord.allowsRoot
    anyCustom := members.any AppRecord.hasCustomProfile
    shouldUnmount := shouldUnmount uid
    ownerLabel := if others.isEmpty then none else naming uid members }

def ofUid? (shouldUnmount : Uid → Bool) (naming : OwnerNaming) (records : List AppRecord) (uid : Uid) : Option Group :=
  match sortBy compareMembers (records.filter (·.uid == uid)) with
  | [] => none
  | first :: others => some (ofMembers shouldUnmount naming uid first others)

end Group

def group (shouldUnmount : Uid → Bool) (naming : OwnerNaming) (records : List AppRecord) : List Group :=
  sortBy Group.order
    ((ascending (records.map (·.uid))).filterMap (Group.ofUid? shouldUnmount naming records))

/-- New records by the identity that they replace. -/
abbrev Patches := List (PackageIdentity × AppRecord)

namespace Patches

/-- Of several records for one identity the last counts. -/
def ofPairs (pairs : List (PackageIdentity × AppRecord)) : Patches := pairs.reverse

def patch (patches : Patches) (record : AppRecord) : AppRecord := (patches.lookup record.identity).getD record

def touches (patches : Patches) (record : AppRecord) : Bool := (patches.lookup record.identity).isSome

/-- Every record in its place, and how many were replaced. -/
def patchAll (patches : Patches) (records : List AppRecord) : List AppRecord × Nat :=
  (records.map patches.patch, records.countP patches.touches)

/-- Members and primary in their places, and what any of the members has; the order is left as it is. -/
def patchGroup (patches : Patches) (group : Group) : Group × Nat :=
  let (members, touched) := patches.patchAll group.members
  if touched = 0 then (group, 0)
  else ({ group with
    members
    primary := patches.patch group.primary
    anyAllowsRoot := members.any AppRecord.allowsRoot
    anyCustom := members.any AppRecord.hasCustomProfile }, touched)

def patchGroups (patches : Patches) (groups : List Group) : List Group × Nat :=
  let patched := groups.map patches.patchGroup
  (patched.map (·.1), patched.foldl (fun count item => count + item.2) 0)

end Patches
end AppGrants.Catalog
