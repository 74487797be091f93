import AppGrants.Outcome
import AppGrants.Profile
import AppGrants.Uid

/-! The stored profiles, one for every package name and uid, and the uids whose modules are to be unmounted. -/
namespace AppGrants

open Json

/-- What readers see of a store; looking a profile up may fail. -/
structure StoreView where
  lookup : String → Uid → Outcome (Option Profile)
  shouldUnmount : Uid → Bool

structure ProfileExport where
  profiles : List Profile := []
  unmountUids : List Int32 := []
deriving DecidableEq, Repr

namespace ProfileExport

def shape : Shape := .record "ProfileExport" [
  Field.defaulted "profiles" (.listOf Profile.shape), Field.defaulted "unmountUids" (.listOf (.whole .signed32))]

instance : Codec ProfileExport where
  shape := shape
  toDoc exported := .object [
    ("profiles", Codec.toDoc exported.profiles), ("unmountUids", Codec.toDoc exported.unmountUids)]
  ofDoc doc := ⟨doc.fieldOr "profiles" [] Codec.ofDoc, doc.fieldOr "unmountUids" [] Codec.ofDoc⟩

end ProfileExport

/-- A profile is kept under its own name and uid. -/
structure ProfileStore where
  profiles : List Profile := []
  unmountUids : List Int32 := []
deriving DecidableEq, Repr

namespace ProfileStore

def holds (packageName : String) (uid : Uid) (profile : Profile) : Bool :=
  profile.name == packageName && profile.currentUid == uid

def get? (store : ProfileStore) (packageName : String) (uid : Uid) : Option Profile :=
  store.profiles.find? (holds packageName uid)

def erase (store : ProfileStore) (packageName : String) (uid : Uid) : ProfileStore :=
  { store with profiles := store.profiles.filter (!holds packageName uid ·) }

/-- The profile in place of an earlier one under its key. -/
def insert (store : ProfileStore) (profile : Profile) : ProfileStore :=
  { store with profiles := profile :: (store.erase profile.name profile.currentUid).profiles }

def shouldUnmount (store : ProfileStore) (uid : Uid) : Bool := store.unmountUids.contains uid

def setUnmount (store : ProfileStore) (uid : Uid) (value : Bool) : ProfileStore :=
  let others := store.unmountUids.filter (· != uid)
  { store with unmountUids := if value then uid :: others else others }

def size (store : ProfileStore) : Nat := store.profiles.length

/-- Later entries of an export replace earlier ones. -/
def ofExport (exported : ProfileExport) : ProfileStore :=
  exported.unmountUids.foldl (fun store uid => store.setUnmount uid true)
    (exported.profiles.foldl insert {})

/-- Looking up any of the packages in `broken` fails. -/
def view (store : ProfileStore) (broken : List String) : StoreView where
  lookup packageName uid :=
    if broken.contains packageName then .failed (.ofKind .profileLookupFailed "profile lookup failed")
    else .done (store.get? packageName uid)
  shouldUnmount := store.shouldUnmount

end ProfileStore
end AppGrants
