import AppGrants.Text.Order
import AppGrants.Uid

/-! Installed packages as the enumeration service reports them, and their identity: the package name with the uid. -/
namespace AppGrants

open Json

structure PackageFlags where
  bits : UInt32 := 0
deriving DecidableEq, Repr

namespace PackageFlags

def system : PackageFlags := ⟨1⟩

def sharedUid : PackageFlags := ⟨2⟩

def resourceOverlay : PackageFlags := ⟨4⟩

def contains (flags other : PackageFlags) : Bool := flags.bits &&& other.bits == other.bits

def union (flags other : PackageFlags) : PackageFlags := ⟨flags.bits ||| other.bits⟩

instance : Codec PackageFlags where
  shape := Codec.shape UInt32
  toDoc flags := Codec.toDoc flags.bits
  ofDoc doc := ⟨Codec.ofDoc doc⟩

end PackageFlags

structure PackageIdentity where
  packageName : String
  uid : Uid
deriving DecidableEq, Repr

namespace PackageIdentity

def shape : Shape := .record "PackageIdentity" [Field.required "packageName" .text, Field.required "uid" (.whole .signed32)]

instance : Codec PackageIdentity where
  shape := shape
  toDoc identity := .object [("packageName", .text identity.packageName), ("uid", Codec.toDoc identity.uid)]
  ofDoc doc := ⟨doc.fieldOr "packageName" "" Codec.ofDoc, doc.fieldOr "uid" 0 Codec.ofDoc⟩

/-- By name, then by uid. -/
def order (left right : PackageIdentity) : Ordering :=
  (Text.compareTexts left.packageName right.packageName).then (Uid.order left.uid right.uid)

end PackageIdentity

structure PackageMeta where
  packageName : String
  uid : Uid
  label : Option String := none
  flags : PackageFlags := {}
  versionName : Option String := none
  sourceDir : Option String := none
deriving DecidableEq, Repr

namespace PackageMeta

def identity (package : PackageMeta) : PackageIdentity := ⟨package.packageName, package.uid⟩

def isSystem (package : PackageMeta) : Bool := package.flags.contains .system

def isResourceOverlay (package : PackageMeta) : Bool := package.flags.contains .resourceOverlay

def flagged (package : PackageMeta) (flag : PackageFlags) : PackageMeta :=
  { package with flags := package.flags.union flag }

def shape : Shape := .record "PackageMeta" [
  Field.required "packageName" .text, Field.required "uid" (.whole .signed32), Field.nullableDefaulted "label" .text,
  Field.defaulted "flags" (Codec.shape PackageFlags), Field.nullableDefaulted "versionName" .text,
  Field.nullableDefaulted "sourceDir" .text]

def toDoc (package : PackageMeta) : Doc := .object (
  [("packageName", .text package.packageName), ("uid", Codec.toDoc package.uid)] ++
    unlessNone "label" package.label ++ [("flags", Codec.toDoc package.flags)] ++
    unlessNone "versionName" package.versionName ++ unlessNone "sourceDir" package.sourceDir)

def ofDoc (doc : Doc) : PackageMeta where
  packageName := doc.fieldOr "packageName" "" Codec.ofDoc
  uid := doc.fieldOr "uid" 0 Codec.ofDoc
  label := doc.optional "label" Codec.ofDoc
  flags := doc.fieldOr "flags" {} Codec.ofDoc
  versionName := doc.optional "versionName" Codec.ofDoc
  sourceDir := doc.optional "sourceDir" Codec.ofDoc

instance : Codec PackageMeta := ⟨shape, toDoc, ofDoc⟩

end PackageMeta
end AppGrants
