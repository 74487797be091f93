import AppGrants.Package
import AppGrants.Profile
import AppGrants.Text.Blank

/-! One installed app as it is shown: its package, the label to show for it, and the profile it has. -/
namespace AppGrants

open Json

structure AppRecord where
  displayLabel : String
  identity : PackageIdentity
  package : PackageMeta
  profile : Option Profile
deriving DecidableEq, Repr

namespace AppRecord

/-- The trimmed label, or the package name where there is none to see. -/
def labelFor (package : PackageMeta) : String :=
  match package.label with
  | some label => if Text.isBlankText label then package.packageName else Text.trimmed label
  | none => package.packageName

def ofPackage (package : PackageMeta) (profile : Option Profile) : AppRecord :=
  ⟨labelFor package, package.identity, package, profile⟩

def uid (record : AppRecord) : Uid := record.identity.uid

def packageName (record : AppRecord) : String := record.identity.packageName

def userIndex (record : AppRecord) : Int32 := record.uid.userIndex

def isSystem (record : AppRecord) : Bool := record.package.isSystem

def allowsRoot (record : AppRecord) : Bool := record.profile.any (·.allowSu)

def hasCustomProfile (record : AppRecord) : Bool := record.profile.any (·.isCustom)

def withProfile (record : AppRecord) (profile : Option Profile) : AppRecord := { record with profile }

def shape : Shape := .record "AppRecord" [
  Field.required "displayLabel" .text, Field.required "identity" PackageIdentity.shape, Field.required "meta" PackageMeta.shape,
  Field.nullable "profile" Profile.shape]

def toDoc (record : AppRecord) : Doc := .object [
  ("displayLabel", .text record.displayLabel), ("identity", Codec.toDoc record.identity),
  ("meta", Codec.toDoc record.package), ("profile", orNull record.profile)]

def ofDoc (doc : Doc) : AppRecord where
  displayLabel := doc.fieldOr "displayLabel" "" Codec.ofDoc
  identity := doc.fieldOr "identity" ⟨"", 0⟩ Codec.ofDoc
  package := doc.fieldOr "meta" ⟨"", 0, none, {}, none, none⟩ Codec.ofDoc
  profile := doc.optional "profile" Codec.ofDoc

instance : Codec AppRecord := ⟨shape, toDoc, ofDoc⟩

end AppRecord
end AppGrants
