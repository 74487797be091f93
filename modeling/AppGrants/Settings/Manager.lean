import AppGrants.Catalog.Filters
import AppGrants.Settings.Log

/-! Settings of the manager: what to list, how to reach the helper, and where data is kept. -/
namespace AppGrants.Settings

open Json

structure ManagerSettings where
  selfPackage : String := "me.sumgr.manager"
  helperCommand : List String := []
  profilesPath : Option String := none
  dataDir : String := "/data/local/tmp/sumgr"
  showSystemApps : Bool := false
  showOnlyPrimaryUserApps : Bool := false
  packageFlags : UInt32 := 0
  log : LogSettings := {}
deriving DecidableEq, Repr

namespace ManagerSettings

def shape : Shape := .record "ManagerConfig" [
  Field.defaulted "selfPackage" .text, Field.defaulted "helperCommand" (.listOf .text),
  Field.nullableDefaulted "profilesPath" .path, Field.defaulted "dataDir" .path,
  Field.defaulted "showSystemApps" .boolean, Field.defaulted "showOnlyPrimaryUserApps" .boolean,
  Field.defaulted "packageFlags" (.whole .unsigned32), Field.defaulted "log" LogSettings.shape]

def toDoc (settings : ManagerSettings) : Doc := .object [
  ("selfPackage", .text settings.selfPackage), ("helperCommand", Codec.toDoc settings.helperCommand),
  ("profilesPath", orNull settings.profilesPath), ("dataDir", .text settings.dataDir),
  ("showSystemApps", .bool settings.showSystemApps),
  ("showOnlyPrimaryUserApps", .bool settings.showOnlyPrimaryUserApps),
  ("packageFlags", Codec.toDoc settings.packageFlags), ("log", Codec.toDoc settings.log)]

def ofDoc (doc : Doc) : ManagerSettings :=
  let default : ManagerSettings := {}
  { selfPackage := doc.fieldOr "selfPackage" default.selfPackage Codec.ofDoc
    helperCommand := doc.fieldOr "helperCommand" default.helperCommand Codec.ofDoc
    profilesPath := doc.optional "profilesPath" Codec.ofDoc
    dataDir := doc.fieldOr "dataDir" default.dataDir Codec.ofDoc
    showSystemApps := doc.fieldOr "showSystemApps" default.showSystemApps Codec.ofDoc
    showOnlyPrimaryUserApps := doc.fieldOr "showOnlyPrimaryUserApps" default.showOnlyPrimaryUserApps Codec.ofDoc
    packageFlags := doc.fieldOr "packageFlags" default.packageFlags Codec.ofDoc
    log := doc.fieldOr "log" default.log Codec.ofDoc }

instance : Codec ManagerSettings := ⟨shape, toDoc, ofDoc⟩

def filters (settings : ManagerSettings) : Catalog.Filters :=
  ⟨settings.showSystemApps, settings.showOnlyPrimaryUserApps⟩

def mostArguments : Nat := 32

/-- A text that is not blank, trimmed, or else the default. -/
def trimmedOr (default text : String) : String :=
  if Text.isBlankText text then default else Text.trimmed text

def normalArguments (arguments : List String) : List String :=
  ((arguments.filter (!Text.isBlankText ·)).map Text.trimmed).take mostArguments

def normalize (settings : ManagerSettings) : Except Failure ManagerSettings :=
  let default : ManagerSettings := {}
  settings.log.normalize.map fun log => { settings with
    selfPackage := trimmedOr default.selfPackage settings.selfPackage
    helperCommand := normalArguments settings.helperCommand
    profilesPath := settings.profilesPath.filter (!·.isEmpty)
    dataDir := if settings.dataDir.isEmpty then default.dataDir else settings.dataDir
    log }

end ManagerSettings
end AppGrants.Settings
