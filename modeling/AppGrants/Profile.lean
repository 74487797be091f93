import AppGrants.Json.Codec

/-! Security profiles: what one package may do under one uid. -/
namespace AppGrants

inductive NamespaceMode where
  | inherited
  | global
  | individual
deriving DecidableEq, Repr

namespace NamespaceMode

def name : NamespaceMode → String
  | inherited => "inherited"
  | global => "global"
  | individual => "individual"

def all : List NamespaceMode := [inherited, global, individual]

def ofName (text : String) : NamespaceMode := (all.find? (·.name == text)).getD inherited

instance : Json.Codec NamespaceMode where
  shape := .choice (all.map name)
  toDoc mode := .text mode.name
  ofDoc doc := ofName doc.asText

end NamespaceMode

/-- Root access and mount namespace of a package, with the credentials that it gets. Without further settings a
package has no root access, follows the defaults, and has modules unmounted. -/
structure Profile where
  name : String := ""
  currentUid : Int32 := 0
  allowSu : Bool := false
  rootUseDefault : Bool := true
  rootTemplate : Option String := none
  uid : Int32 := 0
  gid : Int32 := 0
  groups : List Int32 := []
  capabilities : List Int32 := []
  selinuxDomain : String := "u:r:su:s0"
  namespaceMode : NamespaceMode := .inherited
  rules : String := ""
  nonRootUseDefault : Bool := true
  umountModules : Bool := true
deriving DecidableEq, Repr

namespace Profile

open Json

def shape : Shape := .record "Profile" [
  Field.defaulted "name" .text, Field.defaulted "currentUid" (.whole .signed32), Field.defaulted "allowSu" .boolean,
  Field.defaulted "rootUseDefault" .boolean, Field.nullableDefaulted "rootTemplate" .text,
  Field.defaulted "uid" (.whole .signed32), Field.defaulted "gid" (.whole .signed32),
  Field.defaulted "groups" (.listOf (.whole .signed32)), Field.defaulted "capabilities" (.listOf (.whole .signed32)),
  Field.defaulted "selinuxDomain" .text,
  Field.defaulted "namespace" (Codec.shape NamespaceMode), Field.defaulted "rules" .text,
  Field.defaulted "nonRootUseDefault" .boolean, Field.defaulted "umountModules" .boolean]

def toDoc (p : Profile) : Doc := .object [
  ("name", .text p.name), ("currentUid", .whole p.currentUid.toInt), ("allowSu", .bool p.allowSu),
  ("rootUseDefault", .bool p.rootUseDefault), ("rootTemplate", orNull p.rootTemplate), ("uid", .whole p.uid.toInt),
  ("gid", .whole p.gid.toInt), ("groups", Codec.toDoc p.groups), ("capabilities", Codec.toDoc p.capabilities),
  ("selinuxDomain", .text p.selinuxDomain), ("namespace", Codec.toDoc p.namespaceMode), ("rules", .text p.rules),
  ("nonRootUseDefault", .bool p.nonRootUseDefault), ("umountModules", .bool p.umountModules)]

/-- Absent fields have their defaults. -/
def ofDoc (doc : Doc) : Profile :=
  let default : Profile := {}
  { name := doc.fieldOr "name" default.name Codec.ofDoc
    currentUid := doc.fieldOr "currentUid" default.currentUid Codec.ofDoc
    allowSu := doc.fieldOr "allowSu" default.allowSu Codec.ofDoc
    rootUseDefault := doc.fieldOr "rootUseDefault" default.rootUseDefault Codec.ofDoc
    rootTemplate := doc.optional "rootTemplate" Codec.ofDoc
    uid := doc.fieldOr "uid" default.uid Codec.ofDoc
    gid := doc.fieldOr "gid" default.gid Codec.ofDoc
    groups := doc.fieldOr "groups" default.groups Codec.ofDoc
    capabilities := doc.fieldOr "capabilities" default.capabilities Codec.ofDoc
    selinuxDomain := doc.fieldOr "selinuxDomain" default.selinuxDomain Codec.ofDoc
    namespaceMode := doc.fieldOr "namespace" default.namespaceMode Codec.ofDoc
    rules := doc.fieldOr "rules" default.rules Codec.ofDoc
    nonRootUseDefault := doc.fieldOr "nonRootUseDefault" default.nonRootUseDefault Codec.ofDoc
    umountModules := doc.fieldOr "umountModules" default.umountModules Codec.ofDoc }

instance : Codec Profile := ⟨shape, toDoc, ofDoc⟩

/-- More than the defaults say, in the part of the profile that is in force. -/
def isCustom (p : Profile) : Bool := if p.allowSu then !p.rootUseDefault else !p.nonRootUseDefault

end Profile
end AppGrants
