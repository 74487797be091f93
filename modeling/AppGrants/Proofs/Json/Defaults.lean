import AppGrants.Proofs.Json.Clashing
import AppGrants.Proofs.Json.Drafts
import AppGrants.Proofs.Json.RoundTrips

/-! Partial documents. Fields that are left out, at any level, have their defaults, and a record without a field that it requires is
refused, as is any that gives a field twice. -/
namespace AppGrants.Json

/-- An object of those fields whose names are given, in any order, and of others that are not among the fields. -/
def Texts.part (given : String → Bool) (fields : List (String × Texts)) : Texts :=
  .object (fields.map (·.1)) (fields.filter (given ·.1))

section
variable {α : Type} {given : String → Bool} {fields : List (String × Doc)} {name : String}

theorem fieldOr_part (default : α) (read : Doc → α) : (Doc.object (fields.filter (given ·.1))).fieldOr name default read =
    if given name then (Doc.object fields).fieldOr name default read else default := by
  simp only [Doc.fieldOr,Doc.field?,lookup_filter]
  cases given name <;> rfl

theorem optional_part (read : Doc → α) : (Doc.object (fields.filter (given ·.1))).optional name read =
    if given name then (Doc.object fields).optional name read else none := by
  simp only [Doc.optional,Doc.field?,lookup_filter]
  cases given name <;> rfl

theorem decode_taken [Codec α] {texts : Texts} {doc : Doc} {text : String} {value : α}
    (takes : Takes (read depthLimit (Codec.shape α)) texts doc) (written : Writes texts text) (means : Codec.ofDoc doc = value) :
    decode text = .ok value := by
  obtain ⟨before,cs,after,leading,written,trailing,same⟩ := written
  have reads : read depthLimit (Codec.shape α) text.toList = .ok (doc,after) := by
    rw [same,List.append_assoc,read_gap leading,takes.reads written trailing.closes]
  rw [decode,readDocument,readAll,reads]
  simp only [Except.bind,finish,trailing.skipGaps_eq]
  exact congrArg Except.ok means

theorem decode_stop [Codec α] {text : String} {stop : Stop} (stops : read depthLimit (Codec.shape α) text.toList = .error stop) :
    (decode text : Except Fault α) = .error (stop.fault text) := by
  rw [decode,readDocument,readAll,stops]
  rfl

theorem Takes.values {depth : Nat} {shape : Shape} {values : List α} {write : α → Texts} {toDoc : α → Doc}
    (takes : ∀ value ∈ values, Takes (read depth shape) (write value) (toDoc value)) :
    Takes (read (depth + 1) (.listOf shape)) (.list (values.map write)) (.list (values.map toDoc)) := by
  refine .list ?_
  rw [List.forall₂_map_left_iff,List.forall₂_map_right_iff,List.forall₂_same]
  exact takes

theorem Takes.nullableText {depth : Nat} {shape : Shape} {rule : FieldRule} {value? : Option String}
    (nullable : rule.nullable = true) (takes : ∀ value, Takes (read depth shape) (.quoted value) (.text value)) :
    Takes (readNullable rule (read depth shape)) (.nullable .quoted value?) (orNull value?) := by
  refine .nullable nullable (fun value _ => takes value) fun value _ cs written => ?_
  obtain ⟨raw,-,rfl⟩ := written
  simp

end
section
variable {depth : Nat}

theorem Takes.int32 (n : Int32) : Takes (read depth (.whole .signed32)) (.whole n.toInt) (Codec.toDoc n) := by
  have least := n.le_toInt
  have greatest := n.toInt_lt
  refine .whole ?_
  simp only [Width.holds,Bool.and_eq_true,decide_eq_true_eq]
  omega

theorem Takes.uint32 (n : UInt32) : Takes (read depth (.whole .unsigned32)) (.whole n.toNat) (Codec.toDoc n) := by
  have greatest := n.toNat_lt
  refine .whole ?_
  simp only [Width.holds,Bool.and_eq_true,decide_eq_true_eq]
  omega

end
theorem Spells.plain {text : List Char} (plain : ∀ c ∈ text, c ≠ '"' ∧ c ≠ '\\' ∧ 0x20 ≤ c.toNat) : Spells text text := by
  induction text with
  | nil => exact .nil
  | cons c text ih =>
    obtain ⟨unquoted,unescaped,printable⟩ := plain c (.head _)
    exact .cons (.plain unquoted unescaped printable) (ih fun other member => plain other (.tail _ member))

/-- A field without gaps. -/
def Entry.dense (name value : String) : Entry := ⟨[],name.toList,[],⟨[],value.toList,[]⟩⟩

section
variable {known : List String} {name : String} {texts : Texts} {fields order : List (String × Texts)} {entries : List Entry}

theorem Texts.Entries.dense (value : String) (plain : ∀ c ∈ name.toList, c ≠ '"' ∧ c ≠ '\\' ∧ 0x20 ≤ c.toNat)
    (written : texts value.toList) (others : Entries known order entries) :
    Entries known ((name,texts) :: order) (.dense name value :: entries) :=
  .given ⟨.nil,.nil,⟨.nil,.nil⟩⟩ (.plain plain) written others

theorem Texts.object_dense (entries : List Entry) {cs : List Char} (same : cs = objectText [] entries)
    (perm : order.Perm fields) (written : Entries known order entries) : Texts.object known fields cs :=
  ⟨[],order,entries,.nil,perm,written,same⟩

theorem Writes.dense {text : String} (written : texts text.toList) : Writes texts text :=
  ⟨[],text.toList,[],.nil,written,.nil,by simp⟩

end
end AppGrants.Json

namespace AppGrants
open Json

namespace Profile

/-- The profile where some of its fields are given. -/
def draft (given : String → Bool) (profile : Profile) : Texts := .part given [
  ("name",.quoted profile.name),("currentUid",.whole profile.currentUid.toInt),("allowSu",.boolean profile.allowSu),
  ("rootUseDefault",.boolean profile.rootUseDefault),("rootTemplate",.nullable .quoted profile.rootTemplate),
  ("uid",.whole profile.uid.toInt),("gid",.whole profile.gid.toInt),
  ("groups",.list (profile.groups.map fun n => .whole n.toInt)),
  ("capabilities",.list (profile.capabilities.map fun n => .whole n.toInt)),("selinuxDomain",.quoted profile.selinuxDomain),
  ("namespace",.quoted profile.namespaceMode.name),("rules",.quoted profile.rules),
  ("nonRootUseDefault",.boolean profile.nonRootUseDefault),("umountModules",.boolean profile.umountModules)]

def overlaid (given : String → Bool) (profile : Profile) : Profile where
  name := if given "name" then profile.name else ""
  currentUid := if given "currentUid" then profile.currentUid else 0
  allowSu := if given "allowSu" then profile.allowSu else false
  rootUseDefault := if given "rootUseDefault" then profile.rootUseDefault else true
  rootTemplate := if given "rootTemplate" then profile.rootTemplate else none
  uid := if given "uid" then profile.uid else 0
  gid := if given "gid" then profile.gid else 0
  groups := if given "groups" then profile.groups else []
  capabilities := if given "capabilities" then profile.capabilities else []
  selinuxDomain := if given "selinuxDomain" then profile.selinuxDomain else "u:r:su:s0"
  namespaceMode := if given "namespace" then profile.namespaceMode else .inherited
  rules := if given "rules" then profile.rules else ""
  nonRootUseDefault := if given "nonRootUseDefault" then profile.nonRootUseDefault else true
  umountModules := if given "umountModules" then profile.umountModules else true

def docs (profile : Profile) : List (String × Doc) := [
  ("name",.text profile.name),("currentUid",Codec.toDoc profile.currentUid),("allowSu",.bool profile.allowSu),
  ("rootUseDefault",.bool profile.rootUseDefault),("rootTemplate",orNull profile.rootTemplate),("uid",Codec.toDoc profile.uid),
  ("gid",Codec.toDoc profile.gid),("groups",.list (profile.groups.map Codec.toDoc)),
  ("capabilities",.list (profile.capabilities.map Codec.toDoc)),("selinuxDomain",.text profile.selinuxDomain),
  ("namespace",.text profile.namespaceMode.name),("rules",.text profile.rules),
  ("nonRootUseDefault",.bool profile.nonRootUseDefault),("umountModules",.bool profile.umountModules)]

theorem ofDoc_docs (given : String → Bool) (profile : Profile) :
    Codec.ofDoc (.object (profile.docs.filter (given ·.1))) = profile.overlaid given := by
  -- With all fields the document is the whole value's; without some of them each is its default, whatever the others are.
  have same : ofDoc (.object profile.docs) = profile := (@Profile.returns 0 profile).same
  have part : ofDoc (.object (profile.docs.filter (given ·.1))) = (ofDoc (.object profile.docs)).overlaid given := by
    simp only [ofDoc,fieldOr_part,optional_part]
    rfl
  exact part.trans (congrArg (overlaid given) same)

theorem takes_draft {depth : Nat} (given : String → Bool) (profile : Profile) :
    Takes (read (depth + 2) shape) (profile.draft given) (.object (profile.docs.filter (given ·.1))) := by
  have numbers (values : List Int32) :
      Takes (read (depth + 1) (.listOf (.whole .signed32))) (.list (values.map fun n => .whole n.toInt))
        (.list (values.map Codec.toDoc)) :=
    .values fun n _ => .int32 n
  have mode : Takes (read (depth + 1) (Codec.shape NamespaceMode)) (.quoted profile.namespaceMode.name)
      (.text profile.namespaceMode.name) := .choice (by cases profile.namespaceMode <;> decide)
  refine .defaulted (by decide) ?_ (by decide)
  refine .part (.required rfl (.text _)) (.part (.required rfl (.int32 _)) (.part (.required rfl (.boolean _)) ?_))
  refine .part (.required rfl (.boolean _)) (.part (.nullableText rfl .text) (.part (.required rfl (.int32 _)) ?_))
  refine .part (.required rfl (.int32 _)) (.part (.required rfl (numbers _)) (.part (.required rfl (numbers _)) ?_))
  refine .part (.required rfl (.text _)) (.part (.required rfl mode) (.part (.required rfl (.text _)) ?_))
  exact .part (.required rfl (.boolean _)) (.part (.required rfl (.boolean _)) .nothing)

end Profile

namespace ProfileExport

/-- An export whose profiles have given fields of their own. -/
def draft (given : String → Bool) (profiles : List (Profile × (String → Bool))) (unmountUids : List Int32) : Texts := .part given [
  ("profiles",.list (profiles.map fun part => part.1.draft part.2)),
  ("unmountUids",.list (unmountUids.map fun n => .whole n.toInt))]

def overlaid (given : String → Bool) (profiles : List (Profile × (String → Bool))) (unmountUids : List Int32) : ProfileExport where
  profiles := if given "profiles" then profiles.map fun part => part.1.overlaid part.2 else []
  unmountUids := if given "unmountUids" then unmountUids else []

def docs (profiles : List (Profile × (String → Bool))) (unmountUids : List Int32) : List (String × Doc) := [
  ("profiles",.list (profiles.map fun part => .object (part.1.docs.filter (part.2 ·.1)))),
  ("unmountUids",.list (unmountUids.map Codec.toDoc))]

theorem ofDoc_docs (given : String → Bool) (profiles : List (Profile × (String → Bool))) (unmountUids : List Int32) :
    Codec.ofDoc (.object ((docs profiles unmountUids).filter (given ·.1))) = overlaid given profiles unmountUids := by
  have parts : (profiles.map fun part => Doc.object (part.1.docs.filter (part.2 ·.1))).map Codec.ofDoc =
      profiles.map fun part => part.1.overlaid part.2 := by
    rw [List.map_map]
    exact List.map_congr_left fun part _ => part.1.ofDoc_docs part.2
  have uids : (unmountUids.map Codec.toDoc).map Codec.ofDoc = unmountUids := ofDoc_list fun n _ => ofDoc_int32 n
  change ProfileExport.mk (Doc.fieldOr _ _ _ _) (Doc.fieldOr _ _ _ _) = _
  rw [fieldOr_part,fieldOr_part,overlaid,← parts]
  conv_rhs => rw [← uids]
  rfl

theorem takes_draft {depth : Nat} (given : String → Bool) (profiles : List (Profile × (String → Bool))) (unmountUids : List Int32) :
    Takes (read (depth + 4) shape) (draft given profiles unmountUids)
      (.object ((docs profiles unmountUids).filter (given ·.1))) := by
  have parts : Takes (read (depth + 3) (.listOf Profile.shape)) (.list (profiles.map fun part => part.1.draft part.2))
      (.list (profiles.map fun part => .object (part.1.docs.filter (part.2 ·.1)))) :=
    .values fun part _ => part.1.takes_draft part.2
  have uids : Takes (read (depth + 3) (.listOf (.whole .signed32))) (.list (unmountUids.map fun n => .whole n.toInt))
      (.list (unmountUids.map Codec.toDoc)) := .values fun n _ => .int32 n
  refine .defaulted (by decide) ?_ (by decide)
  exact .part (.required rfl parts) (.part (.required rfl uids) .nothing)

end ProfileExport

namespace Settings

namespace LogSettings

def draft (given : String → Bool) (settings : LogSettings) : Texts := .part given [
  ("minLevel",.quoted settings.minLevel),("keepDays",.whole settings.keepDays.toNat)]

def overlaid (given : String → Bool) (settings : LogSettings) : LogSettings where
  minLevel := if given "minLevel" then settings.minLevel else "info"
  keepDays := if given "keepDays" then settings.keepDays else 7

def docs (settings : LogSettings) : List (String × Doc) := [
  ("minLevel",.text settings.minLevel),("keepDays",Codec.toDoc settings.keepDays)]

theorem ofDoc_docs (given : String → Bool) (settings : LogSettings) :
    Codec.ofDoc (.object (settings.docs.filter (given ·.1))) = settings.overlaid given := by
  have same : Codec.ofDoc (.object settings.docs) = settings := (@LogSettings.returns 0 settings).same
  have part : Codec.ofDoc (.object (settings.docs.filter (given ·.1))) =
      overlaid given (Codec.ofDoc (.object settings.docs)) := by
    change LogSettings.mk (Doc.fieldOr _ _ _ _) (Doc.fieldOr _ _ _ _) = _
    rw [fieldOr_part,fieldOr_part]
    rfl
  exact part.trans (congrArg (overlaid given) same)

theorem takes_draft {depth : Nat} (given : String → Bool) (settings : LogSettings) :
    Takes (read (depth + 1) shape) (settings.draft given) (.object (settings.docs.filter (given ·.1))) := by
  refine .defaulted (by decide) ?_ (by decide)
  exact .part (.required rfl (.text _)) (.part (.required rfl (.uint32 _)) .nothing)

end LogSettings

namespace ManagerSettings

/-- The settings where some of their fields and some of those of the log are given. -/
def draft (given log : String → Bool) (settings : ManagerSettings) : Texts := .part given [
  ("selfPackage",.quoted settings.selfPackage),("helperCommand",.list (settings.helperCommand.map .quoted)),
  ("profilesPath",.nullable .quoted settings.profilesPath),("dataDir",.quoted settings.dataDir),
  ("showSystemApps",.boolean settings.showSystemApps),("showOnlyPrimaryUserApps",.boolean settings.showOnlyPrimaryUserApps),
  ("packageFlags",.whole settings.packageFlags.toNat),("log",settings.log.draft log)]

def overlaid (given log : String → Bool) (settings : ManagerSettings) : ManagerSettings where
  selfPackage := if given "selfPackage" then settings.selfPackage else "me.sumgr.manager"
  helperCommand := if given "helperCommand" then settings.helperCommand else []
  profilesPath := if given "profilesPath" then settings.profilesPath else none
  dataDir := if given "dataDir" then settings.dataDir else "/data/local/tmp/sumgr"
  showSystemApps := if given "showSystemApps" then settings.showSystemApps else false
  showOnlyPrimaryUserApps := if given "showOnlyPrimaryUserApps" then settings.showOnlyPrimaryUserApps else false
  packageFlags := if given "packageFlags" then settings.packageFlags else 0
  log := if given "log" then settings.log.overlaid log else ⟨"info",7⟩

def docs (log : String → Bool) (settings : ManagerSettings) : List (String × Doc) := [
  ("selfPackage",.text settings.selfPackage),("helperCommand",.list (settings.helperCommand.map Codec.toDoc)),
  ("profilesPath",orNull settings.profilesPath),("dataDir",.text settings.dataDir),
  ("showSystemApps",.bool settings.showSystemApps),("showOnlyPrimaryUserApps",.bool settings.showOnlyPrimaryUserApps),
  ("packageFlags",Codec.toDoc settings.packageFlags),("log",.object (settings.log.docs.filter (log ·.1)))]

theorem ofDoc_docs (given log : String → Bool) (settings : ManagerSettings) :
    Codec.ofDoc (.object ((settings.docs log).filter (given ·.1))) = settings.overlaid given log := by
  have part : ofDoc (.object ((settings.docs log).filter (given ·.1))) =
      { (ofDoc settings.toDoc).overlaid given log with
        log := if given "log" then Codec.ofDoc (.object (settings.log.docs.filter (log ·.1))) else ⟨"info",7⟩ } := by
    simp only [ofDoc,fieldOr_part,optional_part]
    rfl
  have same : ofDoc settings.toDoc = settings := (@ManagerSettings.returns 0 settings).same
  rw [same,settings.log.ofDoc_docs log] at part
  exact part

theorem takes_draft {depth : Nat} (given log : String → Bool) (settings : ManagerSettings) :
    Takes (read (depth + 2) shape) (settings.draft given log) (.object ((settings.docs log).filter (given ·.1))) := by
  have arguments : Takes (read (depth + 1) (.listOf .text)) (.list (settings.helperCommand.map .quoted))
      (.list (settings.helperCommand.map Codec.toDoc)) := .values fun argument _ => .text argument
  refine .defaulted (by decide) ?_ (by decide)
  refine .part (.required rfl (.text _)) (.part (.required rfl arguments) (.part (.nullableText rfl .path) ?_))
  refine .part (.required rfl (.path _)) (.part (.required rfl (.boolean _)) (.part (.required rfl (.boolean _)) ?_))
  exact .part (.required rfl (.uint32 _)) (.part (.required rfl (settings.log.takes_draft log)) .nothing)

end ManagerSettings
end Settings

namespace Service.Capabilities

def draft (given : String → Bool) (capabilities : Capabilities) : Texts := .part given [
  ("usersExcludingDying",.boolean capabilities.usersExcludingDying),("aliveUsers",.boolean capabilities.aliveUsers)]

def overlaid (given : String → Bool) (capabilities : Capabilities) : Capabilities where
  usersExcludingDying := if given "usersExcludingDying" then capabilities.usersExcludingDying else false
  aliveUsers := if given "aliveUsers" then capabilities.aliveUsers else false

def docs (capabilities : Capabilities) : List (String × Doc) := [
  ("usersExcludingDying",.bool capabilities.usersExcludingDying),("aliveUsers",.bool capabilities.aliveUsers)]

theorem ofDoc_docs (given : String → Bool) (capabilities : Capabilities) :
    Codec.ofDoc (.object (capabilities.docs.filter (given ·.1))) = capabilities.overlaid given := by
  change Capabilities.mk (Doc.fieldOr _ _ _ _) (Doc.fieldOr _ _ _ _) = _
  rw [fieldOr_part,fieldOr_part]
  rfl

theorem takes_draft {depth : Nat} (given : String → Bool) (capabilities : Capabilities) :
    Takes (read (depth + 1) shape) (capabilities.draft given) (.object (capabilities.docs.filter (given ·.1))) := by
  refine .defaulted (by decide) ?_ (by decide)
  exact .part (.required rfl (.boolean _)) (.part (.required rfl (.boolean _)) .nothing)

end Service.Capabilities

namespace PackageMeta

def fields (package : PackageMeta) : List (String × Texts) := [
  ("packageName",.quoted package.packageName),("uid",.whole package.uid.toInt),("label",.nullable .quoted package.label),
  ("flags",.whole package.flags.bits.toNat),("versionName",.nullable .quoted package.versionName),
  ("sourceDir",.nullable .quoted package.sourceDir)]

def draft (given : String → Bool) (package : PackageMeta) : Texts := .part given package.fields

def overlaid (given : String → Bool) (package : PackageMeta) : PackageMeta where
  packageName := package.packageName
  uid := package.uid
  label := if given "label" then package.label else none
  flags := if given "flags" then package.flags else ⟨0⟩
  versionName := if given "versionName" then package.versionName else none
  sourceDir := if given "sourceDir" then package.sourceDir else none

def docs (package : PackageMeta) : List (String × Doc) := [
  ("packageName",.text package.packageName),("uid",Codec.toDoc package.uid),("label",orNull package.label),
  ("flags",Codec.toDoc package.flags),("versionName",orNull package.versionName),("sourceDir",orNull package.sourceDir)]

theorem ofDoc_docs {given : String → Bool} (package : PackageMeta) (named : given "packageName" = true)
    (owned : given "uid" = true) : Codec.ofDoc (.object (package.docs.filter (given ·.1))) = package.overlaid given := by
  have part : ofDoc (.object (package.docs.filter (given ·.1))) = (ofDoc (.object package.docs)).overlaid given := by
    simp only [ofDoc,fieldOr_part,optional_part,named,owned,if_true]
    rfl
  have same : ofDoc (.object package.docs) = package := by
    have fields : ofDoc (.object package.docs) = { package with
        uid := Codec.ofDoc (Codec.toDoc package.uid), flags := ⟨Codec.ofDoc (Codec.toDoc package.flags.bits)⟩ } := by
      obtain ⟨name,uid,_ | label,flags,_ | version,_ | path⟩ := package <;> rfl
    rw [fields,ofDoc_int32,ofDoc_uint32]
  exact part.trans (congrArg (overlaid given) same)

theorem drafted {depth : Nat} (given : String → Bool) (package : PackageMeta) :
    Drafted depth rules (package.fields.filter (given ·.1)) (package.docs.filter (given ·.1)) := by
  refine .part (.required rfl (.text _)) (.part (.required rfl (.int32 _)) (.part (.nullableText rfl .text) ?_))
  exact .part (.required rfl (.uint32 _)) (.part (.nullableText rfl .text) (.part (.nullableText rfl .text) .nothing))

theorem takes_draft {depth : Nat} {given : String → Bool} (package : PackageMeta) (named : given "packageName" = true)
    (owned : given "uid" = true) :
    Takes (read (depth + 1) shape) (package.draft given) (.object (package.docs.filter (given ·.1))) := by
  have drafted := @drafted depth given package
  refine .record (by decide) drafted (drafted.chosen (by decide) fun pair member required => ?_)
  have name : pair.1.name = "packageName" ∨ pair.1.name = "uid" := by
    revert pair
    decide
  rw [List.mem_map]
  rcases name with name | name
  · exact ⟨("packageName",_),List.mem_filter.mpr ⟨.head _,named⟩,name.symm⟩
  · exact ⟨("uid",_),List.mem_filter.mpr ⟨.tail _ (.head _),owned⟩,name.symm⟩

theorem collects_missing {given : String → Bool} (package : PackageMeta)
    (missing : given "packageName" = false ∨ given "uid" = false) :
    ∃ name, collectFields (package.docs.filter (given ·.1)) rules = .error (.missingField name) ∧ given name = false := by
  cases named : given "packageName" with
  | false =>
    refine ⟨"packageName",?_,named⟩
    simp only [rules,collectFields,Field.required,lookup_filter,named]
    rfl
  | true =>
    have owned := missing.resolve_left (by simp [named])
    refine ⟨"uid",?_,owned⟩
    simp only [rules,collectFields,Field.required,lookup_filter,named,owned]
    rfl

end PackageMeta

open Service Settings

/-- What is given is taken from the text, and the rest has the defaults, which are those of the type as a whole. -/
theorem decode_partial :
    (∀ (profile : Profile) (given : String → Bool) (text : String), Writes (profile.draft given) text →
      decode text = .ok (profile.overlaid given)) ∧
    (∀ (profiles : List (Profile × (String → Bool))) (unmountUids : List Int32) (given : String → Bool) (text : String),
      Writes (ProfileExport.draft given profiles unmountUids) text →
      decode text = .ok (ProfileExport.overlaid given profiles unmountUids)) ∧
    (∀ (settings : LogSettings) (given : String → Bool) (text : String), Writes (settings.draft given) text →
      decode text = .ok (settings.overlaid given)) ∧
    (∀ (settings : ManagerSettings) (given log : String → Bool) (text : String), Writes (settings.draft given log) text →
      decode text = .ok (settings.overlaid given log)) ∧
    (∀ (capabilities : Capabilities) (given : String → Bool) (text : String), Writes (capabilities.draft given) text →
      decode text = .ok (capabilities.overlaid given)) ∧
    (∀ (package : PackageMeta) (given : String → Bool) (text : String), Writes (package.draft given) text →
      (given "packageName" = true → given "uid" = true → decode text = .ok (package.overlaid given)) ∧
      (given "packageName" = false ∨ given "uid" = false → ∃ fault name, (decode text : Except Fault PackageMeta) = .error fault ∧
        fault.cause = .mismatch (.missingField name) ∧ given name = false)) ∧
    (∀ profile : Profile, profile.overlaid (fun _ => false) = {}) ∧
    (∀ profiles unmountUids, ProfileExport.overlaid (fun _ => false) profiles unmountUids = {}) ∧
    (∀ settings : LogSettings, settings.overlaid (fun _ => false) = {}) ∧
    (∀ settings : ManagerSettings, settings.overlaid (fun _ => false) (fun _ => false) = {}) ∧
    (∀ capabilities : Capabilities, capabilities.overlaid (fun _ => false) = {}) ∧
    (∀ (α : Type) [Codec α] (text : String), Writes (Clashes (Codec.shape α)) text →
      ∃ fault, (decode text : Except Fault α) = .error fault) := by
  refine ⟨fun profile given text written => ?_,fun profiles unmountUids given text written => ?_,
    fun settings given text written => ?_,fun settings given log text written => ?_,fun capabilities given text written => ?_,
    fun package given text written => ⟨fun named owned => ?_,fun missing => ?_⟩,fun _ => rfl,fun _ _ => rfl,fun _ => rfl,
    fun _ => rfl,fun _ => rfl,fun α _ text clashes => decode_clashes clashes⟩
  · exact decode_taken (profile.takes_draft given) written (profile.ofDoc_docs given)
  · exact decode_taken (ProfileExport.takes_draft given profiles unmountUids) written
      (ProfileExport.ofDoc_docs given profiles unmountUids)
  · exact decode_taken (settings.takes_draft given) written (settings.ofDoc_docs given)
  · exact decode_taken (settings.takes_draft given log) written (settings.ofDoc_docs given log)
  · exact decode_taken (capabilities.takes_draft given) written (capabilities.ofDoc_docs given)
  · exact decode_taken (package.takes_draft named owned) written (package.ofDoc_docs named owned)
  · obtain ⟨name,collects,absent⟩ := package.collects_missing missing
    obtain ⟨before,cs,after,leading,written,trailing,same⟩ := written
    have stops : read depthLimit (Codec.shape PackageMeta) text.toList = .error ⟨.mismatch (.missingField name),after,0⟩ := by
      have reads : read depthLimit PackageMeta.shape (cs ++ after) = _ :=
        read_draft (by decide) (package.drafted given) written after
      rw [collects] at reads
      rw [same,List.append_assoc,read_gap leading]
      exact reads
    exact ⟨_,name,decode_stop stops,rfl,absent⟩

theorem decode_partial_mixed :
    decode "\x7b\"umountModules\":false,\"x\":[],\"name\":\"a\"\x7d" = .ok ({ name := "a", umountModules := false } : Profile) ∧
    decode "\x7b\"profiles\":[\x7b\"allowSu\":true\x7d]\x7d" = .ok ({ profiles := [{ allowSu := true }] } : ProfileExport) ∧
    decode "\x7b\x7d" = .ok ({} : LogSettings) ∧
    decode "\x7b\"log\":\x7b\"keepDays\":3\x7d\x7d" = .ok ({ log := { keepDays := 3 } } : ManagerSettings) ∧
    decode "\x7b\"aliveUsers\":true\x7d" = .ok ({ aliveUsers := true } : Capabilities) ∧
    decode "\x7b\"uid\":7,\"packageName\":\"a\"\x7d" = .ok (⟨"a",7,none,{},none,none⟩ : PackageMeta) ∧
    (∃ fault name, (decode "\x7b\"uid\":7\x7d" : Except Fault PackageMeta) = .error fault ∧
      fault.cause = .mismatch (.missingField name) ∧ (name == "uid") = false) ∧
    ∃ fault, (decode "\x7b\"name\":\"a\",\"name\":\"b\"\x7d" : Except Fault Profile) = .error fault := by
  obtain ⟨profile,exported,log,settings,capabilities,package,-,-,-,-,-,clashes⟩ := decode_partial
  refine ⟨?_,?_,?_,?_,?_,?_,?_,?_⟩
  · refine profile { name := "a", umountModules := false } (["umountModules","name"].contains ·) _ (.dense
      (Texts.object_dense [.dense "umountModules" "false",.dense "x" "[]",.dense "name" "\"a\""] rfl (.swap _ _ _) ?_))
    refine .dense "false" (by simp) rfl (.other ⟨.nil,.nil,⟨.nil,.nil⟩⟩ (@Spells.plain "x".toList (by simp)) (by decide) ?_ ?_)
    · exact @IsValue.list [] [] .nil (List.forall_mem_nil _) (List.forall_mem_nil _)
    · exact .dense "\"a\"" (by simp) ⟨['a'],.plain (by simp),rfl⟩ .nil
  · have inner : Profile.draft (· == "allowSu") { allowSu := true } "\x7b\"allowSu\":true\x7d".toList :=
      Texts.object_dense [.dense "allowSu" "true"] rfl (.refl _) (.dense _ (by simp) rfl .nil)
    refine exported [({ allowSu := true },(· == "allowSu"))] [] (· == "profiles") _ (.dense
      (Texts.object_dense [.dense "profiles" "[\x7b\"allowSu\":true\x7d]"] rfl (.refl _) (.dense _ (by simp) ?_ .nil)))
    exact ⟨[],[⟨[],"\x7b\"allowSu\":true\x7d".toList,[]⟩],.nil,List.forall_mem_singleton.mpr ⟨.nil,.nil⟩,.cons inner .nil,rfl⟩
  · exact log {} (fun _ => false) _ (.dense (Texts.object_dense [] rfl (.refl _) .nil))
  · have inner : LogSettings.draft (· == "keepDays") { keepDays := 3 } "\x7b\"keepDays\":3\x7d".toList :=
      Texts.object_dense [.dense "keepDays" "3"] rfl (.refl _) (.dense _ (by simp) rfl .nil)
    exact settings { log := { keepDays := 3 } } (· == "log") (· == "keepDays") _ (.dense
      (Texts.object_dense [.dense "log" "\x7b\"keepDays\":3\x7d"] rfl (.refl _) (.dense _ (by simp) inner .nil)))
  · exact capabilities { aliveUsers := true } (· == "aliveUsers") _ (.dense
      (Texts.object_dense [.dense "aliveUsers" "true"] rfl (.refl _) (.dense _ (by simp) rfl .nil)))
  · refine (package ⟨"a",7,none,{},none,none⟩ (["packageName","uid"].contains ·) _ (.dense (Texts.object_dense
      [.dense "uid" "7",.dense "packageName" "\"a\""] rfl (.swap _ _ _) ?_))).1 (by decide) (by decide)
    refine .dense "7" (by simp) rfl (.dense "\"a\"" (by simp) ⟨['a'],.plain (by simp),rfl⟩ .nil)
  · exact (package ⟨"a",7,none,{},none,none⟩ (· == "uid") _ (.dense (Texts.object_dense [.dense "uid" "7"] rfl (.refl _)
      (.dense _ (by simp) rfl .nil)))).2 (.inl (by decide))
  · have plain : Spells "name".toList "name".toList := .plain (by simp)
    have gaps (value : String) : (Entry.dense "name" value).Gaps := ⟨.nil,.nil,⟨.nil,.nil⟩⟩
    have written : IsObject [] [.dense "name" "\"a\"",.dense "name" "\"b\""] := by
      refine ⟨.nil,?_,?_,?_⟩ <;> rw [List.forall_mem_cons,List.forall_mem_singleton]
      · exact ⟨gaps _,gaps _⟩
      · exact ⟨plain.raw,plain.raw⟩
      · exact ⟨.text (@Spells.plain ['a'] (by simp)).raw,.text (@Spells.plain ['b'] (by simp)).raw⟩
    have same : "\x7b\"name\":\"a\",\"name\":\"b\"\x7d".toList =
        objectText [] [.dense "name" "\"a\"",.dense "name" "\"b\""] := rfl
    refine clashes Profile _ (.dense ?_)
    rw [same]
    exact .twice written (by decide) (.refl _) plain plain

end AppGrants
