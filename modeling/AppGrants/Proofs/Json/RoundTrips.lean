import AppGrants.ProfileStore
import AppGrants.Proofs.Service.Payloads
import AppGrants.Proofs.Service.Wire
import AppGrants.Settings.Manager

/-! All values of the data model come back from their written form: fields by other names than their own, fields with a default,
and those that are left out or null where there is no value. -/
namespace AppGrants
open Json
variable {depth : Nat}

theorem NamespaceMode.returns (mode : NamespaceMode) : Returns depth mode where
  fits := by
    apply Fits.choice
    cases mode <;> decide
  same := by cases mode <;> rfl

theorem FailureKind.returns (kind : FailureKind) : Returns depth kind where
  fits := by
    apply Fits.choice
    cases kind <;> decide
  same := by cases kind <;> rfl

theorem PackageIdentity.returns (identity : PackageIdentity) : Returns (depth + 1) identity where
  fits := by
    apply Fits.record (by decide)
    exact .required (.text _) (.required (.int32 _) .nothing)
  same := by
    change PackageIdentity.mk identity.packageName (Codec.ofDoc (Codec.toDoc identity.uid)) = identity
    rw [ofDoc_int32]

namespace Profile
variable (profile : Profile)

theorem returns : Returns (depth + 2) profile where
  fits := by
    have numbers (values : List Int32) : Returns (depth + 1) values := .list fun n _ => .int32 n
    apply Fits.record (by decide)
    refine .required (.text _) (.required (.int32 _) (.required (.boolean _) (.required (.boolean _) ?_)))
    refine .orNull rfl (fun template _ => .text template) (.required (.int32 _) (.required (.int32 _) ?_))
    refine .required (numbers _).fits (.required (numbers _).fits (.required (.text _) ?_))
    refine .required profile.namespaceMode.returns.fits ?_
    exact .required (.text _) (.required (.boolean _) (.required (.boolean _) .nothing))
  same := by
    have numbers (values : List Int32) : Codec.ofDoc (Codec.toDoc values) = values := ofDoc_list fun n _ => ofDoc_int32 n
    have mode := (@NamespaceMode.returns depth profile.namespaceMode).same
    have fields : ofDoc profile.toDoc = { profile with
        currentUid := Codec.ofDoc (Codec.toDoc profile.currentUid), uid := Codec.ofDoc (Codec.toDoc profile.uid)
        gid := Codec.ofDoc (Codec.toDoc profile.gid), groups := Codec.ofDoc (Codec.toDoc profile.groups)
        capabilities := Codec.ofDoc (Codec.toDoc profile.capabilities)
        namespaceMode := Codec.ofDoc (Codec.toDoc profile.namespaceMode) } := by
      obtain ⟨name,owner,su,root,_ | template,uid,gid,groups,capabilities,domain,mode,rules,others,modules⟩ := profile <;> rfl
    change ofDoc profile.toDoc = profile
    rw [fields,ofDoc_int32,ofDoc_int32,ofDoc_int32,numbers,numbers,mode]

end Profile

theorem AppRecord.returns (record : AppRecord) : Returns (depth + 3) record where
  fits := by
    apply Fits.record (by decide)
    refine .required (.text _) (.required record.identity.returns.fits (.required record.package.returns.fits ?_))
    exact .orNull rfl (fun profile _ => profile.returns.fits) .nothing
  same := by
    have identity := (@PackageIdentity.returns depth record.identity).same
    have package := (@PackageMeta.returns record.package depth).same
    have profile (profile : Profile) := (@Profile.returns depth profile).same
    have fields : ofDoc record.toDoc = { record with
        identity := Codec.ofDoc (Codec.toDoc record.identity), package := Codec.ofDoc (Codec.toDoc record.package)
        profile := record.profile.map fun profile => Codec.ofDoc (Codec.toDoc profile) } := by
      obtain ⟨label,identity,package,_ | profile⟩ := record <;> rfl
    change ofDoc record.toDoc = record
    rw [fields,identity,package,Option.map_congr fun held _ => profile held,Option.map_id']

theorem Catalog.Filters.returns (filters : Catalog.Filters) : Returns (depth + 1) filters where
  fits := by
    apply Fits.record (by decide)
    exact .required (.boolean _) (.required (.boolean _) .nothing)
  same := rfl

theorem ProfileExport.returns (exported : ProfileExport) : Returns (depth + 4) exported where
  fits := by
    apply Fits.record (by decide)
    have profiles : Returns (depth + 3) exported.profiles := .list fun profile _ => profile.returns
    have uids : Returns (depth + 3) exported.unmountUids := .list fun uid _ => .int32 uid
    exact .required profiles.fits (.required uids.fits .nothing)
  same := by
    have profile (profile : Profile) : Codec.ofDoc (Codec.toDoc profile) = profile := (@Profile.returns depth profile).same
    have profiles := ofDoc_list fun held (_ : held ∈ exported.profiles) => profile held
    have uids := ofDoc_list fun uid (_ : uid ∈ exported.unmountUids) => ofDoc_int32 uid
    have fields : Codec.ofDoc (Codec.toDoc exported) =
        ProfileExport.mk (Codec.ofDoc (Codec.toDoc exported.profiles)) (Codec.ofDoc (Codec.toDoc exported.unmountUids)) := rfl
    rw [fields,profiles,uids]

namespace Settings

theorem LogSettings.returns (settings : LogSettings) : Returns (depth + 1) settings where
  fits := by
    apply Fits.record (by decide)
    exact .required (.text _) (.required (.uint32 _) .nothing)
  same := by
    change LogSettings.mk settings.minLevel (Codec.ofDoc (Codec.toDoc settings.keepDays)) = settings
    rw [ofDoc_uint32]

theorem ManagerSettings.returns (settings : ManagerSettings) : Returns (depth + 2) settings where
  fits := by
    apply Fits.record (by decide)
    have arguments : Returns (depth + 1) settings.helperCommand := .list fun argument _ => .text argument
    refine .required (.text _) (.required arguments.fits ?_)
    refine .orNull rfl (fun path _ => .path path) (.required (.path _) (.required (.boolean _) (.required (.boolean _) ?_)))
    exact .required (.uint32 _) (.required settings.log.returns.fits .nothing)
  same := by
    have text (value : String) : Codec.ofDoc (Codec.toDoc value) = value := rfl
    have arguments := ofDoc_list fun argument (_ : argument ∈ settings.helperCommand) => text argument
    have log := (@LogSettings.returns depth settings.log).same
    have fields : ofDoc settings.toDoc = { settings with
        helperCommand := Codec.ofDoc (Codec.toDoc settings.helperCommand)
        packageFlags := Codec.ofDoc (Codec.toDoc settings.packageFlags), log := Codec.ofDoc (Codec.toDoc settings.log) } := by
      obtain ⟨package,command,_ | path,directory,system,primary,flags,log⟩ := settings <;> rfl
    change ofDoc settings.toDoc = settings
    rw [fields,arguments,ofDoc_uint32,log]

end Settings

namespace Service

theorem UserStrategy.returns (strategy : UserStrategy) : Returns depth strategy where
  fits := by
    apply Fits.choice
    cases strategy <;> decide
  same := by cases strategy <;> rfl

/-- Decoding brings a response with the same outcome, whatever value is expected of it. -/
structure Response.Relays (response : Response) : Prop where
  decoded : ∃ read : Response, decode (encode response) = .ok read ∧
    ∀ (α : Type) [Codec α], (read.intoResult : Except TransportError α) = response.intoResult
  unbroken : '\n' ∉ (encode response).toList

structure Response.Brings {α : Type} [Codec α] (response : Response) (value : α) : Prop extends response.Relays where
  outcome : response.intoResult = .ok value

namespace Response
variable {α : Type} [Codec α] {value : α}

theorem relays_success (id : UInt64) (carried : Carried 126 value) : (success id.toNat value).Relays where
  decoded := ⟨_,decode_success id.toNat_lt carried,fun _ _ => received_intoResult id.toNat value⟩
  unbroken := (Response.fillsLine _ id.toNat_lt (plain_success carried)).unfed

theorem relays_failure (id : UInt64) (message : String) : (failure id.toNat message).Relays where
  decoded := ⟨_,decode_failure id.toNat_lt message,fun _ _ => rfl⟩
  unbroken := (Response.fillsLine _ id.toNat_lt (by simp [failure])).unfed

theorem brings_success (id : UInt64) (carried : Carried 126 value) : (success id.toNat value).Brings value :=
  ⟨relays_success id carried,intoResult_success _ carried.resumes⟩

end Response
end Service

open Service Settings

/-- Every value is decoded as it was encoded, on a line of its own; a response brings what it was made from. -/
theorem decode_undoes_encode :
    (∀ profile : Profile, RoundTrips profile) ∧ (∀ package : PackageMeta, RoundTrips package) ∧
    (∀ identity : PackageIdentity, RoundTrips identity) ∧ (∀ record : AppRecord, RoundTrips record) ∧
    (∀ filters : Catalog.Filters, RoundTrips filters) ∧ (∀ mode : NamespaceMode, RoundTrips mode) ∧
    (∀ kind : FailureKind, RoundTrips kind) ∧ (∀ exported : ProfileExport, RoundTrips exported) ∧
    (∀ settings : LogSettings, RoundTrips settings) ∧ (∀ settings : ManagerSettings, RoundTrips settings) ∧
    (∀ hello : Hello, RoundTrips hello) ∧ (∀ capabilities : Capabilities, RoundTrips capabilities) ∧
    (∀ strategy : UserStrategy, RoundTrips strategy) ∧
    (∀ (id : UInt64) (method : Method), let request : Request := ⟨id.toNat, method⟩
      Request.decode request.encode = .ok request ∧ '\n' ∉ request.encode.toList) ∧
    (∀ (id : UInt64) (users : List Int32), (Response.success id.toNat users).Brings users) ∧
    (∀ (id : UInt64) (packages : List PackageMeta), (Response.success id.toNat packages).Brings packages) ∧
    (∀ (id : UInt64) (hello : Hello), (Response.success id.toNat hello).Brings hello) ∧
    (∀ id : UInt64, (Response.success id.toNat ()).Brings ()) ∧
    (∀ (id : UInt64) (message : String), (Response.failure id.toNat message).Relays) := by
  refine ⟨fun profile => profile.returns.roundTrips,fun package => package.returns.roundTrips,
    fun identity => identity.returns.roundTrips,fun record => record.returns.roundTrips,fun filters => filters.returns.roundTrips,
    fun mode => mode.returns.roundTrips,fun kind => kind.returns.roundTrips,fun exported => exported.returns.roundTrips,
    fun settings => settings.returns.roundTrips,fun settings => settings.returns.roundTrips,fun hello => hello.returns.roundTrips,
    fun capabilities => capabilities.returns.roundTrips,fun strategy => strategy.returns.roundTrips,?_⟩
  refine ⟨fun id method => ?_,fun id users => ?_,fun id packages => ?_,fun id hello => ?_,fun id => ?_,Response.relays_failure⟩
  · exact ⟨Request.decode_encode _ id.toNat_lt,(Request.fillsLine _ id.toNat_lt).unfed⟩
  · exact Response.brings_success id (.list fun n _ => ⟨Doc.plain_int32 125 n,.int32 n⟩)
  · exact Response.brings_success id (.list fun package _ => ⟨package.returns.fits.plain,package.resumes⟩)
  · exact Response.brings_success id (Hello.carried hello)
  · exact Response.brings_success id ⟨trivial,.unit⟩

end AppGrants
