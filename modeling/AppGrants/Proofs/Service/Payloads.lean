import AppGrants.Proofs.Json.Returning
import AppGrants.Service.Wire

/-! What a response brings is taken back as the value that it was made from: every field of a package, whatever its texts and
numbers are. -/
namespace AppGrants
open Json

namespace PackageMeta
variable (package : PackageMeta)

def rules : List (FieldRule × Shape) := [
  Field.required "packageName" .text,Field.required "uid" (.whole .signed32),Field.nullableDefaulted "label" .text,
  Field.defaulted "flags" (.whole .unsigned32),Field.nullableDefaulted "versionName" .text,
  Field.nullableDefaulted "sourceDir" .text]

/-- The fields in the order of their names. -/
def sortedFields : List (String × Doc) :=
  ("flags",Codec.toDoc package.flags.bits) :: (unlessNone "label" package.label ++
    (("packageName",Codec.toDoc package.packageName) :: (unlessNone "sourceDir" package.sourceDir ++
      (("uid",Codec.toDoc package.uid) :: (unlessNone "versionName" package.versionName ++ [])))))

def heldFields : List (String × Doc) :=
  unlessNone "versionName" package.versionName ++ (("uid",Codec.toDoc package.uid) ::
    (unlessNone "sourceDir" package.sourceDir ++ (("packageName",Codec.toDoc package.packageName) ::
      (unlessNone "label" package.label ++ [("flags",Codec.toDoc package.flags.bits)]))))

theorem sorted_toDoc : package.toDoc.sorted = .object package.sortedFields := by
  obtain ⟨name,uid,_ | label,flags,_ | version,_ | path⟩ := package <;> rfl

theorem accepts : Accepts rules [] package.sortedFields package.heldFields := by
  have text {rule : FieldRule} (name : String) : conformNullable (Codec.toDoc name) rule .text = .ok (Codec.toDoc name) :=
    conformNullable_text name
  have flags {rule : FieldRule} : conformNullable (Codec.toDoc package.flags.bits) rule (.whole .unsigned32) = _ :=
    conformNullable_value (conform_uint32 package.flags.bits) rfl
  have uid {rule : FieldRule} : conformNullable (Codec.toDoc package.uid) rule (.whole .signed32) = _ :=
    conformNullable_value (conform_int32 package.uid) rfl
  refine .field rfl rfl flags ?_
  refine .optional rfl rfl (fun label _ => text label) ?_
  refine .field rfl ?_ (text package.packageName) ?_
  · cases package.label <;> rfl
  refine .optional rfl ?_ (fun path _ => text path) ?_
  · cases package.label <;> rfl
  refine .field rfl ?_ uid ?_
  · cases package.label <;> cases package.sourceDir <;> rfl
  refine .optional rfl ?_ (fun version _ => text version) .nothing
  cases package.label <;> cases package.sourceDir <;> rfl

theorem ofDoc_toDoc : ofDoc package.toDoc = package := by
  have uid := ofDoc_int32 package.uid
  have flags := ofDoc_uint32 package.flags.bits
  have fields : ofDoc package.toDoc = { package with
      uid := Codec.ofDoc (Codec.toDoc package.uid), flags := ⟨Codec.ofDoc (Codec.toDoc package.flags.bits)⟩ } := by
    obtain ⟨name,uid,_ | label,flags,_ | version,_ | path⟩ := package <;> rfl
  rw [fields,uid,flags]

theorem resumes : Resumes package := by
  have collects : collectFields package.heldFields rules = .ok ([("packageName",.text package.packageName),
      ("uid",Codec.toDoc package.uid)] ++ unlessNone "label" package.label ++ [("flags",Codec.toDoc package.flags)] ++
        unlessNone "versionName" package.versionName ++ unlessNone "sourceDir" package.sourceDir) := by
    obtain ⟨name,uid,_ | label,flags,_ | version,_ | path⟩ := package <;> rfl
  refine ⟨package.toDoc,?_,package.ofDoc_toDoc⟩
  change conform package.toDoc.sorted (.record "PackageMeta" rules) = _
  rw [sorted_toDoc]
  exact conform_record package.accepts collects

theorem returns {depth : Nat} : Returns (depth + 1) package where
  fits := by
    have written : Codec.toDoc package = .object (("packageName",.text package.packageName) :: ("uid",Codec.toDoc package.uid) ::
        (unlessNone "label" package.label ++ (("flags",Codec.toDoc package.flags.bits) ::
          (unlessNone "versionName" package.versionName ++ (unlessNone "sourceDir" package.sourceDir ++ []))))) := by
      obtain ⟨name,uid,_ | label,flags,_ | version,_ | path⟩ := package <;> rfl
    rw [written]
    apply Fits.record (by decide)
    refine .required (.text _) (.required (.int32 _) ?_)
    refine .unlessNone (by decide) (fun label _ => .text label) (.required (.uint32 _) ?_)
    refine .unlessNone (by decide) (fun version _ => .text version) ?_
    exact .unlessNone (by decide) (fun path _ => .text path) .nothing
  same := package.ofDoc_toDoc

end PackageMeta

namespace Service

theorem Capabilities.returns {depth : Nat} (capabilities : Capabilities) : Returns (depth + 1) capabilities where
  fits := by
    apply Fits.record (by decide)
    exact .required (.boolean _) (.required (.boolean _) .nothing)
  same := rfl

theorem Hello.returns {depth : Nat} (hello : Hello) : Returns (depth + 2) hello where
  fits := by
    apply Fits.record (by decide)
    exact .required (.uint32 _) (.required hello.capabilities.returns.fits .nothing)
  same := by
    change Hello.mk (Codec.ofDoc (Codec.toDoc hello.protocolVersion)) hello.capabilities = hello
    rw [ofDoc_uint32]

theorem Capabilities.resumes (capabilities : Capabilities) : Resumes capabilities := by
  have boolean {rule : FieldRule} (value : Bool) : conformNullable (.bool value) rule .boolean = .ok (.bool value) :=
    conformNullable_value (conform_boolean value) rfl
  have sorted : (Codec.toDoc capabilities).sorted = .object [
      ("aliveUsers",.bool capabilities.aliveUsers),("usersExcludingDying",.bool capabilities.usersExcludingDying)] := rfl
  refine ⟨capabilities.toDoc,?_,rfl⟩
  rw [sorted]
  exact conform_record (.field rfl rfl (boolean _) (.field rfl rfl (boolean _) .nothing)) rfl

theorem Hello.carried (hello : Hello) : Carried 126 hello where
  plain := hello.returns.fits.plain
  resumes := by
    obtain ⟨doc,conforms,same⟩ := hello.capabilities.resumes
    have version {rule : FieldRule} : conformNullable (Codec.toDoc hello.protocolVersion) rule (.whole .unsigned32) = _ :=
      conformNullable_value (conform_uint32 hello.protocolVersion) rfl
    have capabilities {rule : FieldRule} :
        conformNullable (Codec.toDoc hello.capabilities).sorted rule Capabilities.shape = .ok doc :=
      conformNullable_value conforms rfl
    have sorted : (Codec.toDoc hello).sorted = .object [
        ("capabilities",(Codec.toDoc hello.capabilities).sorted),("protocolVersion",Codec.toDoc hello.protocolVersion)] := rfl
    refine ⟨.object [("protocolVersion",Codec.toDoc hello.protocolVersion),("capabilities",doc)],?_,?_⟩
    · rw [sorted]
      exact conform_record (.field rfl rfl capabilities (.field rfl rfl version .nothing)) rfl
    · change Hello.mk (Codec.ofDoc (Codec.toDoc hello.protocolVersion)) (Codec.ofDoc doc) = hello
      rw [ofDoc_uint32,same]

/-- What a method brings. -/
def Method.Value : Method → Type
  | hello => Hello
  | listUserIds _ => List Int32
  | listPackages _ => List PackageMeta
  | shutdown => Unit

instance : (method : Method) → Codec method.Value
  | .hello => inferInstanceAs (Codec Hello)
  | .listUserIds _ => inferInstanceAs (Codec (List Int32))
  | .listPackages _ => inferInstanceAs (Codec (List PackageMeta))
  | .shutdown => inferInstanceAs (Codec Unit)

theorem Method.carried : {method : Method} → (value : method.Value) → Carried 126 value
  | hello, value => Hello.carried value
  | listUserIds _, _ => .list fun n _ => ⟨Doc.plain_int32 125 n,.int32 n⟩
  | listPackages _, _ => .list fun package _ => ⟨package.returns.fits.plain,package.resumes⟩
  | shutdown, _ => ⟨trivial,.unit⟩

end Service
end AppGrants
