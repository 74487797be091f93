import AppGrants.Proofs.Helper.PackageListing
import AppGrants.Proofs.Helper.Surviving
import Mathlib.Data.List.Duplicate
import Mathlib.Data.List.Forall2
import Mathlib.Data.List.NodupEquivFin

/-! Listing the packages of all users. It fails if the users are needed and not told, or if the packages of one of them are not;
else there are the packages that were printed for each user, marked by what is known of that user alone. -/
namespace AppGrants

/-- Nothing comes of work on a list after the first item on which it fails. -/
theorem Ending.forAll_append_failed {ε α β : Type} {f : α → Ending ε β} {g : α → β} {before after : List α} {item : α} {error : ε}
    (done : ∀ item ∈ before, f item = .done (g item)) (failed : f item = .failed error) :
    Ending.forAll f (before ++ item :: after) = .failed error := by
  induction before with
  | nil => rw [List.nil_append,forAll,failed,bind]
  | cons first rest ih =>
    obtain ⟨one,others⟩ := List.forall_mem_cons.mp done
    rw [List.cons_append,forAll,one,bind,ih others,map]

theorem Ending.exists_of_forAll {ε α β : Type} {f : α → Ending ε β} {items : List α} {values : List β}
    (done : Ending.forAll f items = .done values) : ∀ value ∈ values, ∃ item ∈ items, f item = .done value := by
  induction items generalizing values with
  | nil =>
    obtain rfl := Ending.done.inj done
    exact List.forall_mem_nil _
  | cons item rest ih =>
    rw [forAll] at done
    cases first : f item with
    | failed | panicked => simp [first,bind] at done
    | done value =>
      cases others : Ending.forAll f rest with
      | failed | panicked => simp [first,others,bind,map] at done
      | done found =>
        obtain rfl : value :: found = values := by simpa [first,others,bind,map] using done
        refine List.forall_mem_cons.mpr ⟨⟨item,.head _,first⟩,fun other member => ?_⟩
        obtain ⟨source,inside,made⟩ := ih others other member
        exact ⟨source,.tail _ inside,made⟩

namespace Helper
open Service
variable {ω : Type} {overflow : Overflow} {runner : Runner ω} {flags : UInt32}

/-- What became of asking for the packages of a user. For overlays one asks only if the packages were told. -/
inductive Report where
  | told (user : Int32) (packages : String) (overlays : Except Failure String)
  | untold (user : Int32) (failure : Failure)

namespace Report

def user : Report → Int32
  | told user _ _ | untold user _ => user

def isTold : Report → Bool
  | told .. => true
  | untold .. => false

/-- Without a listing no package is an overlay. -/
def overlayNames : Except Failure String → List String
  | .ok output => Overlay.parseAll output
  | .error _ => []

def sightings : Report → List Sighting
  | told user packages _ => Helper.sightings user packages
  | untold .. => []

def packages (overflow : Overflow) : Report → Outcome (List PackageMeta)
  | told user packages overlays =>
    (PackageLine.parseAll overflow packages user).map (Backend.markOverlays (overlayNames overlays))
  | untold _ failure => .failed failure

/-- The packages of the user, of which no two are compared yet. -/
def part (overflow : Overflow) (report : Report) : List PackageMeta :=
  match report.packages overflow with
  | .done packages => packages
  | _ => []

/-- The packages of the user as they are listed if there is no other user. -/
def share (overflow : Overflow) (report : Report) : List PackageMeta := Backend.markShared (report.part overflow)

end Report

/-- A package that was read, and the same in the result: nothing but marks is added. -/
structure Keeps (overlays : List String) (before after : PackageMeta) : Prop where
  name : after.packageName = before.packageName
  uid : after.uid = before.uid
  path : after.sourceDir = before.sourceDir
  label : after.label = before.label
  version : after.versionName = before.versionName
  overlay : after.isResourceOverlay = true ↔ before.packageName ∈ overlays
  system : after.isSystem = true ↔ ∃ path ∈ before.sourceDir, ∃ front ∈ systemPaths, front.toList <+: path.toList
  no_more : after.flags.bits ≤ 7

/-- The packages of a user are those that were printed, all of them under that user. -/
inductive Report.Tells (overflow : Overflow) : Report → List PackageMeta → Prop where
  | told {user : Int32} {output : String} {overlays : Except Failure String} {parsed packages : List PackageMeta}
      (read : PackageLine.parseAll overflow output user = .done parsed)
      (keep : List.Forall₂ (Keeps (Report.overlayNames overlays)) parsed packages)
      (own : ∀ package ∈ packages, package.uid.userIndex = user) : Tells overflow (.told user output overlays) packages

namespace Backend

/-- Asks for the packages of the users one after another, up to the first one whose packages are not told. -/
def reportsOf (runner : Runner ω) (flags : UInt32) : List Int32 → Backend ω → List Report
  | [], _ => []
  | user :: others, backend =>
    match backend.run runner (packagesCommand flags user) with
    | (.error failure, _) => [.untold user failure]
    | (.ok packages, backend) =>
      let (overlays, backend) := backend.run runner (overlaysCommand user)
      .told user packages overlays :: reportsOf runner flags others backend

/-- The users whose packages are to be listed. -/
def usersListed (runner : Runner ω) (backend : Backend ω) : Except Failure (List Int32) × Backend ω :=
  let (capabilities, backend) := backend.capabilities runner
  backend.listUserIds runner capabilities.negotiate

def reports (runner : Runner ω) (flags : UInt32) (backend : Backend ω) : List Report :=
  match backend.usersListed runner with
  | (.error _, _) => []
  | (.ok users, backend) => reportsOf runner flags users backend

/-- The users are needed, and the command that tells them fails. -/
def UsersUntold (runner : Runner ω) (backend : Backend ω) (failure : Failure) : Prop :=
  let (capabilities, backend) := backend.capabilities runner
  capabilities.negotiate ≠ .primaryOnly ∧ (backend.run runner usersCommand).1 = .error failure

theorem overlaysFor_eq (user : Int32) (backend : Backend ω) : backend.overlaysFor runner user =
    (Report.overlayNames (backend.run runner (overlaysCommand user)).1,(backend.run runner (overlaysCommand user)).2) := by
  unfold overlaysFor
  rcases backend.run runner (overlaysCommand user) with ⟨failure | output,after⟩ <;> rfl

theorem seenOf_eq (users : List Int32) (backend : Backend ω) :
    backend.seenOf runner flags users = (backend.reportsOf runner flags users).flatMap Report.sightings := by
  induction users generalizing backend with
  | nil => rfl
  | cons user others ih =>
    rw [seenOf,reportsOf]
    rcases backend.run runner (packagesCommand flags user) with ⟨failure | output,after⟩
    · rfl
    · dsimp only
      rw [overlaysFor_eq,ih,List.flatMap_cons]
      rfl

theorem packagesOfAll_eq (users : List Int32) (backend : Backend ω) : (backend.packagesOfAll overflow runner flags users).1 =
    (Ending.forAll (Report.packages overflow) (backend.reportsOf runner flags users)).map List.flatten := by
  induction users generalizing backend with
  | nil => rfl
  | cons user others ih =>
    rw [packagesOfAll,packagesOf,reportsOf]
    rcases backend.run runner (packagesCommand flags user) with ⟨failure | output,after⟩
    · rfl
    · have later := ih (after.run runner (overlaysCommand user)).2
      dsimp only
      rw [overlaysFor_eq,Ending.forAll,Report.packages]
      cases PackageLine.parseAll overflow output user with
      | failed failure => rfl
      | panicked text => rfl
      | done parsed =>
        simp only [Ending.map,Ending.bind,later]
        generalize (after.run runner (overlaysCommand user)).2 = next
        cases Ending.forAll (Report.packages overflow) (next.reportsOf runner flags others) <;> rfl

/-- Either all are told, or the last report is of the first one that is not. -/
theorem reportsOf_cases (users : List Int32) (backend : Backend ω) :
    ((backend.reportsOf runner flags users).map Report.user = users ∧
      ∀ report ∈ backend.reportsOf runner flags users, report.isTold = true) ∨
    ∃ before user failure, backend.reportsOf runner flags users = before ++ [.untold user failure] ∧
      ∀ report ∈ before, report.isTold = true := by
  induction users generalizing backend with
  | nil => exact .inl ⟨rfl,by simp [reportsOf]⟩
  | cons user others ih =>
    rw [reportsOf]
    rcases backend.run runner (packagesCommand flags user) with ⟨failure | output,after⟩
    · exact .inr ⟨[],user,failure,rfl,by simp⟩
    · dsimp only
      generalize after.run runner (overlaysCommand user) = asked
      rcases ih asked.2 with ⟨same,told⟩ | ⟨before,last,failure,same,told⟩
      · exact .inl ⟨by simp [same,Report.user],List.forall_mem_cons.mpr ⟨rfl,told⟩⟩
      · refine .inr ⟨.told user output asked.1 :: before,last,failure,?_,List.forall_mem_cons.mpr ⟨rfl,told⟩⟩
        rw [same,List.cons_append]

theorem reportsOf_users (users : List Int32) (backend : Backend ω) :
    (backend.reportsOf runner flags users).map Report.user <+: users := by
  induction users generalizing backend with
  | nil => exact List.prefix_rfl
  | cons user others ih =>
    rw [reportsOf]
    rcases backend.run runner (packagesCommand flags user) with ⟨failure | output,after⟩
    · exact List.prefix_append [user] others
    · exact List.prefix_cons_inj user |>.mpr (ih _)

end Backend

section
variable {user printed : Int32}

/-- What is known of a package whose line was understood, before it is marked. -/
structure Parsed (user : Int32) (package : PackageMeta) : Prop where
  user : package.uid.userIndex = user
  flags : package.flags = if (package.sourceDir.any fun path => isSystemPath path.toList) then .system else {}

theorem flags_of_toPackage {line : PackageLine} {package : PackageMeta}
    (made : line.toPackage overflow user printed = .done package) :
    package.flags = if (package.sourceDir.any fun path => isSystemPath path.toList) then .system else {} := by
  rw [PackageLine.toPackage] at made
  generalize uidOf overflow user printed = fitted at made
  cases fitted with
  | failed | panicked => cases made
  | done uid =>
    obtain rfl := Ending.done.inj made
    simp

theorem user_of_mem_sightings {output : String} : ∀ sighting ∈ sightings user output, sighting.user = user := by
  intro sighting member
  obtain ⟨text,-,found⟩ := List.mem_filterMap.mp member
  obtain ⟨line,-,found⟩ := Option.bind_eq_some_iff.mp found
  obtain ⟨printed,-,found⟩ := Option.bind_eq_some_iff.mp found
  obtain rfl := Option.some.inj found
  rfl

theorem parsed_of_fits {output : String} (asked : 0 ≤ user.toInt) (fit : ∀ sighting ∈ sightings user output, sighting.Fits) :
    ∃ parsed, PackageLine.parseAll overflow output user = .done parsed ∧ ∀ package ∈ parsed, Parsed user package := by
  have proper : ∀ sighting ∈ sightings user output, sighting.Proper := proper_of_mem_sightings asked
  rw [parseAll_eq]
  rcases forAll_cases overflow proper with ⟨-,parsed,made,-⟩ | ⟨⟨-,sighting,member,unfit⟩,-⟩
  · refine ⟨parsed,made,fun package member => ?_⟩
    obtain ⟨sighting,seen,made⟩ := Ending.exists_of_forAll made package member
    obtain ⟨same,told,tells⟩ := @Sighting.toPackage_told overflow _ (proper sighting seen) fun _ => fit sighting seen
    obtain rfl : package = same := Ending.done.inj (made.symm.trans told)
    exact ⟨(tells.user.mpr (fit sighting seen)).trans (user_of_mem_sightings sighting seen),flags_of_toPackage made⟩
  · exact absurd (fit sighting member) unfit

end

/-- The flags of a package by what is known of it. -/
def marksOf (system overlay shared : Bool) : PackageFlags :=
  let flags : PackageFlags := if system then .system else {}
  let flags := if overlay then flags.union .resourceOverlay else flags
  if shared then flags.union .sharedUid else flags

theorem marksOf_spec : ∀ system overlay shared, (marksOf system overlay shared).contains .system = system ∧
    (marksOf system overlay shared).contains .resourceOverlay = overlay ∧
    (marksOf system overlay shared).contains .sharedUid = shared ∧ (marksOf system overlay shared).bits ≤ 7 := by
  decide

/-- Marks a package as an overlay if its name is one, and as one of several with its uid if they are. -/
def marked (overlays : List String) (shared : Bool) (package : PackageMeta) : PackageMeta :=
  let package := if overlays.contains package.packageName then package.flagged .resourceOverlay else package
  if shared then package.flagged .sharedUid else package

section
variable {user : Int32} {overlays : List String} {package : PackageMeta}

theorem flags_marked (parsed : Parsed user package) (shared : Bool) : (marked overlays shared package).flags =
    marksOf (package.sourceDir.any fun path => isSystemPath path.toList) (overlays.contains package.packageName) shared := by
  have flags := parsed.flags
  unfold marked marksOf
  cases overlays.contains package.packageName <;> cases shared <;> simp [PackageMeta.flagged,flags]

theorem keeps_marked (parsed : Parsed user package) (shared : Bool) :
    Keeps overlays package (marked overlays shared package) := by
  have flags := @flags_marked _ overlays _ parsed shared
  obtain ⟨system,overlay,-,bits⟩ := marksOf_spec (package.sourceDir.any fun path => isSystemPath path.toList)
    (overlays.contains package.packageName) shared
  rw [← flags] at system overlay bits
  have same {α : Type} (field : PackageMeta → α)
      (kept : ∀ (package : PackageMeta) flag, field (package.flagged flag) = field package) :
      field (marked overlays shared package) = field package := by
    unfold marked
    cases overlays.contains package.packageName <;> cases shared <;> simp [kept]
  refine ⟨same _ fun _ _ => rfl,same _ fun _ _ => rfl,same _ fun _ _ => rfl,same _ fun _ _ => rfl,same _ fun _ _ => rfl,
    ?_,?_,bits⟩
  · rw [PackageMeta.isResourceOverlay,overlay,List.contains_iff_mem]
  · rw [PackageMeta.isSystem,system,Option.any_eq_true]
    simp only [isSystemPath_iff]
    rfl

end

/-- The items that belong to one key are found again among all. -/
theorem filter_flatMap_of_key {α β κ : Type} [DecidableEq κ] {items : List α} {made : α → List β} {key : β → κ} {owner : α → κ}
    (own : ∀ item ∈ items, ∀ value ∈ made item, key value = owner item) (distinct : (items.map owner).Nodup) :
    ∀ item ∈ items, (items.flatMap made).filter (key · == owner item) = made item := by
  induction items with
  | nil => simp
  | cons first rest ih =>
    obtain ⟨one,others⟩ := List.forall_mem_cons.mp own
    obtain ⟨fresh,distinct⟩ := List.nodup_cons.mp distinct
    intro item member
    rw [List.flatMap_cons,List.filter_append]
    rcases List.mem_cons.mp member with rfl | inside
    · have whole : (made item).filter (key · == owner item) = made item := List.filter_eq_self.mpr fun value inside => by
        simpa using one value inside
      have nothing : (rest.flatMap made).filter (key · == owner item) = [] := List.filter_eq_nil_iff.mpr fun value inside => by
        obtain ⟨other,listed,inside⟩ := List.mem_flatMap.mp inside
        rw [others other listed value inside,beq_iff_eq]
        exact fun same => fresh (same ▸ List.mem_map_of_mem listed)
      rw [whole,nothing,List.append_nil]
    · have nothing : (made first).filter (key · == owner item) = [] := List.filter_eq_nil_iff.mpr fun value within => by
        rw [one value within,beq_iff_eq]
        exact fun same => fresh (same ▸ List.mem_map_of_mem inside)
      rw [nothing,List.nil_append,ih others distinct item inside]

/-- There are two of a kind just where another place holds the same. -/
theorem one_lt_count_iff {α : Type} [DecidableEq α] {items : List α} {place : Nat} (inside : place < items.length) :
    1 < items.count items[place] ↔ ∃ other, ∃ within : other < items.length, other ≠ place ∧ items[other] = items[place] := by
  rw [← Nat.succ_le_iff,← List.duplicate_iff_two_le_count,List.duplicate_iff_exists_distinct_get]
  constructor
  · rintro ⟨first,second,before,one,two⟩
    by_cases here : first.val = place
    · exact ⟨second,second.isLt,fun same => absurd before (by omega),two.symm⟩
    · exact ⟨first,first.isLt,here,one.symm⟩
  · rintro ⟨other,within,apart,same⟩
    rcases Nat.lt_or_gt_of_ne apart with before | after
    · exact ⟨⟨other,within⟩,⟨place,inside⟩,before,same.symm,rfl⟩
    · exact ⟨⟨place,inside⟩,⟨other,within⟩,after,rfl,same.symm⟩

theorem one_lt_countP_iff {α κ : Type} [DecidableEq κ] {items : List α} {key : α → κ} {place : Nat}
    (inside : place < items.length) :
    1 < items.countP (fun item => key item == key items[place]) ↔
      ∃ other, ∃ within : other < items.length, other ≠ place ∧ key items[other] = key items[place] := by
  have keys : items.countP (fun item => key item == key items[place]) = (items.map key).count (key items[place]) := by
    rw [List.count,List.countP_map]
    rfl
  have places := @one_lt_count_iff _ _ (items.map key) place (by rwa [List.length_map])
  simp only [List.getElem_map,List.length_map] at places
  rw [keys,places]

/-- Marked as one of several if there are some with the uid in the list. -/
def within (all : List PackageMeta) (package : PackageMeta) : PackageMeta :=
  if all.countP (·.uid == package.uid) > 1 then package.flagged .sharedUid else package

theorem uid_within (all : List PackageMeta) (package : PackageMeta) : (within all package).uid = package.uid := by
  unfold within
  split <;> rfl

section
variable {user : Int32} {overlays : List String} {package : PackageMeta}

theorem within_marked (all : List PackageMeta) (package : PackageMeta) : within all (marked overlays false package) =
    marked overlays (decide (1 < all.countP (·.uid == package.uid))) package := by
  have uid : (marked overlays false package).uid = package.uid := by
    unfold marked
    split <;> rfl
  rw [within,uid]
  by_cases several : 1 < all.countP (·.uid == package.uid) <;> simp [marked,several]

end

namespace Report

/-- The packages were told, and each of them has a uid under its user. -/
structure Sound (report : Report) : Prop where
  told : report.isTold = true
  asked : 0 ≤ report.user.toInt
  fit : ∀ sighting ∈ report.sightings, sighting.Fits

variable {report : Report}

theorem Sound.exists_parsed (sound : report.Sound) : ∃ output overlays parsed, report = .told report.user output overlays ∧
    PackageLine.parseAll overflow output report.user = .done parsed ∧ ∀ package ∈ parsed, Parsed report.user package := by
  cases report with
  | untold user failure => cases sound.told
  | told user output overlays =>
    obtain ⟨parsed,read,all⟩ := parsed_of_fits sound.asked sound.fit
    exact ⟨output,overlays,parsed,rfl,read,all⟩

theorem packages_told {user : Int32} {output : String} {overlays : Except Failure String} {parsed : List PackageMeta}
    (read : PackageLine.parseAll overflow output user = .done parsed) :
    (told user output overlays).packages overflow = .done (parsed.map (marked (overlayNames overlays) false)) := by
  rw [packages,read]
  rfl

theorem Sound.packages_eq (sound : report.Sound) : report.packages overflow = .done (report.part overflow) := by
  obtain ⟨output,overlays,parsed,same,read,-⟩ := sound.exists_parsed
  rw [part,same,packages_told read]

theorem Sound.own (sound : report.Sound) : ∀ package ∈ report.part overflow, package.uid.userIndex = report.user := by
  obtain ⟨output,overlays,parsed,same,read,all⟩ := sound.exists_parsed
  intro package member
  rw [part,same,packages_told read] at member
  obtain ⟨before,listed,rfl⟩ := List.mem_map.mp member
  rw [(keeps_marked (all before listed) false).uid]
  exact (all before listed).user

theorem share_eq : report.share overflow = (report.part overflow).map (within (report.part overflow)) := rfl

theorem own_share (own : ∀ package ∈ report.part overflow, package.uid.userIndex = report.user) :
    ∀ package ∈ report.share overflow, package.uid.userIndex = report.user := by
  intro package member
  rw [share_eq] at member
  obtain ⟨before,listed,rfl⟩ := List.mem_map.mp member
  rw [uid_within]
  exact own before listed

theorem Sound.fresh (sound : report.Sound) : ∀ package ∈ report.part overflow, ∀ all,
    (within all package).flags.contains .sharedUid = decide (1 < all.countP (·.uid == package.uid)) := by
  obtain ⟨output,overlays,parsed,same,read,each⟩ := sound.exists_parsed
  intro package member all
  rw [part,same,packages_told read] at member
  obtain ⟨before,listed,rfl⟩ := List.mem_map.mp member
  rw [within_marked,flags_marked (each before listed),(marksOf_spec ..).2.2.1,(keeps_marked (each before listed) false).uid]

theorem Sound.tells (sound : report.Sound) : report.Tells overflow (report.share overflow) := by
  have own := @own_share overflow _ sound.own
  obtain ⟨output,overlays,parsed,same,read,all⟩ := sound.exists_parsed
  have part : report.part overflow = parsed.map (marked (overlayNames overlays) false) := by
    rw [Report.part,same,packages_told read]
  have share : report.share overflow = parsed.map fun package =>
      marked (overlayNames overlays) (decide (1 < (report.part overflow).countP (·.uid == package.uid))) package := calc
    report.share overflow = (parsed.map (marked (overlayNames overlays) false)).map (within (report.part overflow)) := by
      rw [← part,share_eq]
    _ = _ := by
      rw [List.map_map]
      exact List.map_congr_left fun package _ => within_marked _ package
  have keep : List.Forall₂ (Keeps (overlayNames overlays)) parsed (report.share overflow) := by
    rw [share]
    exact List.forall₂_map_right_iff.mpr (List.forall₂_same.mpr fun package listed => keeps_marked (all package listed) _)
  rw [same] at own keep ⊢
  exact .told read keep own

end Report

section
variable {reports : List Report}

/-- Those with the uid of a package are all of the same user. -/
theorem countP_parts (own : ∀ report ∈ reports, ∀ package ∈ report.part overflow, package.uid.userIndex = report.user)
    (distinct : (reports.map Report.user).Nodup) {report : Report} (listed : report ∈ reports) {package : PackageMeta}
    (inside : package ∈ report.part overflow) : (reports.flatMap (Report.part overflow)).countP (·.uid == package.uid) =
      (report.part overflow).countP (·.uid == package.uid) := by
  have mine : package.uid.userIndex = report.user := own report listed package inside
  have same : ∀ other : PackageMeta, (other.uid == package.uid) =
      ((other.uid == package.uid) && (other.uid.userIndex == report.user)) := by
    intro other
    by_cases equal : other.uid = package.uid
    · simp [equal,mine]
    · simp [equal]
  calc (reports.flatMap (Report.part overflow)).countP (·.uid == package.uid)
    _ = ((reports.flatMap (Report.part overflow)).filter (·.uid.userIndex == report.user)).countP (·.uid == package.uid) := by
      rw [List.countP_filter]
      exact congrArg (List.countP · _) (funext same)
    _ = (report.part overflow).countP (·.uid == package.uid) := by
      rw [filter_flatMap_of_key own distinct report listed]

/-- The packages of a user are not marked because of those of another one. -/
theorem markShared_parts (own : ∀ report ∈ reports, ∀ package ∈ report.part overflow, package.uid.userIndex = report.user)
    (distinct : (reports.map Report.user).Nodup) :
    Backend.markShared (reports.flatMap (Report.part overflow)) = reports.flatMap (Report.share overflow) := by
  have alone : ∀ report ∈ reports, ∀ package ∈ report.part overflow,
      within (reports.flatMap (Report.part overflow)) package = within (report.part overflow) package := by
    intro report listed package inside
    rw [within,within,countP_parts own distinct listed inside]
  calc Backend.markShared (reports.flatMap (Report.part overflow))
    _ = reports.flatMap fun report => (report.part overflow).map (within (reports.flatMap (Report.part overflow))) :=
      List.map_flatMap
    _ = reports.flatMap (Report.share overflow) :=
      List.flatMap_congr fun report listed => List.map_congr_left (alone report listed)

end

theorem markShared_eq (packages : List PackageMeta) : Backend.markShared packages = packages.map (within packages) := rfl

/-- Those that share their uid are told by it, wherever they stand. -/
def SharedByUid (packages : List PackageMeta) : Prop :=
  ∀ place (inside : place < packages.length), packages[place].flags.contains .sharedUid = true ↔
    ∃ other, ∃ within : other < packages.length, other ≠ place ∧ packages[other].uid = packages[place].uid

theorem sharedByUid_markShared {packages : List PackageMeta} (fresh : ∀ package ∈ packages, ∀ all,
    (within all package).flags.contains .sharedUid = decide (1 < all.countP (·.uid == package.uid))) :
    SharedByUid (Backend.markShared packages) := by
  intro place inside
  simp only [markShared_eq,List.getElem_map,uid_within,List.length_map] at inside ⊢
  rw [fresh _ (List.getElem_mem inside),decide_eq_true_iff,one_lt_countP_iff inside]

/-- The packages are those of all the users in ascending order, each user's marked as if there were no other one. -/
structure Enumerates (overflow : Overflow) (listed : Except Failure (List Int32)) (reports : List Report)
    (packages : List PackageMeta) : Prop where
  users : listed = .ok (reports.map Report.user)
  ascending : Ascending (reports.map Report.user)
  concatenated : packages = reports.flatMap (Report.share overflow)
  tells : ∀ report ∈ reports, report.Tells overflow (report.share overflow)
  shared : SharedByUid packages

namespace Backend
variable {backend : Backend ω}

theorem enumerates_of_sound {users : List Int32} {reports : List Report} (all : reports.map Report.user = users)
    (ascending : Ascending users) (sound : ∀ report ∈ reports, report.Sound) :
    (Ending.forAll (Report.packages overflow) reports).map (markShared ∘ List.flatten) =
        .done (reports.flatMap (Report.share overflow)) ∧
      Enumerates overflow (.ok users) reports (reports.flatMap (Report.share overflow)) := by
  have distinct : (reports.map Report.user).Nodup := by
    rw [all]
    refine ascending.imp ?_
    rintro user _ less rfl
    exact Int.lt_irrefl _ less
  have own : ∀ report ∈ reports, ∀ package ∈ report.part overflow, package.uid.userIndex = report.user :=
    fun report listed => (sound report listed).own
  have fresh : ∀ package ∈ reports.flatMap (Report.part overflow), ∀ all,
      (within all package).flags.contains .sharedUid = decide (1 < all.countP (·.uid == package.uid)) := by
    intro package member
    obtain ⟨report,listed,inside⟩ := List.mem_flatMap.mp member
    exact (sound report listed).fresh package inside
  have marked := markShared_parts own distinct
  constructor
  · rw [Ending.forAll_of_done fun report listed => (sound report listed).packages_eq,Ending.map,← marked]
    rfl
  · exact ⟨by rw [all],all ▸ ascending,rfl,fun report listed => (sound report listed).tells,
      marked ▸ sharedByUid_markShared fresh⟩

theorem usersListed_error_iff {failure : Failure} :
    (backend.usersListed runner).1 = .error failure ↔ backend.UsersUntold runner failure := by
  unfold usersListed UsersUntold
  rcases backend.capabilities runner with ⟨capabilities,after⟩
  dsimp only
  generalize capabilities.negotiate = strategy
  cases strategy with
  | primaryOnly => simp [listUserIds]
  | usersExcludingDying | aliveUsers =>
    unfold listUserIds
    generalize after.run runner usersCommand = asked
    obtain ⟨failure' | output,later⟩ := asked <;> simp [Except.map]

theorem ascending_listUserIds {strategy : UserStrategy} {users : List Int32} {after : Backend ω}
    (listed : backend.listUserIds runner strategy = (.ok users,after)) : Ascending users := by
  unfold listUserIds at listed
  split at listed
  · obtain ⟨same,-⟩ := Prod.mk.inj listed
    obtain rfl := Except.ok.inj same
    exact List.pairwise_singleton ..
  · obtain ⟨same,-⟩ := Prod.mk.inj listed
    obtain ⟨output,-,rfl⟩ := Json.exists_of_map same
    unfold idsOf orPrimary
    split
    · exact List.pairwise_singleton ..
    · exact ascending_sorted _

theorem seen_eq : backend.seen runner flags = (backend.reports runner flags).flatMap Report.sightings := by
  unfold seen reports usersListed
  rcases backend.capabilities runner with ⟨capabilities,after⟩
  dsimp only
  rcases after.listUserIds runner capabilities.negotiate with ⟨failure | users,after⟩
  · rfl
  · exact seenOf_eq users after

theorem listPackages_eq : (backend.listPackages overflow runner flags).1 = match backend.usersListed runner with
    | (.error failure,_) => .failed failure
    | (.ok users,asked) =>
      (Ending.forAll (Report.packages overflow) (asked.reportsOf runner flags users)).map (markShared ∘ List.flatten) := by
  unfold listPackages usersListed
  rcases backend.capabilities runner with ⟨capabilities,after⟩
  dsimp only
  rcases after.listUserIds runner capabilities.negotiate with ⟨failure | users,after⟩
  · rfl
  · have all := @packagesOfAll_eq _ overflow runner flags users after
    dsimp only
    rw [all]
    cases Ending.forAll (Report.packages overflow) (reportsOf runner flags users after) <;> rfl

theorem proper_usersListed {users : List Int32} {asked : Backend ω} (listed : backend.usersListed runner = (.ok users,asked)) :
    Ascending users ∧ ∀ user ∈ users, 0 ≤ user.toInt := by
  unfold usersListed at listed
  exact ⟨ascending_listUserIds listed,nonneg_of_listUserIds listed⟩

/-- How the listing of these users ends, by what was told of them. -/
inductive Concludes (overflow : Overflow) (users : List Int32) (reports : List Report) : Outcome (List PackageMeta) → Prop where
  | done {packages : List PackageMeta} (told : ∀ report ∈ reports, report.isTold = true)
      (enumerates : Enumerates overflow (.ok users) reports packages) : Concludes overflow users reports (.done packages)
  | failed {before : List Report} {user : Int32} {failure : Failure} (told : ∀ report ∈ before, report.isTold = true)
      (same : reports = before ++ [.untold user failure]) : Concludes overflow users reports (.failed failure)

namespace Concludes
variable {users : List Int32} {reports : List Report} {outcome : Outcome (List PackageMeta)}

theorem failed_iff (concludes : Concludes overflow users reports outcome) {failure : Failure} :
    outcome = .failed failure ↔ ∃ user, .untold user failure ∈ reports := by
  cases concludes with
  | done told _ =>
    refine iff_of_false nofun ?_
    rintro ⟨user,inside⟩
    cases told _ inside
  | @failed before user first told same =>
    subst same
    constructor
    · rintro failed
      obtain rfl := Ending.failed.inj failed
      exact ⟨user,List.mem_append_right _ List.mem_cons_self⟩
    · rintro ⟨other,inside⟩
      rcases List.mem_append.mp inside with inside | last
      · cases told _ inside
      · obtain ⟨-,rfl⟩ := Report.untold.inj (List.mem_singleton.mp last)
        rfl

theorem ends (concludes : Concludes overflow users reports outcome) :
    (∃ failure, outcome = .failed failure) ∨
      ∃ packages, outcome = .done packages ∧ Enumerates overflow (.ok users) reports packages := by
  cases concludes with
  | done _ enumerates => exact .inr ⟨_,rfl,enumerates⟩
  | failed => exact .inl ⟨_,rfl⟩

end Concludes

theorem reportsOf_concludes {users : List Int32} (ascending : Ascending users)
    (sound : ∀ report ∈ backend.reportsOf runner flags users, report.isTold = true → report.Sound) :
    Concludes overflow users (backend.reportsOf runner flags users)
      ((Ending.forAll (Report.packages overflow) (backend.reportsOf runner flags users)).map (markShared ∘ List.flatten)) := by
  rcases @reportsOf_cases _ runner flags users backend with ⟨all,told⟩ | ⟨before,user,failure,same,told⟩
  · obtain ⟨done,enumerates⟩ := enumerates_of_sound all ascending fun report inside => sound report inside (told report inside)
    rw [done]
    exact .done told enumerates
  · rw [same] at sound ⊢
    have passed : ∀ report ∈ before, report.packages overflow = .done (report.part overflow) := fun report inside =>
      (sound report (List.mem_append_left _ inside) (told report inside)).packages_eq
    rw [Ending.forAll_append_failed passed rfl]
    exact .failed told rfl

/-- Unless a uid would be too large, one gets the packages of all users or none. One gets none if the users are needed and not
told, or the packages of one of them are not, and the failure is the one that was told then. -/
theorem listPackages_enumerates (fits : ¬backend.Overflows runner flags) :
    (∀ users, (backend.usersListed runner).1 = .ok users →
      Ascending users ∧ (backend.reports runner flags).map Report.user <+: users) ∧
    (∀ failure, (backend.listPackages overflow runner flags).1 = .failed failure ↔
      backend.UsersUntold runner failure ∨ ∃ user, .untold user failure ∈ backend.reports runner flags) ∧
    ((∃ failure, (backend.listPackages overflow runner flags).1 = .failed failure) ∨
      ∃ packages, (backend.listPackages overflow runner flags).1 = .done packages ∧
        Enumerates overflow (backend.usersListed runner).1 (backend.reports runner flags) packages) := by
  have fit : ∀ report ∈ backend.reports runner flags, ∀ sighting ∈ report.sightings, sighting.Fits := by
    intro report listed sighting inside
    by_contra unfit
    exact fits ⟨sighting,by rw [seen_eq]; exact List.mem_flatMap.mpr ⟨report,listed,inside⟩,unfit⟩
  simp only [listPackages_eq,← usersListed_error_iff]
  unfold reports at fit ⊢
  rcases listed : backend.usersListed runner with ⟨failure | users,asked⟩
  · simp
  · obtain ⟨ascending,proper⟩ := proper_usersListed listed
    simp only [listed] at fit ⊢
    have prefixed := @reportsOf_users _ runner flags users asked
    have concludes := @reportsOf_concludes _ overflow _ _ _ _ ascending fun report inside told =>
      ⟨told,proper _ (prefixed.subset (List.mem_map_of_mem inside)),fit report inside⟩
    refine ⟨fun other same => Except.ok.inj same ▸ ⟨ascending,prefixed⟩,fun failure => ?_,concludes.ends⟩
    rw [concludes.failed_iff]
    exact (or_iff_right nofun).symm

end Backend
/-- A system with two users and apps that share their uid; of the second user the overlays cannot be told. -/
def twoUsers : Backend Answers where
  world := { known := [("pm list users", .ok "UserInfo\x7b10:b\x7d\nUserInfo\x7b0:a\x7d running"),
    ("pm list packages -U -f --user 0", .ok "package:/odm/a=a uid:1\npackage:/b=b uid:1"),
    ("cmd overlay list --user 0", .ok "[x] b"),
    ("pm list packages -U -f --user 10", .ok "package:/b=b uid:1")] }

theorem twoUsers_listed : (twoUsers.listPackages .panics Answers.runner 0).1 = .done [
    { packageName := "a", uid := 1, flags := ⟨3⟩, sourceDir := some "/odm/a" },
    { packageName := "b", uid := 1, flags := ⟨6⟩, sourceDir := some "/b" },
    { packageName := "b", uid := 1000001, sourceDir := some "/b" }] := by
  decide

theorem listPackages_enumerates_twoUsers : ¬twoUsers.Overflows Answers.runner 0 ∧ ∃ packages, packages.length = 3 ∧
    Enumerates .panics (twoUsers.usersListed Answers.runner).1 (twoUsers.reports Answers.runner 0) packages := by
  have listed := twoUsers_listed
  have fits : ¬twoUsers.Overflows Answers.runner 0 := by
    intro overflows
    obtain ⟨text,panicked⟩ := (twoUsers.listPackages_listed .panics).panicked_iff.mpr ⟨rfl,overflows⟩
    rw [listed] at panicked
    cases panicked
  refine ⟨fits,?_⟩
  obtain ⟨-,-,⟨failure,failed⟩ | ⟨packages,done,enumerates⟩⟩ := Backend.listPackages_enumerates fits
  · rw [listed] at failed
    cases failed
  · obtain rfl := Ending.done.inj (listed.symm.trans done)
    exact ⟨_,rfl,enumerates⟩

end Helper
end AppGrants
