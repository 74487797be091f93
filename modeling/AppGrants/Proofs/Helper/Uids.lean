import AppGrants.Helper.Backend
import AppGrants.Proofs.Catalog.Grouping
import AppGrants.Proofs.Json.Success

/-! Which uids the packages of a listing get. Every line that is understood has one under the user that was asked for, unless
the number is too large for a uid. Of a listing with such a line there is no result at all where overflows panic; where they wrap
its package gets a uid of another user, or of none. -/
namespace AppGrants.Helper
open Service Text
variable {ω : Type} {overflow : Overflow} {runner : Runner ω}

/-- A line about a package that was understood, with the number that it tells and the user whose packages were asked for. -/
structure Sighting where
  user : Int32
  printed : Int32
  line : PackageLine

def sightings (user : Int32) (output : String) : List Sighting :=
  (lines output.toList).filterMap fun text => do
    let line ← PackageLine.ofLine? text
    let printed ← number? line.digits
    some ⟨user, printed, line⟩

namespace Sighting

/-- What the uid would be if there were no greatest one. -/
def number (sighting : Sighting) : Int := sighting.user.toInt * 100000 + sighting.printed.toInt % 100000

def Fits (sighting : Sighting) : Prop := sighting.number ≤ 2147483647

/-- The package that the line is about: if the number fits, its uid belongs to the user and is the printed one within the user's
range; else the uid does not belong to the user. -/
structure Tells (sighting : Sighting) (package : PackageMeta) : Prop where
  name : package.packageName = String.ofList sighting.line.name
  path : package.sourceDir = some (String.ofList sighting.line.path)
  uid : package.uid = Int32.ofInt sighting.number
  user : package.uid.userIndex = sighting.user ↔ sighting.Fits
  app : sighting.Fits → package.uid.appId = Uid.appId sighting.printed

/-- Numbers that are read from a text are not negative. -/
structure Proper (sighting : Sighting) : Prop where
  user : 0 ≤ sighting.user.toInt
  printed : 0 ≤ sighting.printed.toInt

end Sighting

theorem toInt_of_number? {digits : List Char} {n : Int32} (read : number? digits = some n) : 0 ≤ n.toInt := by
  obtain ⟨value,-,small⟩ := Option.bind_eq_some_iff.mp read
  split at small
  next bound =>
    obtain rfl := Option.some.inj small
    rw [Int32.toInt_ofNat_of_lt (by simpa using bound)]
    exact Int.natCast_nonneg value
  · cases small

theorem proper_of_mem_sightings {user : Int32} {output : String} (asked : 0 ≤ user.toInt) :
    ∀ sighting ∈ sightings user output, sighting.Proper := by
  intro sighting member
  obtain ⟨text,-,found⟩ := List.mem_filterMap.mp member
  obtain ⟨line,-,found⟩ := Option.bind_eq_some_iff.mp found
  obtain ⟨printed,read,found⟩ := Option.bind_eq_some_iff.mp found
  obtain rfl := Option.some.inj found
  exact ⟨asked,toInt_of_number? read⟩

section
variable {user printed : Int32}

theorem fitted_of_le {operation : String} {n : Int} (least : 0 ≤ n) (greatest : n ≤ 2147483647) :
    fitted overflow operation n = .done (Int32.ofInt n) := by
  have lower : Int32.minValue.toInt ≤ n := Int.le_trans (by decide) least
  have upper : n ≤ Int32.maxValue.toInt := greatest
  rw [fitted,decide_eq_true lower,decide_eq_true upper,Bool.and_true,Bool.or_true,if_pos rfl]

theorem fitted_of_lt {operation : String} {n : Int} (greater : 2147483647 < n) :
    fitted .panics operation n = .panicked ("attempt to " ++ operation ++ " with overflow") := by
  have upper : ¬n ≤ Int32.maxValue.toInt := Int.not_le.mpr greater
  rw [fitted,decide_eq_false upper,Bool.and_false]
  rfl

theorem fitted_wraps (operation : String) (n : Int) : fitted .wraps operation n = .done (Int32.ofInt n) := by
  simp [fitted]

theorem toInt_perUser : Uid.perUser.toInt = 100000 := rfl

theorem toInt_appId (asked : 0 ≤ printed.toInt) : (Uid.appId printed).toInt = printed.toInt % 100000 := by
  rw [Uid.appId,Int32.toInt_mod,toInt_perUser,Int.tmod_eq_emod_of_nonneg asked]

theorem toInt_userIndex (uid : Uid) : uid.userIndex.toInt = uid.toInt.tdiv 100000 := by
  have least := uid.le_toInt
  have greatest := uid.toInt_lt
  have parts := Int.mul_tdiv_add_tmod uid.toInt 100000
  have below := Int.lt_tmod_of_pos uid.toInt (show (0 : Int) < 100000 by decide)
  have above := Int.tmod_lt_of_pos uid.toInt (show (0 : Int) < 100000 by decide)
  rw [Uid.userIndex,Int32.toInt_div,toInt_perUser,Int.bmod_eq_of_le] <;> omega

/-- Wrapped twice is wrapped once. -/
theorem uidOf_wraps (told : 0 ≤ printed.toInt) :
    uidOf .wraps user printed = .done (Int32.ofInt (user.toInt * 100000 + printed.toInt % 100000)) := by
  rw [uidOf,fitted_wraps,Ending.bind,fitted_wraps,toInt_appId told,toInt_perUser,Int32.ofInt_add,Int32.ofInt_toInt,
    ← Int32.ofInt_add]

/-- Where the first uid of a user's range fits, only the sum may not. -/
theorem uidOf_eq_sum (asked : 0 ≤ user.toInt) (told : 0 ≤ printed.toInt) (within : user.toInt * 100000 ≤ 2147483647) :
    uidOf overflow user printed = fitted overflow "add" (user.toInt * 100000 + printed.toInt % 100000) := by
  have value : (Int32.ofInt (user.toInt * 100000)).toInt = user.toInt * 100000 :=
    Int32.toInt_ofInt_of_le (by omega) (by omega)
  rw [uidOf,toInt_perUser,fitted_of_le (by omega) within,Ending.bind,value,toInt_appId told]

theorem uidOf_of_fits {base : Int} (asked : 0 ≤ user.toInt) (told : 0 ≤ printed.toInt)
    (same : user.toInt * 100000 + printed.toInt % 100000 = base) (fits : base ≤ 2147483647) :
    uidOf overflow user printed = .done (Int32.ofInt base) := by
  rw [uidOf_eq_sum asked told (by omega),same]
  exact fitted_of_le (by omega) fits

theorem uidOf_of_unfit (asked : 0 ≤ user.toInt) (told : 0 ≤ printed.toInt)
    (unfit : 2147483647 < user.toInt * 100000 + printed.toInt % 100000) :
    ∃ text, uidOf .panics user printed = .panicked text := by
  by_cases within : user.toInt * 100000 ≤ 2147483647
  · rw [uidOf_eq_sum asked told within]
    exact ⟨_,fitted_of_lt unfit⟩
  · rw [uidOf,toInt_perUser,fitted_of_lt (Int.not_le.mp within)]
    exact ⟨_,rfl⟩

end

namespace Sighting
variable {sighting : Sighting}

theorem toInt_ofInt_number (proper : sighting.Proper) (fits : sighting.Fits) :
    (Int32.ofInt sighting.number).toInt = sighting.number := by
  have user := proper.user
  unfold Fits at fits
  unfold number at fits ⊢
  exact Int32.toInt_ofInt_of_le (by omega) (by omega)

theorem userIndex_of_fits (proper : sighting.Proper) (fits : sighting.Fits) :
    Uid.userIndex (Int32.ofInt sighting.number) = sighting.user := by
  have user := proper.user
  apply Int32.toInt_inj.mp
  rw [toInt_userIndex,toInt_ofInt_number proper fits,number,Int.tdiv_eq_ediv_of_nonneg (by omega)]
  omega

/-- A number that wraps falls by far more than a user has uids. -/
theorem userIndex_of_unfit (proper : sighting.Proper) (unfit : ¬sighting.Fits) :
    Uid.userIndex (Int32.ofInt sighting.number) ≠ sighting.user := by
  intro same
  have user := proper.user
  have index : (Int32.ofInt sighting.number).toInt.tdiv 100000 = sighting.user.toInt := by rw [← toInt_userIndex,same]
  have period : (Int32.ofInt sighting.number).toInt % 4294967296 = sighting.number % 4294967296 := by
    rw [Int32.toInt_ofInt]
    exact Int.bmod_emod
  have greatest := (Int32.ofInt sighting.number).toInt_lt
  generalize (Int32.ofInt sighting.number).toInt = wrapped at index period greatest
  have parts := Int.mul_tdiv_add_tmod wrapped 100000
  have rest := Int.lt_tmod_of_pos wrapped (show (0 : Int) < 100000 by decide)
  rw [index] at parts
  unfold Fits number at unfit
  unfold number at period
  omega

theorem appId_of_fits (proper : sighting.Proper) (fits : sighting.Fits) :
    Uid.appId (Int32.ofInt sighting.number) = Uid.appId sighting.printed := by
  have user := proper.user
  have value := toInt_ofInt_number proper fits
  unfold number at value
  apply Int32.toInt_inj.mp
  rw [toInt_appId proper.printed,number,toInt_appId (by omega),value]
  omega

theorem uidOf_eq (proper : sighting.Proper) (counts : overflow = .panics → sighting.Fits) :
    uidOf overflow sighting.user sighting.printed = .done (Int32.ofInt sighting.number) := by
  cases overflow with
  | panics => exact uidOf_of_fits proper.user proper.printed rfl (counts rfl)
  | wraps => exact uidOf_wraps proper.printed

theorem toPackage_told (proper : sighting.Proper) (counts : overflow = .panics → sighting.Fits) :
    ∃ package, sighting.line.toPackage overflow sighting.user sighting.printed = .done package ∧ sighting.Tells package := by
  rw [PackageLine.toPackage,uidOf_eq proper counts]
  exact ⟨_,rfl,rfl,rfl,rfl,⟨not_imp_not.mp (userIndex_of_unfit proper),userIndex_of_fits proper⟩,appId_of_fits proper⟩

theorem toPackage_of_unfit (proper : sighting.Proper) (unfit : ¬sighting.Fits) :
    ∃ text, sighting.line.toPackage .panics sighting.user sighting.printed = .panicked text := by
  obtain ⟨text,panics⟩ := uidOf_of_unfit proper.user proper.printed (Int.not_le.mp unfit)
  rw [PackageLine.toPackage,panics]
  exact ⟨text,rfl⟩

end Sighting

theorem forAll_cases (overflow : Overflow) {seen : List Sighting} (proper : ∀ sighting ∈ seen, sighting.Proper) :
    let made := Ending.forAll (fun sighting => sighting.line.toPackage overflow sighting.user sighting.printed) seen
    ((overflow = .panics → ∀ sighting ∈ seen, sighting.Fits) ∧
        ∃ packages, made = .done packages ∧ List.Forall₂ Sighting.Tells seen packages) ∨
      (overflow = .panics ∧ ∃ sighting ∈ seen, ¬sighting.Fits) ∧ ∃ text, made = .panicked text := by
  induction seen with
  | nil => exact .inl ⟨by simp,[],rfl,.nil⟩
  | cons first rest ih =>
    obtain ⟨one,others⟩ := List.forall_mem_cons.mp proper
    by_cases counts : overflow = .panics → first.Fits
    · obtain ⟨package,made,tells⟩ := Sighting.toPackage_told one counts
      rw [Ending.forAll,made]
      rcases ih others with ⟨fit,packages,later,tell⟩ | ⟨⟨checks,sighting,member,unfit⟩,text,later⟩
      · rw [Ending.bind,later]
        exact .inl ⟨fun checks => List.forall_mem_cons.mpr ⟨counts checks,fit checks⟩,_,rfl,.cons tells tell⟩
      · rw [Ending.bind,later]
        exact .inr ⟨⟨checks,sighting,.tail _ member,unfit⟩,text,rfl⟩
    · obtain ⟨rfl,unfit⟩ := Classical.not_imp.mp counts
      obtain ⟨text,panics⟩ := Sighting.toPackage_of_unfit one unfit
      rw [Ending.forAll,panics]
      exact .inr ⟨⟨rfl,first,.head _,unfit⟩,text,rfl⟩

theorem parseAll_eq (overflow : Overflow) (output : String) (user : Int32) : PackageLine.parseAll overflow output user =
    Ending.forAll (fun sighting => sighting.line.toPackage overflow sighting.user sighting.printed) (sightings user output) := by
  have same : sightings user output = ((lines output.toList).filterMap fun text => do
      let line ← PackageLine.ofLine? text
      let printed ← number? line.digits
      some (printed,line)).map fun told => ⟨user,told.1,told.2⟩ := by
    rw [List.map_filterMap]
    refine List.filterMap_congr fun text _ => ?_
    cases PackageLine.ofLine? text with
    | none => rfl
    | some line =>
      simp only [Option.bind_eq_bind,Option.bind_some]
      cases number? line.digits with
      | none => rfl
      | some printed => rfl
  rw [same,Ending.forAll_map]
  rfl

/-- How listing the packages ends that were seen. -/
inductive Listed (overflow : Overflow) (seen : List Sighting) : Outcome (List PackageMeta) → Prop where
  | done {packages : List PackageMeta} (fit : overflow = .panics → ∀ sighting ∈ seen, sighting.Fits)
      (tell : List.Forall₂ Sighting.Tells seen packages) : Listed overflow seen (.done packages)
  | failed {failure : Failure} (fit : overflow = .panics → ∀ sighting ∈ seen, sighting.Fits) :
      Listed overflow seen (.failed failure)
  | panicked {text : String} (checks : overflow = .panics) (unfit : ∃ sighting ∈ seen, ¬sighting.Fits) :
      Listed overflow seen (.panicked text)

namespace Listed
variable {seen more : List Sighting} {outcome : Outcome (List PackageMeta)}

theorem panicked_iff (listed : Listed overflow seen outcome) :
    (∃ text, outcome = .panicked text) ↔ overflow = .panics ∧ ∃ sighting ∈ seen, ¬sighting.Fits := by
  cases listed with
  | done fit _ | failed fit => simpa using fit
  | panicked checks unfit => simpa using ⟨checks,unfit⟩

theorem prepend {packages : List PackageMeta} (fit : overflow = .panics → ∀ sighting ∈ seen, sighting.Fits)
    (tell : List.Forall₂ Sighting.Tells seen packages) (rest : Listed overflow more outcome) :
    Listed overflow (seen ++ more) (outcome.map (packages ++ ·)) := by
  cases rest with
  | done fit' tell' =>
    exact .done (fun checks => List.forall_mem_append.mpr ⟨fit checks,fit' checks⟩) (List.rel_append tell tell')
  | failed fit' => exact .failed fun checks => List.forall_mem_append.mpr ⟨fit checks,fit' checks⟩
  | panicked checks unfit =>
    obtain ⟨sighting,member,unfit⟩ := unfit
    exact .panicked checks ⟨sighting,List.mem_append_right _ member,unfit⟩

end Listed

theorem tells_flagged {seen : List Sighting} {packages : List PackageMeta} (tell : List.Forall₂ Sighting.Tells seen packages)
    (marked : PackageMeta → Prop) [DecidablePred marked] (flag : PackageFlags) :
    List.Forall₂ Sighting.Tells seen (packages.map fun package => if marked package then package.flagged flag else package) := by
  refine List.forall₂_map_right_iff.mpr (tell.imp fun sighting package tells => ?_)
  split
  · exact ⟨tells.name,tells.path,tells.uid,tells.user,tells.app⟩
  · exact tells

namespace Backend

/-- What is seen of the packages of the users one after another, up to the first one whose packages are not told. -/
def seenOf (runner : Runner ω) (flags : UInt32) : List Int32 → Backend ω → List Sighting
  | [], _ => []
  | user :: others, backend =>
    match backend.run runner (packagesCommand flags user) with
    | (.error _, _) => []
    | (.ok output, backend) => sightings user output ++ seenOf runner flags others (backend.overlaysFor runner user).2

def seen (runner : Runner ω) (flags : UInt32) (backend : Backend ω) : List Sighting :=
  let (capabilities, backend) := backend.capabilities runner
  match backend.listUserIds runner capabilities.negotiate with
  | (.error _, _) => []
  | (.ok users, backend) => seenOf runner flags users backend

variable {flags : UInt32}

theorem packagesOfAll_listed {users : List Int32} (proper : ∀ user ∈ users, 0 ≤ user.toInt) (backend : Backend ω) :
    Listed overflow (backend.seenOf runner flags users) (backend.packagesOfAll overflow runner flags users).1 := by
  induction users generalizing backend with
  | nil => exact .done (fun _ => List.forall_mem_nil _) .nil
  | cons user others ih =>
    obtain ⟨asked,rest⟩ := List.forall_mem_cons.mp proper
    rw [seenOf,packagesOfAll,packagesOf]
    rcases backend.run runner (packagesCommand flags user) with ⟨failure | output,after⟩
    · exact .failed fun _ => List.forall_mem_nil _
    · have later := ih rest (after.overlaysFor runner user).2
      dsimp only
      rw [parseAll_eq]
      rcases forAll_cases overflow (proper_of_mem_sightings asked) with
        ⟨fit,packages,made,tell⟩ | ⟨⟨checks,sighting,member,unfit⟩,text,made⟩
      · rw [made]
        exact later.prepend fit (tells_flagged tell _ _)
      · rw [made]
        exact .panicked checks ⟨sighting,List.mem_append_left _ member,unfit⟩

theorem nonneg_of_mem_idsOf {strategy : UserStrategy} {output : String} :
    ∀ user ∈ idsOf strategy (UserEntry.parseAll output), 0 ≤ user.toInt := by
  intro user member
  unfold idsOf orPrimary at member
  split at member
  · obtain rfl := List.mem_singleton.mp member
    decide
  · obtain ⟨entry,listed,rfl⟩ := List.mem_map.mp ((mem_ascending ..).mp member)
    obtain ⟨⟨digits,running⟩,-,told⟩ := List.mem_filterMap.mp (List.mem_filter.mp listed).1
    obtain ⟨id,read,rfl⟩ : ∃ id, number? digits = some id ∧ UserEntry.mk id running = entry := Option.map_eq_some_iff.mp told
    exact toInt_of_number? read

theorem nonneg_of_listUserIds {strategy : UserStrategy} {users : List Int32} {backend after : Backend ω}
    (listed : backend.listUserIds runner strategy = (.ok users,after)) : ∀ user ∈ users, 0 ≤ user.toInt := by
  unfold listUserIds at listed
  split at listed
  · obtain ⟨same,-⟩ := Prod.mk.inj listed
    obtain rfl := Except.ok.inj same
    simp
  · obtain ⟨same,-⟩ := Prod.mk.inj listed
    obtain ⟨output,-,rfl⟩ := Json.exists_of_map same
    exact nonneg_of_mem_idsOf

/-- For every line that is seen there is a package that tells of it, unless a command fails, or a number that does not fit
panics. -/
theorem listPackages_listed (overflow : Overflow) (backend : Backend ω) :
    Listed overflow (backend.seen runner flags) (backend.listPackages overflow runner flags).1 := by
  unfold seen listPackages
  rcases backend.capabilities runner with ⟨capabilities,after⟩
  dsimp only
  rcases listed : after.listUserIds runner capabilities.negotiate with ⟨failure | users,after⟩
  · exact .failed fun _ => List.forall_mem_nil _
  · have all : Listed overflow (seenOf runner flags users after) (packagesOfAll overflow runner flags users after).1 :=
      packagesOfAll_listed (nonneg_of_listUserIds listed) after
    dsimp only
    generalize (after.packagesOfAll overflow runner flags users).1 = outcome at all ⊢
    cases all with
    | done fit tell => exact .done fit (tells_flagged tell _ _)
    | failed fit => exact .failed fit
    | panicked checks unfit => exact .panicked checks unfit

end Backend
end AppGrants.Helper
