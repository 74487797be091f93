import AppGrants.Proofs.Catalog.Records
import Mathlib.Data.List.Induction

/-! Joining loses nothing and makes nothing up: of every identity the first package that is no overlay has its record, in the place
where it was listed, with what the store answers for it alone. -/
namespace AppGrants.Catalog

/-- Where the first package of an identity that is no overlay is listed; behind all packages where there is none. -/
def firstPlace (packages : List PackageMeta) (identity : PackageIdentity) : Nat :=
  packages.findIdx fun package => !package.isResourceOverlay && package.identity == identity

/-- A package of the identity is listed that is no overlay. -/
def Lists (packages : List PackageMeta) (identity : PackageIdentity) : Prop :=
  ∃ package ∈ packages, package.isResourceOverlay = false ∧ package.identity = identity

section
variable {packages : List PackageMeta} {identity : PackageIdentity} {package : PackageMeta}

theorem firstPlace_lt_iff : firstPlace packages identity < packages.length ↔ Lists packages identity := by
  simp [firstPlace,List.findIdx_lt_length,Lists]

theorem firstPlace_append (lists : Lists packages identity) (more : List PackageMeta) :
    firstPlace (packages ++ more) identity = firstPlace packages identity := by
  have early := firstPlace_lt_iff.mpr lists
  unfold firstPlace at early ⊢
  rw [List.findIdx_append,if_pos early]

theorem firstPlace_last (fresh : ¬Lists packages package.identity) (plain : package.isResourceOverlay = false) :
    firstPlace (packages ++ [package]) package.identity = packages.length := by
  have late : ¬firstPlace packages package.identity < packages.length := fun early => fresh (firstPlace_lt_iff.mp early)
  have last : List.findIdx (fun other => !other.isResourceOverlay && other.identity == package.identity) [package] = 0 := by
    simp [List.findIdx_cons,plain]
  unfold firstPlace at late ⊢
  rw [List.findIdx_append,if_neg late,last,Nat.zero_add]

theorem distinctPackages_overlay (overlay : package.isResourceOverlay = true) :
    distinctPackages (packages ++ [package]) = distinctPackages packages := by
  simp [distinctPackages,overlay]

theorem distinctPackages_plain (plain : package.isResourceOverlay = false) :
    distinctPackages (packages ++ [package]) = keepNew (distinctPackages packages) package := by
  simp [distinctPackages,plain]

end

/-- The packages stand for all identities that are listed, each where it is listed first. -/
structure Firsts (packages kept : List PackageMeta) : Prop where
  covers : ∀ identity, identity ∈ kept.map (·.identity) ↔ Lists packages identity
  first : ∀ package ∈ kept, packages[firstPlace packages package.identity]? = some package
  ordered : (kept.map fun package => firstPlace packages package.identity).Pairwise (· < ·)

namespace Firsts
variable {packages kept : List PackageMeta} {package : PackageMeta}

theorem lists (firsts : Firsts packages kept) {held : PackageMeta} (member : held ∈ kept) : Lists packages held.identity :=
  (firsts.covers _).mp (List.mem_map_of_mem member)

/-- A package changes nothing that is an overlay or whose identity is listed already. -/
theorem skip (firsts : Firsts packages kept)
    (skipped : package.isResourceOverlay = true ∨ Lists packages package.identity) : Firsts (packages ++ [package]) kept := by
  have place {held : PackageMeta} (member : held ∈ kept) :
      firstPlace (packages ++ [package]) held.identity = firstPlace packages held.identity :=
    firstPlace_append (firsts.lists member) _
  refine ⟨fun identity => (firsts.covers identity).trans ⟨?_,?_⟩,?_,?_⟩
  · rintro ⟨other,member,plain⟩
    exact ⟨other,List.mem_append_left _ member,plain⟩
  · rintro ⟨other,member,plain,rfl⟩
    rcases List.mem_append.mp member with before | last
    · exact ⟨other,before,plain,rfl⟩
    · obtain rfl := List.mem_singleton.mp last
      exact skipped.resolve_left (by simp [plain])
  · intro held member
    have early := firstPlace_lt_iff.mpr (firsts.lists member)
    rw [place member,List.getElem?_append_left early]
    exact firsts.first held member
  · rw [List.map_congr_left fun held member => place member]
    exact firsts.ordered

/-- A package of a new identity that is no overlay comes behind those that were listed before. -/
theorem add (firsts : Firsts packages kept) (plain : package.isResourceOverlay = false)
    (fresh : ¬Lists packages package.identity) : Firsts (packages ++ [package]) (kept ++ [package]) := by
  have last := firstPlace_last fresh plain
  have place {held : PackageMeta} (member : held ∈ kept) :
      firstPlace (packages ++ [package]) held.identity = firstPlace packages held.identity :=
    firstPlace_append (firsts.lists member) _
  refine ⟨fun identity => ?_,?_,?_⟩
  · rw [List.map_append,List.mem_append,firsts.covers]
    simp only [Lists,List.mem_append,List.map_cons,List.map_nil,List.mem_singleton]
    constructor
    · rintro (⟨other,member,shown⟩ | rfl)
      · exact ⟨other,.inl member,shown⟩
      · exact ⟨package,.inr rfl,plain,rfl⟩
    · rintro ⟨other,member | rfl,shown,rfl⟩
      · exact .inl ⟨other,member,shown,rfl⟩
      · exact .inr rfl
  · intro held member
    rcases List.mem_append.mp member with before | new
    · have early := firstPlace_lt_iff.mpr (firsts.lists before)
      rw [place before,List.getElem?_append_left early]
      exact firsts.first held before
    · obtain rfl := List.mem_singleton.mp new
      rw [last,List.getElem?_concat_length]
  · rw [List.map_append,List.map_congr_left fun held member => place member,List.pairwise_append]
    refine ⟨firsts.ordered,List.pairwise_singleton ..,?_⟩
    intro early inside late new
    obtain ⟨held,member,rfl⟩ := List.mem_map.mp inside
    obtain rfl : late = packages.length := (List.mem_singleton.mp new).trans last
    exact firstPlace_lt_iff.mpr (firsts.lists member)

end Firsts

theorem firsts_distinctPackages (packages : List PackageMeta) : Firsts packages (distinctPackages packages) := by
  -- The packages are looked at from the left, so the induction takes the last one off.
  induction packages using List.reverseRecOn with
  | nil => exact ⟨by simp [distinctPackages,Lists],by simp [distinctPackages],.nil⟩
  | append_singleton packages package ih =>
    cases overlay : package.isResourceOverlay with
    | true =>
      rw [distinctPackages_overlay overlay]
      exact ih.skip (.inl overlay)
    | false =>
      rw [distinctPackages_plain overlay,keepNew]
      split
      next held =>
        refine ih.skip (.inr ((ih.covers _).mp ?_))
        simpa using held
      next fresh =>
        refine ih.add overlay fun lists => fresh ?_
        simpa using (ih.covers _).mpr lists

/-- No package that is joined meets a panic of the store; its lookup may fail. -/
def Answers (store : StoreView) (packages : List PackageMeta) : Prop :=
  ∀ package ∈ packages, package.isResourceOverlay = false →
    ∀ text, store.lookup package.packageName package.uid ≠ .panicked text

/-- The records of the packages over the store: one of each identity that a package has which is no overlay, made of the first such
package, and with the answer of the store for it. -/
structure Joins (store : StoreView) (packages : List PackageMeta) (records : List AppRecord) : Prop where
  once : (records.map (·.identity)).Nodup
  covers : ∀ identity, identity ∈ records.map (·.identity) ↔
    ∃ package ∈ packages, package.isResourceOverlay = false ∧ package.identity = identity
  first : ∀ record ∈ records, packages[firstPlace packages record.identity]? = some record.package
  ordered : (records.map fun record => firstPlace packages record.identity).Pairwise (· < ·)
  made : ∀ record ∈ records, record = .ofPackage record.package record.profile
  found : ∀ record ∈ records, ∀ profile,
    store.lookup record.package.packageName record.package.uid = .done profile → record.profile = profile
  failed : ∀ record ∈ records, ∀ failure,
    store.lookup record.package.packageName record.package.uid = .failed failure → record.profile = none

theorem joins_recordOf (store : StoreView) (packages : List PackageMeta) :
    Joins store packages ((distinctPackages packages).map (recordOf store)) := by
  have firsts := firsts_distinctPackages packages
  have identities : ((distinctPackages packages).map (recordOf store)).map (·.identity) =
      (distinctPackages packages).map (·.identity) := by simp [recordOf,AppRecord.ofPackage]
  have places : ((distinctPackages packages).map (recordOf store)).map (fun record => firstPlace packages record.identity) =
      (distinctPackages packages).map fun package => firstPlace packages package.identity := by
    simp [recordOf,AppRecord.ofPackage]
  refine ⟨?_,?_,?_,?_,?_,?_,?_⟩
  · rw [identities]
    exact distinctPackages_distinct packages
  · intro identity
    rw [identities]
    exact firsts.covers identity
  · intro record member
    obtain ⟨package,inside,rfl⟩ := List.mem_map.mp member
    exact firsts.first package inside
  · rw [places]
    exact firsts.ordered
  all_goals
    intro record member
    obtain ⟨package,inside,rfl⟩ := List.mem_map.mp member
  · rfl
  · intro profile found
    change store.lookup package.packageName package.uid = _ at found
    change shownProfile store package.packageName package.uid = profile
    rw [shownProfile,found]
  · intro failure failed
    change store.lookup package.packageName package.uid = _ at failed
    change shownProfile store package.packageName package.uid = none
    rw [shownProfile,failed]

/-- What one store or another makes of a package: only the profile may differ, and it does not where they answer alike. -/
structure Beside (store other : StoreView) (record record' : AppRecord) : Prop where
  package : record'.package = record.package
  alike : other.lookup record.packageName record.uid = store.lookup record.packageName record.uid → record' = record

theorem forall₂_beside (store other : StoreView) (packages : List PackageMeta) :
    List.Forall₂ (Beside store other) (packages.map (recordOf store)) (packages.map (recordOf other)) := by
  refine List.forall₂_map_left_iff.mpr (List.forall₂_map_right_iff.mpr (List.forall₂_same.mpr fun package _ => ⟨rfl,?_⟩))
  intro alike
  change other.lookup package.packageName package.uid = store.lookup package.packageName package.uid at alike
  rw [recordOf,recordOf,shownProfile,shownProfile,alike]

theorem distinctPackages_without_overlay {overlay : PackageMeta} (is_overlay : overlay.isResourceOverlay = true)
    (before after : List PackageMeta) : distinctPackages (before ++ overlay :: after) = distinctPackages (before ++ after) := by
  simp [distinctPackages,is_overlay]

/-- Packages are joined whatever failures the store answers with. An overlay makes no difference wherever it is listed, and what the
store answers for one package makes a difference to no other. -/
theorem joinProfiles_joins (store : StoreView) (packages : List PackageMeta) (answers : Answers store packages) :
    ∃ records, joinProfiles store packages = .done records ∧ Joins store packages records ∧
      (∀ before overlay after, packages = before ++ after → overlay.isResourceOverlay = true →
        joinProfiles store (before ++ overlay :: after) = .done records) ∧
      ∀ other, Answers other packages → ∃ records', joinProfiles other packages = .done records' ∧
        List.Forall₂ (Beside store other) records records' := by
  have joined (any : StoreView) (ready : Answers any packages) :
      joinProfiles any packages = .done ((distinctPackages packages).map (recordOf any)) := by
    refine (joinProfiles_done_iff ..).mpr ⟨fun package member => ?_,rfl⟩
    obtain ⟨listed,plain⟩ := mem_of_mem_distinctPackages member
    exact ready package listed plain
  refine ⟨_,joined store answers,joins_recordOf store packages,?_,?_⟩
  · rintro before overlay after rfl is_overlay
    rw [joinProfiles,distinctPackages_without_overlay is_overlay]
    exact joined store answers
  · intro other ready
    exact ⟨_,joined other ready,forall₂_beside store other _⟩

/-- An app listed as an overlay first, then twice as itself, and another one; the store knows the app and fails for the other. -/
def mixedPackages : List PackageMeta :=
  [⟨"app",10001,none,.resourceOverlay,none,none⟩,⟨"app",10001,some "First",{},none,none⟩,⟨"lib",10002,none,{},none,none⟩,
    ⟨"app",10001,some "Second",{},none,none⟩]

def failingStore : StoreView := ProfileStore.view ⟨[{ name := "app", currentUid := 10001, allowSu := true }],[]⟩ ["lib"]

theorem joinProfiles_joins_mixed : Answers failingStore mixedPackages ∧
    joinProfiles failingStore mixedPackages = .done
      [⟨"First",⟨"app",10001⟩,⟨"app",10001,some "First",{},none,none⟩,some { name := "app", currentUid := 10001, allowSu := true }⟩,
        ⟨"lib",⟨"lib",10002⟩,⟨"lib",10002,none,{},none,none⟩,none⟩] ∧
    ∃ records, joinProfiles failingStore mixedPackages = .done records ∧ Joins failingStore mixedPackages records := by
  have answers : Answers failingStore mixedPackages := by
    simp [Answers,mixedPackages,failingStore,ProfileStore.view]
  obtain ⟨records,joined,joins,-⟩ := joinProfiles_joins failingStore mixedPackages answers
  exact ⟨answers,by decide,records,joined,joins⟩

end AppGrants.Catalog
