import AppGrants.Catalog.Records
import Mathlib.Data.List.Nodup

/-! What joining and reloading profiles make of packages and records: one record for each distinct package, in their order,
with the profile that the store has for it. -/
namespace AppGrants

theorem Ending.forAll_map {ε α β γ : Type} (f : β → Ending ε γ) (g : α → β) (items : List α) :
    Ending.forAll f (items.map g) = Ending.forAll (fun item => f (g item)) items := by
  induction items with
  | nil => rfl
  | cons item rest ih => rw [List.map_cons,forAll,forAll,ih]

theorem Ending.forAll_of_done {ε α β : Type} {f : α → Ending ε β} {g : α → β} {items : List α}
    (done : ∀ item ∈ items, f item = .done (g item)) : Ending.forAll f items = .done (items.map g) := by
  induction items with
  | nil => rfl
  | cons item rest ih =>
    obtain ⟨first,others⟩ := List.forall_mem_cons.mp done
    rw [forAll,first,bind,ih others,map,List.map_cons]

/-- Work on a list ends well exactly if it does so for each item. -/
theorem Ending.forAll_done_iff {ε α β : Type} (f : α → Ending ε β) (g : α → β)
    (value_of : ∀ item value, f item = .done value → value = g item) (items : List α) (values : List β) :
    Ending.forAll f items = .done values ↔ (∀ item ∈ items, f item = .done (g item)) ∧ values = items.map g := by
  induction items generalizing values with
  | nil => simp [Ending.forAll,eq_comm]
  | cons item rest ih =>
    cases computed : f item with
    | failed | panicked => simp [Ending.forAll,Ending.bind,computed]
    | done value =>
      have same := value_of item value computed
      subst same
      cases others : Ending.forAll f rest with
      | done found =>
        obtain ⟨all,rfl⟩ := (ih found).mp others
        simp only [Ending.forAll,Ending.bind,Ending.map,computed,others,Ending.done.injEq,List.mem_cons,forall_eq_or_imp,
          List.map_cons,true_and]
        exact ⟨fun equal => ⟨all,equal.symm⟩,fun both => both.2.symm⟩
      | failed | panicked =>
        have never : ¬∀ item ∈ rest, f item = .done (g item) := by
          intro all
          simpa [others] using (ih (rest.map g)).mpr ⟨all,rfl⟩
        simp [Ending.forAll,Ending.bind,Ending.map,computed,others,never]

/-- A job that ended well has its value from the work itself. -/
theorem onPool_ok_iff {α : Type} (label : String) (outcome : Outcome α) (value : α) :
    onPool label outcome = .ok value ↔ outcome = .done value := by
  cases outcome <;> simp [onPool,JobEnd.result]

namespace Catalog

/-- The profile that is shown of a package in this store: none where the lookup fails. -/
def shownProfile (store : StoreView) (packageName : String) (uid : Uid) : Option Profile :=
  match store.lookup packageName uid with
  | .done profile => profile
  | _ => none

def recordOf (store : StoreView) (package : PackageMeta) : AppRecord :=
  .ofPackage package (shownProfile store package.packageName package.uid)

def reread (store : StoreView) (record : AppRecord) : AppRecord :=
  record.withProfile (shownProfile store record.packageName record.uid)

theorem shownProfile_of_done {store : StoreView} {packageName : String} {uid : Uid} {profile : Option Profile}
    (found : profileFor store packageName uid = .done profile) : profile = shownProfile store packageName uid := by
  unfold profileFor at found
  unfold shownProfile
  split at found <;> simp_all

theorem profileFor_of_readable {store : StoreView} {packageName : String} {uid : Uid}
    (readable : ∀ text, store.lookup packageName uid ≠ .panicked text) :
    profileFor store packageName uid = .done (shownProfile store packageName uid) := by
  unfold profileFor shownProfile
  cases found : store.lookup packageName uid <;> simp_all

private theorem lookedUp_value {α : Type} (store : StoreView) (packageName : String) (uid : Uid)
    (make : Option Profile → α) (value : α)
    (made : (profileFor store packageName uid).map make = .done value) :
    value = make (shownProfile store packageName uid) := by
  cases found : profileFor store packageName uid with
  | done profile =>
    rw [found] at made
    rw [← shownProfile_of_done found]
    exact (Ending.done.inj made).symm
  | failed | panicked => simp [found,Ending.map] at made

private theorem lookedUp_done_iff {α : Type} (store : StoreView) (packageName : String) (uid : Uid)
    (make : Option Profile → α) :
    (profileFor store packageName uid).map make = .done (make (shownProfile store packageName uid)) ↔
      ∀ text, store.lookup packageName uid ≠ .panicked text := by
  unfold profileFor shownProfile
  cases store.lookup packageName uid <;> simp [Ending.map]

theorem joinProfiles_done_iff (store : StoreView) (packages : List PackageMeta) (records : List AppRecord) :
    joinProfiles store packages = .done records ↔
      (∀ package ∈ distinctPackages packages, ∀ text, store.lookup package.packageName package.uid ≠ .panicked text) ∧
        records = (distinctPackages packages).map (recordOf store) := by
  unfold joinProfiles
  rw [Ending.forAll_done_iff _ (recordOf store) (fun package => lookedUp_value store _ _ (AppRecord.ofPackage package))]
  simp only [recordOf,lookedUp_done_iff]

theorem reloadProfiles_done_iff (store : StoreView) (before after : List AppRecord) :
    reloadProfiles store before = .done after ↔
      (∀ record ∈ before, ∀ text, store.lookup record.packageName record.uid ≠ .panicked text) ∧
        after = before.map (reread store) := by
  unfold reloadProfiles
  rw [Ending.forAll_done_iff _ (reread store) (fun record => lookedUp_value store _ _ record.withProfile)]
  simp only [reread,lookedUp_done_iff]

@[simp] theorem reread_identity (store : StoreView) (record : AppRecord) :
    (reread store record).identity = record.identity := rfl

theorem reread_reread (store : StoreView) (record : AppRecord) : reread store (reread store record) = reread store record := rfl

theorem reread_recordOf (earlier store : StoreView) (package : PackageMeta) :
    reread store (recordOf earlier package) = recordOf store package := rfl

/-- Reloading what was joined is the same as joining against the other store. -/
theorem joinProfiles_of_reload {earlier store : StoreView} {packages : List PackageMeta} {before after : List AppRecord}
    (joined : joinProfiles earlier packages = .done before) (reloaded : reloadProfiles store before = .done after) :
    joinProfiles store packages = .done after := by
  obtain ⟨-,rfl⟩ := (joinProfiles_done_iff ..).mp joined
  obtain ⟨readable,rfl⟩ := (reloadProfiles_done_iff ..).mp reloaded
  refine (joinProfiles_done_iff ..).mpr ⟨?_,?_⟩
  · intro package member
    exact readable (recordOf earlier package) (List.mem_map_of_mem member)
  · simp [reread_recordOf]

theorem mem_keepNew {kept : List PackageMeta} {package other : PackageMeta}
    (member : other ∈ keepNew kept package) : other ∈ kept ∨ other = package := by
  unfold keepNew at member
  split at member
  · exact .inl member
  · simpa using member

theorem mem_of_mem_distinctPackages {packages : List PackageMeta} {package : PackageMeta}
    (member : package ∈ distinctPackages packages) : package ∈ packages ∧ package.isResourceOverlay = false := by
  have listed (rest held : List PackageMeta) (inside : package ∈ rest.foldl keepNew held) :
      package ∈ held ∨ package ∈ rest := by
    induction rest generalizing held with
    | nil => exact .inl inside
    | cons first rest ih =>
      rcases ih _ inside with early | late
      · rcases mem_keepNew early with old | rfl
        · exact .inl old
        · exact .inr (by simp)
      · exact .inr (List.mem_cons_of_mem _ late)
  have inside := (listed _ [] member).resolve_left (by simp)
  simpa using List.mem_filter.mp inside

/-- Reading the profiles of joined records again makes of them what joining would, whatever there was to read before. -/
theorem bind_reloadProfiles {earlier : StoreView} {packages : List PackageMeta}
    (readable : ∀ package ∈ packages, ∀ text, earlier.lookup package.packageName package.uid ≠ .panicked text)
    (later : StoreView) : (joinProfiles earlier packages).bind (reloadProfiles later) = joinProfiles later packages := by
  have joined : joinProfiles earlier packages = .done ((distinctPackages packages).map (recordOf earlier)) :=
    (joinProfiles_done_iff ..).mpr ⟨fun package member => readable package (mem_of_mem_distinctPackages member).1,rfl⟩
  rw [joined,Ending.bind,reloadProfiles,Ending.forAll_map]
  rfl

private theorem keepNew_distinct (kept : List PackageMeta) (package : PackageMeta)
    (distinct : (kept.map (·.identity)).Nodup) : ((keepNew kept package).map (·.identity)).Nodup := by
  unfold keepNew
  split
  · exact distinct
  next fresh =>
    have absent : package.identity ∉ kept.map (·.identity) := by simpa using fresh
    rw [List.map_append]
    exact distinct.append (by simp) (by simpa using absent)

theorem distinctPackages_distinct (packages : List PackageMeta) :
    ((distinctPackages packages).map (·.identity)).Nodup := by
  have kept (rest held : List PackageMeta) (distinct : (held.map (·.identity)).Nodup) :
      ((rest.foldl keepNew held).map (·.identity)).Nodup := by
    induction rest generalizing held with
    | nil => exact distinct
    | cons package rest ih => exact ih _ (keepNew_distinct held package distinct)
  exact kept _ [] (by simp)

theorem distinctPackages_no_overlay {packages : List PackageMeta} {package : PackageMeta}
    (member : package ∈ distinctPackages packages) : package.isResourceOverlay = false :=
  (mem_of_mem_distinctPackages member).2

end Catalog
end AppGrants
