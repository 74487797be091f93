import AppGrants.ProfileStore

/-! A store in memory answers for every key with the profile that was set last under it, unless that was removed since. -/
namespace AppGrants

/-- A change of a store in memory. -/
inductive Edit where
  | set (profile : Profile)
  | remove (packageName : String) (uid : Uid)
  | setUnmount (uid : Uid) (value : Bool)
deriving DecidableEq

/-- The profile that was set last under a key and not removed since, the latest edit first. -/
def latest (packageName : String) (uid : Uid) : List Edit → Option Profile
  | [] => none
  | .set profile :: older =>
    if profile.name = packageName ∧ profile.currentUid = uid then some profile else latest packageName uid older
  | .remove name owner :: older => if name = packageName ∧ owner = uid then none else latest packageName uid older
  | .setUnmount _ _ :: older => latest packageName uid older

theorem own_of_latest {packageName : String} {uid : Uid} {edits : List Edit} {profile : Profile}
    (found : latest packageName uid edits = some profile) : profile.name = packageName ∧ profile.currentUid = uid := by
  induction edits with
  | nil => cases found
  | cons edit older ih =>
    cases edit with
    | set other =>
      rw [latest] at found
      split at found
      next own =>
        cases found
        exact own
      · exact ih found
    | remove name owner =>
      rw [latest] at found
      split at found
      · cases found
      · exact ih found
    | setUnmount => exact ih found

/-- The edits that an export stands for, in their order. -/
def ProfileExport.edits (exported : ProfileExport) : List Edit :=
  exported.profiles.map .set ++ exported.unmountUids.map (.setUnmount · true)

namespace ProfileStore
variable {store : ProfileStore} {packageName : String} {uid : Uid}

def edit (store : ProfileStore) : Edit → ProfileStore
  | .set profile => store.insert profile
  | .remove packageName uid => store.erase packageName uid
  | .setUnmount uid value => store.setUnmount uid value

def editAll (store : ProfileStore) (edits : List Edit) : ProfileStore := edits.foldl edit store

theorem ofExport_eq (exported : ProfileExport) : ofExport exported = editAll {} exported.edits := by
  rw [editAll,ProfileExport.edits,List.foldl_append,List.foldl_map,List.foldl_map]
  rfl

theorem holds_iff {profile : Profile} :
    holds packageName uid profile = true ↔ profile.name = packageName ∧ profile.currentUid = uid := by
  simp [holds]

theorem get?_erase (name : String) (owner : Uid) : (store.erase name owner).get? packageName uid =
    if name = packageName ∧ owner = uid then none else store.get? packageName uid := by
  unfold erase get?
  rw [List.find?_filter]
  split
  next same =>
    obtain ⟨rfl,rfl⟩ := same
    rw [List.find?_eq_none]
    simp
  next apart =>
    -- What is under another key is not erased.
    have kept : (fun profile => decide ((!holds name owner profile) = true ∧ holds packageName uid profile = true)) =
        holds packageName uid := by
      funext profile
      cases held : holds packageName uid profile with
      | false => simp
      | true =>
        obtain ⟨rfl,rfl⟩ := holds_iff.mp held
        have other : holds name owner profile = false := by
          rw [Bool.eq_false_iff,ne_eq,holds_iff]
          exact fun same => apart ⟨same.1.symm,same.2.symm⟩
        simp [other]
    rw [kept]

theorem get?_insert (profile : Profile) : (store.insert profile).get? packageName uid =
    if profile.name = packageName ∧ profile.currentUid = uid then some profile else store.get? packageName uid := by
  have others : (store.erase _ _).get? packageName uid = _ := get?_erase profile.name profile.currentUid
  unfold insert get? at *
  split
  next own => exact List.find?_cons_of_pos (holds_iff.mpr own)
  next apart =>
    rw [List.find?_cons_of_neg (fun held => apart (holds_iff.mp held)),others,if_neg apart]

/-- For every key the store has what was set last and not removed since. -/
def Holds (store : ProfileStore) (edits : List Edit) : Prop :=
  ∀ packageName uid, store.get? packageName uid = latest packageName uid edits

theorem Holds.edit {edits : List Edit} (holds : store.Holds edits) (edit : Edit) : (store.edit edit).Holds (edit :: edits) := by
  intro packageName uid
  have before := holds packageName uid
  cases edit with
  | set profile => rw [ProfileStore.edit,get?_insert,latest,before]
  | remove name owner => rw [ProfileStore.edit,get?_erase,latest,before]
  | setUnmount => exact before

theorem Holds.editAll {edits : List Edit} (holds : store.Holds edits) (more : List Edit) :
    (store.editAll more).Holds (more.reverse ++ edits) := by
  induction more generalizing store edits with
  | nil => exact holds
  | cons edit rest ih =>
    rw [List.reverse_cons,List.append_assoc]
    exact ih (holds.edit edit)

theorem holds_ofExport (exported : ProfileExport) : (ofExport exported).Holds exported.edits.reverse := by
  have empty : ProfileStore.Holds {} [] := fun _ _ => rfl
  rw [ofExport_eq,← List.append_nil exported.edits.reverse]
  exact empty.editAll exported.edits

end ProfileStore
end AppGrants
