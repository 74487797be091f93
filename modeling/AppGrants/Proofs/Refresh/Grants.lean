import AppGrants.Proofs.Catalog.Storing
import AppGrants.Proofs.Refresh.Coherence

/-! Whose profile is shown. A catalog runs over a store in memory that is edited at any time, even between two lookups of one
refresh. What it shows of an app is the app's own profile, and of all records the one that was set last when it was looked up. -/
namespace AppGrants.Refresh
open Catalog

/-- An event that has nothing to do with the store. -/
def Event.isApart : Event → Bool
  | .storeChange _ | .looked _ => false
  | _ => true

/-- What happens to a catalog over a store in memory. While a refresh looks profiles up, edits are made; each identity is looked up
after as many of them as `before` says. -/
inductive Happening where
  | edit (edit : Edit)
  | read (task : Nat) (edits : List Edit) (before : PackageIdentity → Nat)
  | event (event : Event) (apart : event.isApart = true)

/-- The edits that had been made when each identity was looked up, the latest first. -/
abbrev Moment := PackageIdentity → List Edit

/-- A catalog over a store in memory, with all edits of the store, the moments when refreshes read it, both the latest first, and
the moment at which the refresh that published last had read it. -/
structure Kept where
  watched : Watched
  store : ProfileStore
  edits : List Edit
  readings : List (Nat × Moment) := []
  shown : Option Moment := none

namespace Kept

def start (filters : Filters) (exported : ProfileExport) : Kept where
  watched := ⟨.start filters ((ProfileStore.ofExport exported).view []),[]⟩
  store := .ofExport exported
  edits := exported.edits.reverse

def snapshot (kept : Kept) : Snapshot := kept.watched.engine.snapshot

/-- A store that is edited while it is read has for each key what it had when that was asked for. -/
def passing (store : ProfileStore) (edits : List Edit) (before : PackageIdentity → Nat) : StoreView where
  lookup packageName uid := .done ((store.editAll (edits.take (before ⟨packageName,uid⟩))).get? packageName uid)
  shouldUnmount := store.shouldUnmount

def apply (rules : Rules) (kept : Kept) : Happening → Kept
  | .edit edit =>
    let store := kept.store.edit edit
    { kept with watched := kept.watched.apply rules (.storeChange (store.view [])), store, edits := edit :: kept.edits }
  | .read task edits before =>
    let store := kept.store.editAll edits
    let reading := kept.watched.apply rules (.storeChange (passing kept.store edits before))
    let moment : Moment := fun identity => (edits.take (before identity)).reverse ++ kept.edits
    { kept with
      watched := (reading.apply rules (.looked task)).apply rules (.storeChange (store.view []))
      store
      edits := edits.reverse ++ kept.edits
      readings := if (reading.engine.deed? (.looked task)).isSome then (task,moment) :: kept.readings else kept.readings }
  | .event event _ =>
    { kept with
      watched := kept.watched.apply rules event
      shown := match (kept.watched.engine.deed? event).bind Deed.renewer? with
        | some task => kept.readings.lookup task
        | none => kept.shown }

def run (rules : Rules) (kept : Kept) (happenings : List Happening) : Kept := happenings.foldl (apply rules) kept

end Kept

/-- The view answers for each key with what was set last in the edits made by then. -/
def Tells (moment : Moment) (view : StoreView) : Prop :=
  ∀ packageName uid, view.lookup packageName uid = .done (latest packageName uid (moment ⟨packageName,uid⟩))

theorem tells_passing {store : ProfileStore} {made : List Edit} (holds : store.Holds made) (edits : List Edit)
    (before : PackageIdentity → Nat) :
    Tells (fun identity => (edits.take (before identity)).reverse ++ made) (Kept.passing store edits before) :=
  fun packageName uid => congrArg Ending.done (holds.editAll _ packageName uid)

section
variable {deed : Deed} {engine : Engine} {task : Nat} {older : List Entry}

theorem lookedBy_of_other (other : ∀ reader, deed ≠ .looked reader) :
    lookedBy task (⟨deed,engine⟩ :: older) = lookedBy task older := by
  cases deed with
  | looked reader => exact absurd rfl (other reader)
  | _ => rfl

theorem shownStore_renewed (renews : deed.renewer? = some task) :
    shownStore (⟨deed,engine⟩ :: older) = lookedBy task older := by
  cases deed <;> cases renews <;> rfl

end

namespace Kept
variable {rules : Rules} {kept : Kept}

/-- The store has what was set last, the history tells of it what the edits do, and what is published is coherent. -/
structure Sound (rules : Rules) (kept : Kept) : Prop where
  watched : kept.watched.Sound
  coherent : kept.watched.engine.feed.Coherent rules
  holds : kept.store.Holds kept.edits
  readings : ∀ task, Option.Rel Tells (kept.readings.lookup task) (lookedBy task kept.watched.history)
  shown : Option.Rel Tells kept.shown (shownStore kept.watched.history)

theorem Sound.start (filters : Filters) (exported : ProfileExport) : (start filters exported).Sound rules where
  watched := .start filters _
  coherent := .start filters
  holds := ProfileStore.holds_ofExport exported
  readings _ := .none
  shown := .none

end Kept

theorem Watched.Sound.apply {rules : Rules} {watched : Watched} (sound : watched.Sound)
    (coherent : watched.engine.feed.Coherent rules) (event : Event) :
    (watched.apply rules event).Sound ∧ (watched.apply rules event).engine.feed.Coherent rules := by
  have step := watched.engine.apply_step rules event
  exact ⟨sound.step step,sound.coherent coherent step⟩

namespace Kept
variable {rules : Rules} {kept : Kept}

theorem Sound.event (sound : kept.Sound rules) {event : Event} (apart : event.isApart = true) :
    (kept.apply rules (.event event apart)).Sound rules := by
  obtain ⟨watched,coherent⟩ := sound.watched.apply sound.coherent event
  have unread (deed : Deed) (done : kept.watched.engine.deed? event = some deed) (reader : Nat) : deed ≠ .looked reader := by
    rintro rfl
    cases Engine.does_of_deed? done
    cases apart
  refine ⟨watched,coherent,sound.holds,?_,?_⟩
  · intro task
    change Option.Rel Tells (kept.readings.lookup task) (lookedBy task (kept.watched.apply rules event).history)
    rw [Watched.apply,Watched.followed]
    cases done : kept.watched.engine.deed? event with
    | none => exact sound.readings task
    | some deed =>
      simp only [Option.map_some,Option.toList_some,List.singleton_append]
      rw [lookedBy_of_other (unread deed done)]
      exact sound.readings task
  · change Option.Rel Tells (match (kept.watched.engine.deed? event).bind Deed.renewer? with
      | some task => kept.readings.lookup task
      | none => kept.shown) (shownStore (kept.watched.apply rules event).history)
    rw [Watched.apply,Watched.followed]
    cases done : kept.watched.engine.deed? event with
    | none => exact sound.shown
    | some deed =>
      simp only [Option.map_some,Option.toList_some,List.singleton_append,Option.bind_some]
      cases renews : deed.renewer? with
      | none =>
        rw [shownStore_cons renews]
        exact sound.shown
      | some task =>
        rw [shownStore_renewed renews]
        exact sound.readings task

theorem Sound.edit (sound : kept.Sound rules) (edit : Edit) : (kept.apply rules (.edit edit)).Sound rules := by
  obtain ⟨watched,coherent⟩ := sound.watched.apply sound.coherent (.storeChange ((kept.store.edit edit).view []))
  exact ⟨watched,coherent,sound.holds.edit edit,sound.readings,sound.shown⟩

/-- The deed of looking profiles up, where a refresh does look them up. -/
theorem deed?_looked (engine : Engine) (task : Nat) :
    engine.deed? (.looked task) = none ∨ engine.deed? (.looked task) = some (.looked task) := by
  cases done : engine.deed? (.looked task) with
  | none => exact .inl rfl
  | some deed =>
    cases Engine.does_of_deed? done
    exact .inr rfl

theorem Sound.read (sound : kept.Sound rules) (task : Nat) (edits : List Edit) (before : PackageIdentity → Nat) :
    (kept.apply rules (.read task edits before)).Sound rules := by
  have changed := sound.watched.apply sound.coherent (.storeChange (passing kept.store edits before))
  have looked := changed.1.apply changed.2 (.looked task)
  have settled := looked.1.apply looked.2 (.storeChange ((kept.store.editAll edits).view []))
  let reading := kept.watched.apply rules (.storeChange (passing kept.store edits before))
  let moment : Moment := fun identity => (edits.take (before identity)).reverse ++ kept.edits
  have history : (kept.apply rules (.read task edits before)).watched.history =
      ((reading.engine.deed? (.looked task)).map fun deed => ⟨deed,reading.engine⟩).toList ++ kept.watched.history := rfl
  have readings : (kept.apply rules (.read task edits before)).readings =
      if (reading.engine.deed? (.looked task)).isSome then (task,moment) :: kept.readings else kept.readings := rfl
  refine ⟨settled.1,settled.2,sound.holds.editAll edits,?_,?_⟩
  · intro reader
    rw [history,readings]
    rcases deed?_looked reading.engine task with none_looked | done
    · rw [none_looked]
      exact sound.readings reader
    · rw [done,Option.isSome_some,if_pos rfl,Option.map_some,Option.toList_some,List.singleton_append,lookedBy,List.lookup_cons]
      by_cases own : task = reader
      · subst own
        rw [if_pos rfl,beq_self_eq_true]
        exact .some (tells_passing sound.holds edits before)
      · rw [if_neg own,beq_false_of_ne (Ne.symm own)]
        exact sound.readings reader
  · rw [history]
    rcases deed?_looked reading.engine task with none_looked | done
    · rw [none_looked]
      exact sound.shown
    · rw [done,Option.map_some,Option.toList_some,List.singleton_append,shownStore_cons rfl]
      exact sound.shown

theorem run_sound (rules : Rules) (filters : Filters) (exported : ProfileExport) (happenings : List Happening) :
    ((start filters exported).run rules happenings).Sound rules := by
  have kept (origin : Kept) (sound : origin.Sound rules) : (origin.run rules happenings).Sound rules := by
    unfold run
    induction happenings generalizing origin with
    | nil => exact sound
    | cons happening rest ih =>
      refine ih _ ?_
      cases happening with
      | edit edit => exact sound.edit edit
      | read task edits before => exact sound.read task edits before
      | event event apart => exact sound.event apart
  exact kept _ (.start filters exported)

end Kept

/-- The record is shown somewhere: in a list, as a member or the face of a group, or in what a search found. -/
def Shows (snapshot : Snapshot) (record : AppRecord) : Prop :=
  record ∈ snapshot.allRecords ∨ record ∈ snapshot.visibleRecords ∨ record ∈ snapshot.search.results ∨
    ∃ group ∈ snapshot.groups ++ snapshot.search.matchedGroups, record ∈ group.members ∨ record = group.primary

section
variable {pinyin : Text.Pinyin} {text : String} {visible : List AppRecord} {groups : List Group} {loading : Bool}

theorem mem_of_mem_results {record : AppRecord}
    (member : record ∈ (search pinyin text visible groups loading).results) : record ∈ visible := by
  unfold search at member
  dsimp only at member
  split at member
  · cases member
  · exact (List.mem_filter.mp member).1

theorem mem_of_mem_matchedGroups {group : Group}
    (member : group ∈ (search pinyin text visible groups loading).matchedGroups) : group ∈ groups := by
  unfold search at member
  dsimp only at member
  split at member
  · cases member
  · exact (List.mem_filter.mp member).1

end

section
variable {rules : Rules} {feed : Feed}

theorem mem_groups (coherent : feed.Coherent rules) {group : Group}
    (member : group ∈ feed.snapshot.groups ++ feed.snapshot.search.matchedGroups) : group ∈ feed.snapshot.groups := by
  rcases List.mem_append.mp member with shown | matched
  · exact shown
  · rw [coherent.search] at matched
    exact mem_of_mem_matchedGroups matched

/-- Every record that is shown is one of all records as they are. -/
theorem mem_allRecords (coherent : feed.Coherent rules) {record : AppRecord} (shows : Shows feed.snapshot record) :
    record ∈ feed.snapshot.allRecords := by
  have visible {record : AppRecord} (member : record ∈ feed.snapshot.visibleRecords) : record ∈ feed.snapshot.allRecords :=
    List.mem_of_find?_eq_some (coherent.views.current record member)
  rcases shows with all | listed | found | ⟨group,member,place⟩
  · exact all
  · exact visible listed
  · rw [coherent.search] at found
    exact visible (mem_of_mem_results found)
  · have shown := mem_groups coherent member
    refine visible (coherent.views.mem_visible shown ?_)
    rcases place with inside | rfl
    · exact inside
    · exact List.mem_of_mem_head? (coherent.views.consistent group shown).primary

end

/-- Wherever an app is shown, its profile is its own, and so is a root grant; all records have the profile that was set last, and
not removed since, when the refresh that published last looked it up. -/
structure GrantsOwned (kept : Kept) : Prop where
  owned : ∀ record, Shows kept.snapshot record → ∀ profile ∈ record.profile,
    profile.name = record.packageName ∧ profile.currentUid = record.uid
  granted : ∀ group ∈ kept.snapshot.groups ++ kept.snapshot.search.matchedGroups, group.anyAllowsRoot = true →
    ∃ member ∈ group.members, ∃ profile, member.profile = some profile ∧ profile.allowSu = true ∧
      profile.name = member.packageName ∧ profile.currentUid = group.uid
  newest : ∀ record ∈ kept.snapshot.allRecords, ∃ moment, kept.shown = some moment ∧
    record.profile = latest record.packageName record.uid (moment record.identity)

namespace Kept
variable {rules : Rules} {kept : Kept}

theorem Sound.newest (sound : kept.Sound rules) {record : AppRecord} (member : record ∈ kept.snapshot.allRecords) :
    ∃ moment, kept.shown = some moment ∧ record.profile = latest record.packageName record.uid (moment record.identity) := by
  have told := sound.shown
  obtain ⟨view,found,looked⟩ := Shown.profiles sound.watched.shown record member
  rw [found] at told
  cases shown : kept.shown with
  | none =>
    rw [shown] at told
    cases told
  | some moment =>
    rw [shown] at told
    cases told with
    | some tells =>
      have answer := tells record.packageName record.uid
      rw [profileFor,answer] at looked
      exact ⟨moment,rfl,(Ending.done.inj looked).symm⟩

theorem Sound.owned (sound : kept.Sound rules) {record : AppRecord} (shows : Shows kept.snapshot record) {profile : Profile}
    (has : record.profile = some profile) : profile.name = record.packageName ∧ profile.currentUid = record.uid := by
  obtain ⟨moment,-,newest⟩ := sound.newest (mem_allRecords sound.coherent shows)
  exact own_of_latest (newest.symm.trans has)

end Kept

/-- After any edits of the store and whatever else happens, whichever export the store began with. -/
theorem run_grants_owned (rules : Rules) (filters : Filters) (exported : ProfileExport) (happenings : List Happening) :
    GrantsOwned ((Kept.start filters exported).run rules happenings) := by
  have sound := Kept.run_sound rules filters exported happenings
  refine ⟨fun record shows profile has => sound.owned shows has,?_,fun record member => sound.newest member⟩
  intro group member rooted
  have consistent := sound.coherent.views.consistent group (mem_groups sound.coherent member)
  obtain ⟨record,inside,allows⟩ := List.any_eq_true.mp (consistent.root.symm.trans rooted)
  have shows : Shows _ record := .inr (.inr (.inr ⟨group,member,.inl inside⟩))
  rw [AppRecord.allowsRoot,Option.any_eq_true] at allows
  obtain ⟨profile,has,grants⟩ := allows
  obtain ⟨name,owner⟩ := sound.owned shows has
  exact ⟨record,inside,profile,has,grants,name,owner.trans (consistent.uid record inside)⟩

end AppGrants.Refresh
