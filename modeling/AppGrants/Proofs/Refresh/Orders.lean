import AppGrants.Proofs.Refresh.Views
import Mathlib.Data.Set.List

/-! In which order settings are made and a refresh publishes does not matter, as long as each setting is made once. What
counts for the next publications is a view of the feed, and each of them edits it. -/
namespace AppGrants.Refresh
open Catalog

inductive Setting where
  | systemApps
  | onlyPrimaryUser
  | searchText
  | mark
deriving DecidableEq

def settingOf : Change → Setting
  | .showSystemApps _ => .systemApps
  | .showOnlyPrimaryUserApps _ => .onlyPrimaryUser
  | .searchText _ => .searchText
  | .markNeedsRefresh => .mark

/-- What is published, but for the count of snapshots and the marks. -/
structure View where
  filters : Filters
  searchText : String
  allRecords : List AppRecord
  visibleRecords : List AppRecord
  groups : List Group
  liveUserIds : List Int32
  isRefreshing : Bool

def viewOf (feed : Feed) : View :=
  ⟨feed.filters,feed.searchText,feed.snapshot.allRecords,feed.snapshot.visibleRecords,feed.snapshot.groups,
    feed.snapshot.liveUserIds,feed.snapshot.isRefreshing⟩

/-- What a refresh publishes. -/
inductive Edit where
  | keep
  | refreshing (value : Bool)
  | complete (users : List Int32) (records : List AppRecord)
  | reload (records : List AppRecord)
  | patch (before after : List AppRecord)

namespace View
variable (rules : Rules) (shouldUnmount : Uid → Bool)

def rebuilt (view : View) : View :=
  let visibleRecords := list view.filters rules.selfPackage rules.collation view.allRecords
  { view with visibleRecords, groups := group shouldUnmount rules.naming visibleRecords }

def change (view : View) : Change → View
  | .showSystemApps value => rebuilt rules shouldUnmount { view with filters.showSystemApps := value }
  | .showOnlyPrimaryUserApps value => rebuilt rules shouldUnmount { view with filters.showOnlyPrimaryUserApps := value }
  | .searchText text => { view with searchText := text }
  | .markNeedsRefresh => view

def edited (view : View) : Edit → View
  | .keep => view
  | .refreshing value => { view with isRefreshing := value }
  | .complete users records =>
    rebuilt rules shouldUnmount { view with allRecords := records, liveUserIds := users, isRefreshing := false }
  | .reload records => rebuilt rules shouldUnmount { view with allRecords := records }
  | .patch before after => { view with
      allRecords := after
      visibleRecords := ((changes before after).patchAll view.visibleRecords).1
      groups := ((changes before after).patchGroups view.groups).1 }

theorem change_change (view : View) (first second : Change) (apart : settingOf first ≠ settingOf second) :
    (view.change rules shouldUnmount first).change rules shouldUnmount second =
      (view.change rules shouldUnmount second).change rules shouldUnmount first := by
  cases first <;> cases second <;> first | rfl | exact absurd rfl apart

theorem change_edited (view : View) (edit : Edit) (setting : Change)
    (whole : (∀ before after, edit ≠ .patch before after) ∨ setting.refilters = false) :
    (view.change rules shouldUnmount setting).edited rules shouldUnmount edit =
      (view.edited rules shouldUnmount edit).change rules shouldUnmount setting := by
  cases edit with
  | keep | refreshing | complete | reload => cases setting <;> rfl
  | patch before after =>
    cases setting with
    | searchText | markNeedsRefresh => rfl
    | showSystemApps | showOnlyPrimaryUserApps => simp [Change.refilters] at whole

end View
/-- An event of a refresh, or one that changes nothing of what is published. -/
def Event.ofRefresh : Event → Bool
  | .change _ | .storeChange _ => false
  | _ => true

namespace Engine
variable (rules : Rules) (engine : Engine)

def resumeEdit : Phase → Edit
  | .admitted (.full ended) => if engine.fullsEnded ≠ ended then .keep else .refreshing true
  | .listed _ (.error _) | .joined _ _ (.error _) => .refreshing false
  | .joined _ users (.ok records) => .complete users records
  | .read _ true _ (.ok records) => .reload records
  | .read _ false before (.ok records) => .patch before records
  | _ => .keep

/-- What the event publishes; the feed has no say in it. -/
def edit : Event → Edit
  | .resume task => (engine.phases[task]?).elim .keep engine.resumeEdit
  | .cancel task => (engine.phases[task]?).elim .keep fun phase => if phase.isEnumerating then .refreshing false else .keep
  | _ => .keep

theorem viewOf_change (feed : Feed) (shouldUnmount : Uid → Bool) (change : Change) :
    viewOf (feed.change rules shouldUnmount change) = (viewOf feed).change rules shouldUnmount change := by
  cases change <;> rfl

theorem apply_edits (event : Event) (refreshes : event.ofRefresh = true) :
    viewOf (engine.apply rules event).feed =
      (viewOf engine.feed).edited rules engine.store.shouldUnmount (engine.edit event) ∧
    (engine.apply rules event).store = engine.store := by
  cases event with
  | change | storeChange => simp [Event.ofRefresh] at refreshes
  | elapse | call | trigger => exact ⟨rfl,rfl⟩
  | take task => simp only [apply]; split <;> exact ⟨rfl,rfl⟩
  | enumerated task outcome => simp only [apply]; split <;> exact ⟨rfl,rfl⟩
  | looked task =>
    simp only [apply]
    cases engine.phases[task]? with
    | none => exact ⟨rfl,rfl⟩
    | some phase => cases phase <;> exact ⟨rfl,rfl⟩
  | resume task =>
    simp only [apply,edit]
    cases engine.phases[task]? with
    | none => exact ⟨rfl,rfl⟩
    | some phase =>
      cases phase with
      | admitted aim =>
        cases aim with
        | full ended =>
          simp only [Option.elim_some,resume,begin,resumeEdit]
          split <;> exact ⟨rfl,rfl⟩
        | profiles =>
          simp only [Option.elim_some,resume,begin,resumeEdit]
          split <;> exact ⟨rfl,rfl⟩
      | listed since result => cases result <;> exact ⟨rfl,rfl⟩
      | joined since users result => cases result <;> exact ⟨rfl,rfl⟩
      | read since resort before result => cases result <;> cases resort <;> exact ⟨rfl,rfl⟩
      | _ => exact ⟨rfl,rfl⟩
  | cancel task =>
    simp only [apply,edit]
    cases engine.phases[task]? with
    | none => exact ⟨rfl,rfl⟩
    | some phase => cases phase <;> exact ⟨rfl,rfl⟩

theorem deed_of_patch {event : Event} {before after : List AppRecord} (patches : engine.edit event = .patch before after) :
    ∃ task, engine.deed? event = some (.reloaded task false) := by
  cases event with
  | resume task =>
    refine ⟨task,?_⟩
    simp only [edit] at patches
    simp only [deed?]
    cases found : engine.phases[task]? with
    | none => simp [found] at patches
    | some phase =>
      rw [found,Option.elim_some] at patches
      cases phase with
      | read since resort before result =>
        cases result <;> cases resort <;> simp [resumeEdit] at patches
        rfl
      | admitted aim =>
        cases aim <;> simp only [resumeEdit] at patches
        · split at patches <;> simp at patches
        · simp at patches
      | listed since result => cases result <;> simp [resumeEdit] at patches
      | joined since users result => cases result <;> simp [resumeEdit] at patches
      | _ => simp [resumeEdit] at patches
  | cancel task =>
    simp only [edit] at patches
    cases found : engine.phases[task]? with
    | none => simp [found] at patches
    | some phase =>
      rw [found,Option.elim_some] at patches
      split at patches <;> simp at patches
  | _ => simp [edit] at patches

theorem run_changes (settings : List Change) :
    engine.run rules (settings.map .change) =
      { engine with feed := settings.foldl (Feed.change rules engine.store.shouldUnmount) engine.feed } := by
  induction settings generalizing engine with
  | nil => rfl
  | cons first rest ih => exact ih (engine.apply rules (.change first))

theorem viewOf_run_changes (settings : List Change) :
    viewOf (engine.run rules (settings.map .change)).feed =
      settings.foldl (View.change rules engine.store.shouldUnmount) (viewOf engine.feed) := by
  induction settings generalizing engine with
  | nil => rfl
  | cons first rest ih =>
    rw [List.foldl_cons,← viewOf_change]
    exact ih (engine.apply rules (.change first))

theorem foldl_edited (shouldUnmount : Uid → Bool) (edit : Edit) (settings : List Change) (view : View)
    (whole : (∀ before after, edit ≠ .patch before after) ∨ ∀ setting ∈ settings, setting.refilters = false) :
    settings.foldl (View.change rules shouldUnmount) (view.edited rules shouldUnmount edit) =
      (settings.foldl (View.change rules shouldUnmount) view).edited rules shouldUnmount edit := by
  induction settings generalizing view with
  | nil => rfl
  | cons first rest ih =>
    rw [List.foldl_cons,List.foldl_cons,← View.change_edited _ _ _ _ _ (whole.imp_right fun each => each first (by simp))]
    exact ih _ (whole.imp_right fun each setting member => each setting (List.mem_cons_of_mem _ member))

/-- A refresh may as well publish after the settings as among them. -/
theorem viewOf_run_among (event : Event) (refreshes : event.ofRefresh = true) (before after : List Change)
    (whole : (∀ task, engine.deed? event ≠ some (.reloaded task false)) ∨ ∀ setting ∈ after, setting.refilters = false) :
    viewOf (engine.run rules (before.map .change ++ event :: after.map .change)).feed =
      ((before ++ after).foldl (View.change rules engine.store.shouldUnmount) (viewOf engine.feed)).edited rules
        engine.store.shouldUnmount (engine.edit event) := by
  have unpatched : (∀ first second, engine.edit event ≠ .patch first second) ∨
      ∀ setting ∈ after, setting.refilters = false :=
    whole.imp_left fun never first second patches => by
      obtain ⟨task,patching⟩ := engine.deed_of_patch patches
      exact never task patching
  have middle := run_changes rules engine before
  have viewed := viewOf_run_changes rules engine before
  rw [run,List.foldl_append,List.foldl_cons]
  change viewOf (((engine.run rules (before.map .change)).apply rules event).run rules (after.map .change)).feed = _
  obtain ⟨edited,kept⟩ := apply_edits rules (engine.run rules (before.map .change)) event refreshes
  have same : (engine.run rules (before.map .change)).edit event = engine.edit event := by
    rw [middle]
    cases event <;> rfl
  have store_eq : (engine.run rules (before.map .change)).store = engine.store := by rw [middle]
  rw [viewOf_run_changes,kept,edited,viewed,same,store_eq,foldl_edited rules _ _ _ _ unpatched,List.foldl_append]

theorem viewOf_run_order (event : Event) (refreshes : event.ofRefresh = true) (settings : List Change)
    (once : (settings.map settingOf).Nodup)
    (whole : (∀ task, engine.deed? event ≠ some (.reloaded task false)) ∨
      ∀ setting ∈ settings, setting.refilters = false)
    (order : List Event) (permuted : order.Perm (event :: settings.map .change)) :
    viewOf (engine.run rules order).feed =
      (settings.foldl (View.change rules engine.store.shouldUnmount) (viewOf engine.feed)).edited rules
        engine.store.shouldUnmount (engine.edit event) := by
  obtain ⟨earlier,later,rfl⟩ := List.append_of_mem (permuted.symm.subset List.mem_cons_self)
  have others : (earlier ++ later).Perm (settings.map .change) :=
    (List.perm_cons event).mp (List.perm_middle.symm.trans permuted)
  have all_changes : earlier ++ later ∈ Set.range (List.map Event.change) := by
    rw [Set.range_list_map]
    intro one member
    obtain ⟨setting,-,rfl⟩ := List.mem_map.mp (others.subset member)
    exact ⟨setting,rfl⟩
  obtain ⟨both,mapped⟩ := all_changes
  obtain ⟨before,after,rfl,rfl,rfl⟩ := List.map_eq_append_iff.mp mapped
  have same : (before ++ after).Perm settings := by
    have injective : Function.Injective Event.change := fun _ _ equal => Event.change.inj equal
    rw [← List.map_append] at others
    exact (List.map_perm_map_iff injective).mp others
  rw [viewOf_run_among rules engine event refreshes before after
    (whole.imp_right fun each setting member => each setting (same.subset (List.mem_append_right _ member)))]
  congr 1
  refine same.foldl_eq' (fun first inside second inside' view => ?_) _
  by_cases equal : first = second
  · rw [equal]
  · exact View.change_change rules _ view first second fun alike =>
      equal (List.inj_on_of_nodup_map once (same.subset inside) (same.subset inside') alike)

end Engine

/-- Two snapshots that show the same apps in the same way. -/
structure Alike (left right : Snapshot) : Prop where
  filters : left.filters = right.filters
  visibleRecords : left.visibleRecords = right.visibleRecords
  groups : left.groups = right.groups
  search : left.search = right.search
  liveUserIds : left.liveUserIds = right.liveUserIds

theorem alike_of_view {rules : Rules} {left right : Feed} (coherent : left.Coherent rules) (coherent' : right.Coherent rules)
    (same : viewOf left = viewOf right) : Alike left.snapshot right.snapshot := by
  simp only [viewOf,View.mk.injEq] at same
  obtain ⟨filters,text,records,visible,groups,users,refreshing⟩ := same
  refine ⟨?_,visible,groups,?_,users⟩
  · rw [coherent.filters,coherent'.filters,filters]
  · rw [coherent.search,coherent'.search,text,visible,groups,refreshing,records]

/-- At any point the filters are the ones set last, and unless profiles were patched since the views were made, these are
made of all records with those filters. From there a batch of settings and one event of a refresh may come in any order,
unless the event patches profiles and a setting decides what is visible. -/
theorem watch_views (rules : Rules) (filters : Filters) (store : StoreView) (events : List Event) :
    let watched := watch rules (.start filters store) events
    let snapshot := watched.engine.snapshot
    snapshot.filters = settledFilters filters watched.history ∧
      (patchedSince watched.history = false →
        snapshot.visibleRecords = list snapshot.filters rules.selfPackage rules.collation snapshot.allRecords ∧
          snapshot.groups =
            group (rebuildStore store watched.history).shouldUnmount rules.naming snapshot.visibleRecords) ∧
      ∀ (event : Event) (settings : List Change) (order other : List Event), event.ofRefresh = true →
        (settings.map settingOf).Nodup →
        ((∀ task, watched.engine.deed? event ≠ some (.reloaded task false)) ∨
          ∀ setting ∈ settings, setting.refilters = false) →
        order.Perm (event :: settings.map .change) → other.Perm (event :: settings.map .change) →
        Alike (watched.engine.run rules order).snapshot (watched.engine.run rules other).snapshot := by
  intro watched snapshot
  have coherent := watch_coherent rules filters store events
  have newest := watch_newest rules filters store events
  refine ⟨coherent.filters.trans newest.settled,?_,?_⟩
  · intro unpatched
    rw [show snapshot.filters = watched.engine.feed.filters from coherent.filters]
    exact newest.views unpatched
  · intro event settings order other refreshes once whole permuted permuted'
    have after (more : List Event) : (watched.engine.run rules more).feed.Coherent rules := by
      have joined := watch_coherent rules filters store (events ++ more)
      rw [watch_engine,Engine.run,List.foldl_append] at joined
      rw [show watched.engine = _ from watch_engine rules (.start filters store) events]
      exact joined
    refine alike_of_view (after order) (after other) ?_
    rw [Engine.viewOf_run_order rules _ event refreshes settings once whole order permuted,
      Engine.viewOf_run_order rules _ event refreshes settings once whole other permuted']

/-- A store without profiles, and rules that name nothing. -/
def emptyStore : StoreView := ⟨fun _ _ => .done none,fun _ => false⟩

def plainRules : Rules := ⟨"manager",fun _ _ => none,fun _ _ => .eq,fun _ => none⟩

/-- A full refresh that has looked up the profile of the one package and is about to publish. -/
def almostComplete : List Event :=
  [.call .full,.take 0,.resume 0,.enumerated 0 (.done ([0],[⟨"org.example.app",10001,none,{},none,none⟩])),.resume 0,
    .looked 0]

theorem watch_views_completing :
    let watched := watch plainRules (.start {} emptyStore) almostComplete
    (watched.engine.snapshot.visibleRecords =
      list watched.engine.snapshot.filters "manager" (fun _ _ => .eq) watched.engine.snapshot.allRecords) ∧
    Alike
      (watched.engine.run plainRules [.change (.showSystemApps true),.resume 0,.change (.searchText "app")]).snapshot
      (watched.engine.run plainRules [.change (.searchText "app"),.change (.showSystemApps true),.resume 0]).snapshot := by
  obtain ⟨-,views,orders⟩ := watch_views plainRules {} emptyStore almostComplete
  refine ⟨(views (by decide)).1,?_⟩
  refine orders (.resume 0) [.showSystemApps true,.searchText "app"] _ _ rfl (by decide) (.inl ?_) ?_ ?_
  · intro task patches
    cases patches
  · exact .swap ..
  · exact ((List.Perm.swap ..).cons _).trans ((List.Perm.swap ..).trans ((List.Perm.swap ..).cons _))

end AppGrants.Refresh
