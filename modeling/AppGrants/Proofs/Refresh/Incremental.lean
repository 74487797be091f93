import AppGrants.Proofs.Catalog.Ranks
import AppGrants.Proofs.Refresh.Orders
import AppGrants.Proofs.Refresh.Resorting

/-! What patching the profiles in place costs. It only postpones sorting anew: nothing moves, and the next publication that
makes the views anew makes them as if the refresh had done so. Where no rank has moved there is nothing to postpone. -/
namespace AppGrants.Refresh
open Catalog

/-- Two engines that differ in the refresh alone, of which one has been called to sort anew. -/
structure Twins (task : Nat) (patching sorting : Engine) : Prop where
  reloads : ∃ phase, patching.phases[task]? = some phase ∧ phase.ofKind false = true
  same : sorting.unviewed = (patching.resorted task).unviewed
  early : (∀ phase, patching.phases[task]? = some phase → phase.result? = none) → sorting = patching.resorted task

namespace Twins
variable {rules : Rules} {task : Nat} {patching sorting : Engine}

theorem called (engine : Engine) :
    Twins engine.phases.length (engine.call (.profiles false)) (engine.call (.profiles true)) := by
  have same : engine.call (.profiles true) = (engine.call (.profiles false)).resorted engine.phases.length := by
    have earlier : engine.phases.mapIdx (Phase.resortedAt engine.phases.length) = engine.phases := by
      refine List.ext_getElem (by simp) fun other bound bound' => ?_
      rw [List.getElem_mapIdx]
      exact Engine.resortedAt_other (Nat.ne_of_lt bound') _
    have last : (Phase.waiting (engine.aim (.profiles false))).resortedAt engine.phases.length engine.phases.length =
        .waiting (engine.aim (.profiles true)) := Engine.resortedAt_self _
    simp only [Engine.resorted,Engine.call,List.mapIdx_append,earlier,List.mapIdx_cons,List.mapIdx_nil,Nat.zero_add,last]
  exact ⟨⟨_,List.getElem?_concat_length,rfl⟩,congrArg Engine.unviewed same,fun _ => same⟩

theorem apply (twins : Twins task patching sorting) (event : Event) :
    Twins task (patching.apply rules event) (sorting.apply rules event) := by
  obtain ⟨phase,found,kind⟩ := twins.reloads
  have known : task < patching.phases.length := (List.getElem?_eq_some_iff.mp found).1
  have profiles : ∀ other, patching.phases[task]? = some other → other.ofKind false = true :=
    fun other present => Option.some.inj (found.symm.trans present) ▸ kind
  have step := patching.apply_step rules event
  refine ⟨step.ofKind twins.reloads,?_,fun unended => ?_⟩
  · calc (sorting.apply rules event).unviewed
        = (sorting.unviewed.apply rules event).unviewed := (Engine.apply_unviewed event).symm
      _ = ((patching.resorted task).unviewed.apply rules event).unviewed := by rw [twins.same]
      _ = ((patching.resorted task).apply rules event).unviewed := Engine.apply_unviewed event
      _ = ((patching.apply rules event).resorted task).unviewed := Engine.apply_resorted_unviewed known profiles event
  · -- results are kept, so that a refresh without one has had none before and does not publish now
    have before : ∀ other, patching.phases[task]? = some other → other.result? = none := by
      intro other present
      by_contra ended
      obtain ⟨result,has⟩ := Option.ne_none_iff_exists'.mp ended
      obtain ⟨later,present',has'⟩ := step.result present has
      simp [unended later present'] at has'
    have unpatched : patching.deed? event ≠ some (.reloaded task false) := by
      intro patches
      rw [patches] at step
      obtain ⟨next,present,has⟩ := step.renewed rfl
      simp [unended next present] at has
    rw [twins.early before]
    exact Engine.apply_resorted known profiles event unpatched

theorem run (twins : Twins task patching sorting) (events : List Event) :
    Twins task (patching.run rules events) (sorting.run rules events) := by
  induction events generalizing patching sorting with
  | nil => exact twins
  | cons event rest ih => exact ih (twins.apply event)

theorem feed_unviewed (twins : Twins task patching sorting) : sorting.feed.unviewed = patching.feed.unviewed :=
  congrArg Engine.feed twins.same

theorem store (twins : Twins task patching sorting) : sorting.store = patching.store := by
  have same := congrArg Engine.store twins.same
  exact same

theorem deed? (twins : Twins task patching sorting) {event : Event} {deed : Deed} (done : patching.deed? event = some deed)
    (rebuilds : deed.rebuilds = true) : sorting.deed? event = some deed := by
  rw [← Engine.unviewed_deed?,twins.same,Engine.unviewed_deed?]
  exact Engine.resorted_deed? done rebuilds

/-- Whatever makes the views anew ends the difference. -/
theorem rebuilt (twins : Twins task patching sorting) {event : Event} {deed : Deed} (done : patching.deed? event = some deed)
    (rebuilds : deed.rebuilds = true) : (sorting.apply rules event).feed = (patching.apply rules event).feed := by
  have after : (sorting.apply rules event).feed.unviewed = (patching.apply rules event).feed.unviewed :=
    (twins.apply event).feed_unviewed
  have step := patching.apply_step rules event
  have step' := sorting.apply_step rules event
  rw [done] at step
  rw [twins.deed? done rebuilds] at step'
  have snapshot : (sorting.apply rules event).snapshot = (patching.apply rules event).snapshot := by
    obtain ⟨-,text,-,unviewed⟩ := Feed.mk.inj after
    change (sorting.apply rules event).snapshot.unviewed = (patching.apply rules event).snapshot.unviewed at unviewed
    rw [step.rebuilt rebuilds,step'.rebuilt rebuilds,twins.store,unviewed,text]
  exact Feed.eq_of_unviewed after snapshot

end Twins

theorem Engine.Step.patched {rules : Rules} {engine next : Engine} {task : Nat}
    (step : engine.Step rules (some (.reloaded task false)) next) :
    ∃ before records, next.feed = engine.feed.patch rules before records := by
  cases step with
  | publish found publishes =>
    cases publishes with
    | reload => exact ⟨_,_,rfl⟩
  | move found moves => cases moves

theorem twins_run (rules : Rules) (engine : Engine) (events : List Event) :
    Twins engine.phases.length (engine.run rules (.call (.profiles false) :: events))
      (engine.run rules (.call (.profiles true) :: events)) := (Twins.called engine).run events

/-- A store that grants root to every app, with the defaults or with settings of its own. -/
def rootedStore (custom : Bool) : StoreView :=
  ⟨fun _ _ => .done (some { allowSu := true, rootUseDefault := !custom }),fun _ => false⟩

def namedRules : Rules := { plainRules with naming := ownerName [] }

/-- Two apps of one uid. -/
def twoApps : List PackageMeta :=
  [⟨"org.example.app",10001,none,{},none,none⟩,⟨"org.example.other",10001,none,{},none,none⟩]

/-- A full refresh that found them, from its call to its end. -/
def twoListed : List Event :=
  [.call .full,.take 0,.resume 0,.enumerated 0 (.done ([0],twoApps)),.resume 0,.looked 0,.resume 0,.resume 0,.resume 0,.resume 0]

/-- Patching moves nothing, and of all records it makes what sorting anew does; what makes the views anew afterwards, while
the two have gone on alike, makes them the same. -/
theorem incremental_postpones (rules : Rules) (filters : Filters) (store : StoreView) (events more : List Event) :
    let called := (Engine.start filters store).run rules events
    let patching := called.run rules (.call (.profiles false) :: more)
    let sorting := called.run rules (.call (.profiles true) :: more)
    (∀ event task, called.deed? event = some (.reloaded task false) →
      (called.apply rules event).snapshot.visibleRecords.map (·.identity) =
          called.snapshot.visibleRecords.map (·.identity) ∧
        (called.apply rules event).snapshot.groups.map Group.place = called.snapshot.groups.map Group.place) ∧
      patching.snapshot.allRecords = sorting.snapshot.allRecords ∧
      ∀ event deed, patching.deed? event = some deed → deed.rebuilds = true →
        (patching.apply rules event).feed = (sorting.apply rules event).feed := by
  intro called patching sorting
  have twins : Twins called.phases.length patching sorting := twins_run rules called more
  refine ⟨fun event task done => ?_,?_,fun event deed done rebuilds => (twins.rebuilt done rebuilds).symm⟩
  · have step := called.apply_step rules event
    rw [done] at step
    obtain ⟨before,records,published⟩ := step.patched
    rw [Engine.snapshot,published]
    exact ⟨Patches.patchAll_identities before records _,Patches.patchGroups_places before records _⟩
  · exact congrArg (·.snapshot.allRecords) twins.feed_unviewed.symm

/-- The apps lose their grants, which hides none of them until the next setting. -/
theorem incremental_postpones_hiding :
    let called := (Engine.start {} (rootedStore false)).run namedRules twoListed
    let reading := called.run namedRules [.call (.profiles false),.storeChange emptyStore,.take 1,.resume 1,.looked 1]
    let more := [.storeChange emptyStore,.take 1,.resume 1,.looked 1,.resume 1,.resume 1]
    reading.deed? (.resume 1) = some (.reloaded 1 false) ∧
      (reading.apply namedRules (.resume 1)).snapshot.groups.map Group.place = reading.snapshot.groups.map Group.place ∧
      ((called.run namedRules (.call (.profiles false) :: more)).apply namedRules (.change (.showSystemApps true))).feed =
        ((called.run namedRules (.call (.profiles true) :: more)).apply namedRules (.change (.showSystemApps true))).feed := by
  intro called reading more
  obtain ⟨stays,-,-⟩ := incremental_postpones namedRules {} (rootedStore false)
    (twoListed ++ [.call (.profiles false),.storeChange emptyStore,.take 1,.resume 1,.looked 1]) []
  obtain ⟨-,-,ends⟩ := incremental_postpones namedRules {} (rootedStore false) twoListed more
  exact ⟨rfl,(stays (.resume 1) 1 rfl).2,ends (.change (.showSystemApps true)) _ rfl rfl⟩

/-- A refresh of the profiles that is about to patch, having read the store, where the views are as made now and no rank
moves, publishes what it would publish had it been called to sort anew. -/
theorem incremental_agrees (rules : Rules) (overrides : List (Int32 × String)) (named : rules.naming = ownerName overrides)
    (filters : Filters) (store : StoreView) (events more : List Event) :
    let called := (Engine.start filters store).run rules events
    let task := called.phases.length
    let patching := watch rules (.start filters store) (events ++ .call (.profiles false) :: more)
    let sorting := called.run rules (.call (.profiles true) :: more)
    ∀ read, patching.engine.deed? (.resume task) = some (.reloaded task false) → lookedBy task patching.history = some read →
      patching.engine.snapshot.rebuilt rules patching.engine.store.shouldUnmount = patching.engine.snapshot →
      KeepsRanks read patching.engine.snapshot.allRecords →
      (patching.engine.apply rules (.resume task)).feed = (sorting.apply rules (.resume task)).feed := by
  intro called task patching sorting read patches looked fresh keeps
  have engine_eq : patching.engine = called.run rules (.call (.profiles false) :: more) := by
    rw [watch_engine,Engine.run,List.foldl_append]
    rfl
  have sound := watch_sound rules filters store (events ++ .call (.profiles false) :: more)
  have coherent := watch_coherent rules filters store (events ++ .call (.profiles false) :: more)
  obtain ⟨-,since,before,records,found⟩ := Engine.deed?_of_reloaded patches
  -- it is about to publish, so the two runs have differed in nothing but what it was called to do
  have sorting_eq : sorting = patching.engine.resorted task := by
    rw [engine_eq]
    refine (twins_run rules called more).early fun phase present => ?_
    rw [← engine_eq,found] at present
    cases present
    rfl
  have found' : sorting.phases[task]? = some (.read since true before (.ok records)) := by
    rw [sorting_eq,Engine.phases_resorted,found,Option.map_some,Engine.resortedAt_self]
    rfl
  obtain ⟨rfl,reloaded⟩ := (sound.keeps task _ found).fits
  obtain ⟨source,looked',joined⟩ := reloaded records rfl
  obtain rfl : read = source := Option.some.inj (looked.symm.trans looked')
  obtain ⟨-,rfl⟩ := (reloadProfiles_done_iff ..).mp joined
  simp only [Engine.apply,found,found',Option.elim_some]
  rw [sorting_eq]
  exact Feed.patch_eq_reload coherent named fresh keeps

theorem incremental_agrees_rooted :
    let called := (Engine.start {} (rootedStore false)).run namedRules twoListed
    let more := [.storeChange (rootedStore true),.take 1,.resume 1,.looked 1]
    (called.run namedRules (.call (.profiles false) :: more)).deed? (.resume 1) = some (.reloaded 1 false) ∧
      ((called.run namedRules (.call (.profiles false) :: more)).apply namedRules (.resume 1)).feed =
        ((called.run namedRules (.call (.profiles true) :: more)).apply namedRules (.resume 1)).feed := by
  intro called more
  have agree := incremental_agrees namedRules [] rfl {} (rootedStore false) twoListed more (rootedStore true) rfl rfl
  refine ⟨rfl,agree ?_ ?_⟩
  · have newest := watch_newest namedRules {} (rootedStore false) (twoListed ++ .call (.profiles false) :: more)
    exact (Snapshot.rebuilt_eq_self_iff ..).mpr (newest.views (by decide))
  · have rooted : ∀ record ∈ called.snapshot.allRecords, record.allowsRoot = true := by decide
    intro record member
    exact ((rank_eq_zero_iff _).mpr rfl).trans ((rank_eq_zero_iff _).mpr (rooted record member)).symm

end AppGrants.Refresh
