import AppGrants.Proofs.Refresh.Blame
import AppGrants.Proofs.Refresh.Incremental
import Mathlib.Data.List.Induction

/-! A full refresh that fails or is cancelled leaves the catalog as it was. Settings may be made while it runs; what is
published in the end is what the settings alone would have made, but for the count of snapshots and the error. -/
namespace AppGrants.Refresh
open Catalog Service

def Event.sets : Event → Bool
  | .change _ => true
  | _ => false

def View.flagged (running : Bool) (view : View) : View := { view with isRefreshing := running }

theorem View.change_flagged (rules : Rules) (shouldUnmount : Uid → Bool) (running : Bool) (view : View) (change : Change) :
    (view.flagged running).change rules shouldUnmount change = (view.change rules shouldUnmount change).flagged running := by
  cases change <;> rfl

namespace Engine

def result? (engine : Engine) (task : Nat) : Option (Except Failure Report) := (engine.phases[task]?).bind Phase.result?

section
variable {rules : Rules} {engine next : Engine} {task : Nat} {deed : Option Deed} {result : Except Failure Report}

theorem result?_of_phase {phase : Phase} (found : engine.phases[task]? = some phase) :
    engine.result? task = phase.result? := by
  rw [result?,found,Option.bind_some]

theorem not_enumerating_of_result (has : engine.result? task = some result) : engine.enumerating task = false := by
  obtain ⟨phase,found,same⟩ := Option.bind_eq_some_iff.mp has
  rw [enumerating,found]
  cases phase <;> first | rfl | cases same

theorem Blamed.of_result {failure : Failure} (blamed : engine.Blamed) (fails : engine.result? task = some (.error failure)) :
    failure.OfRefresh := by
  obtain ⟨phase,found,has⟩ := Option.bind_eq_some_iff.mp fails
  exact blamed.phases task phase found failure (Phase.failure?_of_result? has)

theorem Step.keeps_result (step : engine.Step rules deed next) (has : engine.result? task = some result) :
    next.result? task = some result := by
  obtain ⟨phase,found,same⟩ := Option.bind_eq_some_iff.mp has
  obtain ⟨later,present,same'⟩ := step.result found same
  exact (result?_of_phase present).trans same'

theorem Step.unended (step : engine.Step rules deed next) (unended : next.result? task = none) :
    engine.result? task = none := by
  cases has : engine.result? task with
  | none => rfl
  | some result => simp [step.keeps_result has] at unended

theorem Step.unsuccessful (step : engine.Step rules deed next)
    (unsuccessful : ∀ report, next.result? task ≠ some (.ok report)) : ∀ report, engine.result? task ≠ some (.ok report) :=
  fun report has => unsuccessful report (step.keeps_result has)

/-- A full refresh that comes to an error without publishing shares the one of another. -/
theorem Step.shares_error {failure : Failure} {phase : Phase} (step : engine.Step rules deed next)
    (silent : ∀ done ∈ deed, done.publishes = false) (found : engine.phases[task]? = some phase)
    (kind : phase.ofKind true = true) (before : engine.result? task = none)
    (after : next.result? task = some (.error failure)) :
    engine.lastFull = some (.error failure) ∧ ∃ aim, phase = .admitted aim := by
  obtain ⟨later,present,advances⟩ := step.advances found
  rw [result?_of_phase found] at before
  rw [result?_of_phase present] at after
  rcases advances with rfl | advances
  · cases before.symm.trans after
  cases advances with
  | take | withdraw | drop => cases after
  | note | count | finish => cases before
  | publish publishes => simp [publishes.publishes] at silent
  | move moves =>
    cases moves with
    | share later =>
      refine ⟨?_,_,rfl⟩
      unfold sharedResult at after
      cases last : engine.lastFull with
      | none => simp [last,Phase.result?] at after
      | some result => cases result <;> simp_all [Phase.result?,Except.map]
    | giveUp => cases kind
    | _ => cases after

end
end Engine

/-- Since `start`, where the full refresh waited for its turn, no refresh but it has published; of `alone` nothing is asked
but the settings. -/
structure Apart (rules : Rules) (task : Nat) (start alone : Engine) (watched : Watched) : Prop where
  kind : ∃ phase, watched.engine.phases[task]? = some phase ∧ phase.ofKind true = true
  unmount : watched.engine.store.shouldUnmount = start.store.shouldUnmount
  others : ∀ other, other ≠ task → watched.engine.enumerating other = start.enumerating other
  free : TookTurn task watched.history → ∀ other, other ≠ task → start.enumerating other = false
  store : alone.store = start.store
  calm : alone.snapshot.isRefreshing = start.snapshot.isRefreshing
  error : alone.snapshot.lastError = start.snapshot.lastError
  unended : watched.engine.result? task = none → watched.engine.snapshot.lastError = start.snapshot.lastError
  failed : ∀ failure, watched.engine.result? task = some (.error failure) →
    watched.engine.snapshot.lastError = some failure.kind
  view : (∀ report, watched.engine.result? task ≠ some (.ok report)) →
    viewOf watched.engine.feed = (viewOf alone.feed).flagged watched.engine.snapshot.isRefreshing
  mark : (∀ report, watched.engine.result? task ≠ some (.ok report)) →
    watched.engine.feed.needsRefresh = alone.feed.needsRefresh

namespace Apart
variable {rules : Rules} {task : Nat} {start alone next : Engine} {watched : Watched}

theorem change (apart : Apart rules task start alone watched) (change : Change) :
    Apart rules task start (alone.apply rules (.change change)) (watched.apply rules (.change change)) := by
  have flag : (watched.engine.apply rules (.change change)).snapshot.isRefreshing = watched.engine.snapshot.isRefreshing :=
    Engine.isRefreshing_change ..
  have error : (watched.engine.apply rules (.change change)).snapshot.lastError = watched.engine.snapshot.lastError :=
    Engine.lastError_change ..
  refine ⟨apart.kind,apart.unmount,apart.others,?_,apart.store,?_,?_,?_,?_,?_,?_⟩
  · intro taken
    exact apart.free ((tookTurn_cons (by simp)).mp taken)
  · exact (Engine.isRefreshing_change ..).trans apart.calm
  · exact (Engine.lastError_change ..).trans apart.error
  · exact fun unended => error.trans (apart.unended unended)
  · exact fun failure ends => error.trans (apart.failed failure ends)
  · intro unsuccessful
    have before := apart.view unsuccessful
    change viewOf (watched.engine.feed.change rules watched.engine.store.shouldUnmount change) =
      (viewOf (alone.feed.change rules alone.store.shouldUnmount change)).flagged
        (watched.engine.apply rules (.change change)).snapshot.isRefreshing
    rw [flag,Engine.viewOf_change,Engine.viewOf_change,before,View.change_flagged,apart.unmount,apart.store]
  · intro unsuccessful
    have same := apart.mark unsuccessful
    cases change with
    | markNeedsRefresh => rfl
    | showSystemApps | showOnlyPrimaryUserApps | searchText => exact same

/-- What publishes nothing leaves everything as it is; an error that comes of it is the one that is told already. -/
theorem quiet {deed : Option Deed} (apart : Apart rules task start alone watched) (flags : watched.engine.Flags)
    (step : watched.engine.Step rules deed next) (silent : ∀ done ∈ deed, done.publishes = false)
    (unmount : next.store.shouldUnmount = start.store.shouldUnmount) :
    Apart rules task start alone (watched.followed deed next) := by
  have feed_eq : next.feed = watched.engine.feed := step.feed silent
  have same : next.snapshot = watched.engine.snapshot := congrArg Feed.snapshot feed_eq
  obtain ⟨phase,found,kind⟩ := apart.kind
  refine ⟨step.ofKind apart.kind,unmount,?_,?_,apart.store,apart.calm,apart.error,?_,?_,?_,?_⟩
  · intro other different
    refine (step.enumerating other fun done member publishes => ?_).trans (apart.others other different)
    simp [silent done member] at publishes
  · intro taken other different
    obtain ⟨entry,member,took⟩ := taken
    rcases Watched.mem_followed member with ⟨done,rfl,rfl⟩ | before
    · cases took
      rw [← apart.others other different]
      -- who takes the turn finds it free, while a refresh that runs has it
      cases step with
      | take free _ =>
        cases runs : watched.engine.enumerating other with
        | false => rfl
        | true => cases free.symm.trans (flags.turn.turn_of_enumerating runs)
      | move _ moves => cases moves
      | publish _ publishes => cases publishes
    · exact apart.free ⟨entry,before,took⟩ other different
  · intro unended
    rw [Watched.followed,same]
    exact apart.unended (step.unended unended)
  · intro failure ends
    change next.snapshot.lastError = _
    rw [same]
    cases before : watched.engine.result? task with
    | some result =>
      obtain rfl : result = .error failure := Option.some.inj ((step.keeps_result before).symm.trans ends)
      exact apart.failed failure before
    | none =>
      obtain ⟨last,aim,rfl⟩ := step.shares_error silent found kind before ends
      -- the refresh has the turn, so that no other is about to keep a result and the error told is that of the last one
      have none_unnoted : ∀ (other : Nat) (phase : Phase), watched.engine.phases[other]? = some phase →
          phase.unnoted? = none := by
        intro other phase present
        by_cases has : phase.hasTurn = true
        · obtain rfl := flags.turn.unique found rfl present has
          obtain rfl := Option.some.inj (present.symm.trans found)
          rfl
        · exact Phase.unnoted?_without_turn has
      rw [flags.error.last none_unnoted,last]
      rfl
  · intro unsuccessful
    change viewOf next.feed = (viewOf alone.feed).flagged next.snapshot.isRefreshing
    rw [feed_eq,same]
    exact apart.view (step.unsuccessful unsuccessful)
  · intro unsuccessful
    change next.feed.needsRefresh = _
    rw [feed_eq]
    exact apart.mark (step.unsuccessful unsuccessful)

theorem publish {old new : Phase} {feed : Feed} {done : Deed} (apart : Apart rules task start alone watched)
    (found : watched.engine.phases[task]? = some old)
    (publishes : watched.engine.Publishes rules task old new feed done) :
    Apart rules task start alone (watched.followed (some done) (watched.engine.publish task new feed)) := by
  have step : watched.engine.Step rules (some done) (watched.engine.publish task new feed) := .publish found publishes
  have ends : (watched.engine.publish task new feed).result? task = new.result? :=
    Engine.result?_of_phase (Engine.phases_set_self found)
  have before : watched.engine.result? task = none := (Engine.result?_of_phase found).trans publishes.result?
  have untold := apart.unended before
  have view := apart.view (by simp [before])
  have mark := apart.mark (by simp [before])
  refine ⟨step.ofKind apart.kind,apart.unmount,?_,?_,apart.store,apart.calm,apart.error,?_,?_,?_,?_⟩
  · intro other different
    refine (step.enumerating other fun one member _ same => ?_).trans (apart.others other different)
    cases member
    exact different (Option.some.inj (same.symm.trans publishes.task?))
  · intro taken
    refine apart.free ((tookTurn_cons fun same => ?_).mp taken)
    have published := publishes.publishes
    simp [same,Deed.publishes] at published
  · intro unended
    change feed.snapshot.lastError = _
    rw [Watched.followed,ends] at unended
    cases publishes with
    | begin | abandon => exact untold
    | complete | failListed | failJoined | reload => cases unended
  · intro failure fails
    change feed.snapshot.lastError = _
    rw [Watched.followed,ends] at fails
    cases publishes with
    | failListed | failJoined =>
      cases fails
      rfl
    | begin | abandon | complete | reload => cases fails
  · intro unsuccessful
    change viewOf feed = (viewOf alone.feed).flagged feed.snapshot.isRefreshing
    simp only [Watched.followed,ends] at unsuccessful
    cases publishes with
    | begin | abandon | failListed | failJoined =>
      exact congrArg (View.flagged _) view
    | complete | reload => exact absurd rfl (unsuccessful _)
  · intro unsuccessful
    change feed.needsRefresh = _
    simp only [Watched.followed,ends] at unsuccessful
    cases publishes with
    | begin | abandon | failListed | failJoined => exact mark
    | complete | reload => exact absurd rfl (unsuccessful _)

/-- Who publishes is the refresh itself, or no refresh, with a setting. -/
def Only (task : Nat) (deed : Deed) : Prop := deed.publishes = true → deed.task? = none ∨ deed.task? = some task

instance (task : Nat) (deed : Deed) : Decidable (Only task deed) := inferInstanceAs (Decidable (_ → _))

theorem apply (apart : Apart rules task start alone watched) (flags : watched.engine.Flags) (event : Event)
    (only : ∀ done, watched.engine.deed? event = some done → Only task done)
    (unmount : ∀ store, event = .storeChange store → store.shouldUnmount = start.store.shouldUnmount) :
    Apart rules task start (alone.run rules ([event].filter Event.sets)) (watched.apply rules event) := by
  by_cases sets : ∃ change, event = .change change
  · obtain ⟨change,rfl⟩ := sets
    exact apart.change change
  have unset : [event].filter Event.sets = [] := by
    cases event with
    | change change => exact absurd ⟨change,rfl⟩ sets
    | _ => rfl
  have store_kept : (watched.engine.apply rules event).store.shouldUnmount = start.store.shouldUnmount := by
    cases event with
    | change change => exact absurd ⟨change,rfl⟩ sets
    | storeChange store => exact unmount store rfl
    | _ => exact (congrArg StoreView.shouldUnmount (watched.engine.apply_edits rules _ rfl).2).trans apart.unmount
  rw [unset]
  have step := watched.engine.apply_step rules event
  by_cases silent : ∀ done ∈ watched.engine.deed? event, done.publishes = false
  · exact apart.quiet flags step silent store_kept
  · obtain ⟨done,found,publishing⟩ : ∃ done, watched.engine.deed? event = some done ∧ done.publishes = true := by
      simpa using silent
    rcases only done found publishing with setting | own
    · cases Engine.does_of_deed? found with
      | set change => exact absurd ⟨change,rfl⟩ sets
      | _ => cases setting
    · rw [Watched.apply,found]
      rw [found] at step
      generalize watched.engine.apply rules event = next at step
      cases step with
      | publish present publishes =>
        obtain rfl := Option.some.inj (publishes.task?.symm.trans own)
        exact apart.publish present publishes
      | change => cases own
      | move _ moves => cases moves <;> cases publishing
      | call | take | count => cases publishing

theorem of_waiting {ended : Nat} (found : start.phases[task]? = some (.waiting (.full ended))) :
    Apart rules task start start ⟨start,[]⟩ := by
  have unended : start.result? task = none := Engine.result?_of_phase found
  refine ⟨⟨_,found,rfl⟩,rfl,fun _ _ => rfl,?_,rfl,rfl,rfl,fun _ => rfl,?_,fun _ => rfl,fun _ => rfl⟩
  · rintro ⟨entry,member,-⟩
    cases member
  · intro failure ends
    cases unended.symm.trans ends

end Apart

theorem watch_concat (rules : Rules) (engine : Engine) (events : List Event) (event : Event) :
    watch rules engine (events ++ [event]) = (watch rules engine events).apply rules event := by
  simp [watch]

/-- Whatever happens while nothing but settings and the waiting refresh publishes. -/
theorem watch_apart {rules : Rules} {task ended : Nat} {engine : Engine} (flags : engine.Flags)
    (found : engine.phases[task]? = some (.waiting (.full ended))) (events : List Event)
    (only : ∀ entry ∈ (watch rules engine events).history, Apart.Only task entry.deed)
    (unmount : ∀ store, .storeChange store ∈ events → store.shouldUnmount = engine.store.shouldUnmount) :
    Apart rules task engine (engine.run rules (events.filter Event.sets)) (watch rules engine events) := by
  -- from the end, since both runs start where the refresh waits and the history is asked about as a whole
  induction events using List.reverseRecOn with
  | nil => exact .of_waiting found
  | append_singleton events event ih =>
    rw [watch_concat] at only ⊢
    rw [List.filter_append,Engine.run_append]
    have earlier := ih (fun entry member => only entry (List.mem_append_right _ member))
      fun store member => unmount store (List.mem_append_left _ member)
    have flags' : (watch rules engine events).engine.Flags := by
      rw [watch_engine]
      exact Engine.run_induction flags (fun _ _ _ flags step => flags.step step) events
    refine earlier.apply flags' event (fun done happens => ?_) fun store same => unmount store (by simp [same])
    refine only ⟨done,(watch rules engine events).engine⟩ (List.mem_append_left _ ?_)
    simp [happens]

theorem snapshot_of_view {rules : Rules} {left right : Feed} (coherent : left.Coherent rules) (coherent' : right.Coherent rules)
    (same : viewOf left = viewOf right) (mark : left.needsRefresh = right.needsRefresh) :
    left.snapshot = { right.snapshot with
      generation := left.snapshot.generation, lastError := left.snapshot.lastError } := by
  have alike := alike_of_view coherent coherent' same
  obtain ⟨-,-,records,-,-,-,refreshing⟩ := View.mk.inj same
  have marked : left.snapshot.needsRefresh = right.snapshot.needsRefresh := by rw [coherent.mark,coherent'.mark,mark]
  exact Snapshot.mk.injEq .. ▸ ⟨rfl,records,alike.visibleRecords,alike.groups,alike.liveUserIds,refreshing,marked,rfl,
    alike.filters,alike.search⟩

section
variable {rules : Rules} {task : Nat} {start alone : Engine} {watched : Watched}

/-- Once the refresh does not run any more, what is told to run is what was told before. -/
theorem Apart.refreshing (apart : Apart rules task start alone watched) (flags : watched.engine.Flags) (flags' : start.Flags)
    (waiting : start.enumerating task = false) (past : watched.engine.enumerating task = false) :
    watched.engine.snapshot.isRefreshing = start.snapshot.isRefreshing := by
  rw [Bool.eq_iff_iff,flags.refreshing,flags'.refreshing]
  refine exists_congr fun other => ?_
  by_cases own : other = task
  · rw [own,waiting,past]
  · rw [apart.others other own]

/-- Who gets the turn finds no refresh running. -/
theorem Apart.calm_start (apart : Apart rules task start alone watched) (flags : start.Flags)
    (waiting : start.enumerating task = false) (taken : TookTurn task watched.history) :
    start.snapshot.isRefreshing = false := by
  have none_runs : ∀ other, start.enumerating other = false := by
    intro other
    by_cases own : other = task
    · rw [own,waiting]
    · exact apart.free taken other own
  rw [Bool.eq_false_iff,ne_eq,flags.refreshing]
  simp [none_runs]

theorem Apart.restored (apart : Apart rules task start alone watched) (flags : watched.engine.Flags) (flags' : start.Flags)
    (coherent : watched.engine.feed.Coherent rules) (coherent' : alone.feed.Coherent rules)
    (waiting : start.enumerating task = false) (past : watched.engine.enumerating task = false)
    (unsuccessful : ∀ report, watched.engine.result? task ≠ some (.ok report)) :
    watched.engine.snapshot = { alone.snapshot with
      generation := watched.engine.snapshot.generation, lastError := watched.engine.snapshot.lastError } := by
  refine snapshot_of_view coherent coherent' ?_ (apart.mark unsuccessful)
  rw [apart.view unsuccessful,apart.refreshing flags flags' waiting past,← apart.calm]
  rfl

end

/-- A full refresh waits for its turn, from then on only settings and the refresh itself publish, and what is to be unmounted
stays. If it ends in an error, its own or one that it shares, the snapshot is what the settings alone make, with the kind of
that error; if it is cancelled, wherever it was, with the error that was told before. -/
theorem failed_refresh_restores (rules : Rules) (filters : Filters) (store : StoreView) (events more : List Event)
    (task ended : Nat) :
    let engine := (Engine.start filters store).run rules events
    let after := watch rules engine more
    let alone := engine.run rules (more.filter Event.sets)
    engine.phases[task]? = some (.waiting (.full ended)) → (∀ entry ∈ after.history, Apart.Only task entry.deed) →
    (∀ store, .storeChange store ∈ more → store.shouldUnmount = engine.store.shouldUnmount) →
    (∀ failure, after.engine.result? task = some (.error failure) →
      after.engine.snapshot = { alone.snapshot with
        generation := after.engine.snapshot.generation, lastError := some failure.kind } ∧
      ((∀ other outcome, .enumerated other outcome ∈ events ++ more → FromService outcome) → failure.OfRefresh)) ∧
    (after.engine.phases[task]? = some (.leaving none) ∨ after.engine.phases[task]? = some .cancelled →
      after.engine.snapshot = { alone.snapshot with generation := after.engine.snapshot.generation } ∧
        after.engine.snapshot.lastError = engine.snapshot.lastError) ∧
    (TookTurn task after.history → after.engine.enumerating task = false → after.engine.snapshot.isRefreshing = false) := by
  intro engine after alone waits only unmount
  have flags : engine.Flags := Engine.run_flags rules filters store events
  have flags' : after.engine.Flags := by
    rw [watch_engine]
    exact Engine.run_induction flags (fun _ _ _ flags step => flags.step step) more
  have reached (others : List Event) : (engine.run rules others).feed.Coherent rules := by
    rw [← Engine.run_append]
    exact run_coherent rules filters store (events ++ others)
  have coherent : after.engine.feed.Coherent rules := by
    rw [watch_engine]
    exact reached more
  have apart := watch_apart flags waits more only unmount
  have waiting : engine.enumerating task = false := by
    rw [Engine.enumerating,waits]
    rfl
  have restored := apart.restored flags' flags coherent (reached _) waiting
  refine ⟨fun failure fails => ⟨?_,fun served => ?_⟩,fun dropped => ?_,fun taken past => ?_⟩
  · have told := restored (Engine.not_enumerating_of_result fails) fun report succeeds => by cases fails.symm.trans succeeds
    rwa [apart.failed failure fails] at told
  · have blamed : after.engine.Blamed := by
      rw [watch_engine,← Engine.run_append]
      exact Engine.run_blamed (.start filters store) served
    exact blamed.of_result fails
  · have unended : after.engine.result? task = none := by
      rcases dropped with leaving | cancelled
      · exact Engine.result?_of_phase leaving
      · exact Engine.result?_of_phase cancelled
    have past : after.engine.enumerating task = false := by
      rcases dropped with found | found <;> rw [Engine.enumerating,found] <;> rfl
    have untold := apart.unended unended
    have same := restored past fun report succeeds => by cases unended.symm.trans succeeds
    rw [untold,← apart.error] at same
    exact ⟨same,untold⟩
  · exact (apart.refreshing flags' flags waiting past).trans (apart.calm_start flags waiting taken)

/-- A service that lists two apps, if its helper can be started. -/
def twoAppsHost (reachable : Bool) : Host Unit where
  bind _ world := (⟨if reachable then .done () else .failed (.new "io_error" "no helper"),0⟩,world)
  capabilities _ world := (⟨.done ⟨false,false⟩,0⟩,world)
  listUserIds _ _ world := (⟨.done [0],0⟩,world)
  listPackages _ _ world := (⟨.done twoApps,0⟩,world)
  release _ world := world
  discard _ world := world

def answered (reachable : Bool) : Outcome Enumeration :=
  ((⟨{},()⟩ : Site Unit).withChannel (twoAppsHost reachable) (enumeration 0)).1

/-- The apps are listed; then another full refresh is called. -/
def calledAgain : List Event :=
  [.call .full,.take 0,.resume 0,.enumerated 0 (answered true),.resume 0,.looked 0,.resume 0,.resume 0,.resume 0,.resume 0,
    .call .full]

/-- It fails, while a text is searched for. -/
def unreached : List Event :=
  [.take 1,.resume 1,.change (.searchText "app"),.enumerated 1 (answered false),.resume 1,.change .markNeedsRefresh,.resume 1]

/-- It is cancelled while the profiles are looked up. -/
def dropped : List Event :=
  [.take 1,.resume 1,.enumerated 1 (answered true),.resume 1,.change (.showSystemApps true),.cancel 1,.resume 1]

theorem failed_refresh_restores_two_apps :
    let engine := (Engine.start {} (rootedStore true)).run namedRules calledAgain
    let failed := (watch namedRules engine unreached).engine
    let cancelled := (watch namedRules engine dropped).engine
    (∃ failure : Failure, failure.kind = .serviceUnavailable ∧ failure.OfRefresh ∧
      failed.snapshot = { (engine.run namedRules [.change (.searchText "app"),.change .markNeedsRefresh]).snapshot with
        generation := failed.snapshot.generation, lastError := some failure.kind }) ∧
      failed.snapshot.isRefreshing = false ∧
      cancelled.snapshot = { (engine.run namedRules [.change (.showSystemApps true)]).snapshot with
        generation := cancelled.snapshot.generation } := by
  intro engine failed cancelled
  obtain ⟨fails,-,calm⟩ := failed_refresh_restores namedRules {} (rootedStore true) calledAgain unreached 1 1 rfl
    (by decide) (by simp [unreached])
  obtain ⟨-,drops,-⟩ := failed_refresh_restores namedRules {} (rootedStore true) calledAgain dropped 1 1 rfl
    (by decide) (by simp [dropped])
  have served (reachable : Bool) : FromService (answered reachable) := ⟨Unit,twoAppsHost reachable,⟨{},()⟩,0,rfl⟩
  refine ⟨?_,?_,?_⟩
  · obtain ⟨restored,blamed⟩ := fails (Site.unavailable (.new "io_error" "no helper")) rfl
    refine ⟨_,Site.unavailable_kind _,blamed ?_,restored⟩
    intro other outcome member
    simp only [calledAgain,unreached,List.cons_append,List.nil_append,List.mem_cons,reduceCtorEq,Event.enumerated.injEq,
      List.not_mem_nil,false_or,or_false] at member
    rcases member with ⟨-,rfl⟩ | ⟨-,rfl⟩
    · exact served true
    · exact served false
  · have taken : (watch namedRules engine unreached).history[5]? = some ⟨.taken 1,engine⟩ := rfl
    exact calm ⟨_,List.mem_of_getElem? taken,rfl⟩ rfl
  · exact (drops (.inr rfl)).1

end AppGrants.Refresh
