import AppGrants.Proofs.Refresh.SingleFlight

/-! What the flags of a snapshot tell. It is told to be refreshed exactly while a full refresh has published its beginning and
not its end; the error told is that of the full refresh that published its end last. -/
namespace AppGrants.Refresh
open Catalog

def errorKind? : Except Failure Report → Option FailureKind
  | .error failure => some failure.kind
  | .ok _ => none

/-- The result of a full refresh that was published and is not yet kept to be shared. -/
def Phase.unnoted? : Phase → Option (Except Failure Report)
  | .published result => some result
  | _ => none

theorem Phase.unnoted?_without_turn {phase : Phase} (without : ¬phase.hasTurn = true) : phase.unnoted? = none := by
  cases phase <;> first | rfl | exact absurd rfl without

theorem Phase.isEnumerating_without_turn {phase : Phase} (without : ¬phase.hasTurn = true) : phase.isEnumerating = false := by
  cases phase <;> first | rfl | exact absurd rfl without

namespace Engine

/-- The refresh has published its beginning and not its end. -/
def enumerating (engine : Engine) (task : Nat) : Bool := (engine.phases[task]?).any Phase.isEnumerating

section
variable {rules : Rules} {engine next : Engine} {task : Nat} {old new : Phase} {deed : Option Deed}

theorem Moves.isEnumerating (moves : engine.Moves task old new deed) : new.isEnumerating = old.isEnumerating := by
  cases moves with
  | drop running => cases old <;> first | rfl | cases running
  | _ => rfl

theorem Moves.unnoted? (moves : engine.Moves task old new deed) : old.unnoted? = none ∧ new.unnoted? = none := by
  cases moves with
  | drop running =>
    refine ⟨?_,rfl⟩
    cases old <;> first | rfl | cases running
  | _ => exact ⟨rfl,rfl⟩

theorem Publishes.unnoted? {feed : Feed} {done : Deed} (publishes : engine.Publishes rules task old new feed done) :
    old.unnoted? = none := by
  cases publishes with
  | abandon running => cases old <;> first | rfl | cases running
  | _ => rfl

theorem Publishes.publishes {feed : Feed} {done : Deed} (publishes : engine.Publishes rules task old new feed done) :
    done.publishes = true := by
  cases publishes <;> rfl

theorem Publishes.task? {feed : Feed} {done : Deed} (publishes : engine.Publishes rules task old new feed done) :
    done.task? = some task := by
  cases publishes <;> rfl

private theorem enumerating_set (phases_eq : next.phases = engine.phases.set task new)
    (found : engine.phases[task]? = some old) (same : new.isEnumerating = old.isEnumerating) (other : Nat) :
    next.enumerating other = engine.enumerating other := by
  unfold enumerating
  rw [phases_eq]
  by_cases equal : other = task
  · subst equal
    rw [phases_set_self found,found,Option.any_some,Option.any_some,same]
  · rw [phases_set_other equal]

private theorem enumerating_call (call : Call) (other : Nat) : (engine.call call).enumerating other = engine.enumerating other := by
  unfold enumerating
  cases found : engine.phases[other]? with
  | some phase => rw [phases_call_old call found]
  | none =>
    cases found' : (engine.call call).phases[other]? with
    | none => rfl
    | some phase =>
      rcases phases_call_cases found' with before | ⟨-,rfl⟩
      · simp [before] at found
      · rfl

/-- A refresh begins or ends to be told as running by publishing only. -/
theorem Step.enumerating (step : engine.Step rules deed next) (other : Nat)
    (silent : ∀ done ∈ deed, done.publishes = true → done.task? ≠ some other) :
    next.enumerating other = engine.enumerating other := by
  cases step with
  | change | storeChange | elapse | idle => rfl
  | call call => exact enumerating_call call other
  | take _ found | withdraw found | note found | count found => exact enumerating_set rfl found (by rfl) other
  | move found moves => exact enumerating_set rfl found moves.isEnumerating other
  | publish found publishes =>
    have apart : other ≠ _ := fun same => silent _ rfl publishes.publishes (publishes.task?.trans (congrArg some same.symm))
    exact congrArg (Option.any Phase.isEnumerating) (phases_set_other apart)
  | @leave _ result found => cases result <;> exact enumerating_set rfl found (by rfl) other

theorem TurnHeld.turn_of_enumerating (turn : engine.TurnHeld) (runs : engine.enumerating task = true) :
    engine.turn = some task := by
  unfold enumerating at runs
  cases found : engine.phases[task]? with
  | none => simp [found] at runs
  | some phase =>
    rw [found,Option.any_some] at runs
    exact turn.only task phase found (Phase.hasTurn_of_isEnumerating runs)

theorem TurnHeld.none_enumerating (turn : engine.TurnHeld) (phases_eq : next.phases = engine.phases.set task new)
    (found : engine.phases[task]? = some old) (has : old.hasTurn = true) (quiet : new.isEnumerating = false) (other : Nat) :
    next.enumerating other = false := by
  have still : ∀ (one : Nat) (phase : Phase), (engine.phases.set task new)[one]? = some phase → phase.isEnumerating = false :=
    turn.forall_set found has (fun _ _ without => Phase.isEnumerating_without_turn without) quiet
  unfold enumerating
  rw [phases_eq]
  cases present : (engine.phases.set task new)[other]? with
  | none => rfl
  | some phase => exact still other phase present

/-- The error told is that of the full refresh that published its end last, whose result is the one to be shared but while
it is about to be kept. -/
structure ErrorTold (engine : Engine) : Prop where
  unnoted : ∀ (task : Nat) (phase : Phase), engine.phases[task]? = some phase → ∀ result, phase.unnoted? = some result →
    engine.snapshot.lastError = errorKind? result
  last : (∀ (task : Nat) (phase : Phase), engine.phases[task]? = some phase → phase.unnoted? = none) →
    engine.snapshot.lastError = engine.lastFull.bind errorKind?

/-- The flags say what the refreshes are at. -/
structure Flags (engine : Engine) : Prop where
  turn : engine.TurnHeld
  refreshing : engine.snapshot.isRefreshing = true ↔ ∃ task, engine.enumerating task = true
  error : engine.ErrorTold

theorem isRefreshing_change (feed : Feed) (shouldUnmount : Uid → Bool) (change : Change) :
    (feed.change rules shouldUnmount change).snapshot.isRefreshing = feed.snapshot.isRefreshing := by
  cases change <;> rfl

theorem lastError_change (feed : Feed) (shouldUnmount : Uid → Bool) (change : Change) :
    (feed.change rules shouldUnmount change).snapshot.lastError = feed.snapshot.lastError := by
  cases change <;> rfl

private theorem Flags.refreshing_kept (flags : engine.Flags) (same : next.snapshot.isRefreshing = engine.snapshot.isRefreshing)
    (still : ∀ other, next.enumerating other = engine.enumerating other) :
    next.snapshot.isRefreshing = true ↔ ∃ task, next.enumerating task = true := by
  rw [same,flags.refreshing]
  exact exists_congr fun other => by rw [still]

private theorem Flags.refreshing_published {feed : Feed} {done : Deed} (flags : engine.Flags)
    (found : engine.phases[task]? = some old) (publishes : engine.Publishes rules task old new feed done) :
    (engine.publish task new feed).snapshot.isRefreshing = true ↔
      ∃ other, (engine.publish task new feed).enumerating other = true := by
  have has := publishes.hasTurn.1
  have past (told : (engine.publish task new feed).snapshot.isRefreshing = false) (quiet : new.isEnumerating = false) :
      (engine.publish task new feed).snapshot.isRefreshing = true ↔
        ∃ other, (engine.publish task new feed).enumerating other = true := by
    have none_runs : ∀ other, (engine.publish task new feed).enumerating other = false :=
      flags.turn.none_enumerating rfl found has quiet
    simp [told,none_runs]
  cases publishes with
  | begin newest =>
    have runs : (engine.publish task (.listing engine.clock) (engine.feed.setRefreshing rules true)).enumerating task = true :=
      congrArg (Option.any Phase.isEnumerating) (phases_set_self found)
    exact ⟨fun _ => ⟨task,runs⟩,fun _ => rfl⟩
  | complete | failListed | failJoined | abandon => exact past rfl rfl
  | @reload since resort before records =>
    refine flags.refreshing_kept ?_ (enumerating_set rfl found rfl)
    cases resort <;> rfl

theorem Flags.refreshing_step (flags : engine.Flags) (step : engine.Step rules deed next) :
    next.snapshot.isRefreshing = true ↔ ∃ task, next.enumerating task = true := by
  have whole := step
  cases step with
  | change change => exact flags.refreshing_kept (isRefreshing_change ..) fun _ => rfl
  | publish found publishes => exact flags.refreshing_published found publishes
  | move found moves => exact flags.refreshing_kept rfl (enumerating_set rfl found moves.isEnumerating)
  | call | take | count =>
    exact flags.refreshing_kept rfl fun other => whole.enumerating other (by simp [Deed.publishes])
  | storeChange | elapse | withdraw | note | leave | idle =>
    exact flags.refreshing_kept rfl fun other => whole.enumerating other (by simp)

private theorem ErrorTold.set (told : engine.ErrorTold) (phases_eq : next.phases = engine.phases.set task new)
    (found : engine.phases[task]? = some old) (before : old.unnoted? = none) (after : new.unnoted? = none)
    (same : next.snapshot.lastError = engine.snapshot.lastError) (last_eq : next.lastFull = engine.lastFull) :
    next.ErrorTold := by
  constructor
  · rw [phases_eq,same]
    intro other phase present result unnoted
    rcases phases_set_cases present with ⟨-,rfl⟩ | ⟨-,earlier⟩
    · simp [after] at unnoted
    · exact told.unnoted other phase earlier result unnoted
  · rw [phases_eq,same,last_eq]
    intro none_unnoted
    refine told.last fun other phase present => ?_
    by_cases equal : other = task
    · subst equal
      rwa [Option.some.inj (present.symm.trans found)]
    · exact none_unnoted other phase ((phases_set_other equal).trans present)

/-- Who has just published the end of a full refresh has the turn, so that its result is the only one to look at. -/
private theorem TurnHeld.errorTold (turn : engine.TurnHeld) {result : Except Failure Report}
    (phases_eq : next.phases = engine.phases.set task (.published result)) (found : engine.phases[task]? = some old)
    (has : old.hasTurn = true) (published : next.snapshot.lastError = errorKind? result) : next.ErrorTold := by
  constructor
  · rw [phases_eq,published]
    refine turn.forall_set found has ?_ ?_
    · intro other phase without result' unnoted
      simp [Phase.unnoted?_without_turn without] at unnoted
    · intro result' unnoted
      rw [Option.some.inj unnoted]
  · intro none_unnoted
    rw [phases_eq] at none_unnoted
    cases none_unnoted task _ (phases_set_self found)

theorem ErrorTold.step (told : engine.ErrorTold) (turn : engine.TurnHeld) (step : engine.Step rules deed next) :
    next.ErrorTold := by
  cases step with
  | storeChange | elapse | idle => exact ⟨told.unnoted,told.last⟩
  | change change =>
    have same : (engine.feed.change rules engine.store.shouldUnmount change).snapshot.lastError = engine.snapshot.lastError :=
      lastError_change ..
    exact ⟨fun task phase found result unnoted => same.trans (told.unnoted task phase found result unnoted),
      fun none_unnoted => same.trans (told.last none_unnoted)⟩
  | call call =>
    constructor
    · intro task phase found result unnoted
      rcases phases_call_cases found with before | ⟨-,rfl⟩
      · exact told.unnoted task phase before result unnoted
      · cases unnoted
    · intro none_unnoted
      exact told.last fun task phase present => none_unnoted task phase (phases_call_old call present)
  | take _ found | withdraw found | count found => exact told.set rfl found (by rfl) (by rfl) rfl rfl
  | @leave task result found => cases result <;> exact told.set rfl found (by rfl) (by rfl) rfl rfl
  | move found moves => exact told.set rfl found moves.unnoted?.1 moves.unnoted?.2 rfl rfl
  | publish found publishes =>
    have has := publishes.hasTurn.1
    have before := publishes.unnoted?
    cases publishes with
    | begin | abandon => exact told.set rfl found before rfl rfl rfl
    | complete | failListed | failJoined => exact turn.errorTold rfl found has rfl
    | @reload since resort before records =>
      refine told.set rfl found rfl rfl ?_ rfl
      cases resort <;> rfl
  | @note task result found =>
    constructor
    · refine turn.forall_set found rfl ?_ ?_
      · intro other phase without result' unnoted
        simp [Phase.unnoted?_without_turn without] at unnoted
      · intro result' unnoted
        cases unnoted
    · exact fun _ => told.unnoted task _ found result rfl

theorem Flags.step (flags : engine.Flags) (step : engine.Step rules deed next) : next.Flags :=
  ⟨flags.turn.step step,flags.refreshing_step step,flags.error.step flags.turn step⟩

theorem Flags.start (filters : Filters) (store : StoreView) : (Engine.start filters store).Flags := by
  refine ⟨.start filters store,?_,?_,fun _ => rfl⟩
  · simp [Engine.start,snapshot,Feed.start,enumerating]
  · simp [Engine.start]

end

/-- What holds at the start and is kept by every step holds after all events. -/
theorem run_induction {rules : Rules} {engine : Engine} {motive : Engine → Prop} (start : motive engine)
    (step : ∀ engine deed next, motive engine → Step rules engine deed next → motive next) (events : List Event) :
    motive (engine.run rules events) := by
  rw [← watch_engine]
  exact watch_induction (motive := fun watched => motive watched.engine) start
    (fun watched deed next => step watched.engine deed next) events

theorem run_flags (rules : Rules) (filters : Filters) (store : StoreView) (events : List Event) :
    ((Engine.start filters store).run rules events).Flags :=
  run_induction (.start filters store) (fun _ _ _ flags step => flags.step step) events

end Engine
end AppGrants.Refresh
