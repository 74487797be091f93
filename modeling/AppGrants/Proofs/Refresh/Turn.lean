import AppGrants.Proofs.Refresh.History

/-! Refreshes take turns: the one that has the turn is the only one that has come past waiting and has not given it back. -/
namespace AppGrants.Refresh
open Catalog

namespace Engine
variable {engine next : Engine} {task other : Nat} {old new phase : Phase} {deed : Option Deed}

theorem phases_set_self (found : engine.phases[task]? = some old) : (engine.phases.set task new)[task]? = some new := by
  obtain ⟨bound,-⟩ := List.getElem?_eq_some_iff.mp found
  simp [bound]

theorem phases_set_other (apart : other ≠ task) : (engine.phases.set task new)[other]? = engine.phases[other]? :=
  List.getElem?_set_ne (Ne.symm apart)

theorem phases_set_cases (found : (engine.phases.set task new)[other]? = some phase) :
    (other = task ∧ phase = new) ∨ (other ≠ task ∧ engine.phases[other]? = some phase) := by
  by_cases same : other = task
  · subst same
    rw [List.getElem?_set_self'] at found
    obtain ⟨-,-,rfl⟩ := Option.map_eq_some_iff.mp found
    exact .inl ⟨rfl,rfl⟩
  · exact .inr ⟨same,by rwa [phases_set_other same] at found⟩

theorem phases_call_old (call : Call) (found : engine.phases[task]? = some phase) :
    (engine.call call).phases[task]? = some phase := by
  obtain ⟨bound,-⟩ := List.getElem?_eq_some_iff.mp found
  exact (List.getElem?_append_left bound).trans found

theorem phases_call_cases {call : Call} (found : (engine.call call).phases[task]? = some phase) :
    engine.phases[task]? = some phase ∨ (task = engine.phases.length ∧ phase = .waiting (engine.aim call)) := by
  rcases Nat.lt_trichotomy task engine.phases.length with inside | last | beyond
  · exact .inl ((List.getElem?_append_left inside).symm.trans found)
  · subst last
    exact .inr ⟨rfl,(Option.some.inj (List.getElem?_concat_length.symm.trans found)).symm⟩
  · have outside : (engine.call call).phases.length ≤ task := by simpa [Engine.call] using Nat.succ_le_of_lt beyond
    simp [List.getElem?_eq_none outside] at found

/-- Exactly the refresh that has the turn is past waiting and not over. -/
structure TurnHeld (engine : Engine) : Prop where
  only : ∀ task phase, engine.phases[task]? = some phase → phase.hasTurn = true → engine.turn = some task
  held : ∀ task, engine.turn = some task → ∃ phase, engine.phases[task]? = some phase ∧ phase.hasTurn = true

theorem Moves.hasTurn (moves : engine.Moves task old new deed) : old.hasTurn = true ∧ new.hasTurn = true := by
  cases moves with
  | drop running => exact ⟨Phase.hasTurn_of_isReading running,rfl⟩
  | _ => exact ⟨rfl,rfl⟩

theorem Publishes.hasTurn {rules : Rules} {feed : Feed} {deed : Deed}
    (publishes : engine.Publishes rules task old new feed deed) : old.hasTurn = true ∧ new.hasTurn = true := by
  cases publishes with
  | abandon running => exact ⟨Phase.hasTurn_of_isEnumerating running,rfl⟩
  | _ => exact ⟨rfl,rfl⟩

theorem TurnHeld.unique (turn : engine.TurnHeld) {phase' : Phase} (found : engine.phases[task]? = some phase)
    (has : phase.hasTurn = true) (found' : engine.phases[other]? = some phase') (has' : phase'.hasTurn = true) :
    other = task :=
  Option.some.inj ((turn.only other phase' found' has').symm.trans (turn.only task phase found has))

/-- What is asked of refreshes with the turn only needs to be seen for the one that has it. -/
theorem TurnHeld.forall_set {motive : Nat → Phase → Prop} (turn : engine.TurnHeld)
    (found : engine.phases[task]? = some old) (has : old.hasTurn = true)
    (vacuous : ∀ other phase, ¬phase.hasTurn = true → motive other phase) (holds : motive task new) :
    ∀ other phase, (engine.phases.set task new)[other]? = some phase → motive other phase := by
  intro other phase present
  rcases phases_set_cases present with ⟨rfl,rfl⟩ | ⟨apart,before⟩
  · exact holds
  · exact vacuous other phase fun has' => apart (turn.unique found has before has')

private theorem TurnHeld.set (turn : engine.TurnHeld) (found : engine.phases[task]? = some old)
    (phases_eq : next.phases = engine.phases.set task new) (turn_eq : next.turn = engine.turn)
    (same : new.hasTurn = old.hasTurn) : next.TurnHeld := by
  constructor
  · intro other phase present has
    rw [phases_eq] at present
    rw [turn_eq]
    rcases phases_set_cases present with ⟨rfl,rfl⟩ | ⟨-,before⟩
    · exact turn.only _ old found (same ▸ has)
    · exact turn.only other phase before has
  · intro other holder
    obtain ⟨phase,present,has⟩ := turn.held other (turn_eq ▸ holder)
    rw [phases_eq]
    by_cases equal : other = task
    · subst equal
      have phase_eq : phase = old := Option.some.inj (present.symm.trans found)
      exact ⟨new,phases_set_self found,by rw [same,← phase_eq,has]⟩
    · exact ⟨phase,(phases_set_other equal).trans present,has⟩

theorem TurnHeld.step {rules : Rules} (turn : engine.TurnHeld) (step : engine.Step rules deed next) : next.TurnHeld := by
  cases step with
  | change | storeChange | elapse | idle => exact ⟨turn.only,turn.held⟩
  | call call =>
    constructor
    · intro task phase found has
      rcases phases_call_cases found with before | ⟨-,rfl⟩
      · exact turn.only task phase before has
      · simp [Phase.hasTurn] at has
    · intro task holder
      obtain ⟨phase,found,has⟩ := turn.held task holder
      exact ⟨phase,phases_call_old call found,has⟩
  | take free found =>
    constructor
    · intro other phase present has
      rcases phases_set_cases present with ⟨rfl,-⟩ | ⟨-,before⟩
      · rfl
      · simp [turn.only other phase before has] at free
    · intro other holder
      cases holder
      exact ⟨_,phases_set_self found,rfl⟩
  | withdraw found => exact turn.set found rfl rfl rfl
  | move found moves => exact turn.set found rfl rfl (moves.hasTurn.2.trans moves.hasTurn.1.symm)
  | publish found publishes => exact turn.set found rfl rfl (publishes.hasTurn.2.trans publishes.hasTurn.1.symm)
  | note found | count found => exact turn.set found rfl rfl rfl
  | leave found =>
    constructor
    · intro other phase present has
      rcases phases_set_cases present with ⟨-,rfl⟩ | ⟨apart,before⟩
      · rename_i result
        cases result <;> simp [Phase.hasTurn] at has
      · exact absurd (turn.unique found rfl before has) apart
    · intro other holder
      simp [Engine.leave] at holder

theorem TurnHeld.start (filters : Filters) (store : StoreView) : (Engine.start filters store).TurnHeld := by
  constructor <;> simp [Engine.start]

theorem Moves.result? (moves : engine.Moves task old new deed) : old.result? = none := by
  cases moves with
  | drop running => exact Phase.result?_of_isUnderWay (Phase.isUnderWay_of_isReading running)
  | _ => rfl

theorem Publishes.result? {rules : Rules} {feed : Feed} {deed : Deed}
    (publishes : engine.Publishes rules task old new feed deed) : old.result? = none := by
  cases publishes with
  | abandon running => exact Phase.result?_of_isUnderWay (Phase.isUnderWay_of_isEnumerating running)
  | _ => rfl

/-- How an event takes a refresh from one phase to another. -/
inductive Advances (rules : Rules) (engine : Engine) (task : Nat) : Option Deed → Phase → Phase → Prop where
  | take {aim : Aim} : Advances rules engine task (some (.taken task)) (.waiting aim) (.admitted aim)
  | withdraw {aim : Aim} : Advances rules engine task none (.waiting aim) .cancelled
  | move {old new : Phase} {deed : Option Deed} (moves : engine.Moves task old new deed) :
      Advances rules engine task deed old new
  | publish {old new : Phase} {feed : Feed} {deed : Deed} (publishes : engine.Publishes rules task old new feed deed) :
      Advances rules engine task (some deed) old new
  | note {result : Except Failure Report} : Advances rules engine task none (.published result) (.noted result)
  | count {result : Except Failure Report} :
      Advances rules engine task (some (.counted task result)) (.noted result) (.leaving (some result))
  | drop : Advances rules engine task none (.leaving none) .cancelled
  | finish {result : Except Failure Report} : Advances rules engine task none (.leaving (some result)) (.ended result)

/-- What becomes of the phase of one refresh, whoever the event is about. -/
theorem Step.advances {rules : Rules} (step : engine.Step rules deed next) (found : engine.phases[task]? = some phase) :
    ∃ later, next.phases[task]? = some later ∧ (later = phase ∨ Advances rules engine task deed phase later) := by
  have set {other : Nat} {old new : Phase} (present : engine.phases[other]? = some old)
      (advances : Advances rules engine other deed old new) :
      ∃ later, (engine.phases.set other new)[task]? = some later ∧
        (later = phase ∨ Advances rules engine task deed phase later) := by
    by_cases equal : task = other
    · subst equal
      obtain rfl : old = phase := Option.some.inj (present.symm.trans found)
      exact ⟨new,phases_set_self present,.inr advances⟩
    · exact ⟨phase,(phases_set_other equal).trans found,.inl rfl⟩
  cases step with
  | change | storeChange | elapse | idle => exact ⟨phase,found,.inl rfl⟩
  | call call => exact ⟨phase,phases_call_old call found,.inl rfl⟩
  | take _ present => exact set present .take
  | withdraw present => exact set present .withdraw
  | move present moves => exact set present (.move moves)
  | publish present publishes => exact set present (.publish publishes)
  | note present => exact set present .note
  | count present => exact set present .count
  | @leave _ left present =>
    cases left with
    | none => exact set present .drop
    | some result => exact set present .finish

/-- A refresh that has come to a result keeps it. -/
theorem Step.result {rules : Rules} {result : Except Failure Report} (step : engine.Step rules deed next)
    (found : engine.phases[task]? = some phase) (has : phase.result? = some result) :
    ∃ phase', next.phases[task]? = some phase' ∧ phase'.result? = some result := by
  obtain ⟨later,present,rfl | advances⟩ := step.advances found
  · exact ⟨later,present,has⟩
  · refine ⟨later,present,?_⟩
    cases advances with
    | take | withdraw | drop => cases has
    | move moves => simp [moves.result?] at has
    | publish publishes => simp [publishes.result?] at has
    | note | count | finish => exact has

end Engine

/-- A phase that a full refresh can be in, or one that a refresh of the profiles can be in. -/
def Phase.ofKind (full : Bool) : Phase → Bool
  | waiting (.full _) | admitted (.full _) | listing _ | listed _ _ | joining _ _ _ | joined _ _ _ | published _ | noted _ => full
  | waiting (.profiles _ _) | admitted (.profiles _ _) | reading _ _ _ | read _ _ _ _ => !full
  | leaving _ | ended _ | cancelled => true

namespace Engine
variable {rules : Rules} {engine next : Engine} {task : Nat} {old new : Phase} {full : Bool}

theorem Moves.ofKind {deed : Option Deed} (moves : engine.Moves task old new deed) (kind : old.ofKind full = true) :
    new.ofKind full = true := by
  cases moves <;> first | rfl | exact kind

theorem Publishes.ofKind {feed : Feed} {deed : Deed} (publishes : engine.Publishes rules task old new feed deed)
    (kind : old.ofKind full = true) : new.ofKind full = true := by
  cases publishes <;> first | rfl | exact kind

/-- A refresh stays of its kind. -/
theorem Step.ofKind {deed : Option Deed} (step : engine.Step rules deed next)
    (before : ∃ phase, engine.phases[task]? = some phase ∧ phase.ofKind full = true) :
    ∃ phase, next.phases[task]? = some phase ∧ phase.ofKind full = true := by
  obtain ⟨phase,found,kind⟩ := before
  obtain ⟨later,present,rfl | advances⟩ := step.advances found
  · exact ⟨later,present,kind⟩
  · refine ⟨later,present,?_⟩
    cases advances with
    | @take aim => cases aim <;> exact kind
    | move moves => exact moves.ofKind kind
    | publish publishes => exact publishes.ofKind kind
    | note => exact kind
    | withdraw | count | drop | finish => rfl

end Engine
end AppGrants.Refresh
