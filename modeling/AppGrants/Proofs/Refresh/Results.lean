import AppGrants.Proofs.Refresh.Turn

/-! The results of full refreshes. The one kept to be shared is that of the full refresh that ended last. -/
namespace AppGrants.Refresh
open Catalog

def Deed.counted? : Deed → Option (Except Failure Report)
  | .counted _ result => some result
  | _ => none

/-- The results of the full refreshes that ended, the latest first. -/
def endedResults : List Entry → List (Except Failure Report)
  | [] => []
  | ⟨deed,_⟩ :: older => deed.counted?.toList ++ endedResults older

def Phase.noted? : Phase → Option (Except Failure Report)
  | .noted result => some result
  | _ => none

theorem Phase.noted?_without_turn {phase : Phase} (without : ¬phase.hasTurn = true) : phase.noted? = none := by
  cases phase <;> first | rfl | exact absurd rfl without

/-- The last result is that of the full refresh that ended last, but while one is about to be counted. -/
structure Watched.LastKept (watched : Watched) : Prop where
  noted : ∀ (task : Nat) (phase : Phase), watched.engine.phases[task]? = some phase →
    ∀ result, phase.noted? = some result → watched.engine.lastFull = some result
  last : (∀ (task : Nat) (phase : Phase), watched.engine.phases[task]? = some phase → phase.noted? = none) →
    watched.engine.lastFull = (endedResults watched.history).head?

namespace Engine
variable {engine : Engine} {task : Nat} {old new : Phase}

theorem Moves.uncounted {deed : Option Deed} (moves : engine.Moves task old new deed) :
    old.noted? = none ∧ new.noted? = none ∧ ∀ done ∈ deed, done.counted? = none := by
  cases moves with
  | drop running => exact ⟨by cases old <;> first | rfl | simp [Phase.isReading] at running,rfl,by simp⟩
  | list | lookJoining | lookReading => exact ⟨rfl,rfl,by simp [Deed.counted?]⟩
  | share | skip | beginReading | join | giveUp => exact ⟨rfl,rfl,by simp⟩

theorem Publishes.uncounted {rules : Rules} {feed : Feed} {deed : Deed}
    (publishes : engine.Publishes rules task old new feed deed) :
    old.noted? = none ∧ new.noted? = none ∧ deed.counted? = none := by
  cases publishes with
  | abandon running => exact ⟨by cases old <;> first | rfl | simp [Phase.isEnumerating] at running,rfl,rfl⟩
  | _ => exact ⟨rfl,rfl,rfl⟩

end Engine

section
variable {rules : Rules} {watched : Watched} {next : Engine} {deed : Option Deed} {task : Nat} {old new : Phase}

private theorem Watched.LastKept.set (kept : watched.LastKept) (found : watched.engine.phases[task]? = some old)
    (before : old.noted? = none) (after : new.noted? = none)
    (phases_eq : next.phases = watched.engine.phases.set task new) (last_eq : next.lastFull = watched.engine.lastFull)
    (uncounted : ∀ done ∈ deed, done.counted? = none) : (watched.followed deed next).LastKept := by
  have same : endedResults (watched.followed deed next).history = endedResults watched.history := by
    cases deed with
    | none => rfl
    | some done => simp [Watched.followed,endedResults,uncounted done rfl]
  constructor
  · intro other phase present result noted
    refine last_eq.trans ?_
    rcases Engine.phases_set_cases (phases_eq ▸ present) with ⟨-,rfl⟩ | ⟨-,earlier⟩
    · simp [after] at noted
    · exact kept.noted other phase earlier result noted
  · intro none_noted
    rw [same]
    refine last_eq.trans (kept.last fun other phase present => ?_)
    by_cases equal : other = task
    · subst equal
      rwa [Option.some.inj (present.symm.trans found)]
    · refine none_noted other phase ?_
      exact (congrArg (·[other]?) phases_eq).trans ((Engine.phases_set_other equal).trans present)

theorem Watched.LastKept.step (kept : watched.LastKept) (turn : watched.engine.TurnHeld)
    (step : watched.engine.Step rules deed next) : (watched.followed deed next).LastKept := by
  cases step with
  | change | storeChange | elapse | idle => exact ⟨kept.noted,kept.last⟩
  | call call =>
    constructor
    · intro task phase found result noted
      rcases Engine.phases_call_cases found with before | ⟨-,rfl⟩
      · exact kept.noted task phase before result noted
      · cases noted
    · intro none_noted
      exact kept.last fun task phase present => none_noted task phase (Engine.phases_call_old call present)
  | take _ found => exact kept.set found rfl rfl rfl rfl (by simp [Deed.counted?])
  | withdraw found => exact kept.set found rfl rfl rfl rfl (by simp)
  | move found moves =>
    exact kept.set found moves.uncounted.1 moves.uncounted.2.1 rfl rfl moves.uncounted.2.2
  | publish found publishes =>
    exact kept.set found publishes.uncounted.1 publishes.uncounted.2.1 rfl rfl (by simpa using publishes.uncounted.2.2)
  | @note task result found =>
    constructor
    · refine turn.forall_set found rfl ?_ ?_
      · intro other phase without result noted
        simp [Phase.noted?_without_turn without] at noted
      · intro other noted
        exact noted
    · intro none_noted
      have silent := none_noted task _ (Engine.phases_set_self found)
      cases silent
  | @count task result found =>
    have last := kept.noted task _ found result rfl
    constructor
    · refine turn.forall_set found rfl ?_ ?_
      · intro other phase without result noted
        simp [Phase.noted?_without_turn without] at noted
      · intro other noted
        cases noted
    · exact fun _ => last
  | @leave task result found =>
    exact kept.set found rfl (by cases result <;> rfl) rfl rfl (by simp)

theorem Watched.LastKept.latest (kept : watched.LastKept) (turn : watched.engine.TurnHeld)
    (found : watched.engine.phases[task]? = some old) (has : old.hasTurn = true) (before : old.noted? = none) :
    watched.engine.lastFull = (endedResults watched.history).head? := by
  refine kept.last fun other phase present => ?_
  by_cases holds : phase.hasTurn = true
  · obtain rfl : other = task := turn.unique found has present holds
    rwa [Option.some.inj (present.symm.trans found)]
  · exact Phase.noted?_without_turn holds

end
end AppGrants.Refresh
