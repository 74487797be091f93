import AppGrants.Refresh.Engine
import Mathlib.Data.List.Basic

/-! What happens while refreshes run. A watcher writes down each deed with the engine as it was just before; `Step` says all
that an event can do to the engine, and what is written down of it. -/
namespace AppGrants.Refresh
open Catalog

inductive Deed where
  | set (change : Change)
  | asked (task : Nat) (call : Call)
  | taken (task : Nat)
  | begun (task : Nat)
  | told (task : Nat) (result : Except Failure Enumeration)
  | looked (task : Nat)
  | completed (task : Nat)
  | failed (task : Nat) (failure : Failure)
  | reloaded (task : Nat) (resort : Bool)
  | abandoned (task : Nat)
  | counted (task : Nat) (result : Except Failure Report)

/-- A deed that makes a snapshot. -/
def Deed.publishes : Deed → Bool
  | .set _ | .begun _ | .completed _ | .failed _ _ | .reloaded _ _ | .abandoned _ => true
  | _ => false

structure Entry where
  deed : Deed
  engine : Engine

namespace Phase

def hasTurn : Phase → Bool
  | waiting _ | ended _ | cancelled => false
  | _ => true

/-- A full refresh that is under way. -/
def isEnumerating : Phase → Bool
  | listing _ | listed _ _ | joining _ _ _ | joined _ _ _ => true
  | _ => false

/-- A refresh of the profiles that is under way. -/
def isReading : Phase → Bool
  | reading _ _ _ | read _ _ _ _ => true
  | _ => false

/-- A refresh that has the turn and has not published its end. -/
def isUnderWay : Phase → Bool
  | admitted _ => true
  | phase => phase.isEnumerating || phase.isReading

/-- The result of a refresh, whether or not it has given the turn back. -/
def result? : Phase → Option (Except Failure Report)
  | published result | noted result | leaving (some result) | ended result => some result
  | _ => none

theorem hasTurn_of_isEnumerating {phase : Phase} (running : phase.isEnumerating = true) : phase.hasTurn = true := by
  cases phase <;> simp_all [isEnumerating,hasTurn]

theorem hasTurn_of_isReading {phase : Phase} (running : phase.isReading = true) : phase.hasTurn = true := by
  cases phase <;> simp_all [isReading,hasTurn]

theorem hasTurn_of_isUnderWay {phase : Phase} (running : phase.isUnderWay = true) : phase.hasTurn = true := by
  cases phase <;> simp_all [isUnderWay,isEnumerating,isReading,hasTurn]

theorem isUnderWay_of_isEnumerating {phase : Phase} (running : phase.isEnumerating = true) : phase.isUnderWay = true := by
  cases phase <;> simp_all [isUnderWay]

theorem isUnderWay_of_isReading {phase : Phase} (running : phase.isReading = true) : phase.isUnderWay = true := by
  cases phase <;> simp_all [isUnderWay]

theorem result?_of_isUnderWay {phase : Phase} (running : phase.isUnderWay = true) : phase.result? = none := by
  cases phase <;> simp_all [isUnderWay,isEnumerating,isReading,result?]

end Phase

namespace Engine

def resumed? (engine : Engine) (task : Nat) : Phase → Option Deed
  | .admitted (.full ended) => if engine.fullsEnded ≠ ended then none else some (.begun task)
  | .listed _ (.error failure) => some (.failed task failure)
  | .joined _ _ (.ok _) => some (.completed task)
  | .joined _ _ (.error failure) => some (.failed task failure)
  | .read _ resort _ (.ok _) => some (.reloaded task resort)
  | .noted result => some (.counted task result)
  | _ => none

def looked? (task : Nat) : Phase → Option Deed
  | .joining _ _ _ | .reading _ _ _ => some (.looked task)
  | _ => none

def told? (task : Nat) (outcome : Outcome Enumeration) : Phase → Option Deed
  | .listing _ => some (.told task (onPool enumerateLabel outcome))
  | _ => none

def deed? (engine : Engine) : Event → Option Deed
  | .change change => some (.set change)
  | .storeChange _ => none
  | .elapse _ => none
  | .call call => some (.asked engine.phases.length call)
  | .trigger force resort => some (.asked engine.phases.length (engine.chooseCall force resort))
  | .take task =>
    match engine.turn, engine.phases[task]? with
    | none, some (.waiting _) => some (.taken task)
    | _, _ => none
  | .enumerated task outcome => (engine.phases[task]?).bind (told? task outcome)
  | .looked task => (engine.phases[task]?).bind (looked? task)
  | .resume task => (engine.phases[task]?).bind (engine.resumed? task)
  | .cancel task => (engine.phases[task]?).bind fun phase => if phase.isEnumerating then some (.abandoned task) else none

/-- Which deed an event is written down as, and the phase that it takes for those of a refresh that goes on. -/
inductive Does (engine : Engine) : Event → Deed → Prop where
  | set (change : Change) : Does engine (.change change) (.set change)
  | call (call : Call) : Does engine (.call call) (.asked engine.phases.length call)
  | trigger (force resort : Bool) :
      Does engine (.trigger force resort) (.asked engine.phases.length (engine.chooseCall force resort))
  | take (task : Nat) : Does engine (.take task) (.taken task)
  | tell (task : Nat) (outcome : Outcome Enumeration) :
      Does engine (.enumerated task outcome) (.told task (onPool enumerateLabel outcome))
  | look (task : Nat) : Does engine (.looked task) (.looked task)
  | begin {task ended : Nat} (found : engine.phases[task]? = some (.admitted (.full ended))) :
      Does engine (.resume task) (.begun task)
  | complete {task since : Nat} {users : List Int32} {records : List AppRecord}
      (found : engine.phases[task]? = some (.joined since users (.ok records))) : Does engine (.resume task) (.completed task)
  | failListed {task since : Nat} {failure : Failure} (found : engine.phases[task]? = some (.listed since (.error failure))) :
      Does engine (.resume task) (.failed task failure)
  | failJoined {task since : Nat} {users : List Int32} {failure : Failure}
      (found : engine.phases[task]? = some (.joined since users (.error failure))) :
      Does engine (.resume task) (.failed task failure)
  | reload {task since : Nat} {resort : Bool} {before records : List AppRecord}
      (found : engine.phases[task]? = some (.read since resort before (.ok records))) :
      Does engine (.resume task) (.reloaded task resort)
  | count {task : Nat} {result : Except Failure Report} (found : engine.phases[task]? = some (.noted result)) :
      Does engine (.resume task) (.counted task result)
  | abandon (task : Nat) : Does engine (.cancel task) (.abandoned task)

private theorem does_of_resumed? {engine : Engine} {task : Nat} {phase : Phase} {deed : Deed}
    (found : engine.phases[task]? = some phase) (resumed : engine.resumed? task phase = some deed) :
    engine.Does (.resume task) deed := by
  cases phase with
  | admitted aim =>
    cases aim with
    | full ended =>
      simp only [resumed?] at resumed
      split at resumed <;> cases resumed
      exact .begin found
    | profiles => cases resumed
  | listed since result =>
    cases result <;> cases resumed
    exact .failListed found
  | joined since users result =>
    cases result with
    | ok records =>
      cases resumed
      exact .complete found
    | error failure =>
      cases resumed
      exact .failJoined found
  | read since resort before result =>
    cases result <;> cases resumed
    exact .reload found
  | noted result =>
    cases resumed
    exact .count found
  | waiting | listing | joining | reading | published | leaving | ended | cancelled => cases resumed

theorem does_of_deed? {engine : Engine} {event : Event} {deed : Deed} (done : engine.deed? event = some deed) :
    engine.Does event deed := by
  cases event with
  | change change =>
    cases done
    exact .set change
  | call call =>
    cases done
    exact .call call
  | trigger force resort =>
    cases done
    exact .trigger force resort
  | storeChange | elapse => cases done
  | take task =>
    simp only [deed?] at done
    split at done <;> cases done
    exact .take task
  | enumerated task outcome =>
    obtain ⟨phase,-,told⟩ := Option.bind_eq_some_iff.mp done
    cases phase <;> cases told
    exact .tell task outcome
  | looked task =>
    obtain ⟨phase,-,looked⟩ := Option.bind_eq_some_iff.mp done
    cases phase <;> cases looked <;> exact .look task
  | resume task =>
    obtain ⟨phase,found,resumed⟩ := Option.bind_eq_some_iff.mp done
    exact does_of_resumed? found resumed
  | cancel task =>
    obtain ⟨phase,-,cancelled⟩ := Option.bind_eq_some_iff.mp done
    split at cancelled <;> cases cancelled
    exact .abandon task

/-- What a refresh does that publishes nothing and keeps the turn. -/
inductive Moves (engine : Engine) (task : Nat) : Phase → Phase → Option Deed → Prop where
  | share {ended : Nat} (later : engine.fullsEnded ≠ ended) :
      Moves engine task (.admitted (.full ended)) (.leaving (some engine.sharedResult)) none
  | skip {resort : Bool} {since : Nat} (empty : engine.snapshot.allRecords = []) :
      Moves engine task (.admitted (.profiles resort since))
        (.leaving (some (.ok (.ofSnapshot .skipped engine.snapshot (engine.clock - since))))) none
  | beginReading {resort : Bool} {since : Nat} (present : engine.snapshot.allRecords ≠ []) :
      Moves engine task (.admitted (.profiles resort since)) (.reading since resort engine.snapshot.allRecords) none
  | list {since : Nat} (result : Except Failure Enumeration) :
      Moves engine task (.listing since) (.listed since result) (some (.told task result))
  | join {since : Nat} {users : List Int32} {packages : List PackageMeta} :
      Moves engine task (.listed since (.ok (users,packages))) (.joining since users packages) none
  | lookJoining {since : Nat} {users : List Int32} {packages : List PackageMeta} :
      Moves engine task (.joining since users packages)
        (.joined since users (onPool joinLabel (joinProfiles engine.store packages))) (some (.looked task))
  | lookReading {since : Nat} {resort : Bool} {before : List AppRecord} :
      Moves engine task (.reading since resort before)
        (.read since resort before (onPool reloadLabel (reloadProfiles engine.store before))) (some (.looked task))
  | giveUp {since : Nat} {resort : Bool} {before : List AppRecord} {failure : Failure} :
      Moves engine task (.read since resort before (.error failure)) (.leaving (some (.error failure))) none
  | drop {old : Phase} (running : old.isReading = true) : Moves engine task old (.leaving none) none

/-- What a refresh publishes. -/
inductive Publishes (rules : Rules) (engine : Engine) (task : Nat) : Phase → Phase → Feed → Deed → Prop where
  | begin {ended : Nat} (newest : engine.fullsEnded = ended) :
      Publishes rules engine task (.admitted (.full ended)) (.listing engine.clock) (engine.feed.setRefreshing rules true)
        (.begun task)
  | complete {since : Nat} {users : List Int32} {records : List AppRecord} :
      Publishes rules engine task (.joined since users (.ok records))
        (.published (.ok (.ofSnapshot .full (engine.feed.complete rules engine.store.shouldUnmount users records).snapshot
          (engine.clock - since))))
        (engine.feed.complete rules engine.store.shouldUnmount users records) (.completed task)
  | failListed {since : Nat} {failure : Failure} :
      Publishes rules engine task (.listed since (.error failure)) (.published (.error failure))
        (engine.feed.fail rules failure.kind) (.failed task failure)
  | failJoined {since : Nat} {users : List Int32} {failure : Failure} :
      Publishes rules engine task (.joined since users (.error failure)) (.published (.error failure))
        (engine.feed.fail rules failure.kind) (.failed task failure)
  | reload {since : Nat} {resort : Bool} {before records : List AppRecord} :
      Publishes rules engine task (.read since resort before (.ok records))
        (.leaving (some (.ok (.ofSnapshot (if resort then .profileOnly else .incremental)
          (engine.reloadedFeed rules resort before records).snapshot (engine.clock - since)))))
        (engine.reloadedFeed rules resort before records) (.reloaded task resort)
  | abandon {old : Phase} (running : old.isEnumerating = true) :
      Publishes rules engine task old (.leaving none) (engine.feed.setRefreshing rules false) (.abandoned task)

/-- All that an event can do, with the deed that is written down. -/
inductive Step (rules : Rules) (engine : Engine) : Option Deed → Engine → Prop where
  | change (change : Change) : Step rules engine (some (.set change))
      { engine with feed := engine.feed.change rules engine.store.shouldUnmount change }
  | storeChange (store : StoreView) : Step rules engine none { engine with store }
  | elapse (nanoseconds : Nat) : Step rules engine none { engine with clock := engine.clock + nanoseconds }
  | call (call : Call) : Step rules engine (some (.asked engine.phases.length call)) (engine.call call)
  | take {task : Nat} {aim : Aim} (free : engine.turn = none) (found : engine.phases[task]? = some (.waiting aim)) :
      Step rules engine (some (.taken task)) { engine.setPhase task (.admitted aim) with turn := some task }
  | withdraw {task : Nat} {aim : Aim} (found : engine.phases[task]? = some (.waiting aim)) :
      Step rules engine none (engine.setPhase task .cancelled)
  | move {task : Nat} {old new : Phase} {deed : Option Deed} (found : engine.phases[task]? = some old)
      (moves : engine.Moves task old new deed) : Step rules engine deed (engine.setPhase task new)
  | publish {task : Nat} {old new : Phase} {feed : Feed} {deed : Deed} (found : engine.phases[task]? = some old)
      (publishes : engine.Publishes rules task old new feed deed) :
      Step rules engine (some deed) (engine.publish task new feed)
  | note {task : Nat} {result : Except Failure Report} (found : engine.phases[task]? = some (.published result)) :
      Step rules engine none { engine.setPhase task (.noted result) with lastFull := some result }
  | count {task : Nat} {result : Except Failure Report} (found : engine.phases[task]? = some (.noted result)) :
      Step rules engine (some (.counted task result))
        { engine.setPhase task (.leaving (some result)) with fullsEnded := engine.fullsEnded + 1 }
  | leave {task : Nat} {result : Option (Except Failure Report)}
      (found : engine.phases[task]? = some (.leaving result)) : Step rules engine none (engine.leave task result)
  | idle : Step rules engine none engine

variable (rules : Rules) (engine : Engine)

private theorem take_step (task : Nat) :
    Step rules engine (engine.deed? (.take task)) (engine.apply rules (.take task)) := by
  simp only [deed?,apply]
  cases free : engine.turn with
  | some => exact .idle
  | none =>
    cases found : engine.phases[task]? with
    | none => exact .idle
    | some phase =>
      cases phase with
      | waiting aim => exact .take free found
      | _ => exact .idle

private theorem resume_step (task : Nat) :
    Step rules engine (engine.deed? (.resume task)) (engine.apply rules (.resume task)) := by
  simp only [deed?,apply]
  cases found : engine.phases[task]? with
  | none => exact .idle
  | some phase =>
    rw [Option.bind_some,Option.elim_some]
    cases phase with
    | admitted aim =>
      cases aim with
      | full ended =>
        by_cases newest : engine.fullsEnded = ended
        · simp only [resumed?,resume,begin,newest,ne_eq,not_true_eq_false,if_false]
          exact .publish found (.begin newest)
        · simp only [resumed?,resume,begin,newest,ne_eq,not_false_eq_true,if_true]
          exact .move found (.share newest)
      | profiles resort since =>
        by_cases empty : engine.snapshot.allRecords = []
        · simp only [resumed?,resume,begin,empty,List.isEmpty_nil,if_true]
          exact .move found (.skip empty)
        · simp only [resumed?,resume,begin,List.isEmpty_iff,empty,if_false]
          exact .move found (.beginReading empty)
    | listed since result =>
      cases result with
      | ok enumeration => exact .move found .join
      | error failure => exact .publish found .failListed
    | joined since users result =>
      cases result with
      | ok records => exact .publish found .complete
      | error failure => exact .publish found .failJoined
    | read since resort before result =>
      cases result with
      | ok records => exact .publish found .reload
      | error failure => exact .move found .giveUp
    | published result => exact .note found
    | noted result => exact .count found
    | leaving result => exact .leave found
    | waiting | listing | joining | reading | ended | cancelled => exact .idle

private theorem cancel_step (task : Nat) :
    Step rules engine (engine.deed? (.cancel task)) (engine.apply rules (.cancel task)) := by
  simp only [deed?,apply]
  cases found : engine.phases[task]? with
  | none => exact .idle
  | some phase =>
    rw [Option.bind_some,Option.elim_some]
    cases phase with
    | waiting aim => exact .withdraw found
    | listing | listed | joining | joined => exact .publish found (.abandon rfl)
    | reading | read => exact .move found (.drop rfl)
    | admitted | published | noted | leaving | ended | cancelled => exact .idle

private theorem looked_step (task : Nat) :
    Step rules engine (engine.deed? (.looked task)) (engine.apply rules (.looked task)) := by
  simp only [deed?,apply]
  cases found : engine.phases[task]? with
  | none => exact .idle
  | some phase =>
    rw [Option.bind_some,Option.elim_some]
    cases phase with
    | joining => exact .move found .lookJoining
    | reading => exact .move found .lookReading
    | _ => exact .idle

private theorem enumerated_step (task : Nat) (outcome : Outcome Enumeration) :
    Step rules engine (engine.deed? (.enumerated task outcome)) (engine.apply rules (.enumerated task outcome)) := by
  simp only [deed?,apply]
  cases found : engine.phases[task]? with
  | none => exact .idle
  | some phase =>
    rw [Option.bind_some]
    cases phase with
    | listing since => exact .move found (.list _)
    | _ => exact .idle

theorem apply_step (event : Event) : Step rules engine (engine.deed? event) (engine.apply rules event) := by
  cases event with
  | change change => exact .change change
  | storeChange store => exact .storeChange store
  | elapse nanoseconds => exact .elapse nanoseconds
  | call call => exact .call call
  | trigger force resort => exact .call (engine.chooseCall force resort)
  | take task => exact take_step rules engine task
  | enumerated task outcome => exact enumerated_step rules engine task outcome
  | looked task => exact looked_step rules engine task
  | resume task => exact resume_step rules engine task
  | cancel task => exact cancel_step rules engine task

theorem Step.feed {rules : Rules} {engine next : Engine} {deed : Option Deed} (step : engine.Step rules deed next)
    (silent : ∀ done ∈ deed, done.publishes = false) : next.feed = engine.feed := by
  cases step with
  | change => cases silent _ rfl
  | publish found publishes => cases publishes <;> cases silent _ rfl
  | storeChange | elapse | call | take | withdraw | move | note | count | leave | idle => rfl

theorem run_append (before after : List Event) :
    engine.run rules (before ++ after) = (engine.run rules before).run rules after := List.foldl_append

end Engine

/-- An engine with what was written down of it, the latest first. -/
structure Watched where
  engine : Engine
  history : List Entry := []

/-- It holds of every entry with those that were written before it. -/
def Throughout (claim : Entry → List Entry → Prop) (history : List Entry) : Prop :=
  ∀ entry older, entry :: older <:+ history → claim entry older

theorem throughout_nil (claim : Entry → List Entry → Prop) : Throughout claim [] := by
  intro entry older inside
  simp at inside

theorem Throughout.cons {claim : Entry → List Entry → Prop} {entry : Entry} {older : List Entry}
    (throughout : Throughout claim older) (holds : claim entry older) : Throughout claim (entry :: older) := by
  intro other earlier inside
  rcases List.suffix_cons_iff.mp inside with same | before
  · obtain ⟨rfl,rfl⟩ := List.cons.inj same
    exact holds
  · exact throughout other earlier before

namespace Watched

def followed (watched : Watched) (deed : Option Deed) (next : Engine) : Watched :=
  ⟨next,(deed.map fun deed => ⟨deed,watched.engine⟩).toList ++ watched.history⟩

theorem mem_followed {watched : Watched} {deed : Option Deed} {next : Engine} {entry : Entry}
    (member : entry ∈ (watched.followed deed next).history) :
    (∃ done, deed = some done ∧ entry = ⟨done,watched.engine⟩) ∨ entry ∈ watched.history := by
  rcases List.mem_append.mp member with latest | before
  · obtain ⟨done,equal,same⟩ : ∃ done, deed = some done ∧ ⟨done,watched.engine⟩ = entry := by simpa using latest
    exact .inl ⟨done,equal,same.symm⟩
  · exact .inr before

def apply (rules : Rules) (watched : Watched) (event : Event) : Watched :=
  watched.followed (watched.engine.deed? event) (watched.engine.apply rules event)

end Watched

/-- The engine after the events, with what was done in them. -/
def watch (rules : Rules) (engine : Engine) (events : List Event) : Watched :=
  events.foldl (Watched.apply rules) ⟨engine,[]⟩

theorem watch_engine (rules : Rules) (engine : Engine) (events : List Event) :
    (watch rules engine events).engine = engine.run rules events := by
  have same (watched : Watched) :
      (events.foldl (Watched.apply rules) watched).engine = watched.engine.run rules events := by
    unfold Engine.run
    induction events generalizing watched with
    | nil => rfl
    | cons event rest ih => exact ih (watched.apply rules event)
  exact same ⟨engine,[]⟩

/-- What holds at the start and is kept by every step holds after all events. -/
theorem watch_induction {rules : Rules} {engine : Engine} {motive : Watched → Prop} (start : motive ⟨engine,[]⟩)
    (step : ∀ watched deed next, motive watched → watched.engine.Step rules deed next →
      motive (watched.followed deed next)) (events : List Event) : motive (watch rules engine events) := by
  have kept (watched : Watched) (holds : motive watched) : motive (events.foldl (Watched.apply rules) watched) := by
    induction events generalizing watched with
    | nil => exact holds
    | cons event rest ih => exact ih _ (step _ _ _ holds (watched.engine.apply_step rules event))
  exact kept _ start

theorem run_silent {rules : Rules} {engine : Engine} {events : List Event}
    (silent : ∀ entry ∈ (watch rules engine events).history, entry.deed.publishes = false) :
    (engine.run rules events).feed = engine.feed := by
  rw [← watch_engine]
  refine watch_induction (motive := fun watched => (∀ entry ∈ watched.history, entry.deed.publishes = false) →
    watched.engine.feed = engine.feed) (fun _ => rfl) ?_ events silent
  intro watched deed next same step quiet
  have before := same fun entry member => quiet entry (List.mem_append_right _ member)
  refine (step.feed fun done found => ?_).trans before
  cases found
  exact quiet ⟨done,watched.engine⟩ List.mem_cons_self

end AppGrants.Refresh
