import AppGrants.Proofs.Refresh.Views

/-! Two refreshes of the profiles side by side, one that patches and one that sorts anew, with the same events before and
after. Until they publish there is no difference between them; from then on they differ in what is made of the records only. -/
namespace AppGrants.Catalog

/-- The snapshot without what is made of its records. -/
def Snapshot.unviewed (snapshot : Snapshot) : Snapshot := { snapshot with visibleRecords := [], groups := [], search := {} }

def Feed.unviewed (feed : Feed) : Feed := { feed with snapshot := feed.snapshot.unviewed }

theorem Feed.eq_of_unviewed {left right : Feed} (same : left.unviewed = right.unviewed)
    (snapshot : left.snapshot = right.snapshot) : left = right := by
  obtain ⟨filters,text,mark,-⟩ := Feed.mk.inj same
  exact Feed.mk.injEq .. ▸ ⟨filters,text,mark,snapshot⟩

end AppGrants.Catalog

namespace AppGrants.Refresh
open Catalog

def Mode.resorted : Mode → Mode
  | .incremental => .profileOnly
  | mode => mode

def Report.resorted (report : Report) : Report := { report with mode := report.mode.resorted }

namespace Phase

/-- The refresh as it would be had it been called to sort anew. -/
def resorted : Phase → Phase
  | waiting (.profiles _ since) => waiting (.profiles true since)
  | admitted (.profiles _ since) => admitted (.profiles true since)
  | reading since _ before => reading since true before
  | read since _ before result => read since true before result
  | leaving (some (.ok report)) => leaving (some (.ok report.resorted))
  | ended (.ok report) => ended (.ok report.resorted)
  | phase => phase

def resortedAt (task other : Nat) (phase : Phase) : Phase := if other = task then phase.resorted else phase

end Phase

namespace Engine

def unviewed (engine : Engine) : Engine := { engine with feed := engine.feed.unviewed }

/-- The engine as it would be had the refresh been called to sort anew. -/
def resorted (task : Nat) (engine : Engine) : Engine :=
  { engine with phases := engine.phases.mapIdx (Phase.resortedAt task) }

section
variable {rules : Rules} {engine : Engine} {task : Nat}

@[simp] theorem resorted_setPhase (other : Nat) (phase : Phase) :
    (engine.setPhase other phase).resorted task = (engine.resorted task).setPhase other (phase.resortedAt task other) := by
  simp [resorted,setPhase,List.mapIdx_set]

@[simp] theorem resorted_publish (other : Nat) (phase : Phase) (feed : Feed) :
    (engine.publish other phase feed).resorted task =
      (engine.resorted task).publish other (phase.resortedAt task other) feed := by
  simp [resorted,publish,setPhase,List.mapIdx_set]

theorem phases_resorted (other : Nat) :
    (engine.resorted task).phases[other]? = (engine.phases[other]?).map (Phase.resortedAt task other) :=
  List.getElem?_mapIdx

theorem resorted_call (known : task < engine.phases.length) (call : Call) :
    (engine.call call).resorted task = (engine.resorted task).call call := by
  have apart : engine.phases.length ≠ task := Nat.ne_of_gt known
  have last : (Phase.waiting (engine.aim call)).resortedAt task engine.phases.length = .waiting (engine.aim call) :=
    if_neg apart
  simp only [resorted,Engine.call,List.mapIdx_append,List.mapIdx_cons,List.mapIdx_nil,Nat.zero_add,last]
  cases call <;> rfl

@[simp] theorem resortedAt_self (phase : Phase) : phase.resortedAt task task = phase.resorted := if_pos rfl

theorem resortedAt_other {other : Nat} (apart : other ≠ task) (phase : Phase) : phase.resortedAt task other = phase :=
  if_neg apart

@[simp] theorem resorted_feed : (engine.resorted task).feed = engine.feed := rfl

@[simp] theorem resorted_store : (engine.resorted task).store = engine.store := rfl

@[simp] theorem resorted_clock : (engine.resorted task).clock = engine.clock := rfl

@[simp] theorem resorted_turn : (engine.resorted task).turn = engine.turn := rfl

@[simp] theorem resorted_fullsEnded : (engine.resorted task).fullsEnded = engine.fullsEnded := rfl

@[simp] theorem resorted_snapshot : (engine.resorted task).snapshot = engine.snapshot := rfl

@[simp] theorem resorted_sharedResult : (engine.resorted task).sharedResult = engine.sharedResult := rfl

@[simp] theorem resorted_reloadedFeed (resort : Bool) (before records : List AppRecord) :
    (engine.resorted task).reloadedFeed rules resort before records = engine.reloadedFeed rules resort before records := rfl

private theorem resume_other (other : Nat) (apart : other ≠ task) (phase : Phase) :
    (engine.resorted task).resume rules other phase = (engine.resume rules other phase).resorted task := by
  have kept (new : Phase) : new.resortedAt task other = new := resortedAt_other apart new
  cases phase with
  | admitted aim =>
    cases aim with
    | full ended => by_cases newest : engine.fullsEnded = ended <;> simp [resume,begin,newest,kept]
    | profiles => by_cases empty : engine.snapshot.allRecords = [] <;> simp [resume,begin,empty,kept]
  | listed since result | joined since users result | read since resort before result =>
    cases result <;> simp [resume,failFull,completeFull,completeProfiles,kept]
  | published result | noted result | leaving result => simp [resume,leave,resorted,setPhase,List.mapIdx_set,kept]
  | _ => rfl

private theorem resume_self (phase : Phase) (kind : phase.ofKind false = true)
    (unpatched : ∀ since before records, phase ≠ .read since false before (.ok records)) :
    (engine.resorted task).resume rules task phase.resorted = (engine.resume rules task phase).resorted task := by
  cases phase with
  | admitted aim =>
    cases aim with
    | full => simp [Phase.ofKind] at kind
    | profiles =>
      by_cases empty : engine.snapshot.allRecords = [] <;>
        simp [resume,begin,empty,Phase.resorted,Report.resorted,Report.ofSnapshot,Mode.resorted]
  | read since resort before result =>
    cases result with
    | error failure => simp [Phase.resorted,resume]
    | ok records =>
      cases resort with
      | false => exact absurd rfl (unpatched since before records)
      | true => simp [Phase.resorted,resume,completeProfiles,Report.resorted,Report.ofSnapshot,Mode.resorted]
  | leaving result =>
    rcases result with - | - | report <;> simp [Phase.resorted,resume,leave,resorted,setPhase,List.mapIdx_set]
  | ended result => cases result <;> rfl
  | waiting aim => cases aim <;> rfl
  | reading | cancelled => rfl
  | _ => simp [Phase.ofKind] at kind

private theorem cancel_other (other : Nat) (apart : other ≠ task) (phase : Phase) :
    (engine.resorted task).cancel rules other phase = (engine.cancel rules other phase).resorted task := by
  have kept (new : Phase) : new.resortedAt task other = new := resortedAt_other apart new
  cases phase with
  | waiting | listing | listed | joining | joined | reading | read => simp [cancel,kept]
  | _ => rfl

private theorem cancel_self (phase : Phase) (kind : phase.ofKind false = true) :
    (engine.resorted task).cancel rules task phase.resorted = (engine.cancel rules task phase).resorted task := by
  cases phase with
  | waiting aim => cases aim <;> simp [cancel,Phase.resorted]
  | admitted aim => cases aim <;> rfl
  | reading | read => simp [cancel,Phase.resorted]
  | leaving result => rcases result with - | - | report <;> rfl
  | ended result => cases result <;> rfl
  | cancelled => rfl
  | _ => simp [Phase.ofKind] at kind

private theorem look_other (other : Nat) (apart : other ≠ task) (phase : Phase) :
    (engine.resorted task).look other phase = (engine.look other phase).resorted task := by
  have kept (new : Phase) : new.resortedAt task other = new := resortedAt_other apart new
  cases phase with
  | joining | reading => simp [look,kept]
  | _ => rfl

private theorem look_self (phase : Phase) (kind : phase.ofKind false = true) :
    (engine.resorted task).look task phase.resorted = (engine.look task phase).resorted task := by
  cases phase with
  | waiting aim => cases aim <;> rfl
  | admitted aim => cases aim <;> rfl
  | reading => simp [look,Phase.resorted]
  | read => rfl
  | leaving result => rcases result with - | - | report <;> rfl
  | ended result => cases result <;> rfl
  | cancelled => rfl
  | _ => simp [Phase.ofKind] at kind

private theorem take_resorted (profiles : ∀ phase, engine.phases[task]? = some phase → phase.ofKind false = true) (other : Nat) :
    (engine.resorted task).apply rules (.take other) = (engine.apply rules (.take other)).resorted task := by
  simp only [apply,phases_resorted,resorted_turn]
  cases engine.turn with
  | some => rfl
  | none =>
    cases found : engine.phases[other]? with
    | none => rfl
    | some phase =>
      have moved (old new : Phase) (same : new.resortedAt task other = old) :
          ({ (engine.resorted task).setPhase other old with turn := some other } : Engine) =
            ({ engine.setPhase other new with turn := some other } : Engine).resorted task := by
        simp [resorted,setPhase,List.mapIdx_set,same]
      by_cases equal : other = task
      · subst equal
        have kind := profiles phase found
        cases phase with
        | waiting aim =>
          cases aim with
          | full => simp [Phase.ofKind] at kind
          | profiles resort since =>
            rw [Option.map_some,resortedAt_self]
            exact moved (.admitted (.profiles true since)) (.admitted (.profiles resort since)) (resortedAt_self _)
        | admitted aim => cases aim <;> simp [Phase.resorted]
        | leaving result => rcases result with - | - | report <;> simp [Phase.resorted]
        | ended result => cases result <;> simp [Phase.resorted]
        | reading | read | cancelled => simp [Phase.resorted]
        | _ => simp [Phase.ofKind] at kind
      · rw [Option.map_some,resortedAt_other equal]
        cases phase with
        | waiting aim => exact moved (.admitted aim) (.admitted aim) (resortedAt_other equal _)
        | _ => rfl

private theorem enumerated_resorted (profiles : ∀ phase, engine.phases[task]? = some phase → phase.ofKind false = true)
    (other : Nat) (outcome : Outcome Enumeration) :
    (engine.resorted task).apply rules (.enumerated other outcome) =
      (engine.apply rules (.enumerated other outcome)).resorted task := by
  simp only [apply,phases_resorted]
  cases found : engine.phases[other]? with
  | none => rfl
  | some phase =>
    by_cases equal : other = task
    · subst equal
      have kind := profiles phase found
      cases phase with
      | waiting aim => cases aim <;> simp [Phase.resorted]
      | admitted aim => cases aim <;> simp [Phase.resorted]
      | leaving result => rcases result with - | - | report <;> simp [Phase.resorted]
      | ended result => cases result <;> simp [Phase.resorted]
      | reading | read | cancelled => simp [Phase.resorted]
      | _ => simp [Phase.ofKind] at kind
    · rw [Option.map_some,resortedAt_other equal]
      cases phase with
      | listing => simp [resortedAt_other equal]
      | _ => rfl

/-- Until the refresh publishes, it makes no difference whether it sorts anew. -/
theorem apply_resorted (known : task < engine.phases.length)
    (profiles : ∀ phase, engine.phases[task]? = some phase → phase.ofKind false = true) (event : Event)
    (unpatched : engine.deed? event ≠ some (.reloaded task false)) :
    (engine.resorted task).apply rules event = (engine.apply rules event).resorted task := by
  -- what acts on one call acts on the refresh itself or on one whose phase is the same in both
  have acted {operation : Engine → Nat → Phase → Engine} (other : Nat)
      (kept : ∀ phase, other ≠ task → operation (engine.resorted task) other phase = (operation engine other phase).resorted task)
      (own : ∀ phase, other = task → engine.phases[task]? = some phase →
        operation (engine.resorted task) task phase.resorted = (operation engine task phase).resorted task) :
      ((engine.resorted task).phases[other]?).elim (engine.resorted task) (operation (engine.resorted task) other) =
        ((engine.phases[other]?).elim engine (operation engine other)).resorted task := by
    rw [phases_resorted]
    cases found : engine.phases[other]? with
    | none => rfl
    | some phase =>
      rw [Option.map_some,Option.elim_some,Option.elim_some]
      by_cases equal : other = task
      · subst equal
        rw [resortedAt_self]
        exact own phase rfl found
      · rw [resortedAt_other equal]
        exact kept phase equal
  cases event with
  | change | storeChange | elapse => rfl
  | call call => exact (resorted_call known call).symm
  | trigger force resort => exact (resorted_call known (engine.chooseCall force resort)).symm
  | take other => exact take_resorted profiles other
  | enumerated other outcome => exact enumerated_resorted profiles other outcome
  | looked other =>
    exact acted other (fun phase apart => look_other other apart phase) fun phase _ found => look_self phase (profiles phase found)
  | cancel other =>
    exact acted other (fun phase apart => cancel_other other apart phase)
      fun phase _ found => cancel_self phase (profiles phase found)
  | resume other =>
    refine acted other (fun phase apart => resume_other other apart phase) fun phase equal found => ?_
    subst equal
    refine resume_self phase (profiles phase found) fun since before records same => unpatched ?_
    simp [deed?,found,same,resumed?]

@[simp] theorem unviewed_turn : engine.unviewed.turn = engine.turn := rfl

@[simp] theorem unviewed_phases : engine.unviewed.phases = engine.phases := rfl

private theorem unviewed_ite (condition : Prop) [Decidable condition] {left left' right right' : Engine}
    (same : left.unviewed = left'.unviewed) (same' : right.unviewed = right'.unviewed) :
    (if condition then left else right).unviewed = (if condition then left' else right').unviewed := by
  split <;> assumption

/-- What is made of the records has no part in what happens next. -/
theorem apply_unviewed (event : Event) : (engine.unviewed.apply rules event).unviewed = (engine.apply rules event).unviewed := by
  have acted {operation : Engine → Nat → Phase → Engine} (other : Nat)
      (same : ∀ phase, (operation engine.unviewed other phase).unviewed = (operation engine other phase).unviewed) :
      ((engine.phases[other]?).elim engine.unviewed (operation engine.unviewed other)).unviewed =
        ((engine.phases[other]?).elim engine (operation engine other)).unviewed := by
    cases engine.phases[other]? with
    | none => rfl
    | some phase => exact same phase
  cases event with
  | change change => cases change <;> rfl
  | storeChange | elapse | trigger => rfl
  | call call => rfl
  | take other =>
    simp only [apply,unviewed_turn,unviewed_phases]
    cases engine.turn with
    | some => rfl
    | none =>
      cases engine.phases[other]? with
      | none => rfl
      | some phase => cases phase <;> rfl
  | enumerated other outcome =>
    simp only [apply,unviewed_phases]
    cases engine.phases[other]? with
    | none => rfl
    | some phase => cases phase <;> rfl
  | looked other => exact acted other fun phase => by cases phase <;> rfl
  | cancel other => exact acted other fun phase => by cases phase <;> rfl
  | resume other =>
    refine acted other fun phase => ?_
    cases phase with
    | admitted aim => cases aim <;> exact unviewed_ite _ rfl rfl
    | listed since result => cases result <;> rfl
    | joined since users result => cases result <;> rfl
    | read since resort before result => cases result <;> cases resort <;> rfl
    | _ => rfl

theorem unviewed_deed? (event : Event) : engine.unviewed.deed? event = engine.deed? event := by
  cases event <;> rfl

theorem deed?_of_reloaded {event : Event} {other : Nat} {resort : Bool}
    (done : engine.deed? event = some (.reloaded other resort)) :
    event = .resume other ∧ ∃ since before records, engine.phases[other]? = some (.read since resort before (.ok records)) := by
  cases does_of_deed? done with
  | reload found => exact ⟨rfl,_,_,_,found⟩

/-- The two publications differ in the views only. -/
theorem apply_resorted_unviewed (known : task < engine.phases.length)
    (profiles : ∀ phase, engine.phases[task]? = some phase → phase.ofKind false = true) (event : Event) :
    ((engine.resorted task).apply rules event).unviewed = ((engine.apply rules event).resorted task).unviewed := by
  by_cases patches : engine.deed? event = some (.reloaded task false)
  · obtain ⟨rfl,since,before,records,found⟩ := deed?_of_reloaded patches
    have found' : (engine.resorted task).phases[task]? = some (.read since true before (.ok records)) := by
      rw [phases_resorted,found,Option.map_some,resortedAt_self]
      rfl
    simp only [apply,found,found',Option.elim_some,resume,completeProfiles,resorted_publish,resortedAt_self]
    rfl
  · rw [apply_resorted known profiles event patches]

/-- A publication that makes the views anew makes them of nothing else that was published. -/
theorem Step.rebuilt {next : Engine} {deed : Deed} (step : engine.Step rules (some deed) next) (rebuilds : deed.rebuilds = true) :
    next.snapshot = (next.snapshot.unviewed.rebuilt rules engine.store.shouldUnmount).searched rules next.feed.searchText := by
  cases step with
  | change change =>
    cases change with
    | showSystemApps | showOnlyPrimaryUserApps => rfl
    | searchText | markNeedsRefresh => cases rebuilds
  | publish found publishes =>
    cases publishes with
    | complete => rfl
    | @reload since resort before records =>
      cases resort with
      | true => rfl
      | false => cases rebuilds
    | _ => cases rebuilds
  | move found moves => cases moves <;> cases rebuilds
  | _ => cases rebuilds

/-- Whatever else makes the views anew does so in both. -/
theorem resorted_deed? {event : Event} {deed : Deed} (done : engine.deed? event = some deed) (rebuilds : deed.rebuilds = true) :
    (engine.resorted task).deed? event = some deed := by
  have kept {other : Nat} {phase : Phase} (found : engine.phases[other]? = some phase) (same : phase.resorted = phase) :
      (engine.resorted task).phases[other]? = some phase := by
    rw [phases_resorted,found,Option.map_some,Phase.resortedAt,same,ite_self]
  cases does_of_deed? done with
  | set => exact done
  | complete found =>
    rw [deed?,kept found rfl]
    rfl
  | @reload other since resort before records found =>
    obtain rfl : resort = true := rebuilds
    rw [deed?,kept found rfl]
    rfl
  | call | trigger | take | tell | look | begin | failListed | failJoined | count | abandon => cases rebuilds

end
end Engine
end AppGrants.Refresh
