import AppGrants.Proofs.Refresh.Results

/-! Full refreshes share one enumeration. Who gets the turn after a full refresh has ended since the call is told the result
of the last one that ended; who gets it without that enumerates. -/
namespace AppGrants.Refresh
open Catalog

def Deed.task? : Deed → Option Nat
  | .set _ => none
  | .asked task _ | .taken task | .begun task | .told task _ | .looked task | .completed task | .failed task _
  | .reloaded task _ | .abandoned task | .counted task _ => some task

/-- The refresh that did more than to wait for its turn: it asked the service or the store, published, or came to the end of
what it had begun. -/
def Deed.worker? : Deed → Option Nat
  | .asked _ _ | .taken _ => none
  | deed => deed.task?

theorem Deed.task?_of_worker? {deed : Deed} {task : Nat} (works : deed.worker? = some task) : deed.task? = some task := by
  cases deed <;> first | exact works | cases works

theorem Deed.of_other {deed : Deed} {task : Nat} (apart : deed.task? ≠ some task) :
    (∀ call, deed ≠ .asked task call) ∧ deed ≠ .taken task ∧ deed.worker? ≠ some task := by
  refine ⟨fun call same => apart ?_,fun same => apart ?_,fun works => apart (Deed.task?_of_worker? works)⟩
  · rw [same,Deed.task?]
  · rw [same,Deed.task?]

def callOf (task : Nat) : List Entry → Option Call
  | [] => none
  | ⟨.asked other call,_⟩ :: older => if other = task then some call else callOf task older
  | _ :: older => callOf task older

/-- The results of the full refreshes that ended since this one was called. -/
def endedSince (task : Nat) : List Entry → List (Except Failure Report)
  | [] => []
  | ⟨.asked other _,_⟩ :: older => if other = task then [] else endedSince task older
  | ⟨deed,_⟩ :: older => deed.counted?.toList ++ endedSince task older

/-- The results of the full refreshes that ended between the call of this one and its turn. -/
def endedMeanwhile (task : Nat) : List Entry → List (Except Failure Report)
  | [] => []
  | ⟨.taken other,_⟩ :: older => if other = task then endedSince task older else endedMeanwhile task older
  | _ :: older => endedMeanwhile task older

def TookTurn (task : Nat) (history : List Entry) : Prop := ∃ entry ∈ history, entry.deed = .taken task

def Enumerated (task : Nat) (history : List Entry) : Prop := ∃ entry ∈ history, entry.deed = .begun task

/-- The refresh did no more than to be called and to take its turn. -/
def Idle (task : Nat) (history : List Entry) : Prop := ∀ entry ∈ history, entry.deed.worker? ≠ some task

section
variable {deed : Deed} {engine : Engine} {task : Nat} {older : List Entry}

theorem callOf_cons (apart : ∀ call, deed ≠ .asked task call) :
    callOf task (⟨deed,engine⟩ :: older) = callOf task older := by
  cases deed with
  | asked other call =>
    have different : other ≠ task := fun same => apart call (by rw [same])
    simp [callOf,different]
  | _ => rfl

theorem endedSince_cons (apart : ∀ call, deed ≠ .asked task call) :
    endedSince task (⟨deed,engine⟩ :: older) = deed.counted?.toList ++ endedSince task older := by
  cases deed with
  | asked other call =>
    have different : other ≠ task := fun same => apart call (by rw [same])
    simp [endedSince,Deed.counted?,different]
  | _ => rfl

theorem endedMeanwhile_cons (apart : deed ≠ .taken task) :
    endedMeanwhile task (⟨deed,engine⟩ :: older) = endedMeanwhile task older := by
  cases deed with
  | taken other =>
    have different : other ≠ task := fun same => apart (by rw [same])
    simp [endedMeanwhile,different]
  | _ => rfl

theorem tookTurn_cons (apart : deed ≠ .taken task) : TookTurn task (⟨deed,engine⟩ :: older) ↔ TookTurn task older := by
  simp [TookTurn,apart]

theorem Idle.cons (idle : Idle task older) (apart : deed.worker? ≠ some task) : Idle task (⟨deed,engine⟩ :: older) := by
  intro entry member
  rcases List.mem_cons.mp member with rfl | inside
  · exact apart
  · exact idle entry inside

theorem Enumerated.cons (enumerated : Enumerated task older) (entry : Entry) : Enumerated task (entry :: older) := by
  obtain ⟨begun,inside,same⟩ := enumerated
  exact ⟨begun,List.mem_cons_of_mem _ inside,same⟩

theorem endedSince_prefix (task : Nat) (history : List Entry) : endedSince task history <+: endedResults history := by
  induction history with
  | nil => exact List.prefix_rfl
  | cons entry older ih =>
    obtain ⟨deed,engine⟩ := entry
    by_cases called : ∃ call, deed = .asked task call
    · obtain ⟨call,rfl⟩ := called
      simp [endedSince]
    · rw [endedSince_cons fun call same => called ⟨call,same⟩]
      exact (List.prefix_append_right_inj _).mpr ih

end

def Phase.outcome? : Phase → Option (Except Failure Report)
  | .leaving result => result
  | .ended result => some result
  | _ => none

def Aimed (task : Nat) (history : List Entry) (ended : Nat) : Aim → Prop
  | .full called => called + (endedSince task history).length = ended
  | .profiles _ _ => callOf task history ≠ some .full

/-- A full refresh past the beginning of its turn: there was no result to share and it enumerates, or it shares one. -/
def Flown (task : Nat) (history : List Entry) (phase : Phase) : Prop :=
  callOf task history = some .full → TookTurn task history →
    (Enumerated task history ∧ endedMeanwhile task history = []) ∨
      (Idle task history ∧ ∃ result rest, endedMeanwhile task history = result :: rest ∧
        phase.outcome? = some (result.map Report.shared))

def Phase.Flies (task : Nat) (history : List Entry) (ended : Nat) : Phase → Prop
  | .waiting aim => ¬TookTurn task history ∧ Idle task history ∧ Aimed task history ended aim
  | .admitted aim => Idle task history ∧ endedMeanwhile task history = endedSince task history ∧
    Aimed task history ended aim
  | phase => Flown task history phase

section
variable {deed : Deed} {engine : Engine} {task ended : Nat} {older : List Entry} {phase old new : Phase}

theorem Aimed.cons {aim : Aim} (aimed : Aimed task older ended aim) (apart : ∀ call, deed ≠ .asked task call) :
    Aimed task (⟨deed,engine⟩ :: older) (ended + deed.counted?.toList.length) aim := by
  cases aim with
  | full called =>
    have same : called + (endedSince task older).length = ended := aimed
    simp only [Aimed,endedSince_cons apart,List.length_append]
    omega
  | profiles => rwa [Aimed,callOf_cons apart]

theorem Flown.other (flown : Flown task older phase) (apart : deed.task? ≠ some task) :
    Flown task (⟨deed,engine⟩ :: older) phase := by
  obtain ⟨called,later,idle⟩ := Deed.of_other apart
  intro full turn
  rw [callOf_cons called] at full
  rw [tookTurn_cons later] at turn
  rw [endedMeanwhile_cons later]
  rcases flown full turn with ⟨begun,none_ended⟩ | ⟨still,shares⟩
  · exact .inl ⟨begun.cons _,none_ended⟩
  · exact .inr ⟨still.cons idle,shares⟩

theorem Flown.own (flown : Flown task older old) (untold : old.outcome? = none) : Flown task older new := by
  intro full turn
  rcases flown full turn with alone | ⟨-,result,rest,-,shares⟩
  · exact .inl alone
  · simp [untold] at shares

theorem Flown.worked (flown : Flown task older old) (untold : old.outcome? = none) (works : deed.worker? = some task) :
    Flown task (⟨deed,engine⟩ :: older) new := by
  have called : ∀ call, deed ≠ .asked task call := fun call same => by simp [same,Deed.worker?] at works
  have later : deed ≠ .taken task := fun same => by simp [same,Deed.worker?] at works
  intro full turn
  rw [callOf_cons called] at full
  rw [tookTurn_cons later] at turn
  rw [endedMeanwhile_cons later]
  rcases flown full turn with ⟨begun,none_ended⟩ | ⟨-,result,rest,-,shares⟩
  · exact .inl ⟨begun.cons _,none_ended⟩
  · simp [untold] at shares

theorem Phase.Flies.other (flies : phase.Flies task older ended) (apart : deed.task? ≠ some task)
    (turn : deed.counted?.isSome = true → phase.hasTurn = false) :
    phase.Flies task (⟨deed,engine⟩ :: older) (ended + deed.counted?.toList.length) := by
  obtain ⟨called,later,idle⟩ := Deed.of_other apart
  cases phase with
  | waiting aim =>
    obtain ⟨ahead,still,aimed⟩ := flies
    exact ⟨by rwa [tookTurn_cons later],still.cons idle,aimed.cons called⟩
  | admitted aim =>
    obtain ⟨still,same,aimed⟩ := flies
    refine ⟨still.cons idle,?_,aimed.cons called⟩
    have uncounted : deed.counted? = none := by
      cases counted : deed.counted? with
      | none => rfl
      | some => simp [counted,Phase.hasTurn] at turn
    rw [endedMeanwhile_cons later,endedSince_cons called,same,uncounted]
    rfl
  | _ => exact Flown.other flies apart

end

namespace Engine
variable {rules : Rules} {engine : Engine} {task : Nat} {old new : Phase} {history : List Entry}

theorem Moves.worker? {deed : Option Deed} (moves : engine.Moves task old new deed) :
    ∀ done ∈ deed, done.worker? = some task := by
  cases moves with
  | list | lookJoining | lookReading => simp [Deed.worker?,Deed.task?]
  | share | skip | beginReading | join | giveUp | drop => simp

theorem Publishes.worker? {feed : Feed} {deed : Deed} (publishes : engine.Publishes rules task old new feed deed) :
    deed.worker? = some task := by
  cases publishes <;> rfl

theorem Moves.flies {deed : Option Deed} (moves : engine.Moves task old new deed)
    (flies : old.Flies task history engine.fullsEnded)
    (last : engine.lastFull = (endedResults history).head?) :
    new.Flies task ((deed.map fun deed => ⟨deed,engine⟩).toList ++ history) engine.fullsEnded := by
  cases moves with
  | @share ended later =>
    obtain ⟨idle,same,aimed⟩ := flies
    have counted : ended + (endedSince task history).length = engine.fullsEnded := aimed
    intro full turn
    cases since : endedSince task history with
    | nil =>
      rw [since,List.length_nil,Nat.add_zero] at counted
      exact absurd counted.symm later
    | cons result rest =>
      refine .inr ⟨idle,result,rest,same.trans since,?_⟩
      -- the results since the call are the latest of all, and the latest of all is the one that is kept
      obtain ⟨earlier,all⟩ := endedSince_prefix task history
      have latest : engine.lastFull = some result := by
        rw [last,← all,since]
        rfl
      simp [Phase.outcome?,sharedResult,latest]
  | skip | beginReading =>
    obtain ⟨-,-,aimed⟩ := flies
    exact fun full => absurd full aimed
  | list | lookJoining | lookReading => exact Flown.worked flies rfl rfl
  | join | giveUp => exact Flown.own flies rfl
  | drop running =>
    cases old with
    | reading | read => exact Flown.own flies rfl
    | _ => simp [Phase.isReading] at running

theorem Publishes.flies {feed : Feed} {deed : Deed} (publishes : engine.Publishes rules task old new feed deed)
    (flies : old.Flies task history engine.fullsEnded) :
    new.Flies task (⟨deed,engine⟩ :: history) engine.fullsEnded := by
  cases publishes with
  | @begin ended newest =>
    obtain ⟨-,same,aimed⟩ := flies
    have counted : ended + (endedSince task history).length = engine.fullsEnded := aimed
    intro full turn
    refine .inl ⟨⟨_,List.mem_cons_self,rfl⟩,?_⟩
    exact same.trans (List.length_eq_zero_iff.mp (by omega))
  | complete | failListed | failJoined | reload => exact Flown.worked flies rfl rfl
  | abandon running =>
    cases old with
    | listing | listed | joining | joined => exact Flown.worked flies rfl rfl
    | _ => simp [Phase.isEnumerating] at running

end Engine

/-- Every call stands as the history says, and the results that others share were those of their owners. -/
structure Watched.Flying (watched : Watched) : Prop where
  turn : watched.engine.TurnHeld
  kept : watched.LastKept
  known : ∀ entry ∈ watched.history, ∀ task, entry.deed.task? = some task → task < watched.engine.phases.length
  flies : ∀ (task : Nat) (phase : Phase), watched.engine.phases[task]? = some phase →
    phase.Flies task watched.history watched.engine.fullsEnded
  counted : ∀ entry ∈ watched.history, ∀ task result, entry.deed = .counted task result →
    ∃ phase, watched.engine.phases[task]? = some phase ∧ phase.result? = some result

namespace Watched
variable {rules : Rules} {watched : Watched} {next : Engine} {deed : Option Deed} {task : Nat} {old new : Phase}

private theorem Flying.followed (flying : watched.Flying) (step : watched.engine.Step rules deed next)
    (grows : watched.engine.phases.length ≤ next.phases.length)
    (mine : ∀ done ∈ deed, ∀ task, done.task? = some task → task < next.phases.length)
    (flies : ∀ (task : Nat) (phase : Phase), next.phases[task]? = some phase →
      phase.Flies task (watched.followed deed next).history next.fullsEnded)
    (counted : ∀ done ∈ deed, ∀ task result, done = .counted task result →
      ∃ phase, next.phases[task]? = some phase ∧ phase.result? = some result) : (watched.followed deed next).Flying := by
  refine ⟨flying.turn.step step,flying.kept.step flying.turn step,?_,flies,?_⟩
  · intro entry member task same
    rcases mem_followed member with ⟨done,equal,rfl⟩ | before
    · exact mine done equal task same
    · exact Nat.lt_of_lt_of_le (flying.known entry before task same) grows
  · intro entry member task result same
    rcases mem_followed member with ⟨done,equal,rfl⟩ | before
    · exact counted done equal task result same
    · obtain ⟨phase,found,has⟩ := flying.counted entry before task result same
      exact step.result found has

private theorem Flying.set (flying : watched.Flying) (step : watched.engine.Step rules deed next)
    (found : watched.engine.phases[task]? = some old) (mine : ∀ done ∈ deed, done.task? = some task)
    (phases_eq : next.phases = watched.engine.phases.set task new)
    (ended_eq : next.fullsEnded = watched.engine.fullsEnded + (deed.bind Deed.counted?).toList.length)
    (counting : ∀ done ∈ deed, ∀ result, done.counted? = some result → old.hasTurn = true ∧ new.result? = some result)
    (flies : new.Flies task (watched.followed deed next).history next.fullsEnded) : (watched.followed deed next).Flying := by
  have bound : task < watched.engine.phases.length := (List.getElem?_eq_some_iff.mp found).1
  have length_eq : next.phases.length = watched.engine.phases.length := by rw [phases_eq,List.length_set]
  refine flying.followed step (Nat.le_of_eq length_eq.symm) ?_ ?_ ?_
  · intro done equal other same
    obtain rfl : task = other := Option.some.inj ((mine done equal).symm.trans same)
    exact length_eq ▸ bound
  · intro other phase present
    rcases Engine.phases_set_cases (phases_eq ▸ present) with ⟨rfl,rfl⟩ | ⟨apart,before⟩
    · exact flies
    · have earlier := flying.flies other phase before
      rw [ended_eq]
      cases deed with
      | none => exact earlier
      | some done =>
        refine earlier.other (fun same => apart (Option.some.inj (same.symm.trans (mine done rfl)))) fun counted => ?_
        obtain ⟨result,equal⟩ := Option.isSome_iff_exists.mp counted
        by_contra has
        exact apart (flying.turn.unique found (counting done rfl result equal).1 before (by simpa using has))
  · intro done equal other result same
    obtain rfl : task = other := Option.some.inj ((mine done equal).symm.trans (same ▸ rfl))
    refine ⟨new,(congrArg (·[task]?) phases_eq).trans (Engine.phases_set_self found),?_⟩
    exact (counting done equal result (same ▸ rfl)).2

private theorem Flying.called (flying : watched.Flying) (call : Call) :
    (Phase.waiting (watched.engine.aim call)).Flies watched.engine.phases.length
      (⟨.asked watched.engine.phases.length call,watched.engine⟩ :: watched.history) watched.engine.fullsEnded := by
  have fresh : ∀ entry ∈ watched.history, entry.deed.task? ≠ some watched.engine.phases.length := fun entry member same =>
    Nat.lt_irrefl _ (flying.known entry member _ same)
  refine ⟨?_,?_,?_⟩
  · rintro ⟨entry,member,same⟩
    rcases List.mem_cons.mp member with rfl | before
    · cases same
    · exact fresh entry before (same ▸ rfl)
  · intro entry member works
    rcases List.mem_cons.mp member with rfl | before
    · cases works
    · exact fresh entry before (Deed.task?_of_worker? works)
  · cases call <;> simp [Engine.aim,Aimed,endedSince,callOf]

theorem Flying.step (flying : watched.Flying) (step : watched.engine.Step rules deed next) :
    (watched.followed deed next).Flying := by
  have whole := step
  cases step with
  | change change =>
    refine flying.followed whole (Nat.le_refl _) (by simp [Deed.task?]) ?_ (by simp)
    exact fun task phase found => (flying.flies task phase found).other (by simp [Deed.task?]) (by simp [Deed.counted?])
  | storeChange | elapse | idle => exact flying.followed whole (Nat.le_refl _) (by simp) flying.flies (by simp)
  | call call =>
    have grows : (watched.engine.call call).phases.length = watched.engine.phases.length + 1 := by simp [Engine.call]
    refine flying.followed whole (by omega) ?_ ?_ (by simp)
    · intro done equal task same
      cases equal
      cases same
      omega
    · intro task phase found
      rcases Engine.phases_call_cases found with before | ⟨rfl,rfl⟩
      · have bound : task < watched.engine.phases.length := (List.getElem?_eq_some_iff.mp before).1
        exact (flying.flies task phase before).other (by simpa [Deed.task?] using Nat.ne_of_gt bound)
          (by simp [Deed.counted?])
      · exact flying.called call
  | @take task aim free found =>
    obtain ⟨ahead,idle,aimed⟩ := flying.flies task _ found
    refine flying.set whole found (by simp [Deed.task?]) rfl rfl (by simp [Deed.counted?]) ⟨?_,?_,?_⟩
    · exact idle.cons (by simp [Deed.worker?])
    · simp [Watched.followed,endedMeanwhile,endedSince,Deed.counted?]
    · exact aimed.cons (by simp)
  | @withdraw task aim found =>
    obtain ⟨ahead,-,-⟩ := flying.flies task _ found
    exact flying.set whole found (by simp) rfl rfl (by simp) fun _ turn => absurd turn ahead
  | @move task old new _ found moves =>
    obtain ⟨before,-,uncounted⟩ := moves.uncounted
    have none_counted : deed.bind Deed.counted? = none := Option.bind_eq_none_iff.mpr uncounted
    refine flying.set whole found (fun done equal => Deed.task?_of_worker? (moves.worker? done equal)) rfl ?_ ?_ ?_
    · rw [none_counted]
      rfl
    · intro done equal result counted
      simp [uncounted done equal] at counted
    · exact moves.flies (flying.flies task old found) (flying.kept.latest flying.turn found moves.hasTurn.1 before)
  | @publish task old new feed done found publishes =>
    have uncounted := publishes.uncounted.2.2
    refine flying.set whole found (by simp [Deed.task?_of_worker? publishes.worker?]) rfl ?_ ?_ ?_
    · simp [uncounted,Engine.publish,Engine.setPhase]
    · intro other equal result counted
      cases equal
      simp [uncounted] at counted
    · exact publishes.flies (flying.flies task old found)
  | @note task result found =>
    exact flying.set whole found (by simp) rfl rfl (by simp) (Flown.own (flying.flies task _ found) rfl)
  | @count task result found =>
    refine flying.set whole found (by simp [Deed.task?]) rfl rfl ?_ (Flown.worked (flying.flies task _ found) rfl rfl)
    intro done equal other same
    cases equal
    exact ⟨rfl,same⟩
  | @leave task result found =>
    refine flying.set whole found (by simp) rfl rfl (by simp) ?_
    have flown := flying.flies task _ found
    cases result with
    | none => exact Flown.own flown rfl
    | some told => exact flown

theorem Flying.start (filters : Filters) (store : StoreView) : (Watched.mk (.start filters store) []).Flying := by
  refine ⟨.start filters store,⟨?_,fun _ => rfl⟩,by simp,?_,by simp⟩
  · simp [Engine.start]
  · simp [Engine.start]

end Watched

/-- Two calls and one enumeration. -/
example (rules : Rules) (store : StoreView) :
    ((Engine.start {} store).run rules [.call .full,.call .full,.take 0,.resume 0,.enumerated 0 (.done ([0],[])),.resume 0,
      .looked 0,.resume 0,.resume 0,.resume 0,.resume 0,.take 1,.resume 1,.resume 1]).phases =
      [.ended (.ok ⟨.full,2,0,0⟩),.ended (.ok ⟨.joined,2,0,0⟩)] := by cbv

end AppGrants.Refresh
