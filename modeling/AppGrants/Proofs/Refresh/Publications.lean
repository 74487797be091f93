import AppGrants.Proofs.Refresh.Restoring

/-! What the flags of a snapshot tell of the publications so far. The snapshot is the latest one published and counts
them; it is told to be refreshed, to be in error or to need a refresh exactly as the publications that decide this say. -/
namespace AppGrants.Refresh
open Catalog

def Call.isFull : Call → Bool
  | .full => true
  | .profiles _ => false

theorem Phase.full_of_isEnumerating {phase : Phase} {full : Bool} (running : phase.isEnumerating = true)
    (kind : phase.ofKind full = true) : full = true := by
  cases phase <;> first | exact kind | cases running

structure Publication where
  deed : Deed
  snapshot : Snapshot

/-- What was published, the latest first. The snapshot of a deed is the one that stands before the next deed. -/
def publications (latest : Snapshot) : List Entry → List Publication
  | [] => []
  | ⟨deed,before⟩ :: older =>
    if deed.publishes then ⟨deed,latest⟩ :: publications before.snapshot older else publications before.snapshot older

/-- What the end of a full refresh says of errors: that there is none, or which. -/
def Deed.verdict? : Deed → Option (Option FailureKind)
  | .completed _ => some none
  | .failed _ failure => some (some failure.kind)
  | _ => none

/-- Whether the deed asks for a refresh, or is one that answers such a wish. -/
def Deed.asks? : Deed → Option Bool
  | .set .markNeedsRefresh => some true
  | .completed _ | .reloaded _ _ => some false
  | _ => none

/-- What the refresh that publishes records calls itself. -/
def Deed.mode? : Deed → Option Mode
  | .completed _ => some .full
  | .reloaded _ resort => some (if resort then .profileOnly else .incremental)
  | _ => none

/-- The full refreshes that have published their beginning, and neither their end nor that they were given up. -/
def running : List Publication → List Nat
  | [] => []
  | ⟨.begun task,_⟩ :: older => task :: running older
  | ⟨.completed task,_⟩ :: older | ⟨.failed task _,_⟩ :: older | ⟨.abandoned task,_⟩ :: older =>
    (running older).filter (· ≠ task)
  | _ :: older => running older

/-- The verdict of the full refresh that ended last; those that were given up or shared a result have none. -/
def lastVerdict (published : List Publication) : Option FailureKind := (published.findSome? (·.deed.verdict?)).getD none

/-- A refresh was asked for after the last one that published records. -/
def asked (published : List Publication) : Bool := (published.findSome? (·.deed.asks?)).getD false

/-- The report tells of what was published. -/
structure Report.TellsOf (report : Report) (publication : Publication) : Prop where
  mode : publication.deed.mode? = some report.mode
  generation : report.generation = publication.snapshot.generation
  recordCount : report.recordCount = publication.snapshot.allRecords.length

def Watched.published (watched : Watched) : List Publication := publications watched.engine.snapshot watched.history

namespace Engine
variable {rules : Rules} {engine next : Engine} {task : Nat} {old new : Phase} {deed : Option Deed} {done : Deed}

theorem generation_change (feed : Feed) (shouldUnmount : Uid → Bool) (change : Change) :
    (feed.change rules shouldUnmount change).snapshot.generation = feed.snapshot.generation + 1 := by
  cases change <;> rfl

theorem Publishes.generation {feed : Feed} (publishes : engine.Publishes rules task old new feed done) :
    feed.snapshot.generation = engine.snapshot.generation + 1 := by
  cases publishes with
  | @reload since resort => cases resort <;> rfl
  | _ => rfl

theorem Publishes.lastError {feed : Feed} (publishes : engine.Publishes rules task old new feed done) :
    feed.snapshot.lastError = done.verdict?.getD engine.snapshot.lastError := by
  cases publishes with
  | @reload since resort => cases resort <;> rfl
  | _ => rfl

theorem Publishes.needsRefresh {feed : Feed} (publishes : engine.Publishes rules task old new feed done) :
    feed.snapshot.needsRefresh = done.asks?.getD engine.feed.needsRefresh := by
  cases publishes with
  | @reload since resort => cases resort <;> rfl
  | _ => rfl

/-- What a step that publishes does to the flags. -/
structure Flagged (engine next : Engine) (done : Deed) : Prop where
  generation : next.snapshot.generation = engine.snapshot.generation + 1
  lastError : next.snapshot.lastError = done.verdict?.getD engine.snapshot.lastError
  needsRefresh : next.snapshot.needsRefresh = done.asks?.getD engine.feed.needsRefresh

theorem Step.flagged (step : engine.Step rules (some done) next) (publishing : done.publishes = true) :
    engine.Flagged next done := by
  cases step with
  | change change =>
    refine ⟨generation_change ..,lastError_change ..,?_⟩
    cases change <;> rfl
  | publish found publishes => exact ⟨publishes.generation,publishes.lastError,publishes.needsRefresh⟩
  | move found moves => cases moves <;> cases publishing
  | call | take | count => cases publishing

end Engine

namespace Watched
variable {rules : Rules} {watched : Watched} {next : Engine} {deed : Option Deed} {done : Deed}

theorem published_silent (step : watched.engine.Step rules deed next) (silent : ∀ done ∈ deed, done.publishes = false) :
    (watched.followed deed next).published = watched.published := by
  have same : next.snapshot = watched.engine.snapshot := congrArg Feed.snapshot (step.feed silent)
  cases deed with
  | none => exact congrArg (publications · watched.history) same
  | some done =>
    have quiet : done.publishes = false := silent done rfl
    simp [published,followed,publications,quiet]

theorem published_step (publishing : done.publishes = true) :
    (watched.followed (some done) next).published = ⟨done,next.snapshot⟩ :: watched.published := by
  simp [published,followed,publications,publishing]

/-- The flags and the count say what was published. -/
structure Tallied (watched : Watched) : Prop where
  generations : watched.published.map (·.snapshot.generation) = (List.range' 1 watched.published.length).reverse
  generation : watched.engine.snapshot.generation = watched.published.length
  lastError : watched.engine.snapshot.lastError = lastVerdict watched.published
  needsRefresh : watched.engine.snapshot.needsRefresh = asked watched.published

theorem Tallied.step (tallied : watched.Tallied) (mark : watched.engine.snapshot.needsRefresh = watched.engine.feed.needsRefresh)
    (step : watched.engine.Step rules deed next) : (watched.followed deed next).Tallied := by
  by_cases silent : ∀ done ∈ deed, done.publishes = false
  · have same : next.snapshot = watched.engine.snapshot := congrArg Feed.snapshot (step.feed silent)
    have none_new := published_silent step silent
    exact ⟨none_new ▸ tallied.generations,none_new ▸ same ▸ tallied.generation,none_new ▸ same ▸ tallied.lastError,
      none_new ▸ same ▸ tallied.needsRefresh⟩
  · obtain ⟨done,rfl,publishing⟩ : ∃ done, deed = some done ∧ done.publishes = true := by simpa using silent
    have flagged := step.flagged publishing
    have counted : next.snapshot.generation = watched.published.length + 1 := by
      rw [flagged.generation,tallied.generation]
    constructor
    · rw [published_step publishing,List.map_cons,tallied.generations,List.length_cons,List.range'_1_concat,
        List.reverse_append,counted,Nat.add_comm]
      rfl
    · rw [published_step publishing]
      exact counted
    · rw [published_step publishing]
      refine flagged.lastError.trans ?_
      rw [tallied.lastError]
      cases verdict : done.verdict? <;> simp [lastVerdict,verdict]
    · rw [published_step publishing]
      refine flagged.needsRefresh.trans ?_
      rw [← mark,tallied.needsRefresh]
      cases asks : done.asks? <;> simp [asked,asks]

/-- The full refreshes that are told to run are those under way. -/
structure Followed (watched : Watched) : Prop where
  distinct : (running watched.published).Nodup
  enumerating : ∀ task, task ∈ running watched.published ↔ watched.engine.enumerating task = true

end Watched

namespace Engine
variable {rules : Rules} {engine : Engine} {task : Nat} {old new : Phase} {done : Deed} {feed : Feed}
  {published : List Publication}

theorem enumerating_of_phase {phase : Phase} (found : engine.phases[task]? = some phase) :
    engine.enumerating task = phase.isEnumerating := by
  rw [enumerating,found,Option.any_some]

theorem Publishes.running_distinct (publishes : engine.Publishes rules task old new feed done) (snapshot : Snapshot)
    (listed : task ∈ running published ↔ old.isEnumerating = true) (distinct : (running published).Nodup) :
    (running (⟨done,snapshot⟩ :: published)).Nodup := by
  cases publishes with
  | begin =>
    have fresh : task ∉ running published := fun inside => Bool.noConfusion (listed.mp inside)
    exact List.nodup_cons.mpr ⟨fresh,distinct⟩
  | complete | failListed | failJoined | abandon => exact distinct.filter _
  | reload => exact distinct

theorem Publishes.mem_running (publishes : engine.Publishes rules task old new feed done) (snapshot : Snapshot)
    (listed : task ∈ running published ↔ old.isEnumerating = true) (other : Nat) :
    other ∈ running (⟨done,snapshot⟩ :: published) ↔
      if other = task then new.isEnumerating = true else other ∈ running published := by
  by_cases own : other = task
  · subst own
    cases publishes with
    | begin => simp [running,Phase.isEnumerating]
    | complete | failListed | failJoined | abandon => simp [running,Phase.isEnumerating]
    | reload => simpa [running,Phase.isEnumerating] using listed
  · cases publishes <;> simp [running,own]

end Engine

namespace Watched
variable {rules : Rules} {watched : Watched} {next : Engine} {deed : Option Deed} {done : Deed} {task : Nat}

private theorem Followed.publish {old new : Phase} {feed : Feed} (follows : watched.Followed)
    (found : watched.engine.phases[task]? = some old) (publishes : watched.engine.Publishes rules task old new feed done)
    (others : ∀ other, other ≠ task → (watched.engine.publish task new feed).enumerating other = watched.engine.enumerating other) :
    (watched.followed (some done) (watched.engine.publish task new feed)).Followed := by
  have listed : task ∈ running watched.published ↔ old.isEnumerating = true := by
    rw [follows.enumerating task,Engine.enumerating_of_phase found]
  constructor
  · rw [published_step publishes.publishes]
    exact publishes.running_distinct _ listed follows.distinct
  · intro other
    rw [published_step publishes.publishes,publishes.mem_running _ listed]
    by_cases own : other = task
    · rw [if_pos own,own]
      exact Iff.of_eq (congrArg (· = true) (Engine.enumerating_of_phase (Engine.phases_set_self found)).symm)
    · rw [if_neg own,follows.enumerating other,← others other own]
      rfl

theorem Followed.step (follows : watched.Followed) (step : watched.engine.Step rules deed next) :
    (watched.followed deed next).Followed := by
  by_cases silent : ∀ done ∈ deed, done.publishes = false
  · have none_new := published_silent step silent
    refine ⟨none_new ▸ follows.distinct,fun task => ?_⟩
    rw [none_new,follows.enumerating task]
    exact Iff.of_eq (congrArg (· = true) (step.enumerating task (by simp_all)).symm)
  · obtain ⟨done,rfl,publishing⟩ : ∃ done, deed = some done ∧ done.publishes = true := by simpa using silent
    have whole := step
    cases step with
    | change change =>
      refine ⟨?_,fun task => ?_⟩
      · rw [published_step publishing]
        exact follows.distinct
      · rw [published_step publishing]
        exact follows.enumerating task
    | publish found publishes =>
      refine follows.publish found publishes fun other apart => whole.enumerating other fun one same _ own => ?_
      cases same
      exact apart (Option.some.inj (own.symm.trans publishes.task?))
    | move found moves => cases moves <;> cases publishing
    | call | take | count => cases publishing

end Watched

namespace Engine
variable {rules : Rules} {engine next : Engine} {task other : Nat} {old new : Phase} {deed : Option Deed} {done : Deed}
  {feed : Feed} {report : Report}

theorem result?_set_self (phases_eq : next.phases = engine.phases.set task new) (found : engine.phases[task]? = some old) :
    next.result? task = new.result? :=
  result?_of_phase ((congrArg (·[task]?) phases_eq).trans (phases_set_self found))

theorem result?_set_other (phases_eq : next.phases = engine.phases.set task new) (apart : other ≠ task) :
    next.result? other = engine.result? other := by
  rw [result?,phases_eq,phases_set_other apart,result?]

theorem result?_publish (found : engine.phases[task]? = some old) :
    (engine.publish task new feed).result? task = new.result? := result?_set_self rfl found

theorem result?_call (call : Call) (has : (engine.call call).result? task = some result) : engine.result? task = some result := by
  obtain ⟨phase,found,same⟩ := Option.bind_eq_some_iff.mp has
  rcases phases_call_cases found with before | ⟨-,rfl⟩
  · exact (result?_of_phase before).trans same
  · cases same

theorem sharedResult_mode (shared : engine.sharedResult = .ok report) : report.mode = .joined := by
  unfold sharedResult at shared
  split at shared
  next result _ =>
    cases result <;> cases shared
    rfl
  · cases shared
    rfl

theorem Moves.mode (moves : engine.Moves task old new deed) (has : new.result? = some (.ok report)) :
    report.mode = .skipped ∨ report.mode = .joined := by
  cases moves with
  | share => exact .inr (sharedResult_mode (Option.some.inj has))
  | skip =>
    cases has
    exact .inl rfl
  | _ => cases has

theorem Publishes.tells (publishes : engine.Publishes rules task old new feed done) (renews : done.renewer? = some other) :
    other = task ∧ ∃ report, new.result? = some (.ok report) ∧ report.TellsOf ⟨done,feed.snapshot⟩ := by
  cases publishes with
  | complete | reload =>
    cases renews
    exact ⟨rfl,_,rfl,rfl,rfl,rfl⟩
  | begin | failListed | failJoined | abandon => cases renews

theorem Publishes.reports (publishes : engine.Publishes rules task old new feed done) (has : new.result? = some (.ok report)) :
    done.renewer? = some task ∧ report.TellsOf ⟨done,feed.snapshot⟩ := by
  cases publishes with
  | complete | reload =>
    cases has
    exact ⟨rfl,rfl,rfl,rfl⟩
  | begin | failListed | failJoined | abandon => cases has

theorem Step.tells (step : engine.Step rules (some done) next) (renews : done.renewer? = some task) :
    ∃ report, next.result? task = some (.ok report) ∧ report.TellsOf ⟨done,next.snapshot⟩ := by
  cases step with
  | publish found publishes =>
    obtain ⟨rfl,report,has,tells⟩ := publishes.tells renews
    exact ⟨report,(result?_publish found).trans has,tells⟩
  | move found moves => cases moves <;> cases renews
  | change | call | take | count => cases renews

theorem Step.fails {failure : Failure} (step : engine.Step rules (some (.failed task failure)) next) :
    next.result? task = some (.error failure) := by
  cases step with
  | publish found publishes =>
    cases publishes with
    | failListed | failJoined => exact (result?_publish found).trans rfl
  | move found moves => cases moves

/-- Only a call makes one refresh more. -/
theorem Step.calls (step : engine.Step rules deed next) :
    (∃ call, deed = some (.asked engine.phases.length call) ∧ next = engine.call call) ∨
      ((∀ task call, deed ≠ some (.asked task call)) ∧ next.phases.length = engine.phases.length) := by
  cases step with
  | call call => exact .inl ⟨call,rfl,rfl⟩
  | change | storeChange | elapse | idle => exact .inr ⟨by simp,rfl⟩
  | take | withdraw | note | count | leave => exact .inr ⟨by simp,List.length_set⟩
  | move _ moves => exact .inr ⟨by cases moves <;> simp,List.length_set⟩
  | publish _ publishes => exact .inr ⟨by cases publishes <;> simp,List.length_set⟩

/-- A refresh that comes to a report of its own does so by what it publishes. -/
theorem Step.reports (step : engine.Step rules deed next) (before : engine.result? task = none)
    (after : next.result? task = some (.ok report)) (own : report.mode ≠ .skipped ∧ report.mode ≠ .joined) :
    ∃ done, deed = some done ∧ done.publishes = true ∧ done.renewer? = some task ∧ report.TellsOf ⟨done,next.snapshot⟩ := by
  have kept {other : Nat} {old new : Phase} (phases_eq : next.phases = engine.phases.set other new)
      (found : engine.phases[other]? = some old) (same : new.result? = old.result?) : False := by
    by_cases equal : task = other
    · subst equal
      rw [result?_set_self phases_eq found,same,← result?_of_phase found,before] at after
      cases after
    · rw [result?_set_other phases_eq equal,before] at after
      cases after
  cases step with
  | change | storeChange | elapse | idle => cases before.symm.trans after
  | call call => cases before.symm.trans (result?_call call after)
  | take _ found | withdraw found | note found | count found => exact (kept rfl found rfl).elim
  | @leave _ result found => cases result <;> exact (kept rfl found rfl).elim
  | @move other old new _ found moves =>
    by_cases equal : task = other
    · subst equal
      rcases moves.mode ((result?_set_self rfl found).symm.trans after) with skipped | joined
      · exact absurd skipped own.1
      · exact absurd joined own.2
    · cases before.symm.trans ((result?_set_other rfl equal).symm.trans after)
  | @publish other old new feed done found publishes =>
    by_cases equal : task = other
    · subst equal
      obtain ⟨renews,tells⟩ := publishes.reports ((result?_publish found).symm.trans after)
      exact ⟨done,rfl,publishes.publishes,renews,tells⟩
    · cases before.symm.trans ((result?_set_other rfl equal).symm.trans after)

end Engine

namespace Watched
variable {rules : Rules} {watched : Watched} {next : Engine} {deed : Option Deed}

/-- What refreshes tell in the end is what they published themselves. -/
structure Reported (watched : Watched) : Prop where
  renewed : ∀ publication ∈ watched.published, ∀ task, publication.deed.renewer? = some task →
    ∃ report, watched.engine.result? task = some (.ok report) ∧ report.TellsOf publication
  failed : ∀ publication ∈ watched.published, ∀ task failure, publication.deed = .failed task failure →
    watched.engine.result? task = some (.error failure)
  own : ∀ task report, watched.engine.result? task = some (.ok report) → report.mode ≠ .skipped ∧ report.mode ≠ .joined →
    ∃ publication ∈ watched.published, publication.deed.renewer? = some task ∧ report.TellsOf publication

theorem mem_published {publication : Publication} (step : watched.engine.Step rules deed next)
    (member : publication ∈ (watched.followed deed next).published) :
    (∃ done, deed = some done ∧ done.publishes = true ∧ publication = ⟨done,next.snapshot⟩) ∨ publication ∈ watched.published := by
  by_cases silent : ∀ done ∈ deed, done.publishes = false
  · exact .inr (published_silent step silent ▸ member)
  · obtain ⟨done,rfl,publishing⟩ : ∃ done, deed = some done ∧ done.publishes = true := by simpa using silent
    rw [published_step publishing] at member
    rcases List.mem_cons.mp member with rfl | before
    · exact .inl ⟨done,rfl,publishing,rfl⟩
    · exact .inr before

theorem published_grows {publication : Publication} (step : watched.engine.Step rules deed next)
    (member : publication ∈ watched.published) : publication ∈ (watched.followed deed next).published := by
  by_cases silent : ∀ done ∈ deed, done.publishes = false
  · exact published_silent step silent ▸ member
  · obtain ⟨done,rfl,publishing⟩ : ∃ done, deed = some done ∧ done.publishes = true := by simpa using silent
    rw [published_step publishing]
    exact List.mem_cons_of_mem _ member

theorem Reported.step (reported : watched.Reported) (step : watched.engine.Step rules deed next) :
    (watched.followed deed next).Reported := by
  constructor
  · intro publication member task renews
    rcases mem_published step member with ⟨done,rfl,-,rfl⟩ | before
    · exact step.tells renews
    · obtain ⟨report,ends,tells⟩ := reported.renewed publication before task renews
      exact ⟨report,step.keeps_result ends,tells⟩
  · intro publication member task failure failed
    rcases mem_published step member with ⟨done,rfl,-,rfl⟩ | before
    · cases failed
      exact step.fails
    · exact step.keeps_result (reported.failed publication before task failure failed)
  · intro task report ends own
    cases before : watched.engine.result? task with
    | none =>
      obtain ⟨done,rfl,publishing,renews,tells⟩ := step.reports before ends own
      refine ⟨⟨done,next.snapshot⟩,?_,renews,tells⟩
      rw [published_step publishing]
      exact List.mem_cons_self
    | some result =>
      cases (step.keeps_result before).symm.trans ends
      obtain ⟨publication,member,told⟩ := reported.own task report before own
      exact ⟨publication,published_grows step member,told⟩

/-- Every refresh was called, and is of the kind that was called. -/
structure Called (watched : Watched) : Prop where
  kind : ∀ (task : Nat) (phase : Phase), watched.engine.phases[task]? = some phase →
    ∃ call, callOf task watched.history = some call ∧ phase.ofKind call.isFull = true

theorem Called.step (called : watched.Called) (step : watched.engine.Step rules deed next) :
    (watched.followed deed next).Called := by
  have kept {task : Nat} {phase : Phase} (old : task < watched.engine.phases.length) (found : next.phases[task]? = some phase) :
      ∃ call, callOf task watched.history = some call ∧ phase.ofKind call.isFull = true := by
    obtain ⟨call,asked,kind⟩ := called.kind task _ (List.getElem?_eq_getElem old)
    obtain ⟨later,here,still⟩ := step.ofKind ⟨_,List.getElem?_eq_getElem old,kind⟩
    obtain rfl : later = phase := Option.some.inj (here.symm.trans found)
    exact ⟨call,asked,still⟩
  constructor
  intro task phase found
  rcases step.calls with ⟨call,rfl,rfl⟩ | ⟨unasked,same⟩
  · rcases Engine.phases_call_cases found with before | ⟨rfl,rfl⟩
    · have old : task < watched.engine.phases.length := (List.getElem?_eq_some_iff.mp before).1
      obtain ⟨earlier,asked,kind⟩ := kept old found
      refine ⟨earlier,(callOf_cons fun other same => ?_).trans asked,kind⟩
      cases same
      exact Nat.lt_irrefl _ old
    · refine ⟨call,if_pos rfl,?_⟩
      cases call <;> rfl
  · obtain ⟨call,asked,kind⟩ := kept (same ▸ (List.getElem?_eq_some_iff.mp found).1) found
    refine ⟨call,?_,kind⟩
    cases deed with
    | none => exact asked
    | some done => exact (callOf_cons fun other equal => unasked task other (congrArg some equal)).trans asked

theorem Called.full {task : Nat} (called : watched.Called) (runs : watched.engine.enumerating task = true) :
    callOf task watched.history = some .full ∧ ∃ phase, watched.engine.phases[task]? = some phase ∧ phase.hasTurn = true := by
  obtain ⟨phase,found,running⟩ : ∃ phase, watched.engine.phases[task]? = some phase ∧ phase.isEnumerating = true := by
    simpa [Engine.enumerating,Option.any_eq_true] using runs
  obtain ⟨call,asked,kind⟩ := called.kind task phase found
  refine ⟨?_,phase,found,Phase.hasTurn_of_isEnumerating running⟩
  have full := Phase.full_of_isEnumerating running kind
  cases call with
  | full => exact asked
  | profiles => cases full

/-- What is told of the state of the catalog is true. -/
structure Truthful (rules : Rules) (watched : Watched) : Prop extends Tallied watched, Reported watched where
  refreshing : watched.engine.snapshot.isRefreshing = true ↔ ∃ task, running watched.published = [task]
  alone : (running watched.published).length ≤ 1
  fetching : ∀ task ∈ running watched.published, callOf task watched.history = some .full ∧
    ∃ phase, watched.engine.phases[task]? = some phase ∧ phase.hasTurn = true
  idle : (∀ task phase, callOf task watched.history = some .full → watched.engine.phases[task]? = some phase →
    phase.hasTurn = false) → watched.engine.snapshot.isRefreshing = false
  silent : ∀ event, (∀ done ∈ watched.engine.deed? event, done.publishes = false) →
    (watched.engine.apply rules event).snapshot = watched.engine.snapshot

theorem Followed.alone (follows : watched.Followed) (turn : watched.engine.TurnHeld) :
    running watched.published = [] ∨ ∃ task, running watched.published = [task] := by
  cases found : running watched.published with
  | nil => exact .inl rfl
  | cons task others =>
    refine .inr ⟨task,?_⟩
    have holds : watched.engine.turn = some task := turn.turn_of_enumerating ((follows.enumerating task).mp (by simp [found]))
    have none_other : others = [] := by
      refine List.eq_nil_iff_forall_not_mem.mpr fun other inside => ?_
      have same := turn.turn_of_enumerating ((follows.enumerating other).mp (by simp [found,inside]))
      have distinct := follows.distinct
      rw [found,← Option.some.inj (same.symm.trans holds)] at distinct
      exact (List.nodup_cons.mp distinct).1 inside
    rw [none_other]

theorem Followed.refreshing (follows : watched.Followed) (flags : watched.engine.Flags) :
    watched.engine.snapshot.isRefreshing = true ↔ ∃ task, running watched.published = [task] := by
  rw [flags.refreshing]
  simp only [← follows.enumerating]
  rcases follows.alone flags.turn with none_runs | ⟨task,one⟩
  · simp [none_runs]
  · simp [one]

/-- What is kept, step by step, of the publications. -/
structure Recorded (rules : Rules) (watched : Watched) : Prop where
  flags : watched.engine.Flags
  sound : watched.Sound
  coherent : watched.engine.feed.Coherent rules
  tallied : watched.Tallied
  follows : watched.Followed
  reported : watched.Reported
  called : watched.Called

theorem Recorded.step (recorded : watched.Recorded rules) (step : watched.engine.Step rules deed next) :
    (watched.followed deed next).Recorded rules where
  flags := recorded.flags.step step
  sound := recorded.sound.step step
  coherent := recorded.sound.coherent recorded.coherent step
  tallied := recorded.tallied.step recorded.coherent.mark step
  follows := recorded.follows.step step
  reported := recorded.reported.step step
  called := recorded.called.step step

theorem Recorded.start (filters : Filters) (store : StoreView) : (Watched.mk (.start filters store) []).Recorded rules where
  flags := .start filters store
  sound := .start filters store
  coherent := .start filters
  tallied := ⟨rfl,rfl,rfl,rfl⟩
  follows := ⟨List.nodup_nil,by simp [published,publications,running,Engine.enumerating,Engine.start]⟩
  reported := ⟨by simp [published,publications],by simp [published,publications],by simp [Engine.result?,Engine.start]⟩
  called := ⟨by simp [Engine.start]⟩

theorem Recorded.truthful (recorded : watched.Recorded rules) : watched.Truthful rules where
  toTallied := recorded.tallied
  toReported := recorded.reported
  refreshing := recorded.follows.refreshing recorded.flags
  alone := by
    rcases recorded.follows.alone recorded.flags.turn with none_runs | ⟨task,one⟩
    · simp [none_runs]
    · simp [one]
  fetching task inside := recorded.called.full ((recorded.follows.enumerating task).mp inside)
  idle none_fetches := by
    rw [Bool.eq_false_iff,ne_eq,recorded.flags.refreshing]
    rintro ⟨task,runs⟩
    obtain ⟨full,phase,found,has⟩ := recorded.called.full runs
    simp [none_fetches task phase full found] at has
  silent event quiet := congrArg Feed.snapshot ((Engine.apply_step rules watched.engine event).feed quiet)

end Watched

/-- After any events: whatever refreshes succeed, fail, share a result or are cancelled, and whatever is set meanwhile. -/
theorem watch_truthful (rules : Rules) (filters : Filters) (store : StoreView) (events : List Event) :
    (watch rules (.start filters store) events).Truthful rules := by
  have recorded : (watch rules (.start filters store) events).Recorded rules :=
    watch_induction (.start filters store) (fun _ _ _ recorded step => recorded.step step) events
  exact recorded.truthful

end AppGrants.Refresh
