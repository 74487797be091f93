import AppGrants.Proofs.Catalog.Records
import AppGrants.Proofs.Refresh.Turn

/-! Whose records are published. A refresh that publishes records replaces those that were current when it took the turn;
so the records are always those of the packages that were listed last, with the profiles that were read last. -/
namespace AppGrants.Refresh
open Catalog

/-- The refresh that publishes records with this deed. -/
def Deed.renewer? : Deed → Option Nat
  | .completed task => some task
  | .reloaded task _ => some task
  | _ => none

def Deed.informs : Deed → Bool
  | .told _ _ | .looked _ => true
  | _ => false

/-- The packages that the service told the refresh last. -/
def listedBy (task : Nat) : List Entry → List PackageMeta
  | [] => []
  | ⟨.told other (.ok (_,packages)),_⟩ :: older => if other = task then packages else listedBy task older
  | _ :: older => listedBy task older

/-- The store as the refresh read it last. -/
def lookedBy (task : Nat) : List Entry → Option StoreView
  | [] => none
  | ⟨.looked other,engine⟩ :: older => if other = task then some engine.store else lookedBy task older
  | _ :: older => lookedBy task older

/-- The packages of the full refresh that published last; none if there was none. -/
def listedPackages : List Entry → List PackageMeta
  | [] => []
  | ⟨.completed task,_⟩ :: older => listedBy task older
  | _ :: older => listedPackages older

/-- The store as the refresh that published last, whatever its kind, had read it. -/
def shownStore : List Entry → Option StoreView
  | [] => none
  | ⟨.completed task,_⟩ :: older => lookedBy task older
  | ⟨.reloaded task _,_⟩ :: older => lookedBy task older
  | _ :: older => shownStore older

section
variable {deed : Deed} {engine : Engine} {task : Nat} {older : List Entry}

theorem listedBy_cons (silent : deed.informs = false) : listedBy task (⟨deed,engine⟩ :: older) = listedBy task older := by
  cases deed <;> simp_all [listedBy,Deed.informs]

theorem lookedBy_cons (silent : deed.informs = false) : lookedBy task (⟨deed,engine⟩ :: older) = lookedBy task older := by
  cases deed <;> simp_all [lookedBy,Deed.informs]

theorem listedPackages_cons (keeps : deed.renewer? = none) :
    listedPackages (⟨deed,engine⟩ :: older) = listedPackages older := by
  cases deed <;> simp_all [listedPackages,Deed.renewer?]

theorem shownStore_cons (keeps : deed.renewer? = none) : shownStore (⟨deed,engine⟩ :: older) = shownStore older := by
  cases deed <;> simp_all [shownStore,Deed.renewer?]

end

/-- The records are those of the listed packages in the store that was read. -/
def Shown (history : List Entry) (records : List AppRecord) : Prop :=
  match shownStore history with
  | none => listedPackages history = [] ∧ records = []
  | some store => joinProfiles store (listedPackages history) = .done records

/-- Since the refresh took the turn nothing has replaced the records. -/
def SinceTaken (task : Nat) (history : List Entry) (records : List AppRecord) : Prop :=
  ∃ middle taken earlier, history = middle ++ ⟨.taken task,taken⟩ :: earlier ∧
    (∀ entry ∈ middle, entry.deed.renewer? = none) ∧ records = taken.snapshot.allRecords

/-- What a refresh under way keeps is what it was told and what it read; records that it read from are still current. -/
def Phase.Fits (task : Nat) (history : List Entry) (records : List AppRecord) : Phase → Prop
  | .listed _ (.ok (_,packages)) => listedBy task history = packages
  | .joining _ _ packages => listedBy task history = packages
  | .joined _ _ (.ok found) =>
    ∃ store, lookedBy task history = some store ∧ joinProfiles store (listedBy task history) = .done found
  | .reading _ _ before => before = records
  | .read _ _ before result => before = records ∧ ∀ after, result = .ok after →
    ∃ store, lookedBy task history = some store ∧ reloadProfiles store before = .done after
  | _ => True

theorem Phase.Fits.cons {task : Nat} {history : List Entry} {records : List AppRecord} {phase : Phase} {deed : Deed}
    {engine : Engine} (fits : phase.Fits task history records) (silent : deed.informs = false) :
    phase.Fits task (⟨deed,engine⟩ :: history) records := by
  unfold Phase.Fits at fits ⊢
  simpa only [listedBy_cons silent,lookedBy_cons silent] using fits

theorem SinceTaken.cons {task : Nat} {history : List Entry} {records : List AppRecord} {deed : Deed} {engine : Engine}
    (since : SinceTaken task history records) (keeps : deed.renewer? = none) :
    SinceTaken task (⟨deed,engine⟩ :: history) records := by
  obtain ⟨middle,taken,earlier,rfl,kept,same⟩ := since
  refine ⟨⟨deed,engine⟩ :: middle,taken,earlier,rfl,?_,same⟩
  intro entry member
  rcases List.mem_cons.mp member with rfl | inside
  · exact keeps
  · exact kept entry inside

theorem Shown.cons {history : List Entry} {records : List AppRecord} {deed : Deed} {engine : Engine}
    (shown : Shown history records) (keeps : deed.renewer? = none) : Shown (⟨deed,engine⟩ :: history) records := by
  unfold Shown at shown ⊢
  rwa [shownStore_cons keeps,listedPackages_cons keeps]

structure Phase.Keeps (task : Nat) (history : List Entry) (records : List AppRecord) (phase : Phase) : Prop where
  fits : phase.Fits task history records
  since : phase.isUnderWay = true → SinceTaken task history records

theorem Phase.keeps_of_idle {task : Nat} {history : List Entry} {records : List AppRecord} {phase : Phase}
    (idle : phase.isUnderWay = false) : phase.Keeps task history records := by
  refine ⟨?_,by simp [idle]⟩
  cases phase <;> trivial

theorem Phase.keeps_without_turn {task : Nat} {history : List Entry} {records : List AppRecord} {phase : Phase}
    (without : ¬phase.hasTurn = true) : phase.Keeps task history records :=
  keeps_of_idle (Bool.eq_false_iff.mpr fun running => without (hasTurn_of_isUnderWay running))

theorem Phase.Keeps.cons {task : Nat} {history : List Entry} {records : List AppRecord} {phase : Phase} {deed : Deed}
    {engine : Engine} (keeps : phase.Keeps task history records) (silent : deed.informs = false)
    (same : deed.renewer? = none) : phase.Keeps task (⟨deed,engine⟩ :: history) records :=
  ⟨keeps.fits.cons silent,fun running => (keeps.since running).cons same⟩

/-- The records are replaced in turns, and shown as they were listed and read last. -/
structure Watched.Sound (watched : Watched) : Prop where
  turn : watched.engine.TurnHeld
  keeps : ∀ (task : Nat) (phase : Phase), watched.engine.phases[task]? = some phase →
    phase.Keeps task watched.history watched.engine.snapshot.allRecords
  shown : Shown watched.history watched.engine.snapshot.allRecords
  replaced : Throughout (fun entry older => ∀ task, entry.deed.renewer? = some task →
    SinceTaken task older entry.engine.snapshot.allRecords) watched.history
  finished : ∀ entry ∈ watched.history, ∀ task, entry.deed.renewer? = some task →
    ∃ phase, watched.engine.phases[task]? = some phase ∧ phase.result?.isSome = true

namespace Engine
variable {rules : Rules} {engine next : Engine} {task : Nat} {old new : Phase} {feed : Feed} {history : List Entry}

theorem allRecords_change (feed : Feed) (shouldUnmount : Uid → Bool) (change : Change) :
    (feed.change rules shouldUnmount change).snapshot.allRecords = feed.snapshot.allRecords := by
  cases change <;> rfl

theorem Moves.fits {deed : Option Deed} (moves : engine.Moves task old new deed)
    (fits : old.Fits task history engine.snapshot.allRecords) :
    new.Fits task ((deed.map fun deed => ⟨deed,engine⟩).toList ++ history) engine.snapshot.allRecords := by
  cases moves with
  | share | skip | giveUp | drop => trivial
  | beginReading => exact rfl
  | list result =>
    cases result with
    | ok enumeration => simp [Phase.Fits,listedBy]
    | error failure => trivial
  | join => exact fits
  | @lookJoining since users packages =>
    cases joined : onPool joinLabel (joinProfiles engine.store packages) with
    | error failure => trivial
    | ok records =>
      refine ⟨engine.store,by simp [lookedBy],?_⟩
      have told : listedBy task history = packages := fits
      simpa [listedBy,told] using (onPool_ok_iff ..).mp joined
  | lookReading =>
    exact ⟨fits,fun after looked => ⟨engine.store,by simp [lookedBy],(onPool_ok_iff ..).mp looked⟩⟩

theorem Moves.since {deed : Option Deed} (moves : engine.Moves task old new deed) (running : new.isUnderWay = true) :
    old.isUnderWay = true := by
  cases moves <;> first | rfl | simp [Phase.isUnderWay,Phase.isEnumerating,Phase.isReading] at running

theorem Moves.renewer? {deed : Option Deed} (moves : engine.Moves task old new deed) (done : Deed) (member : done ∈ deed) :
    done.renewer? = none := by
  cases moves <;> cases member <;> rfl

theorem Publishes.fits {deed : Deed} (publishes : engine.Publishes rules task old new feed deed)
    (records : List AppRecord) : new.Fits task history records := by
  cases publishes <;> trivial

theorem Publishes.isUnderWay {deed : Deed} (publishes : engine.Publishes rules task old new feed deed) :
    old.isUnderWay = true := by
  cases publishes with
  | abandon running => exact Phase.isUnderWay_of_isEnumerating running
  | _ => rfl

theorem Publishes.renewal {deed : Deed} (publishes : engine.Publishes rules task old new feed deed) :
    (deed.renewer? = none ∧ feed.snapshot.allRecords = engine.snapshot.allRecords) ∨
      (deed.renewer? = some task ∧ new.isUnderWay = false ∧ new.result?.isSome = true) := by
  cases publishes with
  | begin | failListed | failJoined | abandon => exact .inl ⟨rfl,rfl⟩
  | complete | reload => exact .inr ⟨rfl,rfl,rfl⟩

theorem Publishes.shown {deed : Deed} (publishes : engine.Publishes rules task old new feed deed)
    (fits : old.Fits task history engine.snapshot.allRecords) (shown : Shown history engine.snapshot.allRecords) :
    Shown (⟨deed,engine⟩ :: history) feed.snapshot.allRecords := by
  cases publishes with
  | begin | failListed | failJoined | abandon => exact shown.cons rfl
  | complete =>
    obtain ⟨store,looked,joined⟩ := fits
    simp only [Shown,shownStore,listedPackages,looked]
    exact joined
  | @reload since resort before records =>
    obtain ⟨rfl,found⟩ := fits
    obtain ⟨store,looked,reloaded⟩ := found records rfl
    have published :
        (engine.reloadedFeed rules resort engine.snapshot.allRecords records).snapshot.allRecords = records := by
      cases resort <;> rfl
    rw [published]
    simp only [Shown,shownStore,listedPackages,looked]
    cases earlier : shownStore history with
    | some past =>
      simp only [Shown,earlier] at shown
      exact joinProfiles_of_reload shown reloaded
    | none =>
      simp only [Shown,earlier] at shown
      obtain ⟨empty,none_shown⟩ := shown
      obtain ⟨-,rfl⟩ := (reloadProfiles_done_iff ..).mp reloaded
      rw [empty,none_shown]
      rfl

theorem Step.allRecords {deed : Option Deed} (step : engine.Step rules deed next)
    (keeps : ∀ done ∈ deed, done.renewer? = none) : next.snapshot.allRecords = engine.snapshot.allRecords := by
  cases step with
  | change change => exact allRecords_change ..
  | publish found publishes =>
    rcases publishes.renewal with ⟨-,same⟩ | ⟨renews,-⟩
    · exact same
    · simp [keeps _ rfl] at renews
  | storeChange | elapse | call | take | withdraw | move | note | count | leave | idle => rfl

theorem Step.renewed {deed : Deed} (step : engine.Step rules (some deed) next) (renews : deed.renewer? = some task) :
    ∃ phase, next.phases[task]? = some phase ∧ phase.result?.isSome = true := by
  cases step with
  | publish found publishes =>
    rcases publishes.renewal with ⟨none_renewed,-⟩ | ⟨same,-,ended⟩
    · simp [none_renewed] at renews
    · obtain rfl := Option.some.inj (same.symm.trans renews)
      exact ⟨_,phases_set_self found,ended⟩
  | move found moves => simp [moves.renewer? _ rfl] at renews
  | change | call | take | count => cases renews

end Engine

namespace Watched
variable {rules : Rules} {watched : Watched} {next : Engine} {deed : Option Deed}

private theorem Sound.followed (sound : watched.Sound) (step : watched.engine.Step rules deed next)
    (keeps : ∀ (task : Nat) (phase : Phase), next.phases[task]? = some phase →
      phase.Keeps task (watched.followed deed next).history next.snapshot.allRecords)
    (shown : Shown (watched.followed deed next).history next.snapshot.allRecords)
    (renewal : ∀ done ∈ deed, ∀ task, done.renewer? = some task →
      SinceTaken task watched.history watched.engine.snapshot.allRecords ∧
        ∃ phase, next.phases[task]? = some phase ∧ phase.result?.isSome = true) : (watched.followed deed next).Sound := by
  have finished : ∀ entry ∈ watched.history, ∀ task, entry.deed.renewer? = some task →
      ∃ phase, next.phases[task]? = some phase ∧ phase.result?.isSome = true := by
    intro entry member task renewer
    obtain ⟨phase,found,has⟩ := sound.finished entry member task renewer
    obtain ⟨result,equal⟩ := Option.isSome_iff_exists.mp has
    obtain ⟨later,present,same⟩ := step.result found equal
    exact ⟨later,present,by simp [same]⟩
  refine ⟨sound.turn.step step,keeps,shown,?_,?_⟩
  · cases deed with
    | none => exact sound.replaced
    | some done => exact sound.replaced.cons fun task renewer => (renewal done rfl task renewer).1
  · intro entry member task renewer
    rcases mem_followed member with ⟨done,equal,rfl⟩ | before
    · exact (renewal done equal task renewer).2
    · exact finished entry before task renewer

private theorem Sound.quiet (sound : watched.Sound) (step : watched.engine.Step rules deed next)
    (silent : ∀ done ∈ deed, done.informs = false ∧ done.renewer? = none)
    (keeps : ∀ (task : Nat) (phase : Phase), next.phases[task]? = some phase →
      watched.engine.phases[task]? = some phase ∨
        phase.Keeps task (watched.followed deed next).history next.snapshot.allRecords) :
    (watched.followed deed next).Sound := by
  have same := step.allRecords fun done equal => (silent done equal).2
  refine sound.followed step ?_ ?_ ?_
  · intro task phase found
    rcases keeps task phase found with before | new
    · rw [same]
      cases deed with
      | none => exact sound.keeps task phase before
      | some done => exact (sound.keeps task phase before).cons (silent done rfl).1 (silent done rfl).2
    · exact new
  · rw [same]
    cases deed with
    | none => exact sound.shown
    | some done => exact sound.shown.cons (silent done rfl).2
  · intro done equal task renewer
    simp [(silent done equal).2] at renewer

private theorem Sound.move {task : Nat} {old new : Phase} (sound : watched.Sound)
    (step : watched.engine.Step rules deed (watched.engine.setPhase task new))
    (found : watched.engine.phases[task]? = some old) (moves : watched.engine.Moves task old new deed) :
    (watched.followed deed (watched.engine.setPhase task new)).Sound := by
  have keeps := sound.keeps task old found
  have moved : new.Keeps task (watched.followed deed (watched.engine.setPhase task new)).history
      watched.engine.snapshot.allRecords := by
    refine ⟨moves.fits keeps.fits,fun running => ?_⟩
    have since := keeps.since (moves.since running)
    cases deed with
    | none => exact since
    | some done => exact since.cons (moves.renewer? done rfl)
  refine sound.followed step (sound.turn.forall_set found moves.hasTurn.1 (fun _ _ => Phase.keeps_without_turn) moved) ?_ ?_
  · cases deed with
    | none => exact sound.shown
    | some done => exact sound.shown.cons (moves.renewer? done rfl)
  · intro done equal task renewer
    simp [moves.renewer? done equal] at renewer

private theorem Sound.publish {task : Nat} {old new : Phase} {feed : Feed} {done : Deed} (sound : watched.Sound)
    (found : watched.engine.phases[task]? = some old)
    (publishes : watched.engine.Publishes rules task old new feed done) :
    (watched.followed (some done) (watched.engine.publish task new feed)).Sound := by
  have keeps := sound.keeps task old found
  have since := keeps.since publishes.isUnderWay
  have published : new.Keeps task (⟨done,watched.engine⟩ :: watched.history) feed.snapshot.allRecords := by
    refine ⟨publishes.fits _,fun running => ?_⟩
    rcases publishes.renewal with ⟨renewer,same⟩ | ⟨-,past,-⟩
    · rw [same]
      exact since.cons renewer
    · simp [past] at running
  refine sound.followed (.publish found publishes)
    (sound.turn.forall_set found publishes.hasTurn.1 (fun _ _ => Phase.keeps_without_turn) published)
    (publishes.shown keeps.fits sound.shown) ?_
  intro other equal renewing renewer
  cases equal
  rcases publishes.renewal with ⟨none_renewed,-⟩ | ⟨same,-,ended⟩
  · simp [none_renewed] at renewer
  · obtain rfl : task = renewing := Option.some.inj (same.symm.trans renewer)
    exact ⟨since,new,Engine.phases_set_self found,ended⟩

theorem Sound.step (sound : watched.Sound) (step : watched.engine.Step rules deed next) :
    (watched.followed deed next).Sound := by
  have whole := step
  have set {task : Nat} {new : Phase} {history : List Entry} {records : List AppRecord}
      (holds : new.Keeps task history records) (other : Nat) (phase : Phase)
      (present : (watched.engine.phases.set task new)[other]? = some phase) :
      watched.engine.phases[other]? = some phase ∨ phase.Keeps other history records := by
    rcases Engine.phases_set_cases present with ⟨rfl,rfl⟩ | ⟨-,before⟩
    · exact .inr holds
    · exact .inl before
  cases step with
  | change change =>
    exact sound.quiet whole (by simp [Deed.informs,Deed.renewer?]) fun _ _ found => .inl found
  | storeChange | elapse | idle => exact sound.quiet whole (by simp) fun _ _ found => .inl found
  | call call =>
    refine sound.quiet whole (by simp [Deed.informs,Deed.renewer?]) fun task phase found => ?_
    rcases Engine.phases_call_cases found with before | ⟨-,rfl⟩
    · exact .inl before
    · exact .inr (Phase.keeps_of_idle rfl)
  | @take task aim free found =>
    refine sound.quiet whole (by simp [Deed.informs,Deed.renewer?]) (set ⟨trivial,fun _ => ?_⟩)
    exact ⟨[],watched.engine,watched.history,rfl,by simp,rfl⟩
  | withdraw | note => exact sound.quiet whole (by simp) (set (Phase.keeps_of_idle rfl))
  | count => exact sound.quiet whole (by simp [Deed.informs,Deed.renewer?]) (set (Phase.keeps_of_idle rfl))
  | @leave task result =>
    refine sound.quiet whole (by simp) (set ?_)
    cases result <;> exact Phase.keeps_of_idle rfl
  | move found moves => exact sound.move whole found moves
  | publish found publishes => exact sound.publish found publishes

theorem Sound.start (filters : Filters) (store : StoreView) : (Watched.mk (.start filters store) []).Sound := by
  refine ⟨.start filters store,?_,⟨rfl,rfl⟩,throughout_nil _,?_⟩
  · simp [Engine.start]
  · simp

/-- No update of the records is lost and none comes back. -/
structure RecordsKept (rules : Rules) (watched : Watched) : Prop where
  replaced : ∀ entry older, entry :: older <:+ watched.history → ∀ task, entry.deed.renewer? = some task →
    SinceTaken task older entry.engine.snapshot.allRecords
  packages : watched.engine.snapshot.allRecords.map (fun record => (record.identity,record.package)) =
    (distinctPackages (listedPackages watched.history)).map fun package => (package.identity,package)
  shown : Shown watched.history watched.engine.snapshot.allRecords
  profiles : ∀ record ∈ watched.engine.snapshot.allRecords, ∃ store, shownStore watched.history = some store ∧
    profileFor store record.packageName record.uid = .done record.profile
  others : ∀ event, (∀ done ∈ watched.engine.deed? event, done.renewer? = none) →
    (watched.engine.apply rules event).snapshot.allRecords = watched.engine.snapshot.allRecords
  cancelled : ∀ task phase, watched.engine.phases[task]? = some phase → phase = .leaving none ∨ phase = .cancelled →
    ∀ entry ∈ watched.history, entry.deed.renewer? ≠ some task

end Watched

theorem watch_sound (rules : Rules) (filters : Filters) (store : StoreView) (events : List Event) :
    (watch rules (.start filters store) events).Sound :=
  watch_induction (motive := fun watched => watched.Sound) (.start filters store) (fun _ _ _ sound step => sound.step step)
    events

private theorem Shown.packages {history : List Entry} {records : List AppRecord} (shown : Shown history records) :
    records.map (fun record => (record.identity,record.package)) =
      (distinctPackages (listedPackages history)).map fun package => (package.identity,package) := by
  unfold Shown at shown
  split at shown
  · obtain ⟨empty,rfl⟩ := shown
    rw [empty]
    rfl
  · obtain ⟨-,rfl⟩ := (joinProfiles_done_iff ..).mp shown
    rw [List.map_map]
    rfl

theorem Shown.profiles {history : List Entry} {records : List AppRecord} (shown : Shown history records) :
    ∀ record ∈ records, ∃ store, shownStore history = some store ∧
      profileFor store record.packageName record.uid = .done record.profile := by
  unfold Shown at shown
  intro record member
  split at shown
  · simp [shown.2] at member
  next store found =>
    obtain ⟨readable,rfl⟩ := (joinProfiles_done_iff ..).mp shown
    obtain ⟨package,inside,rfl⟩ := List.mem_map.mp member
    exact ⟨store,found,profileFor_of_readable (readable package inside)⟩

theorem watch_records (rules : Rules) (filters : Filters) (store : StoreView) (events : List Event) :
    (watch rules (.start filters store) events).RecordsKept rules := by
  have sound := watch_sound rules filters store events
  refine ⟨sound.replaced,sound.shown.packages,sound.shown,sound.shown.profiles,?_,?_⟩
  · intro event keeps
    exact (Engine.apply_step rules _ event).allRecords keeps
  · intro task phase found cancelled entry member renewer
    obtain ⟨other,present,has⟩ := sound.finished entry member task renewer
    obtain rfl : other = phase := Option.some.inj (present.symm.trans found)
    rcases cancelled with rfl | rfl <;> simp [Phase.result?] at has

end AppGrants.Refresh
