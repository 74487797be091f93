import AppGrants.Proofs.Refresh.Flags
import AppGrants.Proofs.Service.Failures

/-! What refreshes fail with: with what the service failed with, or with a job that was lost. That a profile could not be
looked up is never what a refresh fails with. -/
namespace AppGrants

/-- The kinds of failure that a refresh can end with. -/
def Failure.OfRefresh (failure : Failure) : Prop :=
  failure.kind = .serviceUnavailable ∨ failure.kind = .remoteCallFailed ∨ failure.kind = .internal

theorem Failure.OfService.ofRefresh {failure : Failure} (blamed : failure.OfService) : failure.OfRefresh := by
  rcases blamed with unavailable | failed
  · exact .inl unavailable
  · exact .inr (.inl failed)

theorem JobEnd.kind_panicFailure (label : String) (text : Option String) : (panicFailure label text).kind = .internal := by
  have same : FailureKind.ofCode "blocking_task_panicked" = .internal := by decide
  exact same

theorem Ending.forAll_failed {ε α β : Type} {f : α → Ending ε β} {items : List α} {error : ε}
    (failed : Ending.forAll f items = .failed error) : ∃ item ∈ items, f item = .failed error := by
  induction items with
  | nil => cases failed
  | cons item rest ih =>
    cases computed : f item with
    | failed other =>
      simp only [forAll,computed,bind,Ending.failed.injEq] at failed
      exact ⟨item,by simp,by rw [computed,failed]⟩
    | panicked text => simp [forAll,computed,bind] at failed
    | done value =>
      cases others : forAll f rest with
      | failed other =>
        simp only [forAll,computed,others,bind,map,Ending.failed.injEq] at failed
        obtain ⟨found,member,same⟩ := ih (failed ▸ others)
        exact ⟨found,List.mem_cons_of_mem _ member,same⟩
      | done | panicked => simp [forAll,computed,others,bind,map] at failed

/-- A job fails with what its work failed with, or it was lost. -/
theorem onPool_error {α : Type} {label : String} {outcome : Outcome α} {failure : Failure}
    (lost : onPool label outcome = .error failure) : outcome = .failed failure ∨ failure.kind = .internal := by
  cases outcome with
  | done value => cases lost
  | failed other =>
    cases lost
    exact .inl rfl
  | panicked text =>
    cases lost
    exact .inr (JobEnd.kind_panicFailure ..)

namespace Catalog

theorem profileFor_ne_failed (store : StoreView) (packageName : String) (uid : Uid) (failure : Failure) :
    profileFor store packageName uid ≠ .failed failure := by
  unfold profileFor
  cases found : store.lookup packageName uid <;> simp

private theorem lookups_ne_failed {α β : Type} (store : StoreView) (name : α → String) (uid : α → Uid)
    (make : α → Option Profile → β) (items : List α) (failure : Failure) :
    Ending.forAll (fun item => (profileFor store (name item) (uid item)).map (make item)) items ≠ .failed failure := by
  intro failed
  obtain ⟨item,-,same⟩ := Ending.forAll_failed failed
  have never := profileFor_ne_failed store (name item) (uid item)
  cases found : profileFor store (name item) (uid item) with
  | failed other => exact never other found
  | done | panicked => simp [found,Ending.map] at same

theorem joinProfiles_ne_failed (store : StoreView) (packages : List PackageMeta) (failure : Failure) :
    joinProfiles store packages ≠ .failed failure := lookups_ne_failed store _ _ AppRecord.ofPackage _ failure

theorem reloadProfiles_ne_failed (store : StoreView) (records : List AppRecord) (failure : Failure) :
    reloadProfiles store records ≠ .failed failure := lookups_ne_failed store _ _ AppRecord.withProfile _ failure

end Catalog

namespace Refresh
open Catalog Service

/-- The failure that a refresh has come upon. -/
def Phase.failure? : Phase → Option Failure
  | .listed _ (.error failure) | .joined _ _ (.error failure) | .read _ _ _ (.error failure) => some failure
  | phase => match phase.result? with
    | some (.error failure) => some failure
    | _ => none

theorem Phase.failure?_of_result? {phase : Phase} {failure : Failure} (ends : phase.result? = some (.error failure)) :
    phase.failure? = some failure := by
  cases phase with
  | listed | joined | read => cases ends
  | _ => simp [failure?,ends]

/-- The answer comes from the service, by whatever host. -/
def FromService (outcome : Outcome Enumeration) : Prop :=
  ∃ (ω : Type) (host : Host ω) (site : Site ω) (flags : UInt32), outcome = (site.withChannel host (enumeration flags)).1

theorem FromService.blamed {outcome : Outcome Enumeration} (served : FromService outcome) {label : String} {failure : Failure}
    (told : onPool label outcome = .error failure) : failure.OfRefresh := by
  obtain ⟨ω,host,site,flags,rfl⟩ := served
  rcases onPool_error told with failed | lost
  · exact ((enumeration_failsByService host flags site).blamed failure failed).ofRefresh
  · exact .inr (.inr lost)

namespace Engine

/-- Every failure that a refresh has come upon, or that is to be shared, is one of a refresh. -/
structure Blamed (engine : Engine) : Prop where
  phases : ∀ (task : Nat) (phase : Phase), engine.phases[task]? = some phase → ∀ failure, phase.failure? = some failure →
    failure.OfRefresh
  shared : ∀ failure, engine.lastFull = some (.error failure) → failure.OfRefresh

section
variable {rules : Rules} {engine next : Engine} {task : Nat} {old new : Phase} {deed : Option Deed}

private theorem Moves.blamed (moves : engine.Moves task old new deed) (blamed : engine.Blamed)
    (found : engine.phases[task]? = some old)
    (told : ∀ result, deed = some (.told task result) → ∀ failure, result = .error failure → failure.OfRefresh)
    (failure : Failure) (fails : new.failure? = some failure) : failure.OfRefresh := by
  have lost {α : Type} {label : String} {outcome : Outcome α} {other : Failure} (never : ∀ failure, outcome ≠ .failed failure)
      (job : onPool label outcome = .error other) : other.OfRefresh := by
    rcases onPool_error job with failed | internal
    · exact absurd failed (never other)
    · exact .inr (.inr internal)
  cases moves with
  | share later =>
    unfold sharedResult at fails
    cases last : engine.lastFull with
    | none => simp [last,Phase.failure?,Phase.result?] at fails
    | some result =>
      cases result with
      | ok report => simp [last,Phase.failure?,Phase.result?,Except.map] at fails
      | error other =>
        simp only [last,Phase.failure?,Phase.result?,Except.map,Option.some.injEq] at fails
        exact fails ▸ blamed.shared other last
  | list result =>
    cases result <;> cases fails
    exact told _ rfl failure rfl
  | @lookJoining since users packages =>
    cases job : onPool joinLabel (joinProfiles engine.store packages) with
    | ok records => simp [job,Phase.failure?,Phase.result?] at fails
    | error other =>
      simp only [job,Phase.failure?,Option.some.injEq] at fails
      exact fails ▸ lost (joinProfiles_ne_failed _ _) job
  | @lookReading since resort before =>
    cases job : onPool reloadLabel (reloadProfiles engine.store before) with
    | ok records => simp [job,Phase.failure?,Phase.result?] at fails
    | error other =>
      simp only [job,Phase.failure?,Option.some.injEq] at fails
      exact fails ▸ lost (reloadProfiles_ne_failed _ _) job
  | giveUp =>
    cases fails
    exact blamed.phases task _ found _ rfl
  | skip | beginReading | join | drop => cases fails

private theorem Publishes.blamed {feed : Feed} {done : Deed} (publishes : engine.Publishes rules task old new feed done)
    (blamed : engine.Blamed) (found : engine.phases[task]? = some old) (failure : Failure)
    (fails : new.failure? = some failure) : failure.OfRefresh := by
  cases publishes with
  | failListed | failJoined =>
    cases fails
    exact blamed.phases task _ found _ rfl
  | begin | complete | reload | abandon => cases fails

theorem Blamed.step (blamed : engine.Blamed) (step : engine.Step rules deed next)
    (told : ∀ task result, deed = some (.told task result) → ∀ failure, result = .error failure → failure.OfRefresh) :
    next.Blamed := by
  have set {other : Nat} {new : Phase} (holds : ∀ failure, new.failure? = some failure → failure.OfRefresh) (one : Nat)
      (phase : Phase) (present : (engine.phases.set other new)[one]? = some phase) (failure : Failure)
      (fails : phase.failure? = some failure) : failure.OfRefresh := by
    rcases phases_set_cases present with ⟨-,rfl⟩ | ⟨-,before⟩
    · exact holds failure fails
    · exact blamed.phases one phase before failure fails
  cases step with
  | change | storeChange | elapse | idle => exact ⟨blamed.phases,blamed.shared⟩
  | call call =>
    refine ⟨fun task phase present failure fails => ?_,blamed.shared⟩
    rcases phases_call_cases present with before | ⟨-,rfl⟩
    · exact blamed.phases task phase before failure fails
    · cases fails
  | take | withdraw =>
    refine ⟨set fun failure fails => ?_,blamed.shared⟩
    cases fails
  | move found moves => exact ⟨set (moves.blamed blamed found (told _)),blamed.shared⟩
  | publish found publishes => exact ⟨set (publishes.blamed blamed found),blamed.shared⟩
  | @note task result found =>
    have own := blamed.phases task _ found
    refine ⟨set own,fun failure last => own failure ?_⟩
    cases last
    rfl
  | @count task result found =>
    have own := blamed.phases task _ found
    exact ⟨set own,blamed.shared⟩
  | @leave task result found =>
    cases result with
    | none =>
      refine ⟨set fun failure fails => ?_,blamed.shared⟩
      cases fails
    | some result =>
      have own := blamed.phases task _ found
      exact ⟨set own,blamed.shared⟩

theorem run_blamed {events : List Event} (blamed : engine.Blamed)
    (served : ∀ task outcome, .enumerated task outcome ∈ events → FromService outcome) : (engine.run rules events).Blamed := by
  induction events generalizing engine with
  | nil => exact blamed
  | cons event rest ih =>
    refine ih (blamed.step (engine.apply_step rules event) ?_) fun task outcome member =>
      served task outcome (List.mem_cons_of_mem _ member)
    intro task result done failure failed
    cases does_of_deed? done with
    | tell _ outcome => exact (served task outcome (by simp)).blamed failed

theorem Blamed.start (filters : Filters) (store : StoreView) : (Engine.start filters store).Blamed := by
  constructor <;> simp [Engine.start]

end
end Engine
end Refresh
end AppGrants
