import AppGrants.Proofs.Failure.Building
import AppGrants.Refresh.Session

/-! How work with the service can fail. A channel that cannot be bound is told as a service that is unavailable, a call that
failed twice as a remote call; nothing else fails but by a panic. -/
namespace AppGrants
open Service

/-- The service is to blame. -/
def Failure.OfService (failure : Failure) : Prop :=
  failure.kind = .serviceUnavailable ∨ failure.kind = .remoteCallFailed

/-- The work fails by the service only. -/
structure Ending.FailsByService {α : Type} (outcome : Outcome α) : Prop where
  blamed : ∀ failure, outcome = .failed failure → failure.OfService

theorem Ending.failsByService_done {α : Type} (value : α) : FailsByService (.done value) := ⟨by simp⟩

theorem Ending.failsByService_panicked {α : Type} (text : String) : FailsByService (.panicked text : Outcome α) := ⟨by simp⟩

theorem Ending.failsByService_failed {α : Type} {failure : Failure} (blamed : failure.OfService) :
    FailsByService (.failed failure : Outcome α) := by
  constructor
  intro other same
  cases same
  exact blamed

theorem Ending.FailsByService.map {α β : Type} {outcome : Outcome α} (fails : FailsByService outcome) (f : α → β) :
    FailsByService (outcome.map f) := by
  cases outcome with
  | done value => exact failsByService_done _
  | failed failure => exact failsByService_failed (fails.blamed failure rfl)
  | panicked text => exact failsByService_panicked text

theorem Failure.kind_ofKind (kind : FailureKind) (message : String) : (Failure.ofKind kind message).kind = kind := by
  have same : FailureKind.ofCode kind.code = kind := by cases kind <;> decide
  exact same

namespace Service
open Ending
variable {ω α : Type} (host : Host ω)

theorem Site.unavailable_kind (failure : Failure) : (unavailable failure).kind = .serviceUnavailable := by
  unfold unavailable
  split
  · assumption
  · rfl

theorem Grip.remoteFailure_kind (operation : String) (first second : TransportError) :
    (remoteFailure operation first second).kind = .remoteCallFailed := by
  have same : (remoteFailure operation first second).code = FailureKind.remoteCallFailed.code := by
    rw [remoteFailure,Failure.withSource_eq,Failure.withCause_eq]
    rfl
  rw [Failure.kind,same]
  exact Failure.kind_ofKind .remoteCallFailed ""

theorem Site.probe_failsByService (number : Nat) (site : Site ω) : FailsByService (probe host number site).1 := by
  unfold probe
  split
  · exact failsByService_done _
  · dsimp only
    split
    · exact failsByService_done _
    · exact failsByService_done _
    · exact failsByService_panicked _

theorem Site.bind_failsByService (site : Site ω) : FailsByService (site.bind host).1 := by
  unfold Site.bind
  dsimp only
  split
  · exact probe_failsByService ..
  · exact failsByService_failed (.inl (unavailable_kind _))
  · exact failsByService_panicked _

namespace Grip

theorem rebind_failsByService (grip : Grip ω) : FailsByService (grip.rebind host).1 := by
  have bound := Site.bind_failsByService host grip.site
  unfold rebind
  split
  · exact failsByService_done _
  next failure site same =>
    rw [same] at bound
    exact failsByService_failed (bound.blamed failure rfl)
  · exact failsByService_panicked _

theorem ensure_failsByService (grip : Grip ω) : FailsByService (grip.ensure host).1 := by
  unfold ensure
  split
  · exact failsByService_done _
  · exact rebind_failsByService ..

theorem reconnect_failsByService (operation : String) (grip : Grip ω) : FailsByService (grip.reconnect host operation).1 := by
  have rebound := rebind_failsByService host ⟨{ grip.drop host with manager := (grip.drop host).manager.reconnected },none⟩
  unfold reconnect
  dsimp only
  split
  next failure _ same =>
    rw [same] at rebound
    exact failsByService_failed (rebound.blamed failure rfl)
  · exact rebound

theorem secondAttempt_failsByService (operation : String) (remote : Remote ω α) (first : TransportError) (grip : Grip ω) :
    FailsByService (grip.secondAttempt host operation remote first).1 := by
  have reconnected := reconnect_failsByService host operation grip
  unfold secondAttempt
  split
  next failure _ same =>
    rw [same] at reconnected
    exact failsByService_failed (reconnected.blamed failure rfl)
  · exact failsByService_panicked _
  · split
    · exact failsByService_done _
    · exact failsByService_panicked _
    · exact failsByService_failed (.inr (remoteFailure_kind ..))

theorem call_failsByService (operation : String) (remote : Remote ω α) (grip : Grip ω) :
    FailsByService (grip.call host operation remote).1 := by
  have ensured := ensure_failsByService host grip
  unfold call
  split
  next failure _ same =>
    rw [same] at ensured
    exact failsByService_failed (ensured.blamed failure rfl)
  · exact failsByService_panicked _
  · split
    · exact failsByService_done _
    · exact failsByService_panicked _
    · exact secondAttempt_failsByService ..

theorem strategy_failsByService (grip : Grip ω) : FailsByService (grip.strategy host).1 := by
  have asked := call_failsByService host "capabilities" host.capabilities grip
  unfold strategy
  split
  · exact failsByService_done _
  · split
    next failure _ same =>
      rw [same] at asked
      exact failsByService_failed (asked.blamed failure rfl)
    · exact failsByService_panicked _
    · exact failsByService_done _

theorem listUserIds_failsByService (grip : Grip ω) : FailsByService (grip.listUserIds host).1 := by
  have settled := strategy_failsByService host grip
  unfold listUserIds
  split
  next failure _ same =>
    rw [same] at settled
    exact failsByService_failed (settled.blamed failure rfl)
  · exact failsByService_panicked _
  · exact failsByService_done _
  · exact (call_failsByService ..).map _

theorem listPackages_failsByService (flags : UInt32) (grip : Grip ω) : FailsByService (grip.listPackages host flags).1 :=
  call_failsByService ..

end Grip

/-- What goes on from a value fails by the service if both parts do. -/
theorem Body.proceed_failsByService {β : Type} {next : β → Body α} {first : Outcome β × Grip ω}
    (fails : FailsByService first.1) (then_fails : ∀ value grip, FailsByService ((next value).run host grip).1) :
    FailsByService (Body.proceed (fun result => (Body.onValue next result).run host) first).1 := by
  obtain ⟨outcome,grip⟩ := first
  cases outcome with
  | done value => exact then_fails value grip
  | failed failure => exact failsByService_failed (fails.blamed failure rfl)
  | panicked text => exact failsByService_panicked text

theorem enumeration_failsByService (flags : UInt32) (site : Site ω) :
    FailsByService (site.withChannel host (Refresh.enumeration flags)).1 := by
  have acquired := Grip.rebind_failsByService host ⟨site,none⟩
  have body (grip : Grip ω) : FailsByService ((Refresh.enumeration flags).run host grip).1 :=
    Body.proceed_failsByService host (Grip.listUserIds_failsByService host grip) fun users grip =>
      Body.proceed_failsByService host (Grip.listPackages_failsByService host flags grip) fun packages _ =>
        failsByService_done (users,packages)
  have leased : FailsByService (site.acquire host).1 := acquired.map _
  unfold Site.withChannel
  split
  next failure _ same =>
    rw [same] at leased
    exact failsByService_failed (leased.blamed failure rfl)
  · exact failsByService_panicked _
  · exact body _

end Service
end AppGrants
