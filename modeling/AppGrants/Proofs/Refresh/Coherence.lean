import AppGrants.Proofs.Catalog.Coherence
import AppGrants.Proofs.Refresh.Records

/-! Every published snapshot is coherent. What a refresh has read of the records is still so when it publishes, since only
the one that has the turn replaces them. -/
namespace AppGrants.Refresh
open Catalog

variable {rules : Rules}

theorem Engine.Publishes.coherent {engine : Engine} {task : Nat} {old new : Phase} {feed : Feed} {deed : Deed}
    {history : List Entry} (publishes : engine.Publishes rules task old new feed deed)
    (fits : old.Fits task history engine.snapshot.allRecords) (coherent : engine.feed.Coherent rules) :
    feed.Coherent rules := by
  cases publishes with
  | begin | abandon => exact coherent.setRefreshing _
  | failListed | failJoined => exact coherent.fail _
  | complete =>
    obtain ⟨store,-,joined⟩ := fits
    exact .complete (.of_join joined) _ _
  | @reload since resort before records =>
    obtain ⟨rfl,found⟩ := fits
    obtain ⟨store,-,reloaded⟩ := found records rfl
    obtain ⟨-,rfl⟩ := (reloadProfiles_done_iff ..).mp reloaded
    cases resort with
    | true => exact coherent.reload _ store
    | false => exact coherent.patch store

theorem Watched.Sound.coherent {watched : Watched} {deed : Option Deed} {next : Engine} (sound : watched.Sound)
    (coherent : watched.engine.feed.Coherent rules) (step : watched.engine.Step rules deed next) :
    next.feed.Coherent rules := by
  cases step with
  | change change => exact coherent.change _ change
  | publish found publishes => exact publishes.coherent (sound.keeps _ _ found).fits coherent
  | storeChange | elapse | call | take | withdraw | move | note | count | leave | idle => exact coherent

theorem watch_coherent (rules : Rules) (filters : Filters) (store : StoreView) (events : List Event) :
    (watch rules (.start filters store) events).engine.feed.Coherent rules := by
  refine (watch_induction (motive := fun watched => watched.Sound ∧ watched.engine.feed.Coherent rules)
    ⟨.start filters store,.start filters⟩ ?_ events).2
  intro watched deed next both step
  exact ⟨both.1.step step,both.1.coherent both.2 step⟩

/-- After any events, in whatever order refreshes, settings, the store and the answers of the service come. -/
theorem run_coherent (rules : Rules) (filters : Filters) (store : StoreView) (events : List Event) :
    ((Engine.start filters store).run rules events).feed.Coherent rules := by
  rw [← watch_engine]
  exact watch_coherent rules filters store events

end AppGrants.Refresh
