import AppGrants.Proofs.Service.Ledger

/-! The way of listing users is settled once. It is the one that follows from what the service told first, for all leases and
from then on. -/
namespace AppGrants.Service
open Capabilities (negotiate)
variable {ω : Type}

theorem toldFirst_eq (log : List Exchange) : toldFirst log = log.reverse.findSome? Exchange.told? := by
  induction log with
  | nil => rfl
  | cons exchange older ih => rw [toldFirst,List.reverse_cons,List.findSome?_append,← ih,List.findSome?_singleton]

/-- What a run settles. Calls are told in the log latest first, so the first answer is the last one there. -/
structure Settled (host : Host ω) (world : ω) (uses : List Use) : Prop where
  first : (Pool.run host world uses).site.manager.strategy =
    ((Ledger.run host world uses).log.reverse.findSome? Exchange.told?).map negotiate
  kept : ∀ strategy, (Pool.run host world uses).site.manager.strategy = some strategy →
    ∀ later, (Pool.run host world (later ++ uses)).site.manager.strategy = some strategy
  /-- Users are asked for in this way only, and not before it is settled. -/
  asked : ∀ later number strategy ending earlier,
    (Ledger.run host world uses).log = later ++ .tried number (.users strategy ending) :: earlier →
      chosen earlier = some strategy ∧ (Pool.run host world uses).site.manager.strategy = some strategy
  answered : ∀ work ∈ (Ledger.run host world uses).works, ∀ strategy, work.answer = some (.strategy (.done strategy)) →
    (Pool.run host world uses).site.manager.strategy = some strategy
  /-- There is always a user, once the strategy is settled. Where none were asked for it is the primary one, and the service
  told that it cannot list them. -/
  listed : ∀ work ∈ (Ledger.run host world uses).works, ∀ ids, work.answer = some (.users (.done ids)) →
    (Pool.run host world uses).site.manager.strategy.isSome ∧ ids ≠ [] ∧
      ((∀ trial ∈ trials work.made, trial.topic ≠ .users) →
        ids = [0] ∧ (Ledger.run host world uses).log.reverse.findSome? Exchange.told? = some ⟨false,false⟩)

theorem Proper.fits {later earlier : List Exchange} {exchange : Exchange} (proper : Proper (later ++ exchange :: earlier)) :
    exchange.Fits earlier := by
  induction later with
  | nil => exact proper.1
  | cons _ rest ih => exact ih proper.2

theorem exists_users_of_mem_trials {made : List Exchange} {trial : Trial} (member : trial ∈ trials made)
    (users : trial.topic = .users) : ∃ number strategy ending, .tried number (.users strategy ending) ∈ made := by
  obtain ⟨exchange,inside,same⟩ := List.mem_filterMap.mp member
  cases exchange with
  | tried number other =>
    cases same
    cases trial with
    | users strategy ending => exact ⟨number,strategy,ending,inside⟩
    | capabilities | packages => cases users
  | bound | probed | released => cases same

namespace Ledger
variable (host : Host ω) (world : ω)

/-- A ledger is only ever added to. -/
theorem run_log_append (later uses : List Use) :
    ∃ made, (run host world (later ++ uses)).log = made ++ (run host world uses).log := by
  induction later with
  | nil => exact ⟨[],rfl⟩
  | cons use rest ih =>
    obtain ⟨made,log⟩ := ih
    refine ⟨((run host world (rest ++ uses)).pool.entry host use).made ++ made,?_⟩
    rw [List.append_assoc,← log,(run_sound host world (rest ++ uses)).written]
    exact (run_sound host world (use :: (rest ++ uses))).written

theorem run_strategy (uses : List Use) :
    (Pool.run host world uses).site.manager.strategy = chosen (run host world uses).log := by
  rw [run_manager]
  exact (run_sound host world uses).rests.settled

theorem run_asked {uses : List Use} {later earlier : List Exchange} {number : Nat} {strategy : UserStrategy}
    {ending : Ending TransportError (List Int32)}
    (split : (run host world uses).log = later ++ .tried number (.users strategy ending) :: earlier) :
    chosen earlier = some strategy ∧ (Pool.run host world uses).site.manager.strategy = some strategy := by
  have proper := (run_sound host world uses).rests.proper
  change Proper (run host world uses).log at proper
  rw [split] at proper
  have settled : chosen earlier = some strategy := proper.fits
  refine ⟨settled,?_⟩
  rw [run_strategy,split,List.append_cons]
  exact chosen_grows settled _

/-- Every run settles the strategy by the first answer. -/
theorem run_settled (uses : List Use) : Settled host world uses where
  first := by rw [run_strategy,chosen,toldFirst_eq]
  kept strategy settled later := by
    rw [run_strategy] at settled ⊢
    obtain ⟨made,log⟩ := run_log_append host world later uses
    rw [log]
    exact chosen_grows settled made
  asked _ _ _ _ _ split := run_asked host world split
  answered work member strategy same := by
    rw [run_strategy]
    exact (run_sound host world uses).follows work member _ same
  listed work member ids same := by
    have sound := run_sound host world uses
    obtain ⟨some_user,unasked⟩ : Answer.Follows work.made _ (.users (.done ids)) := sound.follows work member _ same
    refine ⟨?_,some_user,fun absent => ⟨(unasked absent).1,toldFirst_eq _ ▸ (unasked absent).2⟩⟩
    -- Users that were asked for were asked for in the settled way.
    by_cases absent : ∀ trial ∈ trials work.made, trial.topic ≠ .users
    · rw [run_strategy,chosen,(unasked absent).2]
      rfl
    · obtain ⟨trial,inside,users⟩ : ∃ trial ∈ trials work.made, trial.topic = .users := by
        simpa only [not_forall,not_not,exists_prop] using absent
      obtain ⟨number,strategy,ending,asked⟩ := exists_users_of_mem_trials inside users
      have written : .tried number (.users strategy ending) ∈ (run host world uses).log := by
        obtain ⟨entry,entered,worked⟩ := List.mem_flatMap.mp member
        rw [sound.written]
        exact List.mem_flatMap.mpr ⟨entry,entered,List.mem_flatMap.mpr ⟨work,worked,asked⟩⟩
      obtain ⟨later,earlier,split⟩ := List.append_of_mem written
      rw [(run_asked host world split).2]
      rfl

end Ledger
end AppGrants.Service
