import AppGrants.Proofs.Service.Ledger
import AppGrants.Service.Script

/-! What is left behind by a body with a lease of its own, and by a lease that could not be acquired. Each channel that was
bound meanwhile is released once, but for one whose probe panicked: it is in no lease yet, and is let go of without a release. -/
namespace AppGrants.Service
variable {ω α : Type}

/-- The channels that were bound by the calls that were made are released, but for a lost one; one is lost only in a panic. -/
structure Leaves (before after : Pool ω) (earlier log made : List Exchange) (outcome : Outcome α) : Prop where
  written : log = made ++ earlier
  released : ∀ number, .bound number (.done ()) ∈ made → releasesOf number log = if number ∈ lost made then 0 else 1
  balanced : after.site.manager.stats.binds + before.site.manager.stats.releases =
    before.site.manager.stats.binds + after.site.manager.stats.releases + (lost made).length
  spared : Spares made outcome

/-- With nothing in anyone's hands before and after, what was live stays so, and of what was bound only the lost is live. -/
theorem Ledger.Sound.leaves {uses : List Use} {ledger : Ledger ω} (sound : Sound uses ledger) (after : Pool (Observed ω))
    {works : List Work} (does : Does ⟨ledger.pool.site,none⟩ ⟨after.site,none⟩ works) {outcome : Outcome α}
    (spares : Spares (works.flatMap Work.made) outcome) :
    Leaves (Observed.sight.pool ledger.pool) (Observed.sight.pool after) ledger.log after.site.world.log
      (works.flatMap Work.made) outcome := by
  have log : after.site.world.log = works.flatMap Work.made ++ ledger.log := does.log
  -- Seen from here, all channels that were live before belong to others.
  obtain ⟨moved,lawful⟩ := does.keeps.live sound.lawful (List.Perm.refl (live ledger.log))
  have known := does.knows
  have proper : Proper (works.flatMap Work.made ++ ledger.log) := log ▸ known.proper
  refine ⟨log,fun number bound => ?_,?_,spares⟩
  · have later := bindings_le_of_bound proper bound
    have fresh : number ∉ live ledger.log := fun alive =>
      Nat.not_lt.mpr later (lt_bindings_of_mem_live sound.rests.proper sound.lawful alive)
    have alive : number ∈ live (works.flatMap Work.made ++ ledger.log) ↔ number ∈ lost (works.flatMap Work.made) := by
      rw [moved.mem_iff]
      simp [fresh]
    rw [log,releasesOf_eq proper lawful (bound_lt_bindings proper (List.mem_append_left _ bound))]
    exact if_congr alive rfl rfl
  · have earlier := length_live_add_releases sound.lawful
    have since := length_live_add_releases lawful
    have length : (live (works.flatMap Work.made ++ ledger.log)).length =
        (lost (works.flatMap Work.made)).length + (live ledger.log).length := by
      rw [moved.length_eq]
      simp
    change after.site.manager.stats.binds + ledger.pool.site.manager.stats.releases =
      ledger.pool.site.manager.stats.binds + after.site.manager.stats.releases + _
    have binds : after.site.manager.stats.binds = bindings after.site.world.log := known.binds
    have releases : after.site.manager.stats.releases = Service.releases after.site.world.log := known.releases
    rw [binds,releases,sound.rests.binds,sound.rests.releases,log]
    change _ + Service.releases ledger.log = bindings ledger.log + _ + _
    omega

theorem Ledger.Sound.acquire_leaves {uses : List Use} {ledger : Ledger ω} (sound : Sound uses ledger) (host : Host ω)
    (fails : ∀ lease, (ledger.pool.acquire host.observed).1 ≠ .done lease) :
    Leaves (Observed.sight.pool ledger.pool) (Observed.sight.pool (ledger.use host .acquire).pool) ledger.log
      (ledger.use host .acquire).log (ledger.pool.entry host .acquire).made (ledger.pool.acquire host.observed).1 := by
  obtain ⟨does,spares,empty⟩ := Site.acquire_does host sound.rests
  unfold Ledger.log Ledger.use Pool.use Pool.entry
  unfold Pool.acquire at fails ⊢
  rcases acquired : ledger.pool.site.acquire host.observed with ⟨value | failure | text,⟨site,channel⟩⟩
  all_goals rw [acquired] at fails does spares empty
  · exact absurd rfl (fails _)
  all_goals
    obtain rfl : channel = none := empty (by simp)
    refine sound.leaves ⟨site,ledger.pool.leases⟩ does ?_
    rw [List.flatMap_singleton]
    exact spares

/-- After a body with a lease of its own, and after a lease that could not be acquired, whatever is done before. -/
theorem Ledger.run_leaves (host : Host ω) (world : ω) (uses : List Use) :
    (∀ (α : Type) (body : Body α),
      Leaves (Pool.run host world uses) (Pool.run host world (.withChannel body :: uses)) (run host world uses).log
        (run host world (.withChannel body :: uses)).log ((run host world uses).pool.entry host (.withChannel body)).made
        ((Pool.run host world uses).withChannel host body).1) ∧
    ((∀ lease, ((Pool.run host world uses).acquire host).1 ≠ .done lease) →
      Leaves (Pool.run host world uses) (Pool.run host world (.acquire :: uses)) (run host world uses).log
        (run host world (.acquire :: uses)).log ((run host world uses).pool.entry host .acquire).made
        ((Pool.run host world uses).acquire host).1) := by
  have sound := run_sound host world uses
  constructor
  · intro α body
    obtain ⟨does,spares⟩ := Site.session_does host sound.rests body
    rw [← run_pool host world uses,← run_pool host world (.withChannel body :: uses),host.observed_shows.poolWithChannel_shown]
    exact sound.leaves (run host world (.withChannel body :: uses)).pool does spares
  · intro fails
    rw [← run_pool host world uses,host.observed_shows.poolAcquire_shown] at fails ⊢
    rw [← run_pool host world (.acquire :: uses)]
    exact sound.acquire_leaves host fails

/-- A service whose first probe panics. -/
def panickingScript : Script where
  capabilitiesPlan := [some (.panicked "probe")]

theorem run_leaves_panicking :
    (∀ lease, ((Pool.run Script.host panickingScript []).acquire Script.host).1 ≠ .done lease) ∧
      Leaves (Pool.run Script.host panickingScript []) (Pool.run Script.host panickingScript [.acquire])
        (Ledger.run Script.host panickingScript []).log (Ledger.run Script.host panickingScript [.acquire]).log
        ((Ledger.run Script.host panickingScript []).pool.entry Script.host .acquire).made
        ((Pool.run Script.host panickingScript []).acquire Script.host).1 :=
  have fails : ∀ lease, ((Pool.run Script.host panickingScript []).acquire Script.host).1 ≠ .done lease := by
    intro lease same
    cases same
  ⟨fails,(Ledger.run_leaves Script.host panickingScript []).2 fails⟩

/-- The probe of a body's own channel panics: the channel was bound, and is never released. -/
theorem not_released_panicking :
    .bound 0 (.done ()) ∈ (Ledger.run Script.host panickingScript [.withChannel (.finish (.done ()))]).log ∧
      releasesOf 0 (Ledger.run Script.host panickingScript [.withChannel (.finish (.done ()))]).log = 0 ∧
      (Pool.run Script.host panickingScript [.withChannel (.finish (.done ()))]).site.manager.stats = { binds := 1 } := by
  decide

end AppGrants.Service
