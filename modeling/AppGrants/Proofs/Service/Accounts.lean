import AppGrants.Proofs.Service.Ledger
import AppGrants.Service.Script

/-! Channels are accounted for. Where no probe panicked, each channel that was bound is held by one lease or was released
once, and the counters tell how often that and everything else happened. -/
namespace AppGrants.Service
variable {ω : Type}

/-- What the counters of a pool say of the calls in its ledger; the quiet pool is the one whose service never told that it
went away. -/
structure Accounted (uses : List Use) (pool quiet : Pool ω) (ledger : Ledger ω) : Prop where
  observed : Observed.sight.pool ledger.pool = pool
  written : ledger.log = ledger.entries.flatMap Entry.made
  numbered : Proper ledger.log
  binds : pool.site.manager.stats.binds = bindings ledger.log
  releases : pool.site.manager.stats.releases = releases ledger.log
  /-- As many channels are held as were bound and not released. -/
  balanced : pool.site.manager.stats.binds = pool.site.manager.stats.releases + pool.held.length
  bound : ∀ number ∈ pool.held, .bound number (.done ()) ∈ ledger.log
  single : pool.held.Nodup
  released : ∀ number, .bound number (.done ()) ∈ ledger.log → releasesOf number ledger.log = if number ∈ pool.held then 0 else 1
  silent : ledger.log.Pairwise fun later earlier => ∀ number, earlier = .released number → later.on? ≠ some number
  /-- A lease binds a channel with nothing in its hands, and calls no channel but its own. -/
  keeps : ∀ lease, Keeps none (ledger.madeBy lease) (pool.channel? lease)
  apart : ∀ entry ∈ ledger.entries, entry.lease = none → Keeps none entry.made none
  reconnects : pool.site.manager.stats.reconnects = stumblesIn ledger.works
  disconnects : pool.site.manager.stats.disconnects = ledger.pool.site.world.notices + uses.countP Use.isHook
  unheard : Sight.unheard.pool pool = quiet
  drained : (∀ lease, pool.lease? lease = none) → pool.site.manager.stats.binds = pool.site.manager.stats.releases

theorem Pool.held_eq_nil {pool : Pool ω} (gone : ∀ lease, pool.lease? lease = none) : pool.held = [] := by
  refine List.filterMap_eq_nil_iff.mpr fun lease member => ?_
  obtain ⟨index,bound,found⟩ := List.mem_iff_getElem.mp member
  have none_left := gone index
  rw [lease?,List.getElem?_eq_getElem bound,found] at none_left
  cases lease with
  | none => rfl
  | some channel => cases none_left

/-- Every run without a panicking probe is accounted for. -/
theorem Ledger.run_accounted (host : Host ω) (world : ω) (uses : List Use) (calm : lost (run host world uses).log = []) :
    Accounted uses (Pool.run host world uses) (Pool.run host.hushed world (uses.filter (!·.isHook))) (run host world uses) := by
  have sound := run_sound host world uses
  have unheard := Pool.unheard_run host world uses
  have observed := run_pool host world uses
  generalize run host world uses = ledger at calm sound observed ⊢
  generalize Pool.run host world uses = pool at unheard observed ⊢
  subst observed
  have alive := sound.alive
  rw [calm,List.append_nil] at alive
  have lengths := length_live_add_releases sound.lawful
  have balanced : ledger.pool.site.manager.stats.binds = ledger.pool.site.manager.stats.releases + ledger.pool.held.length := by
    rw [sound.rests.binds,sound.rests.releases,← alive.length_eq]
    exact lengths.symm.trans (Nat.add_comm _ _)
  exact {
    observed := rfl
    written := sound.written
    numbered := sound.rests.proper
    binds := sound.rests.binds
    releases := sound.rests.releases
    balanced := balanced
    bound := fun number held => bound_of_mem_live (alive.mem_iff.mpr held)
    single := alive.nodup_iff.mp (live_nodup sound.rests.proper sound.lawful)
    released := fun number bound =>
      (releasesOf_eq sound.rests.proper sound.lawful (bound_lt_bindings sound.rests.proper bound)).trans
        (if_congr alive.mem_iff rfl rfl)
    silent := pairwise_not_called sound.rests.proper sound.lawful
    keeps := sound.holds
    apart := sound.apart
    reconnects := sound.again
    disconnects := sound.heard
    unheard := unheard
    drained := fun gone => by
      have empty : ledger.pool.held = [] := Pool.held_eq_nil gone
      rw [empty,List.length_nil,Nat.add_zero] at balanced
      exact balanced }

/-- Two leases and a body over a service that refuses to be bound once and fails three calls. -/
def stumblingScript : Script where
  capabilities := ⟨true,true⟩
  users := [0,10]
  bindPlan := [none,none,some (.failed (.serviceUnavailable "gone"))]
  capabilitiesPlan := [some (.failed ⟨"not yet"⟩)]
  usersPlan := [some (.failed ⟨"broken pipe"⟩)]
  packagesPlan := [some (.failed ⟨"broken pipe"⟩),some (.failed ⟨"broken pipe"⟩)]

def stumblingUses : List Use := [.drop 0,.withChannel (.listUserIds fun _ => .finish (.done ())),.operate 0 (.listPackages 0),
  .operate 1 (.listPackages 0),.disconnect,.operate 0 .listUserIds,.acquire,.acquire]

theorem run_accounted_stumbling : lost (Ledger.run Script.host stumblingScript stumblingUses).log = [] ∧
    Accounted stumblingUses (Pool.run Script.host stumblingScript stumblingUses)
      (Pool.run Script.host.hushed stumblingScript (stumblingUses.filter (!·.isHook)))
      (Ledger.run Script.host stumblingScript stumblingUses) :=
  ⟨by decide,Ledger.run_accounted Script.host stumblingScript stumblingUses (by decide)⟩

end AppGrants.Service
