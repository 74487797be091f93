import AppGrants.Service.Pool

/-! Hosts that are alike as far as one looks. Where every answer of a host is seen as the answer of another one, all that
is done with the one is seen as the same done with the other. -/
namespace AppGrants.Service

/-- How a world is seen, and how many of the told disconnects. -/
structure Sight (ω ω' : Type) where
  world : ω → ω'
  told : Nat → Nat := id

namespace Sight
variable {ω ω' ε α β : Type} (sight : Sight ω ω')

def site (site : Site ω) : Site ω' :=
  ⟨{ site.manager with stats.disconnects := sight.told site.manager.stats.disconnects },sight.world site.world⟩

def grip (grip : Grip ω) : Grip ω' := ⟨sight.site grip.site,grip.channel⟩

def pool (pool : Pool ω) : Pool ω' := ⟨sight.site pool.site,pool.leases⟩

/-- The one answer is seen as the other. -/
structure Shows (answer : Reply ε α × ω) (seen : Reply ε α × ω') : Prop where
  ending : seen.1.ending = answer.1.ending
  world : seen.2 = sight.world answer.2
  told : ∀ before, sight.told (before + answer.1.notices) = sight.told before + seen.1.notices

def ShowsCall (remote : Remote ω α) (seen : Remote ω' α) : Prop :=
  ∀ number world, sight.Shows (remote number world) (seen number (sight.world world))

/-- The one host is seen as the other. -/
structure ShowsHost (host : Host ω) (seen : Host ω') : Prop where
  bind : ∀ number world, sight.Shows (host.bind number world) (seen.bind number (sight.world world))
  capabilities : sight.ShowsCall host.capabilities seen.capabilities
  listUserIds : ∀ strategy, sight.ShowsCall (host.listUserIds · strategy) (seen.listUserIds · strategy)
  listPackages : ∀ flags, sight.ShowsCall (host.listPackages · flags) (seen.listPackages · flags)
  release : ∀ number world, seen.release number (sight.world world) = sight.world (host.release number world)
  discard : ∀ number world, seen.discard number (sight.world world) = sight.world (host.discard number world)

variable {sight} {host : Host ω} {seen : Host ω'}

theorem Shows.hear {answer : Reply ε α × ω} {other : Reply ε α × ω'} (shows : sight.Shows answer other) (site : Site ω) :
    (sight.site site).hear other.1.notices other.2 = sight.site (site.hear answer.1.notices answer.2) := by
  simp only [Site.hear,Manager.disconnected,Sight.site,shows.world,shows.told]

theorem site_adopt (sight : Sight ω ω') (site : Site ω) (capabilities : Capabilities) :
    ((sight.site site).manager.adopt capabilities).1 = (site.manager.adopt capabilities).1 ∧
      { sight.site site with manager := ((sight.site site).manager.adopt capabilities).2 } =
        sight.site { site with manager := (site.manager.adopt capabilities).2 } := by
  have same : (sight.site site).manager.strategy = site.manager.strategy := rfl
  unfold Manager.adopt
  rw [same]
  cases site.manager.strategy <;> exact ⟨rfl,rfl⟩

namespace ShowsHost

theorem probe_shown (same : sight.ShowsHost host seen) (number : Nat) (site : Site ω) :
    Site.probe seen number (sight.site site) = Prod.map id sight.site (Site.probe host number site) := by
  have answered := same.capabilities number site.world
  have heard := answered.hear site
  unfold Site.probe
  by_cases settled : site.manager.strategy.isSome
  · rw [if_pos settled,if_pos (show (sight.site site).manager.strategy.isSome from settled)]
    rfl
  · rw [if_neg settled,if_neg (show ¬(sight.site site).manager.strategy.isSome from settled)]
    dsimp only
    rw [show (sight.site site).world = sight.world site.world from rfl,heard,answered.ending]
    cases (host.capabilities number site.world).1.ending with
    | done capabilities => exact congrArg (Prod.mk _) (site_adopt sight _ capabilities).2
    | failed => rfl
    | panicked text => exact congrArg (Prod.mk _) (congrArg (Site.mk _) (same.discard number _))

theorem bind_shown (same : sight.ShowsHost host seen) (site : Site ω) :
    Site.bind seen (sight.site site) = Prod.map id sight.site (site.bind host) := by
  have answered := same.bind site.manager.stats.binds site.world
  have heard := answered.hear site
  have probed (after : Site ω) := same.probe_shown site.manager.stats.binds { after with manager := after.manager.bound }
  unfold Site.bind
  dsimp only
  rw [show (sight.site site).world = sight.world site.world from rfl,
    show (sight.site site).manager.stats.binds = site.manager.stats.binds from rfl,heard,answered.ending]
  cases (host.bind site.manager.stats.binds site.world).1.ending with
  | done => exact probed (site.hear _ _)
  | failed => rfl
  | panicked => rfl

theorem release_shown (same : sight.ShowsHost host seen) (number : Nat) (site : Site ω) :
    Site.release seen number (sight.site site) = sight.site (site.release host number) := by
  refine congrArg (Site.mk _) ?_
  change seen.discard number (seen.release number (sight.world site.world)) = _
  rw [same.release,same.discard]
  rfl

theorem rebind_shown (same : sight.ShowsHost host seen) (grip : Grip ω) :
    (sight.grip grip).rebind seen = Prod.map id sight.grip (grip.rebind host) := by
  unfold Grip.rebind
  rw [show (sight.grip grip).site = sight.site grip.site from rfl,same.bind_shown]
  rcases grip.site.bind host with ⟨_ | _ | _,site⟩ <;> rfl

theorem ensure_shown (same : sight.ShowsHost host seen) (grip : Grip ω) :
    (sight.grip grip).ensure seen = Prod.map id sight.grip (grip.ensure host) := by
  obtain ⟨site,_ | number⟩ := grip
  · exact same.rebind_shown ⟨site,none⟩
  · rfl

theorem drop_shown (same : sight.ShowsHost host seen) (grip : Grip ω) :
    (sight.grip grip).drop seen = sight.site (grip.drop host) := by
  obtain ⟨site,_ | number⟩ := grip
  · rfl
  · exact same.release_shown number site

theorem reconnect_shown (same : sight.ShowsHost host seen) (operation : String) (grip : Grip ω) :
    (sight.grip grip).reconnect seen operation = Prod.map id sight.grip (grip.reconnect host operation) := by
  have rebound := same.rebind_shown ⟨{ grip.drop host with manager := (grip.drop host).manager.reconnected },none⟩
  unfold Grip.reconnect
  rw [same.drop_shown]
  dsimp only
  rw [show Grip.mk { sight.site (grip.drop host) with manager := (sight.site (grip.drop host)).manager.reconnected } none =
    sight.grip ⟨{ grip.drop host with manager := (grip.drop host).manager.reconnected },none⟩ from rfl,rebound]
  rcases Grip.rebind host _ with ⟨_ | _ | _,after⟩ <;> rfl

variable {remote : Remote ω α} {other : Remote ω' α}

theorem attempt_shown (alike : sight.ShowsCall remote other) (number : Nat) (grip : Grip ω) :
    (sight.grip grip).attempt other number = Prod.map id sight.grip (grip.attempt remote number) := by
  have answered := alike number grip.site.world
  refine Prod.ext answered.ending ?_
  exact congrArg (Grip.mk · grip.channel) (answered.hear grip.site)

theorem secondAttempt_shown (same : sight.ShowsHost host seen) (alike : sight.ShowsCall remote other) (operation : String)
    (first : TransportError) (grip : Grip ω) :
    (sight.grip grip).secondAttempt seen operation other first =
      Prod.map id sight.grip (grip.secondAttempt host operation remote first) := by
  unfold Grip.secondAttempt
  rw [same.reconnect_shown]
  rcases grip.reconnect host operation with ⟨number | _ | _,after⟩
  · dsimp only [Prod.map,id]
    rw [attempt_shown alike]
    rcases after.attempt remote number with ⟨_ | _ | _,last⟩ <;> rfl
  · rfl
  · rfl

theorem call_shown (same : sight.ShowsHost host seen) (alike : sight.ShowsCall remote other) (operation : String) (grip : Grip ω) :
    (sight.grip grip).call seen operation other = Prod.map id sight.grip (grip.call host operation remote) := by
  unfold Grip.call
  rw [same.ensure_shown]
  rcases grip.ensure host with ⟨number | _ | _,ready⟩
  · dsimp only [Prod.map,id]
    rw [attempt_shown alike]
    rcases ready.attempt remote number with ⟨_ | first | _,after⟩
    · rfl
    · exact same.secondAttempt_shown alike operation first after
    · rfl
  · rfl
  · rfl

theorem strategy_shown (same : sight.ShowsHost host seen) (grip : Grip ω) :
    (sight.grip grip).strategy seen = Prod.map id sight.grip (grip.strategy host) := by
  unfold Grip.strategy
  rw [show (sight.grip grip).site.manager.strategy = grip.site.manager.strategy from rfl]
  cases grip.site.manager.strategy with
  | some strategy => rfl
  | none =>
    dsimp only
    rw [same.call_shown same.capabilities]
    rcases grip.call host "capabilities" host.capabilities with ⟨capabilities | _ | _,after⟩
    · obtain ⟨settled,adopted⟩ := site_adopt sight after.site capabilities
      exact Prod.ext (congrArg Ending.done settled) (congrArg (Grip.mk · after.channel) adopted)
    · rfl
    · rfl

theorem listUserIds_shown (same : sight.ShowsHost host seen) (grip : Grip ω) :
    (sight.grip grip).listUserIds seen = Prod.map id sight.grip (grip.listUserIds host) := by
  unfold Grip.listUserIds
  rw [same.strategy_shown]
  rcases grip.strategy host with ⟨strategy | _ | _,after⟩
  · cases strategy with
    | primaryOnly => rfl
    | usersExcludingDying | aliveUsers =>
      dsimp only [Prod.map,id]
      rw [same.call_shown (same.listUserIds _)]
      rfl
  · rfl
  · rfl

theorem listPackages_shown (same : sight.ShowsHost host seen) (flags : UInt32) (grip : Grip ω) :
    (sight.grip grip).listPackages seen flags = Prod.map id sight.grip (grip.listPackages host flags) :=
  same.call_shown (same.listPackages flags) "list_packages" grip

theorem body_shown (same : sight.ShowsHost host seen) (body : Body α) (grip : Grip ω) :
    body.run seen (sight.grip grip) = Prod.map id sight.grip (body.run host grip) := by
  have proceed {β : Type} {next : Except Failure β → Body α}
      (ih : ∀ result grip, (next result).run seen (sight.grip grip) = Prod.map id sight.grip ((next result).run host grip))
      (first : Outcome β × Grip ω) :
      Body.proceed (fun result => (next result).run seen) (Prod.map id sight.grip first) =
        Prod.map id sight.grip (Body.proceed (fun result => (next result).run host) first) := by
    obtain ⟨_ | _ | _,after⟩ := first
    · exact ih _ after
    · exact ih _ after
    · rfl
  induction body generalizing grip with
  | finish outcome => rfl
  | strategy next ih =>
    rw [Body.run,Body.run,same.strategy_shown]
    exact proceed ih _
  | listUserIds next ih =>
    rw [Body.run,Body.run,same.listUserIds_shown]
    exact proceed ih _
  | listPackages flags next ih =>
    rw [Body.run,Body.run,same.listPackages_shown]
    exact proceed ih _

theorem acquire_shown (same : sight.ShowsHost host seen) (site : Site ω) :
    (sight.site site).acquire seen = Prod.map id sight.grip (site.acquire host) := by
  unfold Site.acquire
  rw [show Grip.mk (sight.site site) none = sight.grip ⟨site,none⟩ from rfl,same.rebind_shown]
  rfl

theorem withChannel_shown (same : sight.ShowsHost host seen) (body : Body α) (site : Site ω) :
    (sight.site site).withChannel seen body = Prod.map id sight.site (site.withChannel host body) := by
  unfold Site.withChannel
  rw [same.acquire_shown]
  rcases site.acquire host with ⟨_ | _ | _,grip⟩
  · dsimp only [Prod.map,id]
    rw [same.body_shown]
    exact Prod.ext rfl (same.drop_shown _)
  · rfl
  · rfl

end ShowsHost
end Sight
end AppGrants.Service
