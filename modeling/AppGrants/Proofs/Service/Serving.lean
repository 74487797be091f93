import AppGrants.Proofs.Service.Exchanges
import AppGrants.Proofs.Service.Uses

/-! What a lease leaves behind. Each of its functions has one statement, which says of the calls that it made and of what
then holds for the channel, the counters and the settled strategy. -/
namespace AppGrants.Service
open Capabilities (negotiate)
variable {ω α : Type}

/-- The manager knows what the log tells, with an answer that it has yet to adopt. -/
structure Site.Knows (site : Site (Observed ω)) (pending : Option Capabilities) : Prop where
  binds : site.manager.stats.binds = bindings site.world.log
  releases : site.manager.stats.releases = releases site.world.log
  strategy : site.manager.strategy.or (pending.map negotiate) = chosen site.world.log
  proper : Proper site.world.log

/-- Nothing is left to adopt, and no channel to probe. -/
structure Site.Rests (site : Site (Observed ω)) : Prop extends Knows site none where
  unprobed : ∀ number, probes number site.world.log = false

namespace Site.Knows
variable {site : Site (Observed ω)}

theorem settled (knows : site.Knows none) : site.manager.strategy = chosen site.world.log := by
  have strategy := knows.strategy
  rwa [Option.map_none,Option.or_none] at strategy

/-- A call that binds or releases nothing. -/
theorem noted {exchange : Exchange} (knows : site.Knows none) (fits : exchange.Fits site.world.log)
    (binds : exchange.isBound = false) (releases : exchange.isReleased = false) (notices : Nat) (world : ω) :
    (site.hear notices (site.world.note exchange notices world)).Knows exchange.told? where
  binds := knows.binds.trans (List.countP_cons_of_neg (by simp [binds])).symm
  releases := knows.releases.trans (List.countP_cons_of_neg (by simp [releases])).symm
  strategy := by
    change site.manager.strategy.or _ = ((toldFirst site.world.log).or exchange.told?).map negotiate
    rw [Option.map_or,knows.settled]
    rfl
  proper := ⟨fits,knows.proper⟩

theorem bound (knows : site.Knows none) (notices : Nat) (world : ω) :
    Knows ⟨(site.manager.disconnected notices).bound,
      site.world.note (.bound site.manager.stats.binds (.done ())) notices world⟩ none where
  binds := by
    have grown : bindings (.bound site.manager.stats.binds (.done ()) :: site.world.log) = bindings site.world.log + 1 :=
      List.countP_cons_of_pos rfl
    exact (congrArg (· + 1) knows.binds).trans grown.symm
  releases := knows.releases.trans (List.countP_cons_of_neg (by simp [Exchange.isReleased])).symm
  strategy := knows.strategy.trans (congrArg (Option.map negotiate) Option.or_none.symm)
  proper := ⟨knows.binds,knows.proper⟩

theorem released (knows : site.Knows none) (number : Nat) (world : ω) :
    Knows ⟨site.manager.released,site.world.note (.released number) 0 world⟩ none where
  binds := knows.binds.trans (List.countP_cons_of_neg (by simp [Exchange.isBound])).symm
  releases := by
    have grown : Service.releases (.released number :: site.world.log) = Service.releases site.world.log + 1 :=
      List.countP_cons_of_pos rfl
    exact (congrArg (· + 1) knows.releases).trans grown.symm
  strategy := knows.strategy.trans (congrArg (Option.map negotiate) Option.or_none.symm)
  proper := ⟨trivial,knows.proper⟩

/-- Adopting the answer leaves nothing pending, and settles the strategy that it gives. -/
theorem adopted {capabilities : Capabilities} (knows : site.Knows (some capabilities)) :
    Knows { site with manager := (site.manager.adopt capabilities).2 } none ∧
      chosen site.world.log = some (site.manager.adopt capabilities).1 := by
  obtain ⟨binds,releases,strategy,proper⟩ := knows
  cases settled : site.manager.strategy with
  | none =>
    have same : site.manager.adopt capabilities =
        (capabilities.negotiate,{ site.manager with strategy := some capabilities.negotiate }) := by
      rw [Manager.adopt,settled]
    rw [settled] at strategy
    rw [same]
    exact ⟨⟨binds,releases,strategy,proper⟩,strategy.symm⟩
  | some chosen =>
    have same : site.manager.adopt capabilities = (chosen,site.manager) := by rw [Manager.adopt,settled]
    rw [settled] at strategy
    rw [same]
    exact ⟨⟨binds,releases,by rw [settled]; exact strategy,proper⟩,strategy.symm⟩

end Site.Knows

/-- The way of a lease from one grip to another by the calls that it made. -/
structure Goes (grip after : Grip (Observed ω)) (pending : Option Capabilities) (made : List Exchange) (again : Nat) : Prop where
  log : after.site.world.log = made ++ grip.site.world.log
  keeps : Keeps grip.channel made after.channel
  knows : after.site.Knows pending
  heard : after.site.manager.stats.disconnects + grip.site.world.notices =
    grip.site.manager.stats.disconnects + after.site.world.notices
  reconnects : after.site.manager.stats.reconnects = grip.site.manager.stats.reconnects + again

namespace Goes
variable {grip middle after : Grip (Observed ω)} {pending : Option Capabilities} {made more : List Exchange} {again further : Nat}

theorem nothing (knows : grip.site.Knows none) : Goes grip grip none [] 0 := ⟨rfl,.nothing,knows,rfl,rfl⟩

theorem trans (first : Goes grip middle none made again) (second : Goes middle after pending more further) :
    Goes grip after pending (more ++ made) (again + further) where
  log := by rw [second.log,first.log,List.append_assoc]
  keeps := first.keeps.append second.keeps
  knows := second.knows
  heard := by
    have one := first.heard
    have two := second.heard
    omega
  reconnects := by rw [second.reconnects,first.reconnects,Nat.add_assoc]

/-- A call that binds or releases nothing. -/
theorem noted {exchange : Exchange} {held : Option Nat} (knows : grip.site.Knows none) (fits : exchange.Fits grip.site.world.log)
    (takes : exchange.Takes grip.channel held) (binds : exchange.isBound = false) (releases : exchange.isReleased = false)
    (notices : Nat) (world : ω) :
    Goes grip ⟨grip.site.hear notices (grip.site.world.note exchange notices world),held⟩ exchange.told? [exchange] 0 where
  log := rfl
  keeps := .one takes
  knows := knows.noted fits binds releases notices world
  heard := by
    change _ + notices + _ = _ + (_ + notices)
    omega
  reconnects := rfl

theorem adopted {capabilities : Capabilities} (goes : Goes grip after (some capabilities) made again) :
    Goes grip ⟨{ after.site with manager := (after.site.manager.adopt capabilities).2 },after.channel⟩ none made again where
  log := goes.log
  keeps := goes.keeps
  knows := goes.knows.adopted.1
  heard := by
    rw [← goes.heard,Manager.adopt]
    split <;> rfl
  reconnects := by
    rw [← goes.reconnects,Manager.adopt]
    split <;> rfl

/-- What is let go of without a word is not written down. -/
theorem discarded {site : Site (Observed ω)} {held : Option Nat} (goes : Goes grip ⟨site,held⟩ pending made again) (host : Host ω)
    (number : Nat) : Goes grip ⟨{ site with world := host.observed.discard number site.world },held⟩ pending made again :=
  ⟨goes.log,goes.keeps,⟨goes.knows.binds,goes.knows.releases,goes.knows.strategy,goes.knows.proper⟩,goes.heard,goes.reconnects⟩

end Goes

/-- At most one channel is lost, and only in a panic. -/
def Spares (made : List Exchange) (outcome : Outcome α) : Prop := (lost made).length ≤ outcome.panics.toNat

theorem Spares.calm {made : List Exchange} {outcome : Outcome α} (spares : Spares made outcome)
    (ends : outcome.panics = false) : lost made = [] := by
  rw [Spares,ends] at spares
  exact List.length_eq_zero_iff.mp (Nat.le_zero.mp spares)

theorem Spares.after {made more : List Exchange} {outcome : Outcome α} (spares : Spares more outcome) (calm : lost made = []) :
    Spares (more ++ made) outcome := by
  rwa [Spares,lost_append,calm,List.append_nil]

/-- The lease got a channel, or tried to; nothing but that was asked. -/
structure Prepares (grip : Grip (Observed ω)) (result : Outcome Nat × Grip (Observed ω)) (made : List Exchange) (again : Nat) :
    Prop extends Goes grip result.2 none made again where
  quiet : trials made = []
  spares : Spares made result.1
  holds : ∀ number, result.1 = .done number → result.2.channel = some number
  unprobed : ∀ number, probes number result.2.site.world.log = false

theorem Prepares.failing {grip after : Grip (Observed ω)} {failure : Failure} {made : List Exchange} {again : Nat}
    (prepares : Prepares grip (.failed failure,after) made again) (told : Failure) :
    Prepares grip (.failed told,after) made again :=
  ⟨prepares.toGoes,prepares.quiet,prepares.spares,by simp,prepares.unprobed⟩

theorem Prepares.after {grip middle : Grip (Observed ω)} {result : Outcome Nat × Grip (Observed ω)} {made more : List Exchange}
    {again further : Nat} (prepares : Prepares middle result more further) (goes : Goes grip middle none made again)
    (quiet : trials made = []) (calm : lost made = []) : Prepares grip result (more ++ made) (again + further) where
  toGoes := goes.trans prepares.toGoes
  quiet := by rw [trials_append,prepares.quiet,quiet,List.append_nil]
  spares := prepares.spares.after calm
  holds := prepares.holds
  unprobed := prepares.unprobed

namespace Grip
variable (host : Host ω)

/-- The lease holds the channel that it got. -/
def holding : Outcome Nat × Site ω → Outcome Nat × Grip ω
  | (.done number,site) => (.done number,⟨site,some number⟩)
  | (.failed failure,site) => (.failed failure,⟨site,none⟩)
  | (.panicked text,site) => (.panicked text,⟨site,none⟩)

theorem rebind_eq (host : Host ω) (grip : Grip ω) : grip.rebind host = holding (grip.site.bind host) := by
  unfold rebind
  rcases grip.site.bind host with ⟨_ | _ | _,site⟩ <;> rfl

theorem probe_prepares {site : Site (Observed ω)} (knows : site.Knows none) {number : Nat} {older : List Exchange}
    (bound : site.world.log = .bound number (.done ()) :: older) :
    ∃ made, Prepares ⟨site,some number⟩ (holding (site.probe host.observed number)) made 0 := by
  have settled := knows.settled
  rw [bound,chosen,show toldFirst (.bound number (.done ()) :: older) = toldFirst older from Option.or_none] at settled
  unfold Site.probe
  cases strategy : site.manager.strategy with
  | some chosen =>
    -- Nothing is asked, and since an answer was told before, a call that comes next is no probe.
    rw [strategy] at settled
    obtain ⟨first,found,-⟩ := Option.map_eq_some_iff.mp settled.symm
    refine ⟨[],Goes.nothing knows,rfl,.refl,fun _ same => congrArg some (Ending.done.inj same),fun other => ?_⟩
    change probes other site.world.log = false
    rw [bound,probes,found]
    exact Bool.and_false _
  | none =>
    -- The observer takes this call for a probe: the channel is fresh and nothing was told.
    rw [strategy] at settled
    have fresh : probes number site.world.log = true := by
      rw [bound,probes,Option.map_eq_none_iff.mp settled.symm]
      simp
    rcases answer : host.capabilities number site.world.world with ⟨⟨ending,notices⟩,world⟩
    have asked : host.observed.capabilities number site.world =
        (⟨ending,notices⟩,site.world.note (.probed number ending) notices world) := by
      simp only [Host.observed,answer,fresh,if_true]
    rw [Option.isSome_none,if_neg Bool.false_ne_true,asked]
    have goes (held : Option Nat) (takes : (Exchange.probed number ending).Takes (some number) held) :
        Goes ⟨site,some number⟩ ⟨site.hear notices (site.world.note (.probed number ending) notices world),held⟩
          (Exchange.probed number ending).told? [.probed number ending] 0 := by
      have fits : (Exchange.probed number ending).Fits site.world.log := trivial
      exact .noted knows fits takes rfl rfl notices world
    refine ⟨[.probed number ending],?_⟩
    cases ending with
    | done capabilities =>
      exact ⟨(goes _ (.probed (by simp))).adopted,rfl,.refl,fun _ same => congrArg some (Ending.done.inj same),fun _ => rfl⟩
    | failed error =>
      exact ⟨goes _ (.probed (by simp)),rfl,.refl,fun _ same => congrArg some (Ending.done.inj same),fun _ => rfl⟩
    | panicked text =>
      exact ⟨(goes none .lost).discarded host number,rfl,.refl,by simp [holding],fun _ => rfl⟩

theorem rebind_prepares {site : Site (Observed ω)} (knows : site.Knows none) :
    ∃ made, Prepares ⟨site,none⟩ (rebind host.observed ⟨site,none⟩) made 0 := by
  rcases answer : host.bind site.manager.stats.binds site.world.world with ⟨⟨ending,notices⟩,world⟩
  have asked : host.observed.bind site.manager.stats.binds site.world =
      (⟨ending,notices⟩,site.world.note (.bound site.manager.stats.binds ending) notices world) := by
    simp only [Host.observed,answer]
  have refused (failed : ∀ value, ending ≠ .done value) :
      Goes ⟨site,none⟩ ⟨site.hear notices (site.world.note (.bound site.manager.stats.binds ending) notices world),none⟩ none
        [.bound site.manager.stats.binds ending] 0 := by
    have unbound : (Exchange.bound site.manager.stats.binds ending).isBound = false := by
      cases ending with
      | done value => exact absurd rfl (failed value)
      | failed | panicked => rfl
    have fits : (Exchange.bound site.manager.stats.binds ending).Fits site.world.log := knows.binds
    exact .noted knows fits (.refused failed) unbound rfl notices world
  rw [rebind_eq,Site.bind,asked]
  cases ending with
  | done value =>
    have goes : Goes ⟨site,none⟩
        ⟨⟨(site.manager.disconnected notices).bound,site.world.note (.bound site.manager.stats.binds (.done ())) notices world⟩,
          some site.manager.stats.binds⟩ none [.bound site.manager.stats.binds (.done ())] 0 := by
      refine ⟨rfl,.one .bound,knows.bound notices world,?_,rfl⟩
      change site.manager.stats.disconnects + notices + site.world.notices =
        site.manager.stats.disconnects + (site.world.notices + notices)
      omega
    obtain ⟨more,prepares⟩ := probe_prepares host goes.knows rfl
    exact ⟨_,prepares.after goes rfl rfl⟩
  | failed failure => exact ⟨_,refused (by simp),rfl,Nat.zero_le _,by simp [holding],fun _ => rfl⟩
  | panicked text => exact ⟨_,refused (by simp),rfl,Nat.zero_le _,by simp [holding],fun _ => rfl⟩

theorem ensure_prepares {grip : Grip (Observed ω)} (rests : grip.site.Rests) :
    ∃ made, Prepares grip (grip.ensure host.observed) made 0 := by
  obtain ⟨site,_ | number⟩ := grip
  · exact rebind_prepares host rests.toKnows
  · exact ⟨[],.nothing rests.toKnows,rfl,.refl,fun _ same => congrArg some (Ending.done.inj same),rests.unprobed⟩

theorem drop_goes {grip : Grip (Observed ω)} (rests : grip.site.Rests) :
    Goes grip ⟨grip.drop host.observed,none⟩ none (grip.channel.toList.map .released) 0 := by
  obtain ⟨site,_ | number⟩ := grip
  · exact .nothing rests.toKnows
  · have goes : Goes ⟨site,some number⟩
        ⟨⟨site.manager.released,site.world.note (.released number) 0 (host.release number site.world.world)⟩,none⟩ none
        [.released number] 0 := ⟨rfl,.one .released,rests.released number _,rfl,rfl⟩
    exact goes.discarded host number

theorem reconnect_prepares {grip : Grip (Observed ω)} (rests : grip.site.Rests) (operation : String) :
    ∃ made, Prepares grip (grip.reconnect host.observed operation) made 1 := by
  -- The old channel is released and the reconnect counted before a new channel is bound.
  obtain ⟨log,keeps,knows,heard,reconnects⟩ := drop_goes host rests
  have goes : Goes grip ⟨{ grip.drop host.observed with manager := (grip.drop host.observed).manager.reconnected },none⟩ none
      (grip.channel.toList.map .released) 1 :=
    ⟨log,keeps,⟨knows.binds,knows.releases,knows.strategy,knows.proper⟩,heard,congrArg (· + 1) reconnects⟩
  obtain ⟨made,prepares⟩ := rebind_prepares host goes.knows
  have quiet : trials (grip.channel.toList.map .released) = [] := by cases grip.channel <;> rfl
  have calm : lost (grip.channel.toList.map .released) = [] := by cases grip.channel <;> rfl
  have whole := prepares.after goes quiet calm
  refine ⟨made ++ grip.channel.toList.map .released,?_⟩
  unfold reconnect
  rcases rebound : rebind host.observed ⟨{ grip.drop host.observed with
    manager := (grip.drop host.observed).manager.reconnected },none⟩ with ⟨_ | _ | _,after⟩
  all_goals
    dsimp only
    rw [rebound] at whole ⊢
  · exact whole
  · exact whole.failing _
  · exact whole

end Grip

namespace Query

/-- The query may be made: users are asked for in the way that was told first. -/
def Fits (query : Query α) (log : List Exchange) : Prop := ∀ number ending, (Exchange.tried number (query.trial ending)).Fits log

/-- The answer that an outcome brings of what the service can do. -/
def told? (query : Query α) : Outcome α → Option Capabilities
  | .done value => (query.trial (.done value)).told?
  | _ => none

variable (query : Query α)

theorem trial_topic (ending : Ending TransportError α) : (query.trial ending).topic = query.topic := by cases query <;> rfl

theorem trial_fails (error : TransportError) : (query.trial (.failed error)).fails = true := by cases query <;> rfl

theorem trial_done (value : α) : (query.trial (.done value)).fails = false := by cases query <;> rfl

theorem trial_panicked (text : String) : (query.trial (.panicked text)).fails = false := by cases query <;> rfl

theorem told?_failed (error : TransportError) : (query.trial (.failed error)).told? = none := by cases query <;> rfl

theorem told?_panicked (text : String) : (query.trial (.panicked text)).told? = none := by cases query <;> rfl

variable {query}

theorem Fits.grows {log : List Exchange} (fits : query.Fits log) (later : List Exchange) : query.Fits (later ++ log) := by
  intro number ending
  cases query with
  | capabilities | packages => trivial
  | users strategy =>
    have settled : chosen log = some strategy := fits number ending
    exact chosen_grows settled later

theorem remote_observed (query : Query α) (host : Host ω) (number : Nat) {observed : Observed ω}
    (unprobed : probes number observed.log = false) :
    query.remote host.observed number observed =
      ((query.remote host number observed.world).1,observed.note (.tried number (query.trial
        (query.remote host number observed.world).1.ending)) (query.remote host number observed.world).1.notices
        (query.remote host number observed.world).2) := by
  cases query with
  | capabilities => simp only [remote,trial,Host.observed,unprobed,Bool.false_eq_true,if_false]
  | users | packages => rfl

end Query

/-- A call for one query: its trials, its outcome, and how often the lease connected again. -/
structure Answers (query : Query α) (grip : Grip (Observed ω)) (result : Outcome α × Grip (Observed ω)) (made : List Exchange)
    (again : Nat) : Prop extends Goes grip result.2 (query.told? result.1) made again where
  topics : ∀ trial ∈ trials made, trial.topic = query.topic
  spares : Spares made result.1
  tried : ∀ value, result.1 = .done value → query.trial (.done value) ∈ trials made
  unprobed : ∀ number, probes number result.2.site.world.log = false

section
variable {query : Query α} {grip middle final : Grip (Observed ω)} {result : Outcome α × Grip (Observed ω)}
  {made more : List Exchange} {again further : Nat}

theorem Answers.after (answers : Answers query middle result more further) (goes : Goes grip middle none made again)
    (topics : ∀ trial ∈ trials made, trial.topic = query.topic) (calm : lost made = []) :
    Answers query grip result (more ++ made) (again + further) where
  toGoes := goes.trans answers.toGoes
  topics := by
    rw [trials_append]
    exact List.forall_mem_append.mpr ⟨answers.topics,topics⟩
  spares := answers.spares.after calm
  tried value same := by
    rw [trials_append]
    exact List.mem_append_left _ (answers.tried value same)
  unprobed := answers.unprobed

theorem Prepares.stopped {ending : Outcome Nat} {outcome : Outcome α} (prepares : Prepares grip (ending,final) made again)
    (stops : ∀ value, outcome ≠ .done value) (same : ending.panics = outcome.panics) :
    Answers query grip (outcome,final) made again where
  toGoes := by
    have pending : query.told? outcome = none := by
      cases outcome with
      | done value => exact absurd rfl (stops value)
      | failed | panicked => rfl
    rw [pending]
    exact prepares.toGoes
  topics := by simp [prepares.quiet]
  spares := by
    have spares := prepares.spares
    rwa [Spares,same] at spares
  tried value done := absurd done (stops value)
  unprobed := prepares.unprobed

end

namespace Grip
variable (host : Host ω) {query : Query α} {grip after : Grip (Observed ω)}

theorem attempt_observed {number : Nat} (unprobed : probes number grip.site.world.log = false) {ending : Ending TransportError α}
    (attempted : grip.attempt (query.remote host.observed) number = (ending,after)) : ∃ notices world,
      after = ⟨grip.site.hear notices (grip.site.world.note (.tried number (query.trial ending)) notices world),grip.channel⟩ := by
  unfold attempt at attempted
  rw [query.remote_observed host number unprobed] at attempted
  obtain ⟨rfl,rfl⟩ := Prod.mk.inj attempted
  exact ⟨_,_,rfl⟩

theorem attempt_goes (rests : grip.site.Rests) {number : Nat} (holds : grip.channel = some number)
    (fits : query.Fits grip.site.world.log) {ending : Ending TransportError α}
    (attempted : grip.attempt (query.remote host.observed) number = (ending,after)) :
    Goes grip after (query.trial ending).told? [.tried number (query.trial ending)] 0 ∧
      after.channel = some number ∧ ∀ other, probes other after.site.world.log = false := by
  obtain ⟨notices,world,rfl⟩ := attempt_observed host (rests.unprobed number) attempted
  have takes : (Exchange.tried number (query.trial ending)).Takes grip.channel grip.channel := by
    rw [holds]
    exact .tried
  exact ⟨Goes.noted rests.toKnows (fits number ending) takes rfl rfl notices world,holds,fun _ => rfl⟩

/-- An attempt after which the call ends. -/
theorem attempt_answers (rests : grip.site.Rests) {number : Nat} (holds : grip.channel = some number)
    (fits : query.Fits grip.site.world.log) {ending : Ending TransportError α}
    (attempted : grip.attempt (query.remote host.observed) number = (ending,after)) {outcome : Outcome α}
    (told : (query.trial ending).told? = query.told? outcome) (done : ∀ value, outcome = .done value → ending = .done value) :
    Answers query grip (outcome,after) [.tried number (query.trial ending)] 0 := by
  obtain ⟨goes,-,unprobed⟩ := attempt_goes host rests holds fits attempted
  rw [told] at goes
  exact ⟨goes,by simp [trials,Exchange.trial?,query.trial_topic],Nat.zero_le _,
    fun value same => by simp [trials,Exchange.trial?,done value same],unprobed⟩

theorem secondAttempt_answers (rests : grip.site.Rests) (fits : query.Fits grip.site.world.log) (operation : String)
    (first : TransportError) :
    ∃ made, Answers query grip (grip.secondAttempt host.observed operation (query.remote host.observed) first) made 1 := by
  obtain ⟨made,prepares⟩ := reconnect_prepares host rests operation
  unfold secondAttempt
  rcases reconnected : grip.reconnect host.observed operation with ⟨number | failure | text,ready⟩
  all_goals rw [reconnected] at prepares
  · have rests : ready.site.Rests := ⟨prepares.knows,prepares.unprobed⟩
    have holds := prepares.holds number rfl
    have fits : query.Fits ready.site.world.log := prepares.log ▸ fits.grows made
    have whole {outcome : Outcome α} {last : Grip (Observed ω)} {more : List Exchange}
        (answers : Answers query ready (outcome,last) more 0) : ∃ made, Answers query grip (outcome,last) made 1 :=
      ⟨_,answers.after prepares.toGoes (by simp [prepares.quiet]) (prepares.spares.calm rfl)⟩
    dsimp only
    rcases attempted : ready.attempt (query.remote host.observed) number with ⟨value | second | text,last⟩
    · exact whole (attempt_answers host rests holds fits attempted rfl (by simp))
    · exact whole (attempt_answers host rests holds fits attempted (query.told?_failed second) (by simp))
    · exact whole (attempt_answers host rests holds fits attempted (query.told?_panicked text) (by simp))
  · exact ⟨_,prepares.stopped (by simp) rfl⟩
  · exact ⟨_,prepares.stopped (by simp) rfl⟩

theorem call_answers (rests : grip.site.Rests) (fits : query.Fits grip.site.world.log) (operation : String) : ∃ made,
    Answers query grip (grip.call host.observed operation (query.remote host.observed)) made (stumbles (trials made)) := by
  obtain ⟨made,prepares⟩ := ensure_prepares host rests
  have quiet := prepares.quiet
  unfold call
  rcases ensured : grip.ensure host.observed with ⟨number | failure | text,ready⟩
  all_goals rw [ensured] at prepares
  · have rests : ready.site.Rests := ⟨prepares.knows,prepares.unprobed⟩
    have holds := prepares.holds number rfl
    have fits : query.Fits ready.site.world.log := prepares.log ▸ fits.grows made
    have whole {result : Outcome α × Grip (Observed ω)} {more : List Exchange} {again : Nat}
        (answers : Answers query ready result more again) (counted : stumbles (trials more) = again) :
        ∃ made, Answers query grip result made (stumbles (trials made)) := by
      refine ⟨more ++ made,?_⟩
      rw [trials_append,quiet,List.append_nil,counted,← Nat.zero_add again]
      exact answers.after prepares.toGoes (by simp [quiet]) (prepares.spares.calm rfl)
    dsimp only
    rcases attempted : ready.attempt (query.remote host.observed) number with ⟨value | first | text,last⟩
    · exact whole (attempt_answers host rests holds fits attempted rfl (by simp))
        (by simp [trials,Exchange.trial?,stumbles,query.trial_done])
    · obtain ⟨goes,-,unprobed⟩ := attempt_goes host rests holds fits attempted
      rw [query.told?_failed] at goes
      have fits : query.Fits last.site.world.log := goes.log ▸ fits.grows _
      obtain ⟨more,answers⟩ := secondAttempt_answers host ⟨goes.knows,unprobed⟩ fits operation first
      -- Whatever the second attempt comes to, the call stumbled once.
      refine whole (answers.after goes (by simp [trials,Exchange.trial?,query.trial_topic]) rfl) ?_
      rw [trials_append]
      refine stumbles_retried (query.trial_fails first) fun trial member => ?_
      exact (answers.topics trial member).trans (query.trial_topic _).symm
    · exact whole (attempt_answers host rests holds fits attempted (query.told?_panicked text) (by simp))
        (by simp [trials,Exchange.trial?,stumbles,query.trial_panicked])
  · refine ⟨made,?_⟩
    rw [quiet]
    exact prepares.stopped (by simp) rfl
  · refine ⟨made,?_⟩
    rw [quiet]
    exact prepares.stopped (by simp) rfl

end Grip

/-- A strategy is the one that was told first. There is always a user; where none were asked for it is the primary one, and
the service told first that it cannot list them. -/
def Answer.Follows (made log : List Exchange) : Answer → Prop
  | .strategy (.done settled) => chosen log = some settled
  | .users (.done ids) => ids ≠ [] ∧
      ((∀ trial ∈ trials made, trial.topic ≠ .users) → ids = [0] ∧ toldFirst log = some ⟨false,false⟩)
  | _ => True

/-- An operation of a lease, from the calls that it made to its answer. -/
structure Serves (answer : Outcome α → Answer) (grip : Grip (Observed ω)) (result : Outcome α × Grip (Observed ω))
    (made : List Exchange) : Prop extends Goes grip result.2 none made (stumbles (trials made)) where
  spares : Spares made result.1
  follows : (answer result.1).Follows made result.2.site.world.log
  unprobed : ∀ number, probes number result.2.site.world.log = false

theorem negotiate_eq_primaryOnly {capabilities : Capabilities} (none_told : capabilities.negotiate = .primaryOnly) :
    capabilities = ⟨false,false⟩ := by
  obtain ⟨_ | _,_ | _⟩ := capabilities <;> first | rfl | cases none_told

namespace Grip
variable (host : Host ω) {grip : Grip (Observed ω)}

theorem strategy_serves (rests : grip.site.Rests) : ∃ made,
    Serves .strategy grip (grip.strategy host.observed) made ∧ ∀ trial ∈ trials made, trial.topic = .capabilities := by
  unfold strategy
  cases settled : grip.site.manager.strategy with
  | some strategy =>
    have told := rests.settled
    rw [settled] at told
    exact ⟨[],⟨.nothing rests.toKnows,Nat.zero_le _,told.symm,rests.unprobed⟩,by simp [trials]⟩
  | none =>
    have fits : Query.capabilities.Fits grip.site.world.log := fun _ _ => trivial
    obtain ⟨made,answers⟩ := call_answers host rests fits "capabilities"
    change Answers .capabilities grip (grip.call host.observed "capabilities" host.observed.capabilities) _ _ at answers
    refine ⟨made,?_,answers.topics⟩
    dsimp only
    rcases called : grip.call host.observed "capabilities" host.observed.capabilities with ⟨capabilities | failure | text,after⟩
    all_goals rw [called] at answers
    · exact ⟨answers.adopted,answers.spares,answers.knows.adopted.2,answers.unprobed⟩
    · exact ⟨answers.toGoes,answers.spares,trivial,answers.unprobed⟩
    · exact ⟨answers.toGoes,answers.spares,trivial,answers.unprobed⟩

theorem orPrimary_ne_nil (ids : List Int32) : orPrimary ids ≠ [] := by
  unfold orPrimary
  cases ids <;> simp

/-- The users are asked for after the strategy was. -/
theorem usersListed_serves {after : Grip (Observed ω)} {strategy : UserStrategy} {made more : List Exchange}
    {result : Outcome (List Int32) × Grip (Observed ω)} (serves : Serves .strategy grip (.done strategy,after) made)
    (topics : ∀ trial ∈ trials made, trial.topic = .capabilities)
    (answers : Answers (.users strategy) after result more (stumbles (trials more))) :
    Serves .users grip (result.1.map fun ids => orPrimary (ascending ids),result.2) (more ++ made) where
  toGoes := by
    -- Two calls were made, and each may have stumbled by itself.
    have apart : ∀ one ∈ trials more, ∀ other ∈ trials made, other.topic ≠ one.topic := by
      intro one asked other before
      rw [answers.topics one asked,topics other before]
      simp [Query.topic]
    have pending : (Query.users strategy).told? result.1 = none := by cases result.1 <;> rfl
    have goes := answers.toGoes
    rw [pending] at goes
    rw [trials_append,stumbles_append apart,Nat.add_comm]
    exact serves.toGoes.trans goes
  spares := by
    have spares := answers.spares.after (serves.spares.calm rfl)
    rwa [Spares,← Ending.panics_map] at spares
  follows := by
    cases answered : result.1 with
    | done ids =>
      refine ⟨orPrimary_ne_nil _,fun absent => ?_⟩
      rw [trials_append] at absent
      exact absurd rfl (absent _ (List.mem_append_left _ (answers.tried ids answered)))
    | failed | panicked => trivial
  unprobed := answers.unprobed

theorem listUserIds_serves (rests : grip.site.Rests) : ∃ made, Serves .users grip (grip.listUserIds host.observed) made := by
  obtain ⟨made,serves,topics⟩ := strategy_serves host rests
  unfold listUserIds
  rcases asked : grip.strategy host.observed with ⟨strategy | failure | text,after⟩
  all_goals rw [asked] at serves
  · have settled : chosen after.site.world.log = some strategy := serves.follows
    have fits : (Query.users strategy).Fits after.site.world.log := fun _ _ => settled
    obtain ⟨more,answers⟩ := call_answers host ⟨serves.knows,serves.unprobed⟩ fits "list_user_ids"
    have listed := usersListed_serves serves topics answers
    cases strategy with
    | usersExcludingDying | aliveUsers => exact ⟨_,listed⟩
    | primaryOnly =>
      refine ⟨made,serves.toGoes,serves.spares,⟨by simp,fun _ => ⟨rfl,?_⟩⟩,serves.unprobed⟩
      obtain ⟨first,found,same⟩ := Option.map_eq_some_iff.mp settled
      exact found.trans (congrArg some (negotiate_eq_primaryOnly same))
  · exact ⟨made,serves.toGoes,serves.spares,trivial,serves.unprobed⟩
  · exact ⟨made,serves.toGoes,serves.spares,trivial,serves.unprobed⟩

theorem listPackages_serves (rests : grip.site.Rests) (flags : UInt32) :
    ∃ made, Serves .packages grip (grip.listPackages host.observed flags) made := by
  have fits : (Query.packages flags).Fits grip.site.world.log := fun _ _ => trivial
  obtain ⟨made,goes,_,spares,_,unprobed⟩ := call_answers host rests fits "list_packages"
  refine ⟨made,?_,spares,trivial,unprobed⟩
  have pending (outcome : Outcome (List PackageMeta)) : (Query.packages flags).told? outcome = none := by cases outcome <;> rfl
  rw [pending] at goes
  exact goes

end Grip
end AppGrants.Service
