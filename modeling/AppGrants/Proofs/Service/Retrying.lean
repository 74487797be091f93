import AppGrants.Proofs.Service.Failures
import AppGrants.Proofs.Service.Ledger
import AppGrants.Service.Script

/-! How a call is tried. It is made on the channel of the lease, which is bound if there is none, and once more on a new channel
after the old one was released; a channel that cannot be bound ends it. -/
namespace AppGrants

def Ending.value? {ε α : Type} : Ending ε α → Option α
  | .done value => some value
  | _ => none

namespace Service
variable {ω α : Type}

theorem chosen_eq_none_iff {log : List Exchange} : chosen log = none ↔ toldFirst log = none := Option.map_eq_none_iff

/-- The calls that bind a channel, and what they come to. The channel is probed exactly if nothing was told earlier. -/
inductive Obtains (earlier : List Exchange) : List Exchange → Outcome Nat → Prop where
  | refused {number : Nat} {failure : Failure} :
      Obtains earlier [.bound number (.failed failure)] (.failed (Site.unavailable failure))
  | collapsed {number : Nat} {text : String} : Obtains earlier [.bound number (.panicked text)] (.panicked text)
  | settled {number : Nat} (known : chosen earlier ≠ none) : Obtains earlier [.bound number (.done ())] (.done number)
  | probed {number : Nat} {ending : Ending TransportError Capabilities} (unknown : chosen earlier = none)
      (calm : ∀ text, ending ≠ .panicked text) :
      Obtains earlier [.probed number ending,.bound number (.done ())] (.done number)
  | lost {number : Nat} {text : String} (unknown : chosen earlier = none) :
      Obtains earlier [.probed number (.panicked text),.bound number (.done ())] (.panicked text)

/-- The calls after which a lease has a channel, or has failed to get one. -/
inductive Reaches (earlier : List Exchange) : Option Nat → List Exchange → Outcome Nat → Prop where
  | held {number : Nat} : Reaches earlier (some number) [] (.done number)
  | obtained {made : List Exchange} {outcome : Outcome Nat} (obtains : Obtains earlier made outcome) :
      Reaches earlier none made outcome

/-- The calls that come before an attempt: before a second one there is the error of the first. -/
inductive Leads (query : Query α) (earlier : List Exchange) (held : Option Nat) :
    Option TransportError → List Exchange → Outcome Nat → Prop where
  | first {made : List Exchange} {outcome : Outcome Nat} (reaches : Reaches earlier held made outcome) :
      Leads query earlier held none made outcome
  | again {made more : List Exchange} {stale : Nat} {error : TransportError} {outcome : Outcome Nat}
      (reaches : Reaches earlier held made (.done stale))
      (obtains : Obtains (.released stale :: .tried stale (query.trial (.failed error)) :: made ++ earlier) more outcome) :
      Leads query earlier held (some error)
        (more ++ .released stale :: .tried stale (query.trial (.failed error)) :: made) outcome

/-- What is told of a channel that could not be bound, at first or again. -/
def refusedFailure (operation : String) : Option TransportError → Failure → Failure
  | none,failure => failure
  | some _,failure => failure.withContext "operation" operation

/-- A call with all its attempts, from what the lease held to what it holds. -/
inductive Calls (query : Query α) (operation : String) (earlier : List Exchange) (held : Option Nat) :
    List Exchange → Outcome α → Option Nat → Prop where
  | unbound {first : Option TransportError} {made : List Exchange} {failure : Failure}
      (leads : Leads query earlier held first made (.failed failure)) :
      Calls query operation earlier held made (.failed (refusedFailure operation first failure)) none
  | lost {first : Option TransportError} {made : List Exchange} {text : String}
      (leads : Leads query earlier held first made (.panicked text)) :
      Calls query operation earlier held made (.panicked text) none
  | answered {first : Option TransportError} {made : List Exchange} {number : Nat} {value : α}
      (leads : Leads query earlier held first made (.done number)) :
      Calls query operation earlier held (.tried number (query.trial (.done value)) :: made) (.done value) (some number)
  | failed {first second : TransportError} {made : List Exchange} {number : Nat}
      (leads : Leads query earlier held (some first) made (.done number)) :
      Calls query operation earlier held (.tried number (query.trial (.failed second)) :: made)
        (.failed (Grip.remoteFailure operation first second)) (some number)
  | panicked {first : Option TransportError} {made : List Exchange} {number : Nat} {text : String}
      (leads : Leads query earlier held first made (.done number)) :
      Calls query operation earlier held (.tried number (query.trial (.panicked text)) :: made) (.panicked text) (some number)

namespace Grip
variable (host : Host ω)

/-- The calls that a lease made, and that it has no channel unless it got one. -/
structure Binds (earlier : List Exchange) (result : Outcome Nat × Grip (Observed ω)) (made : List Exchange) : Prop where
  log : result.2.site.world.log = made ++ earlier
  obtains : Obtains earlier made result.1
  channel : result.2.channel = result.1.value?

theorem probe_binds {site : Site (Observed ω)} {number : Nat} {earlier : List Exchange}
    (bound : site.world.log = .bound number (.done ()) :: earlier) (settled : site.manager.strategy = chosen earlier) :
    ∃ made, Binds earlier (holding (site.probe host.observed number)) made := by
  unfold Site.probe
  rw [settled]
  cases told : chosen earlier with
  | some strategy => exact ⟨[.bound number (.done ())],bound,.settled (by simp [told]),rfl⟩
  | none =>
    have fresh : probes number site.world.log = true := by
      rw [bound,probes,chosen_eq_none_iff.mp told]
      simp
    rcases answer : host.capabilities number site.world.world with ⟨⟨ending,notices⟩,world⟩
    have asked : host.observed.capabilities number site.world =
        (⟨ending,notices⟩,site.world.note (.probed number ending) notices world) := by
      simp only [Host.observed,answer,fresh,if_true]
    have log : (site.world.note (.probed number ending) notices world).log =
        [.probed number ending,.bound number (.done ())] ++ earlier := congrArg (Exchange.probed number ending :: ·) bound
    rw [Option.isSome_none,if_neg Bool.false_ne_true,asked]
    refine ⟨[.probed number ending,.bound number (.done ())],?_⟩
    cases ending with
    | done | failed => exact ⟨log,.probed told (by simp),rfl⟩
    | panicked text => exact ⟨log,.lost told,rfl⟩

theorem rebind_binds {site : Site (Observed ω)} (knows : site.Knows none) :
    ∃ made, Binds site.world.log (rebind host.observed ⟨site,none⟩) made := by
  rcases answer : host.bind site.manager.stats.binds site.world.world with ⟨⟨ending,notices⟩,world⟩
  have asked : host.observed.bind site.manager.stats.binds site.world =
      (⟨ending,notices⟩,site.world.note (.bound site.manager.stats.binds ending) notices world) := by
    simp only [Host.observed,answer]
  rw [rebind_eq,Site.bind,asked]
  cases ending with
  | done value => exact probe_binds host rfl knows.settled
  | failed failure => exact ⟨_,rfl,.refused,rfl⟩
  | panicked text => exact ⟨_,rfl,.collapsed,rfl⟩

variable {query : Query α}

theorem ensure_reaches {grip : Grip (Observed ω)} (rests : grip.site.Rests) :
    ∃ made, (grip.ensure host.observed).2.site.world.log = made ++ grip.site.world.log ∧
      Reaches grip.site.world.log grip.channel made (grip.ensure host.observed).1 ∧
      (grip.ensure host.observed).2.channel = (grip.ensure host.observed).1.value? := by
  obtain ⟨site,_ | number⟩ := grip
  · obtain ⟨made,log,obtains,channel⟩ := rebind_binds host rests.toKnows
    exact ⟨made,log,.obtained obtains,channel⟩
  · exact ⟨[],rfl,.held,rfl⟩

theorem secondAttempt_calls {site : Site (Observed ω)} (rests : site.Rests) {earlier made : List Exchange} {held : Option Nat}
    {number : Nat} {first : TransportError} (reaches : Reaches earlier held made (.done number))
    (failed : site.world.log = .tried number (query.trial (.failed first)) :: made ++ earlier) (operation : String) :
    let result := secondAttempt host.observed operation (query.remote host.observed) first ⟨site,some number⟩
    ∃ more, result.2.site.world.log = more ++ earlier ∧ Calls query operation earlier held more result.1 result.2.channel := by
  have dropped := @drop_goes _ host ⟨site,some number⟩ rests
  have knows : Site.Knows { drop host.observed ⟨site,some number⟩ with
      manager := (drop host.observed ⟨site,some number⟩).manager.reconnected } none :=
    ⟨dropped.knows.binds,dropped.knows.releases,dropped.knows.strategy,dropped.knows.proper⟩
  obtain ⟨more,log,obtains,channel⟩ := rebind_binds host knows
  obtain ⟨_,prepares⟩ := @reconnect_prepares _ host ⟨site,some number⟩ rests operation
  have unprobed := prepares.unprobed
  change _ = more ++ .released number :: site.world.log at log
  change Obtains (.released number :: site.world.log) _ _ at obtains
  rw [failed] at log obtains
  replace log := log.trans (List.append_assoc more (_ :: _ :: made) earlier).symm
  unfold secondAttempt
  unfold reconnect at unprobed ⊢
  dsimp only at unprobed ⊢
  rcases rebound : rebind host.observed _ with ⟨fresh | failure | text,⟨site,_⟩⟩
  all_goals rw [rebound] at log obtains channel unprobed
  · obtain rfl : _ = some fresh := channel
    dsimp only
    rcases attempted : attempt (query.remote host.observed) fresh ⟨site,some fresh⟩ with ⟨value | second | text,last⟩
    all_goals
      obtain ⟨notices,world,rfl⟩ := attempt_observed host (unprobed fresh) attempted
      refine ⟨_ :: _,congrArg (_ :: ·) log,?_⟩
    · exact .answered (.again reaches obtains)
    · exact .failed (.again reaches obtains)
    · exact .panicked (.again reaches obtains)
  · obtain rfl : _ = none := channel
    exact ⟨_,log,.unbound (.again reaches obtains)⟩
  · obtain rfl : _ = none := channel
    exact ⟨_,log,.lost (.again reaches obtains)⟩

theorem call_calls {grip : Grip (Observed ω)} (rests : grip.site.Rests) (fits : query.Fits grip.site.world.log)
    (operation : String) :
    let result := grip.call host.observed operation (query.remote host.observed)
    ∃ made, result.2.site.world.log = made ++ grip.site.world.log ∧
      Calls query operation grip.site.world.log grip.channel made result.1 result.2.channel := by
  obtain ⟨made,log,reaches,channel⟩ := ensure_reaches host rests
  obtain ⟨_,prepares⟩ := ensure_prepares host rests
  have rested : (grip.ensure host.observed).2.site.Rests := ⟨prepares.knows,prepares.unprobed⟩
  unfold call
  rcases ensured : grip.ensure host.observed with ⟨number | failure | text,⟨site,held⟩⟩
  all_goals rw [ensured] at log reaches channel rested
  · obtain rfl : held = some number := channel
    replace log : site.world.log = made ++ grip.site.world.log := log
    have fits : query.Fits site.world.log := log ▸ fits.grows made
    dsimp only
    rcases attempted : attempt (query.remote host.observed) number ⟨site,some number⟩ with ⟨value | first | text,last⟩
    · obtain ⟨notices,world,rfl⟩ := attempt_observed host (rested.unprobed number) attempted
      exact ⟨_ :: made,congrArg (_ :: ·) log,.answered (.first reaches)⟩
    · -- The failed attempt leaves the lease with its channel, which the second one releases.
      obtain ⟨goes,-,unprobed⟩ := attempt_goes host rested rfl fits attempted
      rw [query.told?_failed] at goes
      obtain ⟨notices,world,rfl⟩ := attempt_observed host (rested.unprobed number) attempted
      exact secondAttempt_calls host ⟨goes.knows,unprobed⟩ reaches (congrArg (_ :: ·) log) operation
    · obtain ⟨notices,world,rfl⟩ := attempt_observed host (rested.unprobed number) attempted
      exact ⟨_ :: made,congrArg (_ :: ·) log,.panicked (.first reaches)⟩
  · obtain rfl : held = none := channel
    exact ⟨made,log,.unbound (.first reaches)⟩
  · obtain rfl : held = none := channel
    exact ⟨made,log,.lost (.first reaches)⟩

end Grip

def Trial.panics : Trial → Bool
  | capabilities ending => ending.panics
  | users _ ending => ending.panics
  | packages _ ending => ending.panics

def Exchange.panics : Exchange → Bool
  | bound _ ending => ending.panics
  | probed _ ending => ending.panics
  | tried _ trial => trial.panics
  | released _ => false

/-- The attempts at one query: a second one comes after a failed first one whose channel was released, and on a channel that was
bound since. -/
structure AttemptsTwice (query : Query α) (made : List Exchange) : Prop where
  own : ∀ trial ∈ trials made, ∃ ending, trial = query.trial ending
  twice : (trials made).length ≤ 2
  second : ∀ again first, trials made = [again,first] → ∃ fresh stale between older error,
    made = .tried fresh again :: between ++ .released stale :: .tried stale (query.trial (.failed error)) :: older ∧
      first = query.trial (.failed error) ∧ .bound fresh (.done ()) ∈ between

/-- What a call for one query does at most, and what its outcome says of that. -/
structure RetriesOnce (query : Query α) (operation : String) (made : List Exchange) (outcome : Outcome α) (after : Option Nat) :
    Prop extends AttemptsTwice query made where
  done : ∀ value, outcome = .done value ↔ query.trial (.done value) ∈ trials made
  remote : (∃ failure, outcome = .failed failure ∧ failure.kind = .remoteCallFailed) ↔
    ∃ first second, trials made = [query.trial (.failed second),query.trial (.failed first)]
  told : ∀ failure, outcome = .failed failure → failure.kind = .remoteCallFailed → ∃ first second number older,
    trials made = [query.trial (.failed second),query.trial (.failed first)] ∧
      failure.contextValue "operation" = some operation ∧ failure.causes = [first.line,second.line] ∧
      made = .tried number (query.trial (.failed second)) :: older ∧ after = some number
  /-- Any other failure is that of a channel that could not be bound, at first or again. -/
  refused : ∀ failure, outcome = .failed failure → failure.kind ≠ .remoteCallFailed →
    failure.kind = .serviceUnavailable ∧ after = none ∧ ∃ number refusal older, made = .bound number (.failed refusal) :: older ∧
      failure.causes = refusal.causes ∧ refusal.context <+: failure.context ∧
      (older = [] ∨ ∃ stale error earlier,
        older = .released stale :: .tried stale (query.trial (.failed error)) :: earlier ∧ trials earlier = [])
  panics : outcome.panics → ∃ exchange ∈ made, exchange.panics

theorem Query.trial_injective (query : Query α) : Function.Injective query.trial := by
  intro one other same
  cases query <;> simpa [trial] using same

theorem Query.trial_panics (query : Query α) (ending : Ending TransportError α) : (query.trial ending).panics = ending.panics := by
  cases query <;> rfl

theorem Site.unavailable_causes (failure : Failure) : (unavailable failure).causes = failure.causes := by
  unfold unavailable
  split <;> rfl

theorem Site.unavailable_context (failure : Failure) : (unavailable failure).context = failure.context := by
  unfold unavailable
  split <;> rfl

theorem refusedFailure_kind (operation : String) (first : Option TransportError) (failure : Failure) :
    (refusedFailure operation first failure).kind = failure.kind := by
  cases first <;> rfl

theorem refusedFailure_causes (operation : String) (first : Option TransportError) (failure : Failure) :
    (refusedFailure operation first failure).causes = failure.causes := by
  cases first <;> rfl

theorem refusedFailure_context (operation : String) (first : Option TransportError) (failure : Failure) :
    failure.context <+: (refusedFailure operation first failure).context := by
  cases first with
  | none => exact List.prefix_rfl
  | some error => exact List.prefix_append _ _

section
variable {query : Query α} {operation : String} {earlier made : List Exchange} {held after : Option Nat}
  {first : Option TransportError}

theorem trials_tried (number : Nat) (trial : Trial) : trials (.tried number trial :: made) = trial :: trials made := rfl

theorem Obtains.trials_eq {outcome : Outcome Nat} (obtains : Obtains earlier made outcome) : trials made = [] := by
  cases obtains <;> rfl

theorem Obtains.bound {number : Nat} (obtains : Obtains earlier made (.done number)) : .bound number (.done ()) ∈ made := by
  cases obtains <;> simp

theorem Obtains.refusal {failure : Failure} (obtains : Obtains earlier made (.failed failure)) :
    ∃ number refusal, made = [.bound number (.failed refusal)] ∧ failure = Site.unavailable refusal := by
  cases obtains
  exact ⟨_,_,rfl,rfl⟩

theorem Obtains.panics {text : String} (obtains : Obtains earlier made (.panicked text)) :
    ∃ exchange ∈ made, exchange.panics := by
  cases obtains <;> exact ⟨_,.head _,rfl⟩

theorem Reaches.trials_eq {outcome : Outcome Nat} (reaches : Reaches earlier held made outcome) : trials made = [] := by
  cases reaches with
  | held => rfl
  | obtained obtains => exact obtains.trials_eq

namespace Leads

theorem trials_eq {outcome : Outcome Nat} (leads : Leads query earlier held first made outcome) :
    trials made = first.toList.map fun error => query.trial (.failed error) := by
  cases leads with
  | first reaches => exact reaches.trials_eq
  | again reaches obtains =>
    rw [trials_append,obtains.trials_eq]
    exact congrArg (_ :: ·) reaches.trials_eq

theorem refusal {failure : Failure} (leads : Leads query earlier held first made (.failed failure)) :
    ∃ number refusal older, made = .bound number (.failed refusal) :: older ∧ failure = Site.unavailable refusal ∧
      (older = [] ∨ ∃ stale error earlier,
        older = .released stale :: .tried stale (query.trial (.failed error)) :: earlier ∧ trials earlier = []) := by
  cases leads with
  | first reaches =>
    cases reaches with
    | obtained obtains =>
      obtain ⟨number,refusal,rfl,same⟩ := obtains.refusal
      exact ⟨number,refusal,[],rfl,same,.inl rfl⟩
  | again reaches obtains =>
    obtain ⟨number,refusal,rfl,same⟩ := obtains.refusal
    exact ⟨number,refusal,_,rfl,same,.inr ⟨_,_,_,rfl,reaches.trials_eq⟩⟩

theorem panics {text : String} (leads : Leads query earlier held first made (.panicked text)) :
    ∃ exchange ∈ made, exchange.panics := by
  cases leads with
  | first reaches =>
    cases reaches with
    | obtained obtains => exact obtains.panics
  | again reaches obtains =>
    obtain ⟨exchange,member,panics⟩ := obtains.panics
    exact ⟨exchange,List.mem_append_left _ member,panics⟩

theorem attemptsTwice {outcome : Outcome Nat} (leads : Leads query earlier held first made outcome) :
    AttemptsTwice query made where
  own := by
    rw [leads.trials_eq]
    cases first <;> simp
  twice := by
    rw [leads.trials_eq]
    cases first <;> simp
  second := by
    rw [leads.trials_eq]
    cases first <;> simp

theorem attempted {number : Nat} (leads : Leads query earlier held first made (.done number)) (ending : Ending TransportError α) :
    AttemptsTwice query (.tried number (query.trial ending) :: made) where
  own := by
    rw [trials_tried,leads.trials_eq]
    cases first <;> simp
  twice := by
    rw [trials_tried,leads.trials_eq]
    cases first <;> simp
  second again other same := by
    cases leads with
    | first reaches =>
      rw [trials_tried,reaches.trials_eq] at same
      simp at same
    | again reaches obtains =>
      rw [trials_tried,trials_append,obtains.trials_eq] at same
      obtain ⟨rfl,rest⟩ := List.cons.inj same
      obtain ⟨rfl,-⟩ := List.cons.inj rest
      exact ⟨_,_,_,_,_,rfl,rfl,obtains.bound⟩

end Leads

theorem TransportError.line_not_blank (error : TransportError) : Text.isBlankText error.line = false := by
  change ("transport error: " ++ error.message).toList.all _ = false
  rw [String.toList_append,List.all_append]
  exact Bool.and_eq_false_imp.mpr fun blank => absurd blank (by decide)

theorem Grip.remoteFailure_causes (operation : String) (first second : TransportError) :
    (remoteFailure operation first second).causes = [first.line,second.line] := by
  have chain : Failure.collect [second.line] = [second.line] := by simp [Failure.collect,second.line_not_blank]
  have seen : [first.line].filter (!Text.isBlankText ·) = [first.line] := by simp [first.line_not_blank]
  rw [remoteFailure,Failure.withSource_eq,Failure.withCause_eq,chain,seen]
  rfl

theorem Grip.remoteFailure_contextValue (operation : String) (first second : TransportError) :
    (remoteFailure operation first second).contextValue "operation" = some operation := by
  rw [remoteFailure,Failure.withSource_eq,Failure.withCause_eq,Failure.contextValue,List.lookup_append]
  rfl

theorem Calls.retriesOnce {outcome : Outcome α} (calls : Calls query operation earlier held made outcome after) :
    RetriesOnce query operation made outcome after := by
  -- In each case the attempts are those that led to its last call, and that call if it is one.
  cases calls with
  | @unbound first _ _ leads =>
    have tried := leads.trials_eq
    obtain ⟨number,refusal,older,rfl,rfl,origin⟩ := leads.refusal
    exact { leads.attemptsTwice with
      done := by
        rw [tried]
        simp [query.trial_injective.eq_iff]
      remote := by
        rw [tried]
        cases first <;> simp [refusedFailure_kind,Site.unavailable_kind]
      told := by simp [refusedFailure_kind,Site.unavailable_kind]
      refused := by
        rintro _ ⟨⟩ -
        refine ⟨(refusedFailure_kind ..).trans (Site.unavailable_kind _),rfl,number,refusal,older,rfl,?_,?_,origin⟩
        · exact (refusedFailure_causes ..).trans (Site.unavailable_causes _)
        · have kept := refusedFailure_context operation first (Site.unavailable refusal)
          rwa [Site.unavailable_context] at kept
      panics := by simp [Ending.panics] }
  | @lost first _ _ leads =>
    have tried := leads.trials_eq
    exact { leads.attemptsTwice with
      done := by
        rw [tried]
        simp [query.trial_injective.eq_iff]
      remote := by
        rw [tried]
        cases first <;> simp
      told := by simp
      refused := by simp
      panics := fun _ => leads.panics }
  | @answered first _ number value leads =>
    have tried := leads.trials_eq
    exact { leads.attempted (.done value) with
      done := by
        rw [trials_tried,tried]
        simp [query.trial_injective.eq_iff,eq_comm]
      remote := by
        rw [trials_tried,tried]
        cases first <;> simp [query.trial_injective.eq_iff]
      told := by simp
      refused := by simp
      panics := by simp [Ending.panics] }
  | @failed first second older number leads =>
    have tried := leads.trials_eq
    exact { leads.attempted (.failed second) with
      done := by
        rw [trials_tried,tried]
        simp [query.trial_injective.eq_iff]
      remote := by
        rw [trials_tried,tried]
        exact iff_of_true ⟨_,rfl,Grip.remoteFailure_kind ..⟩ ⟨first,second,rfl⟩
      told := by
        rintro _ ⟨⟩ -
        refine ⟨first,second,number,older,?_,Grip.remoteFailure_contextValue ..,Grip.remoteFailure_causes ..,rfl,rfl⟩
        rw [trials_tried,tried]
        rfl
      refused := by
        rintro _ ⟨⟩ other
        exact absurd (Grip.remoteFailure_kind ..) other
      panics := by simp [Ending.panics] }
  | @panicked first _ number text leads =>
    have tried := leads.trials_eq
    exact { leads.attempted (.panicked text) with
      done := by
        rw [trials_tried,tried]
        simp [query.trial_injective.eq_iff]
      remote := by
        rw [trials_tried,tried]
        cases first <;> simp [query.trial_injective.eq_iff]
      told := by simp
      refused := by simp
      panics := fun _ => ⟨_,.head _,query.trial_panics _⟩ }

end
namespace Grip
variable (host : Host ω) {grip : Grip (Observed ω)}

theorem listPackages_retries (rests : grip.site.Rests) (flags : UInt32) :
    let result := grip.listPackages host.observed flags
    ∃ made, result.2.site.world.log = made ++ grip.site.world.log ∧
      RetriesOnce (.packages flags) "list_packages" made result.1 result.2.channel := by
  have fits : (Query.packages flags).Fits grip.site.world.log := fun _ _ => trivial
  obtain ⟨made,log,calls⟩ := call_calls host rests fits "list_packages"
  exact ⟨made,log,calls.retriesOnce⟩

/-- The users are listed by a call of their own, after the strategy was asked for. -/
theorem listUserIds_eq {grip : Grip ω} {strategy : UserStrategy} (asked : (grip.strategy host).1 = .done strategy)
    (lists : strategy ≠ .primaryOnly) :
    grip.listUserIds host = Prod.map (fun outcome => outcome.map fun ids => orPrimary (ascending ids)) id
      ((grip.strategy host).2.call host "list_user_ids" ((Query.users strategy).remote host)) := by
  unfold listUserIds
  rcases settled : grip.strategy host with ⟨told | failure | text,after⟩
  all_goals rw [settled] at asked
  · cases asked
    cases strategy with
    | usersExcludingDying | aliveUsers => rfl
    | primaryOnly => exact absurd rfl lists
  · cases asked
  · cases asked

theorem listUserIds_retries (rests : grip.site.Rests) {strategy : UserStrategy}
    (asked : (grip.strategy host.observed).1 = .done strategy) (lists : strategy ≠ .primaryOnly) :
    let result := grip.listUserIds host.observed
    ∃ listing settling outcome, result.2.site.world.log = listing ++ settling ++ grip.site.world.log ∧
      (∀ trial ∈ trials settling, trial.topic = .capabilities) ∧
      RetriesOnce (.users strategy) "list_user_ids" listing outcome result.2.channel ∧
      result.1 = outcome.map fun ids => orPrimary (ascending ids) := by
  obtain ⟨settling,serves,topics⟩ := strategy_serves host rests
  have follows := serves.follows
  rw [asked] at follows
  have fits : (Query.users strategy).Fits (grip.strategy host.observed).2.site.world.log := fun _ _ => follows
  obtain ⟨listing,log,calls⟩ := call_calls host ⟨serves.knows,serves.unprobed⟩ fits "list_user_ids"
  rw [serves.log,← List.append_assoc] at log
  rw [listUserIds_eq host.observed asked lists]
  exact ⟨listing,settling,_,log,topics,calls.retriesOnce,rfl⟩

end Grip

theorem Pool.operate_channel (host : Host ω) {pool : Pool ω} {lease : Nat} {held : Option Nat}
    (holds : pool.lease? lease = some held) (operation : Operation) :
    (pool.operate host lease operation).channel? lease = (operation.run host ⟨pool.site,held⟩).2.channel := by
  obtain ⟨inside,-⟩ := List.getElem?_eq_some_iff.mp (lease?_eq_some holds)
  rw [operate_eq,holds]
  simp [channel?,lease?,inside]

theorem Pool.entry_made (host : Host ω) {pool : Pool (Observed ω)} {lease : Nat} {held : Option Nat}
    (holds : pool.lease? lease = some held) (operation : Operation) {made : List Exchange}
    (log : (operation.run host.observed ⟨pool.site,held⟩).2.site.world.log = made ++ pool.site.world.log) :
    (pool.entry host (.operate lease operation)).made = made := by
  rw [entry,holds]
  simp [Entry.made,Site.work,Site.made_eq log]

/-- How a lease of a pool tries its calls after any uses, with what it holds before. -/
structure LeaseTries (host : Host ω) (world : ω) (uses : List Use) (lease : Nat) (held : Option Nat) : Prop where
  packages : ∀ flags, RetriesOnce (.packages flags) "list_packages"
    ((Ledger.run host world uses).pool.entry host (.operate lease (.listPackages flags))).made
    (Grip.listPackages host flags ⟨(Pool.run host world uses).site,held⟩).1
    ((Pool.run host world (.operate lease (.listPackages flags) :: uses)).channel? lease)
  /-- Users are listed by a call of its own, once it is settled how. -/
  users : ∀ strategy, (Grip.strategy host ⟨(Pool.run host world uses).site,held⟩).1 = .done strategy → strategy ≠ .primaryOnly →
    ∃ listing settling outcome,
      ((Ledger.run host world uses).pool.entry host (.operate lease .listUserIds)).made = listing ++ settling ∧
      (∀ trial ∈ trials settling, trial.topic = .capabilities) ∧
      RetriesOnce (.users strategy) "list_user_ids" listing outcome
        ((Pool.run host world (.operate lease .listUserIds :: uses)).channel? lease) ∧
      (Grip.listUserIds host ⟨(Pool.run host world uses).site,held⟩).1 = outcome.map fun ids => Grip.orPrimary (ascending ids)
  /-- No channel is kept that was released. -/
  unreleased : ∀ operation number, (Pool.run host world (.operate lease operation :: uses)).channel? lease = some number →
    releasesOf number (Ledger.run host world (.operate lease operation :: uses)).log = 0

theorem Pool.mem_held {pool : Pool ω} {lease number : Nat} (holds : pool.channel? lease = some number) : number ∈ pool.held := by
  rw [channel?,Option.join_eq_some_iff] at holds
  exact List.mem_filterMap.mpr ⟨_,List.mem_of_getElem? (lease?_eq_some holds),rfl⟩

theorem Ledger.Sound.unreleased {uses : List Use} {ledger : Ledger ω} (sound : Sound uses ledger) {lease number : Nat}
    (holds : ledger.pool.channel? lease = some number) : releasesOf number ledger.log = 0 := by
  have alive : number ∈ live ledger.log := sound.alive.mem_iff.mpr (List.mem_append_left _ (Pool.mem_held holds))
  have bound := lt_bindings_of_mem_live sound.rests.proper sound.lawful alive
  exact (releasesOf_eq sound.rests.proper sound.lawful bound).trans (if_pos alive)

/-- Whatever was done before, a lease tries its calls as it should. -/
theorem Ledger.run_retries_once (host : Host ω) (world : ω) (uses : List Use) {lease : Nat} {held : Option Nat}
    (holds : (Pool.run host world uses).lease? lease = some held) : LeaseTries host world uses lease held := by
  have sound := run_sound host world uses
  have shown := host.observed_shows
  have seen := run_pool host world uses
  rw [← seen] at holds
  have after (operation : Operation) :
      (Pool.run host world (.operate lease operation :: uses)).channel? lease =
        (operation.run host (Observed.sight.grip ⟨(run host world uses).pool.site,held⟩)).2.channel := by
    rw [Pool.run,← seen]
    exact Pool.operate_channel host holds operation
  constructor
  · intro flags
    obtain ⟨made,log,retries⟩ := @Grip.listPackages_retries _ host ⟨(run host world uses).pool.site,held⟩ sound.rests flags
    rw [after,Pool.entry_made host holds (.listPackages flags) log,← seen]
    change RetriesOnce _ _ _ (Grip.listPackages host flags (Observed.sight.grip ⟨(run host world uses).pool.site,held⟩)).1
      (Grip.listPackages host flags (Observed.sight.grip ⟨(run host world uses).pool.site,held⟩)).2.channel
    rw [shown.listPackages_shown]
    exact retries
  · intro strategy asked lists
    rw [← seen] at asked
    change (Grip.strategy host (Observed.sight.grip ⟨(run host world uses).pool.site,held⟩)).1 = _ at asked
    rw [shown.strategy_shown] at asked
    obtain ⟨listing,settling,outcome,log,topics,retries,result⟩ :=
      @Grip.listUserIds_retries _ host ⟨(run host world uses).pool.site,held⟩ sound.rests _ asked lists
    refine ⟨listing,settling,outcome,Pool.entry_made host holds .listUserIds log,topics,?_⟩
    rw [after,← seen]
    change RetriesOnce _ _ _ _ (Grip.listUserIds host (Observed.sight.grip ⟨(run host world uses).pool.site,held⟩)).2.channel ∧
      (Grip.listUserIds host (Observed.sight.grip ⟨(run host world uses).pool.site,held⟩)).1 = _
    rw [shown.listUserIds_shown]
    exact ⟨retries,result⟩
  · intro operation number kept
    rw [← run_pool] at kept
    exact (run_sound host world (.operate lease operation :: uses)).unreleased kept

/-- A service that fails a call and then refuses to be bound again, so that a lease is left without a channel. -/
def refusingScript : Script where
  bindPlan := [none,some (.failed (.new "denied" "no permission"))]
  packagesPlan := [some (.failed ⟨"broken pipe"⟩)]

theorem run_retries_once_refused :
    (Pool.run Script.host refusingScript [.operate 0 (.listPackages 0),.acquire]).lease? 0 = some none ∧
      LeaseTries Script.host refusingScript [.operate 0 (.listPackages 0),.acquire] 0 none :=
  have holds : (Pool.run Script.host refusingScript [.operate 0 (.listPackages 0),.acquire]).lease? 0 = some none := by decide
  ⟨holds,Ledger.run_retries_once Script.host refusingScript _ holds⟩

end Service
end AppGrants
