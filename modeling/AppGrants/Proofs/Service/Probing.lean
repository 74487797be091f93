import AppGrants.Proofs.Service.Retrying
import AppGrants.Proofs.Service.Settling

/-! Until when the service is asked what it can do. Once that has settled the way of listing users, no later operation asks
again; but an operation in which a channel that it bound has told still makes the call for which it bound the channel. -/
namespace AppGrants

def Ending.error? {ε α : Type} : Ending ε α → Option ε
  | .failed error => some error
  | _ => none

theorem Ending.error?_map {ε α β : Type} (ending : Ending ε α) (f : α → β) : (ending.map f).error? = ending.error? := by
  cases ending <;> rfl

namespace Service
variable {ω α : Type}

/-- A call for the capabilities, as a probe or for a lease. -/
def Exchange.asks : Exchange → Bool
  | probed _ _ => true
  | tried _ trial => trial.topic = .capabilities
  | _ => false

/-- The capabilities calls that were made although it was settled how to list users. -/
def late : List Exchange → List Exchange
  | [] => []
  | exchange :: older => if exchange.asks ∧ chosen older ≠ none then exchange :: late older else late older

/-- The failure says that the capabilities were asked for twice in vain. -/
structure BlamesProbe (failure : Failure) : Prop where
  kind : failure.kind = .remoteCallFailed
  operation : failure.contextValue "operation" = some "capabilities"

def Answer.failure? : Answer → Option Failure
  | strategy outcome => outcome.error?
  | users outcome => outcome.error?
  | packages outcome => outcome.error?

/-- At most so many of the calls that were made were late, and those were no probes. -/
def Delays (count : Nat) (before made : List Exchange) : Prop :=
  ∃ extra, late (made ++ before) = extra ++ late before ∧ extra.length ≤ count ∧
    ∀ exchange ∈ extra, ∃ number ending, exchange = .tried number (.capabilities ending)

/-- What calls for one purpose ask of what the service can do, and what their failure says of it. -/
structure Inquires (before made : List Exchange) (failure? : Option Failure) : Prop where
  settled : chosen before ≠ none →
    (∀ exchange ∈ made, exchange.asks = false) ∧ ∀ failure, failure? = some failure → ¬BlamesProbe failure
  /-- The two attempts at one call may be late, when the channels that were bound for them have told. -/
  delays : Delays 2 before made
  blamed : ∀ failure, failure? = some failure → BlamesProbe failure →
    chosen (made ++ before) = none ∨ ∃ number told, .probed number (.done told) ∈ made

section
variable {before made earlier : List Exchange}

theorem late_of_unasking {exchange : Exchange} (unasking : exchange.asks = false) :
    late (exchange :: earlier) = late earlier := by
  rw [late,unasking]
  simp

theorem late_of_unsettled {exchange : Exchange} (unsettled : chosen earlier = none) :
    late (exchange :: earlier) = late earlier := by
  rw [late,unsettled]
  simp

theorem late_append_of_unasking (unasking : ∀ exchange ∈ made, exchange.asks = false) : late (made ++ before) = late before := by
  induction made with
  | nil => rfl
  | cons exchange rest ih =>
    rw [List.cons_append,late_of_unasking (unasking _ (.head _)),ih fun other member => unasking other (.tail _ member)]

theorem chosen_of_untold (untold : chosen (made ++ before) = none) : chosen before = none := by
  rw [chosen_eq_none_iff,toldFirst_append] at untold
  exact chosen_eq_none_iff.mpr (Option.or_eq_none_iff.mp untold).1

theorem late_eq_nil (unsettled : chosen earlier = none) : late earlier = [] := by
  induction earlier with
  | nil => rfl
  | cons exchange older ih =>
    have before : chosen older = none := @chosen_of_untold _ [exchange] unsettled
    rw [late_of_unsettled before,ih before]

theorem exists_told (unsettled : chosen before = none) (settled : chosen (made ++ before) ≠ none) :
    ∃ exchange ∈ made, ∃ told, exchange.told? = some told := by
  have told : toldFirst made ≠ none := by
    rintro untold
    refine settled (chosen_eq_none_iff.mpr ?_)
    rw [toldFirst_append,chosen_eq_none_iff.mp unsettled,untold,Option.or_none]
  obtain ⟨told,first⟩ := Option.ne_none_iff_exists'.mp told
  rw [toldFirst_eq] at first
  obtain ⟨exchange,member,same⟩ := List.exists_of_findSome?_eq_some first
  exact ⟨exchange,List.mem_reverse.mp member,told,same⟩

theorem chosen_bound (number : Nat) (ending : Ending Failure Unit) : chosen (.bound number ending :: earlier) = chosen earlier :=
  congrArg (Option.map Capabilities.negotiate) Option.or_none

namespace Delays
variable {count more : Nat} {later : List Exchange}

theorem of_late_eq (same : late (made ++ before) = late before) : Delays 0 before made := ⟨[],same,Nat.le_refl _,by simp⟩

theorem mono (delays : Delays count before made) (fewer : count ≤ more) : Delays more before made := by
  obtain ⟨extra,same,bound,own⟩ := delays
  exact ⟨extra,same,Nat.le_trans bound fewer,own⟩

theorem append (second : Delays more (made ++ before) later) (first : Delays count before made) :
    Delays (more + count) before (later ++ made) := by
  obtain ⟨extra,same,bound,own⟩ := first
  obtain ⟨further,again,beyond,alike⟩ := second
  refine ⟨further ++ extra,?_,?_,List.forall_mem_append.mpr ⟨alike,own⟩⟩
  · rw [List.append_assoc,again,same,List.append_assoc]
  · rw [List.length_append]
    exact Nat.add_le_add beyond bound

end Delays

/-- How many late calls one attempt may be. -/
def Query.delay : Query α → Nat
  | capabilities => 1
  | _ => 0

variable {query : Query α} {held after : Option Nat} {operation : String} {first : Option TransportError}

theorem Query.delays_tried (query : Query α) (number : Nat) (ending : Ending TransportError α) :
    Delays query.delay earlier [.tried number (query.trial ending)] := by
  cases query with
  | capabilities =>
    by_cases settled : chosen earlier = none
    · exact (Delays.of_late_eq (late_of_unsettled settled)).mono (Nat.zero_le _)
    · refine ⟨[.tried number (.capabilities ending)],if_pos ⟨?_,settled⟩,Nat.le_refl _,by simp⟩
      simp [Exchange.asks,trial,Trial.topic]
  | users | packages => exact .of_late_eq (late_of_unasking rfl)

/-- A channel that is bound is probed in time. -/
theorem Obtains.late_eq {outcome : Outcome Nat} (obtains : Obtains earlier made outcome) :
    late (made ++ earlier) = late earlier := by
  cases obtains with
  | refused | collapsed | settled => exact late_of_unasking rfl
  | probed unknown | lost unknown =>
    exact (late_of_unsettled ((chosen_bound _ _).trans unknown)).trans (late_of_unasking rfl)

theorem Obtains.unasking {outcome : Outcome Nat} (obtains : Obtains earlier made outcome) (known : chosen earlier ≠ none) :
    ∀ exchange ∈ made, exchange.asks = false := by
  cases obtains with
  | refused | collapsed | settled => simp [Exchange.asks]
  | probed unknown | lost unknown => exact absurd unknown known

theorem Reaches.late_eq {outcome : Outcome Nat} (reaches : Reaches earlier held made outcome) :
    late (made ++ earlier) = late earlier := by
  cases reaches with
  | held => rfl
  | obtained obtains => exact obtains.late_eq

theorem Reaches.unasking {outcome : Outcome Nat} (reaches : Reaches earlier held made outcome) (known : chosen earlier ≠ none) :
    ∀ exchange ∈ made, exchange.asks = false := by
  cases reaches with
  | held => simp
  | obtained obtains => exact obtains.unasking known

theorem Leads.delays {outcome : Outcome Nat} (leads : Leads query earlier held first made outcome) :
    Delays query.delay earlier made := by
  cases leads with
  | first reaches => exact (Delays.of_late_eq reaches.late_eq).mono (Nat.zero_le _)
  | @again made more stale error _ reaches obtains =>
    have tried := (query.delays_tried stale (.failed error)).append (.of_late_eq reaches.late_eq)
    have released : Delays 0 (.tried stale (query.trial (.failed error)) :: made ++ earlier) [.released stale] :=
      .of_late_eq (late_of_unasking rfl)
    have bound := (Delays.of_late_eq obtains.late_eq).append (released.append tried)
    exact bound.mono (by omega)

theorem Calls.delays {outcome : Outcome α} (calls : Calls query operation earlier held made outcome after) :
    Delays (2 * query.delay) earlier made := by
  cases calls with
  | unbound leads | lost leads => exact leads.delays.mono (by omega)
  | answered leads | failed leads | panicked leads =>
    exact ((query.delays_tried _ _).append leads.delays).mono (by omega)

theorem chosen_ne_none_grows (known : chosen earlier ≠ none) (later : List Exchange) : chosen (later ++ earlier) ≠ none :=
  fun untold => known (chosen_of_untold untold)

theorem Leads.unasking {outcome : Outcome Nat} (leads : Leads query earlier held first made outcome)
    (other : query.topic ≠ .capabilities) (known : chosen earlier ≠ none) : ∀ exchange ∈ made, exchange.asks = false := by
  cases leads with
  | first reaches => exact reaches.unasking known
  | @again made more stale error _ reaches obtains =>
    refine List.forall_mem_append.mpr ⟨obtains.unasking (chosen_ne_none_grows known (_ :: _ :: made)),?_⟩
    refine List.forall_mem_cons.mpr ⟨rfl,List.forall_mem_cons.mpr ⟨?_,reaches.unasking known⟩⟩
    simp [Exchange.asks,query.trial_topic,other]

theorem Calls.unasking {outcome : Outcome α} (calls : Calls query operation earlier held made outcome after)
    (other : query.topic ≠ .capabilities) (known : chosen earlier ≠ none) : ∀ exchange ∈ made, exchange.asks = false := by
  cases calls with
  | unbound leads | lost leads => exact leads.unasking other known
  | answered leads | failed leads | panicked leads =>
    refine List.forall_mem_cons.mpr ⟨?_,leads.unasking other known⟩
    simp [Exchange.asks,query.trial_topic,other]

/-- A call for anything else neither asks once that is settled, nor blames the probes. -/
theorem Calls.inquires {outcome : Outcome α} (calls : Calls query operation earlier held made outcome after)
    (other : query.topic ≠ .capabilities) (apart : operation ≠ "capabilities") : Inquires earlier made outcome.error? := by
  have unblaming (failure : Failure) (same : outcome.error? = some failure) : ¬BlamesProbe failure := by
    rintro ⟨kind,named⟩
    have failed : outcome = .failed failure := by
      cases outcome with
      | done | panicked => cases same
      | failed => exact congrArg _ (Option.some.inj same)
    obtain ⟨_,_,_,_,_,told,-⟩ := calls.retriesOnce.told failure failed kind
    exact apart (Option.some.inj (told.symm.trans named))
  have punctual : query.delay = 0 := by
    cases query with
    | capabilities => exact absurd rfl other
    | users | packages => rfl
  exact ⟨fun known => ⟨calls.unasking other known,unblaming⟩,calls.delays.mono (by omega),
    fun failure same blames => absurd blames (unblaming failure same)⟩

/-- The capabilities are asked for only while the strategy is open. Two attempts that failed in vain leave it open, or a new
channel has told. -/
theorem Calls.inquires_open {outcome : Outcome Capabilities}
    (calls : Calls .capabilities operation earlier held made outcome after) (unsettled : chosen earlier = none) :
    Inquires earlier made outcome.error? where
  settled known := absurd unsettled known
  delays := calls.delays
  blamed failure same blames := by
    have failed : outcome = .failed failure := by
      cases outcome with
      | done | panicked => cases same
      | failed => exact congrArg _ (Option.some.inj same)
    obtain ⟨one,two,tried⟩ := calls.retriesOnce.remote.mp ⟨failure,failed,blames.kind⟩
    refine or_iff_not_imp_left.mpr fun settled => ?_
    obtain ⟨exchange,member,told,same⟩ := exists_told unsettled settled
    cases exchange with
    | bound | released => cases same
    | probed number ending =>
      cases ending with
      | done value => exact ⟨number,value,member⟩
      | failed | panicked => cases same
    | tried number trial =>
      -- Both attempts failed, so neither told anything.
      have own : trial ∈ trials made := List.mem_filterMap.mpr ⟨_,member,rfl⟩
      rw [tried] at own
      rcases List.mem_pair.mp own with rfl | rfl <;> cases same

namespace Inquires
variable {failure? : Option Failure}

theorem quiet (unasking : chosen before ≠ none → ∀ exchange ∈ made, exchange.asks = false)
    (punctual : late (made ++ before) = late before) : Inquires before made none :=
  ⟨fun known => ⟨unasking known,by simp⟩,(Delays.of_late_eq punctual).mono (Nat.zero_le _),by simp⟩

theorem of_unasking (unasking : ∀ exchange ∈ made, exchange.asks = false) : Inquires before made none :=
  quiet (fun _ => unasking) (late_append_of_unasking unasking)

theorem following {listing : List Exchange} (listed : Inquires (made ++ before) listing failure?)
    (settling : Inquires before made none) (known : chosen (made ++ before) ≠ none) :
    Inquires before (listing ++ made) failure? where
  settled already :=
    ⟨List.forall_mem_append.mpr ⟨(listed.settled known).1,(settling.settled already).1⟩,(listed.settled known).2⟩
  delays := by
    have punctual := @late_append_of_unasking (made ++ before) _ (listed.settled known).1
    exact ((Delays.of_late_eq punctual).append settling.delays).mono (by omega)
  blamed failure same blames := absurd blames ((listed.settled known).2 failure same)

end Inquires

end
namespace Grip
variable (host : Host ω) {grip : Grip (Observed ω)}

theorem strategy_inquires (rests : grip.site.Rests) :
    let result := grip.strategy host.observed
    ∃ made, result.2.site.world.log = made ++ grip.site.world.log ∧ Inquires grip.site.world.log made result.1.error? := by
  unfold strategy
  cases settled : grip.site.manager.strategy with
  | some strategy => exact ⟨[],rfl,.of_unasking (by simp)⟩
  | none =>
    have unsettled : chosen grip.site.world.log = none := rests.settled.symm.trans settled
    have fits : Query.capabilities.Fits grip.site.world.log := fun _ _ => trivial
    obtain ⟨made,log,calls⟩ := call_calls host rests fits "capabilities"
    change (grip.call host.observed "capabilities" host.observed.capabilities).2.site.world.log = _ at log
    change Calls .capabilities _ _ _ _ (grip.call host.observed "capabilities" host.observed.capabilities).1 _ at calls
    have inquires := calls.inquires_open unsettled
    dsimp only
    rcases called : grip.call host.observed "capabilities" host.observed.capabilities with ⟨capabilities | failure | text,after⟩
    all_goals
      rw [called] at log inquires
      exact ⟨made,log,inquires⟩

theorem listPackages_inquires (rests : grip.site.Rests) (flags : UInt32) :
    let result := grip.listPackages host.observed flags
    ∃ made, result.2.site.world.log = made ++ grip.site.world.log ∧ Inquires grip.site.world.log made result.1.error? := by
  have fits : (Query.packages flags).Fits grip.site.world.log := fun _ _ => trivial
  obtain ⟨made,log,calls⟩ := call_calls host rests fits "list_packages"
  exact ⟨made,log,calls.inquires (by simp [Query.topic]) (by decide)⟩

theorem listUserIds_inquires (rests : grip.site.Rests) :
    let result := grip.listUserIds host.observed
    ∃ made, result.2.site.world.log = made ++ grip.site.world.log ∧ Inquires grip.site.world.log made result.1.error? := by
  obtain ⟨made,log,inquires⟩ := strategy_inquires host rests
  obtain ⟨_,serves,-⟩ := strategy_serves host rests
  have follows := serves.follows
  have rested : (grip.strategy host.observed).2.site.Rests := ⟨serves.knows,serves.unprobed⟩
  unfold listUserIds
  rcases asked : grip.strategy host.observed with ⟨strategy | failure | text,after⟩
  all_goals rw [asked] at log inquires follows rested
  · have settled : chosen after.site.world.log = some strategy := follows
    have fits : (Query.users strategy).Fits after.site.world.log := fun _ _ => settled
    obtain ⟨listing,listed,calls⟩ := call_calls host rested fits "list_user_ids"
    have further := calls.inquires (by simp [Query.topic]) (by decide)
    change after.site.world.log = _ at log
    rw [log] at listed further settled
    have whole := further.following inquires (by simp [settled])
    cases strategy with
    | usersExcludingDying | aliveUsers =>
      refine ⟨listing ++ made,listed.trans (List.append_assoc ..).symm,?_⟩
      dsimp only
      rw [Ending.error?_map]
      exact whole
    | primaryOnly => exact ⟨made,log,inquires⟩
  · exact ⟨made,log,inquires⟩
  · exact ⟨made,log,inquires⟩

end Grip

theorem Operation.inquires (host : Host ω) {grip : Grip (Observed ω)} (rests : grip.site.Rests) (operation : Operation) :
    let result := operation.run host.observed grip
    Inquires grip.site.world.log (grip.site.made result.2.site) result.1.failure? := by
  cases operation with
  | strategy =>
    obtain ⟨made,log,inquires⟩ := Grip.strategy_inquires host rests
    rw [← Site.made_eq log] at inquires
    exact inquires
  | listUserIds =>
    obtain ⟨made,log,inquires⟩ := Grip.listUserIds_inquires host rests
    rw [← Site.made_eq log] at inquires
    exact inquires
  | listPackages flags =>
    obtain ⟨made,log,inquires⟩ := Grip.listPackages_inquires host rests flags
    rw [← Site.made_eq log] at inquires
    exact inquires

/-- Each of the works, done one after another, inquires as it should after what was asked before. -/
def Inquiring (before : List Exchange) : List Work → Prop
  | [] => True
  | work :: older =>
    Inquires (older.flatMap Work.made ++ before) work.made (work.answer.bind Answer.failure?) ∧ Inquiring before older

section
variable {before : List Exchange} {later earlier : List Work}

theorem Inquiring.append (second : Inquiring (earlier.flatMap Work.made ++ before) later) (first : Inquiring before earlier) :
    Inquiring before (later ++ earlier) := by
  induction later with
  | nil => exact first
  | cons work rest ih =>
    refine ⟨?_,ih second.2⟩
    change Inquires ((rest ++ earlier).flatMap Work.made ++ before) _ _
    rw [List.flatMap_append,List.append_assoc]
    exact second.1

theorem Inquiring.at {work : Work} (inquiring : Inquiring before (later ++ work :: earlier)) :
    Inquires (earlier.flatMap Work.made ++ before) work.made (work.answer.bind Answer.failure?) := by
  induction later with
  | nil => exact inquiring.1
  | cons _ rest ih => exact ih inquiring.2

theorem Inquiring.unasking (inquiring : Inquiring before later) (known : chosen before ≠ none) :
    ∀ work ∈ later, (∀ exchange ∈ work.made, exchange.asks = false) ∧
      ∀ failure, work.answer.bind Answer.failure? = some failure → ¬BlamesProbe failure := by
  induction later with
  | nil => simp
  | cons work rest ih =>
    exact List.forall_mem_cons.mpr ⟨inquiring.1.settled (chosen_ne_none_grows known _),ih inquiring.2⟩

theorem Inquiring.late_le (inquiring : Inquiring [] later) : Delays 2 [] (later.flatMap Work.made) := by
  induction later with
  | nil => exact (Delays.of_late_eq rfl).mono (Nat.zero_le _)
  | cons work rest ih =>
    have delays := inquiring.1.delays
    rw [List.flatMap_cons]
    -- Either nothing was late before this work, or nothing in it is.
    by_cases known : chosen (rest.flatMap Work.made ++ []) = none
    · have punctual : Delays 0 [] (rest.flatMap Work.made) := .of_late_eq (late_eq_nil known)
      exact delays.append punctual
    · have punctual := @late_append_of_unasking (rest.flatMap Work.made ++ []) _ (inquiring.1.settled known).1
      exact ((Delays.of_late_eq punctual).append (ih inquiring.2)).mono (by omega)

end
section
variable (host : Host ω)

theorem Site.acquire_inquires {site : Site (Observed ω)} (rests : site.Rests) :
    Inquires site.world.log (site.made (site.acquire host.observed).2.site) none := by
  obtain ⟨made,log,obtains,-⟩ := Grip.rebind_binds host rests.toKnows
  have same : site.made (site.acquire host.observed).2.site = made := Site.made_eq log
  rw [same]
  exact .quiet obtains.unasking obtains.late_eq

theorem Grip.drop_inquires {grip : Grip (Observed ω)} (rests : grip.site.Rests) :
    Inquires grip.site.world.log (grip.site.made (grip.drop host.observed)) none := by
  rw [Site.made_eq (drop_goes host rests).log]
  refine .of_unasking fun exchange member => ?_
  obtain ⟨number,-,rfl⟩ := List.mem_map.mp member
  rfl

theorem Body.works_inquiring (body : Body α) {grip : Grip (Observed ω)} (rests : grip.site.Rests) :
    Inquiring grip.site.world.log (body.works host grip) := by
  -- The operation comes first, and the works that follow it begin where it ended.
  have proceed {β : Type} {next : Except Failure β → Body α} {operation : Operation} {answer : Outcome β → Answer}
      {grip : Grip (Observed ω)} {result : Outcome β × Grip (Observed ω)} (rests : grip.site.Rests)
      (ran : operation.run host.observed grip = (answer result.1,result.2))
      (ih : ∀ value grip, grip.site.Rests → Inquiring grip.site.world.log ((next value).works host grip)) :
      Inquiring grip.site.world.log
        (pursue (fun value => (next value).works host) result ++ [grip.site.work result.2.site (some (answer result.1))]) := by
    have does := operation.does host rests
    have inquires := operation.inquires host rests
    rw [ran] at does inquires
    refine .append ?_ ⟨inquires,trivial⟩
    have log : result.2.site.world.log = _ := does.log
    have rested : result.2.site.Rests := does.rests
    rw [← log]
    obtain ⟨_ | _ | _,after⟩ := result
    · exact ih _ after rested
    · exact ih _ after rested
    · trivial
  induction body generalizing grip with
  | finish outcome => trivial
  | strategy next ih => exact @proceed _ _ .strategy _ _ _ rests rfl fun value _ => ih value
  | listUserIds next ih => exact @proceed _ _ .listUserIds _ _ _ rests rfl fun value _ => ih value
  | listPackages flags next ih => exact @proceed _ _ (.listPackages flags) _ _ _ rests rfl fun value _ => ih value

theorem Site.session_inquiring {site : Site (Observed ω)} (rests : site.Rests) (body : Body α) :
    Inquiring site.world.log (site.session host body) := by
  have first := acquire_inquires host rests
  obtain ⟨acquires,-,-⟩ := acquire_does host rests
  unfold session
  rcases acquired : site.acquire host.observed with ⟨value | failure | text,grip⟩
  all_goals rw [acquired] at first acquires
  · have worked := body.works_inquiring host acquires.rests
    obtain ⟨does,-⟩ := body.run_does host acquires.rests
    have dropped := Grip.drop_inquires host does.rests
    rw [does.log,acquires.log] at dropped
    rw [acquires.log] at worked
    exact @Inquiring.append _ (_ :: body.works host grip) _ ⟨dropped,worked⟩ ⟨first,trivial⟩
  · exact ⟨first,trivial⟩
  · exact ⟨first,trivial⟩

theorem Pool.entry_inquiring {pool : Pool (Observed ω)} (rests : pool.site.Rests) (use : Use) :
    Inquiring pool.site.world.log (pool.entry host use).works := by
  unfold entry
  cases use with
  | acquire =>
    have inquires := Site.acquire_inquires host rests
    unfold acquire
    rcases acquired : pool.site.acquire host.observed with ⟨value | failure | text,grip⟩
    all_goals
      rw [acquired] at inquires
      exact ⟨inquires,trivial⟩
  | operate lease operation =>
    dsimp only
    cases pool.lease? lease with
    | none => trivial
    | some held => exact ⟨@Operation.inquires _ host ⟨pool.site,held⟩ rests operation,trivial⟩
  | drop lease =>
    dsimp only
    cases pool.lease? lease with
    | none => trivial
    | some held => exact ⟨@Grip.drop_inquires _ host ⟨pool.site,held⟩ rests,trivial⟩
  | withChannel body => exact Site.session_inquiring host rests body
  | disconnect => trivial

end
namespace Ledger
variable (host : Host ω) (world : ω)

theorem run_log (uses : List Use) : (run host world uses).log = (run host world uses).works.flatMap Work.made :=
  (run_sound host world uses).written.trans (List.flatMap_assoc ..).symm

theorem run_works_since (later uses : List Use) : ∃ since,
    (run host world (later ++ uses)).works = since ++ (run host world uses).works ∧ Inquiring (run host world uses).log since := by
  -- On the later uses: the works of each are done after the log of all those before it.
  induction later with
  | nil => exact ⟨[],rfl,trivial⟩
  | cons use rest ih =>
    obtain ⟨since,works,inquiring⟩ := ih
    have sound := run_sound host world (rest ++ uses)
    have entered := Pool.entry_inquiring host sound.rests use
    change Inquiring (run host world (rest ++ uses)).log _ at entered
    rw [run_log,works,List.flatMap_append,← run_log] at entered
    refine ⟨((run host world (rest ++ uses)).pool.entry host use).works ++ since,?_,entered.append inquiring⟩
    rw [List.append_assoc,← works]
    rfl

theorem run_inquiring (uses : List Use) : Inquiring [] (run host world uses).works := by
  obtain ⟨since,works,inquiring⟩ := run_works_since host world uses []
  rw [List.append_nil] at works
  rw [works]
  exact inquiring.append trivial

end Ledger

/-- What is asked of the service about what it can do, in any run. -/
structure Probes (host : Host ω) (world : ω) (uses : List Use) : Prop where
  /-- A settled strategy ends it for all that is begun later. -/
  ended : ∀ strategy, (Pool.run host world uses).site.manager.strategy = some strategy → ∀ later, ∃ since,
    (Ledger.run host world (later ++ uses)).works = since ++ (Ledger.run host world uses).works ∧
      ∀ work ∈ since, (∀ exchange ∈ work.made, exchange.asks = false) ∧
        ∀ failure, work.answer.bind Answer.failure? = some failure → ¬BlamesProbe failure
  inquires : ∀ later work earlier, (Ledger.run host world uses).works = later ++ work :: earlier →
    Inquires (earlier.flatMap Work.made) work.made (work.answer.bind Answer.failure?)
  /-- In the whole run at most the two attempts of one call are late. -/
  delays : (late (Ledger.run host world uses).log).length ≤ 2 ∧
    ∀ exchange ∈ late (Ledger.run host world uses).log, ∃ number ending, exchange = .tried number (.capabilities ending)

theorem Ledger.run_probes (host : Host ω) (world : ω) (uses : List Use) : Probes host world uses where
  ended strategy settled later := by
    rw [run_strategy] at settled
    obtain ⟨since,works,inquiring⟩ := run_works_since host world later uses
    exact ⟨since,works,inquiring.unasking (by simp [settled])⟩
  inquires later work earlier split := by
    have inquiring := run_inquiring host world uses
    rw [split] at inquiring
    have inquires := inquiring.at
    rwa [List.append_nil] at inquires
  delays := by
    obtain ⟨extra,same,bound,own⟩ := (run_inquiring host world uses).late_le
    rw [List.append_nil,← run_log] at same
    obtain rfl : late (run host world uses).log = extra := same.trans (List.append_nil _)
    exact ⟨bound,own⟩

/-- A service whose second probe tells, but that fails all other calls for the capabilities. -/
def lateScript : Script where
  capabilities := ⟨true,true⟩
  capabilitiesPlan := [some (.failed ⟨"first"⟩),some (.failed ⟨"second"⟩),none,some (.failed ⟨"third"⟩)]

/-- The second channel tells what the service can do, and is asked for it once more in vain: the call fails although the
strategy is settled. -/
theorem not_ended_late : ∃ failure,
    (Pool.run Script.host lateScript [.operate 0 .strategy,.acquire]).site.manager.strategy = some .usersExcludingDying ∧
      (Grip.strategy Script.host ⟨(Pool.run Script.host lateScript [.acquire]).site,some 0⟩).1 = .failed failure ∧
      BlamesProbe failure ∧ late (Ledger.run Script.host lateScript [.operate 0 .strategy,.acquire]).log =
        [.tried 1 (.capabilities (.failed ⟨"third"⟩))] :=
  ⟨Grip.remoteFailure "capabilities" ⟨"second"⟩ ⟨"third"⟩,by decide,by decide,⟨by decide,by decide⟩,by decide⟩

end Service
end AppGrants
