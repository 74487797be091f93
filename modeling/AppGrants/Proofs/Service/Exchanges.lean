import AppGrants.Service.Pool
import Mathlib.Data.List.Perm.Basic
import Mathlib.Data.List.Nodup

/-! What the service is asked and answers. An observer writes down each call on a channel, the latest first; from what was
written follows which channels are live, which are lost, and what was told first. -/
namespace AppGrants

def Ending.panics {ε α : Type} : Ending ε α → Bool
  | .panicked _ => true
  | _ => false

theorem Ending.panics_map {ε α β : Type} (ending : Ending ε α) (f : α → β) : (ending.map f).panics = ending.panics := by
  cases ending <;> rfl

namespace Service

/-- What a lease asks of the service. -/
inductive Query : Type → Type where
  | capabilities : Query Capabilities
  | users (strategy : UserStrategy) : Query (List Int32)
  | packages (flags : UInt32) : Query (List PackageMeta)

inductive Topic where
  | capabilities
  | users
  | packages
deriving DecidableEq

/-- A query that was made, with its end. -/
inductive Trial where
  | capabilities (ending : Ending TransportError Capabilities)
  | users (strategy : UserStrategy) (ending : Ending TransportError (List Int32))
  | packages (flags : UInt32) (ending : Ending TransportError (List PackageMeta))
deriving DecidableEq

namespace Trial

def topic : Trial → Topic
  | capabilities _ => .capabilities
  | users _ _ => .users
  | packages _ _ => .packages

def fails : Trial → Bool
  | capabilities (.failed _) | users _ (.failed _) | packages _ (.failed _) => true
  | _ => false

def told? : Trial → Option Capabilities
  | capabilities (.done told) => some told
  | _ => none

end Trial

namespace Query
variable {ω α : Type}

def remote (host : Host ω) : Query α → Remote ω α
  | capabilities => host.capabilities
  | users strategy => fun number => host.listUserIds number strategy
  | packages flags => fun number => host.listPackages number flags

def trial : Query α → Ending TransportError α → Trial
  | capabilities => .capabilities
  | users strategy => .users strategy
  | packages flags => .packages flags

def topic : Query α → Topic
  | capabilities => .capabilities
  | users _ => .users
  | packages _ => .packages

end Query

/-- What was asked on which channel. A channel is probed that is asked for its capabilities right after it was bound, while
none have been told. -/
inductive Exchange where
  | bound (number : Nat) (ending : Ending Failure Unit)
  | probed (number : Nat) (ending : Ending TransportError Capabilities)
  | tried (number : Nat) (trial : Trial)
  | released (number : Nat)
deriving DecidableEq

namespace Exchange

def isBound : Exchange → Bool
  | bound _ (.done _) => true
  | _ => false

def isReleased : Exchange → Bool
  | released _ => true
  | _ => false

def releases (number : Nat) : Exchange → Bool
  | released other => other == number
  | _ => false

/-- The channel that is called. -/
def on? : Exchange → Option Nat
  | bound _ _ => none
  | probed number _ | tried number _ | released number => some number

def trial? : Exchange → Option Trial
  | tried _ trial => some trial
  | _ => none

/-- The channel that is let go of without a release, since it panicked when it was probed. -/
def lost? : Exchange → Option Nat
  | probed number (.panicked _) => some number
  | _ => none

def told? : Exchange → Option Capabilities
  | probed _ (.done capabilities) => some capabilities
  | tried _ trial => trial.told?
  | _ => none

end Exchange

/-- The capabilities that were told first. -/
def toldFirst : List Exchange → Option Capabilities
  | [] => none
  | exchange :: older => (toldFirst older).or exchange.told?

/-- The way of listing users that follows from it. -/
def chosen (log : List Exchange) : Option UserStrategy := (toldFirst log).map Capabilities.negotiate

def bindings (log : List Exchange) : Nat := log.countP Exchange.isBound

def releases (log : List Exchange) : Nat := log.countP Exchange.isReleased

def releasesOf (number : Nat) (log : List Exchange) : Nat := log.countP (Exchange.releases number)

def trials (log : List Exchange) : List Trial := log.filterMap Exchange.trial?

def lost (log : List Exchange) : List Nat := log.filterMap Exchange.lost?

/-- The channels that were bound and not released. -/
def live : List Exchange → List Nat
  | [] => []
  | .bound number (.done _) :: older => number :: live older
  | .released number :: older => (live older).erase number
  | _ :: older => live older

/-- How many calls of one operation failed at their first attempt; trials of one topic are attempts at the same call. -/
def stumbles : List Trial → Nat
  | [] => 0
  | trial :: older => stumbles older + if trial.fails ∧ ∀ other ∈ older, other.topic ≠ trial.topic then 1 else 0

/-- The service, with what it was asked so far and how often it told that it went away. -/
structure Observed (ω : Type) where
  world : ω
  log : List Exchange := []
  notices : Nat := 0

namespace Observed
variable {ω : Type}

def note (observed : Observed ω) (exchange : Exchange) (notices : Nat) (world : ω) : Observed ω :=
  ⟨world,exchange :: observed.log,observed.notices + notices⟩

end Observed

/-- The channel was bound just now, and nothing was told before. -/
def probes (number : Nat) : List Exchange → Bool
  | .bound other (.done _) :: older => other == number && (toldFirst older).isNone
  | _ => false

/-- The host with an observer. -/
def Host.observed {ω : Type} (host : Host ω) : Host (Observed ω) where
  bind number observed :=
    let (reply,world) := host.bind number observed.world
    (reply,observed.note (.bound number reply.ending) reply.notices world)
  capabilities number observed :=
    let (reply,world) := host.capabilities number observed.world
    let exchange := if probes number observed.log then .probed number reply.ending
      else .tried number (.capabilities reply.ending)
    (reply,observed.note exchange reply.notices world)
  listUserIds number strategy observed :=
    let (reply,world) := host.listUserIds number strategy observed.world
    (reply,observed.note (.tried number (.users strategy reply.ending)) reply.notices world)
  listPackages number flags observed :=
    let (reply,world) := host.listPackages number flags observed.world
    (reply,observed.note (.tried number (.packages flags reply.ending)) reply.notices world)
  release number observed := observed.note (.released number) 0 (host.release number observed.world)
  discard number observed := { observed with world := host.discard number observed.world }

/-- A call that a lease may make with what it holds, and what it holds then: it binds with nothing in its hands, and calls
no channel but its own. -/
inductive Exchange.Takes : Exchange → Option Nat → Option Nat → Prop where
  | refused {number : Nat} {ending : Ending Failure Unit} (refused : ∀ value, ending ≠ .done value) :
      Takes (.bound number ending) none none
  | bound {number : Nat} : Takes (.bound number (.done ())) none (some number)
  | probed {number : Nat} {ending : Ending TransportError Capabilities} (calm : ∀ text, ending ≠ .panicked text) :
      Takes (.probed number ending) (some number) (some number)
  | lost {number : Nat} {text : String} : Takes (.probed number (.panicked text)) (some number) none
  | tried {number : Nat} {trial : Trial} : Takes (.tried number trial) (some number) (some number)
  | released {number : Nat} : Takes (.released number) (some number) none

/-- What a lease holds before and after calls that it made. -/
inductive Keeps : Option Nat → List Exchange → Option Nat → Prop where
  | nothing {held : Option Nat} : Keeps held [] held
  | next {held middle after : Option Nat} {made : List Exchange} {exchange : Exchange} (earlier : Keeps held made middle)
      (takes : exchange.Takes middle after) : Keeps held (exchange :: made) after

theorem Keeps.one {exchange : Exchange} {held after : Option Nat} (takes : exchange.Takes held after) :
    Keeps held [exchange] after := .next .nothing takes

theorem Keeps.append {held middle after : Option Nat} {earlier later : List Exchange} (first : Keeps held earlier middle)
    (second : Keeps middle later after) : Keeps held (later ++ earlier) after := by
  induction second with
  | nothing => exact first
  | next _ takes ih => exact .next ih takes

/-- A channel gets the next number; users are asked for in the way that was told first. -/
def Exchange.Fits (older : List Exchange) : Exchange → Prop
  | .bound number _ => number = bindings older
  | .tried _ (.users strategy _) => chosen older = some strategy
  | _ => True

def Proper : List Exchange → Prop
  | [] => True
  | exchange :: older => exchange.Fits older ∧ Proper older

/-- No channel is called but one that is live. -/
def Lawful : List Exchange → Prop
  | [] => True
  | exchange :: older => (∀ number, exchange.on? = some number → number ∈ live older) ∧ Lawful older

section
variable {log earlier later : List Exchange}

theorem toldFirst_append : toldFirst (later ++ earlier) = (toldFirst earlier).or (toldFirst later) := by
  induction later with
  | nil => simp [toldFirst]
  | cons exchange rest ih => rw [List.cons_append,toldFirst,ih,toldFirst,Option.or_assoc]

theorem toldFirst_grows {capabilities : Capabilities} (told : toldFirst earlier = some capabilities) (later : List Exchange) :
    toldFirst (later ++ earlier) = some capabilities := by
  rw [toldFirst_append,told,Option.some_or]

theorem chosen_grows {strategy : UserStrategy} (settled : chosen earlier = some strategy) (later : List Exchange) :
    chosen (later ++ earlier) = some strategy := by
  rw [chosen] at settled
  rw [chosen,toldFirst_append,Option.map_or,settled,Option.some_or]

theorem lost_append : lost (later ++ earlier) = lost later ++ lost earlier := List.filterMap_append

theorem trials_append : trials (later ++ earlier) = trials later ++ trials earlier := List.filterMap_append

theorem stumbles_append {later earlier : List Trial} (apart : ∀ one ∈ later, ∀ other ∈ earlier, other.topic ≠ one.topic) :
    stumbles (later ++ earlier) = stumbles later + stumbles earlier := by
  induction later with
  | nil => simp [stumbles]
  | cons trial rest ih =>
    rw [List.cons_append,stumbles,stumbles,ih fun one member => apart one (.tail _ member)]
    simp only [List.forall_mem_append,and_iff_left (apart trial (.head _))]
    omega

/-- A failed trial that was tried again is one call that stumbled. -/
theorem stumbles_retried {later : List Trial} {first : Trial} (fails : first.fails = true)
    (same : ∀ trial ∈ later, trial.topic = first.topic) : stumbles (later ++ [first]) = 1 := by
  induction later with
  | nil => simp [stumbles,fails]
  | cons trial rest ih =>
    have again : ¬(∀ other ∈ rest ++ [first], other.topic ≠ trial.topic) := fun apart =>
      apart first (List.mem_append_right _ (.head _)) (same trial (.head _)).symm
    rw [List.cons_append,stumbles,if_neg fun both => again both.2,ih fun other member => same other (.tail _ member)]

/-- One lease's calls move a channel from hand to hand: what was live stays live, with the lease's own channel replaced. -/
theorem Keeps.live {held after : Option Nat} {made : List Exchange} {others : List Nat} (keeps : Keeps held made after)
    (lawful : Lawful earlier) (alive : (live earlier).Perm (held.toList ++ others)) :
    (Service.live (made ++ earlier)).Perm (after.toList ++ (lost made ++ others)) ∧ Lawful (made ++ earlier) := by
  induction keeps with
  | nothing => exact ⟨alive,lawful⟩
  | @next middle after made exchange _ takes ih =>
    obtain ⟨moved,kept⟩ := ih
    -- The channel that the lease holds is live, so it may be called.
    have owned (number : Nat) (holds : middle = some number) : number ∈ Service.live (made ++ earlier) :=
      moved.mem_iff.mpr (by simp [holds])
    cases takes with
    | @refused number ending refused =>
      refine ⟨?_,by simp [Exchange.on?],kept⟩
      cases ending with
      | done value => exact absurd rfl (refused value)
      | failed | panicked => exact moved
    | bound => exact ⟨moved.cons _,by simp [Exchange.on?],kept⟩
    | @probed number ending calm =>
      refine ⟨?_,by simpa [Exchange.on?] using owned number rfl,kept⟩
      cases ending with
      | done | failed => exact moved
      | panicked text => exact absurd rfl (calm text)
    | @lost number text => exact ⟨moved,by simpa [Exchange.on?] using owned number rfl,kept⟩
    | @tried number trial => exact ⟨moved,by simpa [Exchange.on?] using owned number rfl,kept⟩
    | @released number =>
      refine ⟨?_,by simpa [Exchange.on?] using owned number rfl,kept⟩
      have rest := moved.erase number
      rw [Option.toList_some,List.singleton_append,List.erase_cons_head] at rest
      exact rest

/-- A channel that was bound is live or was released once, and not both. -/
theorem releasesOf_add_count (proper : Proper log) (lawful : Lawful log) (number : Nat) :
    releasesOf number log + (live log).count number = if number < bindings log then 1 else 0 := by
  induction log with
  | nil => rfl
  | cons exchange older ih =>
    have before := ih proper.2 lawful.2
    cases exchange with
    | bound other ending =>
      have fresh : other = bindings older := proper.1
      cases ending with
      | done value =>
        have grown : bindings (.bound other (.done value) :: older) = bindings older + 1 := List.countP_cons_of_pos rfl
        have same : releasesOf number (.bound other (.done value) :: older) = releasesOf number older := rfl
        rw [grown,same,live,List.count_cons,← Nat.add_assoc,before,fresh]
        simp only [beq_iff_eq]
        split <;> split <;> split <;> omega
      | failed | panicked => exact before
    | probed | tried => exact before
    | released other =>
      have called : other ∈ live older := lawful.1 other rfl
      have grown : releasesOf number (.released other :: older) = releasesOf number older + if other = number then 1 else 0 := by
        simp [releasesOf,List.countP_cons,Exchange.releases]
      have same : bindings (.released other :: older) = bindings older := rfl
      rw [grown,same,live,List.count_erase,← before]
      simp only [beq_iff_eq]
      split
      next equal =>
        have counted := List.count_pos_iff.mpr called
        rw [equal] at counted
        omega
      · omega

theorem live_nodup (proper : Proper log) (lawful : Lawful log) : (live log).Nodup := by
  refine List.nodup_iff_count_le_one.mpr fun number => ?_
  have counted := releasesOf_add_count proper lawful number
  split at counted <;> omega

theorem lt_bindings_of_mem_live (proper : Proper log) (lawful : Lawful log) {number : Nat} (alive : number ∈ live log) :
    number < bindings log := by
  have counted := releasesOf_add_count proper lawful number
  have present := List.count_pos_iff.mpr alive
  split at counted <;> omega

theorem releasesOf_eq (proper : Proper log) (lawful : Lawful log) {number : Nat} (bound : number < bindings log) :
    releasesOf number log = if number ∈ live log then 0 else 1 := by
  have counted := releasesOf_add_count proper lawful number
  rw [if_pos bound] at counted
  split
  next alive =>
    have present := List.count_pos_iff.mpr alive
    omega
  next gone =>
    rw [List.count_eq_zero_of_not_mem gone] at counted
    exact counted

theorem length_live_add_releases (lawful : Lawful log) : (live log).length + releases log = bindings log := by
  induction log with
  | nil => rfl
  | cons exchange older ih =>
    have before := ih lawful.2
    cases exchange with
    | bound other ending =>
      cases ending with
      | done value =>
        have grown : bindings (.bound other (.done value) :: older) = bindings older + 1 := List.countP_cons_of_pos rfl
        have same : releases (.bound other (.done value) :: older) = releases older := rfl
        rw [grown,same,live,List.length_cons]
        omega
      | failed | panicked => exact before
    | probed | tried => exact before
    | released other =>
      have called : other ∈ live older := lawful.1 other rfl
      have grown : releases (.released other :: older) = releases older + 1 := List.countP_cons_of_pos rfl
      have same : bindings (.released other :: older) = bindings older := rfl
      have shorter := List.length_erase_of_mem called
      have present := List.length_pos_of_mem called
      rw [grown,same,live]
      omega

theorem bound_lt_bindings (proper : Proper log) {number : Nat} (bound : .bound number (.done ()) ∈ log) :
    number < bindings log := by
  induction log with
  | nil => simp at bound
  | cons exchange older ih =>
    rcases List.mem_cons.mp bound with rfl | earlier
    · have fresh : number = bindings older := proper.1
      have grown : bindings (.bound number (.done ()) :: older) = bindings older + 1 := List.countP_cons_of_pos rfl
      omega
    · have before := ih proper.2 earlier
      have grown : bindings older ≤ bindings (exchange :: older) := (List.sublist_cons_self _ _).countP_le
      omega

theorem bound_of_mem_live {number : Nat} (alive : number ∈ live log) : .bound number (.done ()) ∈ log := by
  induction log with
  | nil => simp [live] at alive
  | cons exchange older ih =>
    cases exchange with
    | bound other ending =>
      cases ending with
      | done value =>
        rcases List.mem_cons.mp alive with rfl | earlier
        · exact .head _
        · exact .tail _ (ih earlier)
      | failed | panicked => exact .tail _ (ih alive)
    | probed | tried => exact .tail _ (ih alive)
    | released other => exact .tail _ (ih (List.mem_of_mem_erase alive))

theorem bindings_le_of_bound (proper : Proper (later ++ earlier)) {number : Nat}
    (bound : .bound number (.done ()) ∈ later) : bindings earlier ≤ number := by
  induction later with
  | nil => simp at bound
  | cons exchange rest ih =>
    rcases List.mem_cons.mp bound with rfl | older
    · have fresh : number = bindings (rest ++ earlier) := proper.1
      rw [fresh]
      exact (List.sublist_append_right rest earlier).countP_le
    · exact ih proper.2 older

/-- A channel is not called once it was released. -/
theorem pairwise_not_called (proper : Proper log) (lawful : Lawful log) :
    log.Pairwise fun later earlier => ∀ number, earlier = .released number → later.on? ≠ some number := by
  induction log with
  | nil => exact .nil
  | cons exchange older ih =>
    refine .cons ?_ (ih proper.2 lawful.2)
    rintro _ member number rfl called
    have alive : number ∈ live older := lawful.1 number called
    have once := releasesOf_eq proper.2 lawful.2 (lt_bindings_of_mem_live proper.2 lawful.2 alive)
    rw [if_pos alive] at once
    exact List.countP_eq_zero.mp once _ member (by simp [Exchange.releases])

end
end Service
end AppGrants
