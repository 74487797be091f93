import AppGrants.Proofs.Service.Sight

/-! Runs of one manager with many leases, in whatever order they are used. Uses are listed latest first. -/
namespace AppGrants.Service
variable {ω ω' α : Type}

inductive Operation where
  | strategy
  | listUserIds
  | listPackages (flags : UInt32)

/-- What an operation of a lease came back with. -/
inductive Answer where
  | strategy (outcome : Outcome UserStrategy)
  | users (outcome : Outcome (List Int32))
  | packages (outcome : Outcome (List PackageMeta))

def Operation.run (host : Host ω) : Operation → Grip ω → Answer × Grip ω
  | strategy, grip => (grip.strategy host).map .strategy id
  | listUserIds, grip => (grip.listUserIds host).map .users id
  | listPackages flags, grip => (grip.listPackages host flags).map .packages id

/-- What can be done with a manager and its leases. -/
inductive Use : Type 1 where
  | acquire
  | operate (lease : Nat) (operation : Operation)
  | drop (lease : Nat)
  | withChannel {α : Type} (body : Body α)
  | disconnect

def Use.isHook : Use → Bool
  | disconnect => true
  | _ => false

namespace Pool

def operate (host : Host ω) (lease : Nat) (pool : Pool ω) : Operation → Pool ω
  | .strategy => (pool.onLease lease (Grip.strategy host)).2
  | .listUserIds => (pool.onLease lease (Grip.listUserIds host)).2
  | .listPackages flags => (pool.onLease lease (Grip.listPackages host flags)).2

def use (host : Host ω) (pool : Pool ω) : Use → Pool ω
  | .acquire => (pool.acquire host).2
  | .operate lease operation => pool.operate host lease operation
  | .drop lease => pool.drop host lease
  | .withChannel body => (pool.withChannel host body).2
  | .disconnect => pool.disconnect

def run (host : Host ω) (world : ω) : List Use → Pool ω
  | [] => start world
  | use :: older => (run host world older).use host use

/-- The channel that a lease holds. -/
def channel? (pool : Pool ω) (lease : Nat) : Option Nat := (pool.lease? lease).join

/-- The channels that the leases hold. -/
def held (pool : Pool ω) : List Nat := pool.leases.filterMap Option.join

theorem operate_eq (host : Host ω) (lease : Nat) (pool : Pool ω) (operation : Operation) :
    pool.operate host lease operation =
      match pool.lease? lease with
      | some channel =>
        let (_,after) := operation.run host ⟨pool.site,channel⟩
        ⟨after.site,pool.leases.set lease (some after.channel)⟩
      | none => pool := by
  cases operation <;> unfold operate onLease <;> cases pool.lease? lease <;> rfl

theorem lease?_eq_some {pool : Pool ω} {lease : Nat} {channel : Option Nat} (found : pool.lease? lease = some channel) :
    pool.leases[lease]? = some (some channel) := by
  rw [lease?,Option.join_eq_some_iff] at found
  exact found

end Pool

namespace Body

/-- What is listed after a result. -/
def pursue {β γ : Type} (next : Except Failure β → Grip ω → List γ) : Outcome β × Grip ω → List γ
  | (.done value,grip) => next (.ok value) grip
  | (.failed failure,grip) => next (.error failure) grip
  | (.panicked _,_) => []

end Body

namespace Sight.ShowsHost
variable {sight : Sight ω ω'} {host : Host ω} {seen : Host ω'}

theorem onLease_shown {operation : Grip ω → Outcome α × Grip ω} {other : Grip ω' → Outcome α × Grip ω'}
    (same : ∀ grip, other (sight.grip grip) = Prod.map id sight.grip (operation grip)) (lease : Nat) (pool : Pool ω) :
    ((sight.pool pool).onLease lease other).2 = sight.pool (pool.onLease lease operation).2 := by
  unfold Pool.onLease
  rw [show (sight.pool pool).lease? lease = pool.lease? lease from rfl]
  cases pool.lease? lease with
  | none => rfl
  | some channel =>
    have after := same ⟨pool.site,channel⟩
    exact congrArg (fun result => Pool.mk result.2.site (pool.leases.set lease (some result.2.channel))) after

theorem poolAcquire_shown (same : sight.ShowsHost host seen) (pool : Pool ω) :
    (sight.pool pool).acquire seen = Prod.map id sight.pool (pool.acquire host) := by
  unfold Pool.acquire
  rw [show (sight.pool pool).site = sight.site pool.site from rfl,same.acquire_shown]
  rcases pool.site.acquire host with ⟨_ | _ | _,grip⟩ <;> rfl

theorem poolWithChannel_shown (same : sight.ShowsHost host seen) (body : Body α) (pool : Pool ω) :
    (sight.pool pool).withChannel seen body = Prod.map id sight.pool (pool.withChannel host body) := by
  unfold Pool.withChannel
  rw [show (sight.pool pool).site = sight.site pool.site from rfl,same.withChannel_shown]
  rfl

theorem use_shown (same : sight.ShowsHost host seen) {use : Use} (calm : use.isHook = false) (pool : Pool ω) :
    (sight.pool pool).use seen use = sight.pool (pool.use host use) := by
  cases use with
  | acquire => exact congrArg Prod.snd (same.poolAcquire_shown pool)
  | operate lease operation =>
    cases operation with
    | strategy => exact onLease_shown same.strategy_shown lease pool
    | listUserIds => exact onLease_shown same.listUserIds_shown lease pool
    | listPackages flags => exact onLease_shown (same.listPackages_shown flags) lease pool
  | drop lease =>
    unfold Pool.use Pool.drop
    dsimp only
    rw [show (sight.pool pool).lease? lease = pool.lease? lease from rfl]
    cases pool.lease? lease with
    | none => rfl
    | some channel => exact congrArg (Pool.mk · _) (same.drop_shown ⟨pool.site,channel⟩)
  | withChannel body => exact congrArg Prod.snd (same.poolWithChannel_shown body pool)
  | disconnect => cases calm

end Sight.ShowsHost

/-- The host that never tells that the service went away. -/
def Host.hushed (host : Host ω) : Host ω where
  bind number world := ({ (host.bind number world).1 with notices := 0 },(host.bind number world).2)
  capabilities number world := ({ (host.capabilities number world).1 with notices := 0 },(host.capabilities number world).2)
  listUserIds number strategy world :=
    ({ (host.listUserIds number strategy world).1 with notices := 0 },(host.listUserIds number strategy world).2)
  listPackages number flags world :=
    ({ (host.listPackages number flags world).1 with notices := 0 },(host.listPackages number flags world).2)
  release := host.release
  discard := host.discard

/-- All but the count of disconnects. -/
def Sight.unheard : Sight ω ω := ⟨id,fun _ => 0⟩

theorem Host.hushed_shows (host : Host ω) : Sight.unheard.ShowsHost host host.hushed where
  bind _ _ := ⟨rfl,rfl,fun _ => rfl⟩
  capabilities _ _ := ⟨rfl,rfl,fun _ => rfl⟩
  listUserIds _ _ _ := ⟨rfl,rfl,fun _ => rfl⟩
  listPackages _ _ _ := ⟨rfl,rfl,fun _ => rfl⟩
  release _ _ := rfl
  discard _ _ := rfl

/-- Calls of the disconnect hook change nothing but the count of them. -/
theorem Pool.unheard_run (host : Host ω) (world : ω) (uses : List Use) :
    Sight.unheard.pool (run host world uses) = run host.hushed world (uses.filter (!·.isHook)) := by
  induction uses with
  | nil => rfl
  | cons use older ih =>
    cases hook : use.isHook with
    | true =>
      rw [List.filter_cons_of_neg (by simp [hook]),← ih]
      cases use with
      | disconnect => rfl
      | _ => cases hook
    | false =>
      rw [List.filter_cons_of_pos (by simp [hook]),run,run,← ih]
      exact (host.hushed_shows.use_shown hook _).symm

end AppGrants.Service
