import AppGrants.Service.Connection

/-! Many leases over one manager, in whatever order they are used. Leases are numbered as they are acquired. -/
namespace AppGrants.Service

/-- The leases in order, none for one that was dropped; a lease may be without a channel. -/
structure Pool (ω : Type) where
  site : Site ω
  leases : List (Option (Option Nat)) := []

namespace Pool

def start (world : ω) : Pool ω := ⟨⟨{}, world⟩, []⟩

def lease? (pool : Pool ω) (index : Nat) : Option (Option Nat) := (pool.leases[index]?).join

/-- The number of the new lease. -/
def acquire (host : Host ω) (pool : Pool ω) : Outcome Nat × Pool ω :=
  match pool.site.acquire host with
  | (.done _, grip) => (.done pool.leases.length, ⟨grip.site, pool.leases ++ [some grip.channel]⟩)
  | (.failed failure, grip) => (.failed failure, ⟨grip.site, pool.leases⟩)
  | (.panicked text, grip) => (.panicked text, ⟨grip.site, pool.leases⟩)

/-- Nothing happens to a lease that is dropped a second time. -/
def drop (host : Host ω) (index : Nat) (pool : Pool ω) : Pool ω :=
  match pool.lease? index with
  | some channel => ⟨Grip.drop host ⟨pool.site, channel⟩, pool.leases.set index none⟩
  | none => pool

/-- One operation on a lease that is held; none if it is not. -/
def onLease (index : Nat) (operation : Grip ω → Outcome α × Grip ω) (pool : Pool ω) : Option (Outcome α) × Pool ω :=
  match pool.lease? index with
  | some channel =>
    let (outcome, grip) := operation ⟨pool.site, channel⟩
    (some outcome, ⟨grip.site, pool.leases.set index (some grip.channel)⟩)
  | none => (none, pool)

def withChannel (host : Host ω) (body : Body α) (pool : Pool ω) : Outcome α × Pool ω :=
  let (outcome, site) := pool.site.withChannel host body
  (outcome, { pool with site })

/-- The service tells that it went away. -/
def disconnect (pool : Pool ω) : Pool ω := { pool with site.manager := pool.site.manager.disconnected 1 }

def dropAll (host : Host ω) (pool : Pool ω) : Pool ω :=
  (List.range pool.leases.length).foldl (fun pool index => pool.drop host index) pool

end Pool
end AppGrants.Service
