import AppGrants.Service.Host

/-! Connections to the service. A lease holds at most one channel; a call that fails is made once more on a new channel,
after the old one was released. The way of listing users is settled by the first capabilities that the service tells. -/
namespace AppGrants.Service

structure Stats where
  binds : Nat := 0
  reconnects : Nat := 0
  disconnects : Nat := 0
  releases : Nat := 0
deriving DecidableEq, Repr

def Stats.toDoc (stats : Stats) : Json.Doc := .object [
  ("binds", .nat stats.binds), ("reconnects", .nat stats.reconnects), ("disconnects", .nat stats.disconnects),
  ("releases", .nat stats.releases)]

/-- What all leases of one manager share. -/
structure Manager where
  strategy : Option UserStrategy := none
  stats : Stats := {}
deriving DecidableEq, Repr

namespace Manager

def bound (manager : Manager) : Manager := { manager with stats.binds := manager.stats.binds + 1 }

def released (manager : Manager) : Manager := { manager with stats.releases := manager.stats.releases + 1 }

def reconnected (manager : Manager) : Manager := { manager with stats.reconnects := manager.stats.reconnects + 1 }

def disconnected (manager : Manager) (times : Nat) : Manager :=
  { manager with stats.disconnects := manager.stats.disconnects + times }

/-- The strategy that is settled, which is the one of these capabilities if none was before. -/
def adopt (manager : Manager) (capabilities : Capabilities) : UserStrategy × Manager :=
  match manager.strategy with
  | some strategy => (strategy, manager)
  | none => (capabilities.negotiate, { manager with strategy := some capabilities.negotiate })

end Manager

/-- A manager with the service that it talks to. -/
structure Site (ω : Type) where
  manager : Manager
  world : ω

namespace Site

def hear (site : Site ω) (times : Nat) (world : ω) : Site ω := ⟨site.manager.disconnected times, world⟩

/-- A channel that could not be bound is told as a service that is unavailable. -/
def unavailable (failure : Failure) : Failure :=
  if failure.kind = .serviceUnavailable then failure
  else failure.withCode FailureKind.serviceUnavailable.code "privileged service is unreachable"

/-- Asks a fresh channel for the capabilities while no strategy is settled. A failure leaves that for later; a panic
loses the channel. -/
def probe (host : Host ω) (number : Nat) (site : Site ω) : Outcome Nat × Site ω :=
  if site.manager.strategy.isSome then (.done number, site)
  else
    let (reply, world) := host.capabilities number site.world
    let site := site.hear reply.notices world
    match reply.ending with
    | .done capabilities => (.done number, { site with manager := (site.manager.adopt capabilities).2 })
    | .failed _ => (.done number, site)
    | .panicked text => (.panicked text, { site with world := host.discard number site.world })

/-- Binds a channel and gives its number. -/
def bind (host : Host ω) (site : Site ω) : Outcome Nat × Site ω :=
  let number := site.manager.stats.binds
  let (reply, world) := host.bind number site.world
  let site := site.hear reply.notices world
  match reply.ending with
  | .done _ => probe host number { site with manager := site.manager.bound }
  | .failed failure => (.failed (unavailable failure), site)
  | .panicked text => (.panicked text, site)

def release (host : Host ω) (number : Nat) (site : Site ω) : Site ω :=
  ⟨site.manager.released, host.discard number (host.release number site.world)⟩

end Site

/-- A lease together with the site: the number of the channel that it holds, if any. -/
structure Grip (ω : Type) where
  site : Site ω
  channel : Option Nat

/-- A call on a channel of the host. -/
abbrev Remote (ω α : Type) := Nat → ω → Reply TransportError α × ω

namespace Grip

/-- Binds a channel for the lease, which holds none. -/
def rebind (host : Host ω) (grip : Grip ω) : Outcome Nat × Grip ω :=
  match grip.site.bind host with
  | (.done number, site) => (.done number, ⟨site, some number⟩)
  | (.failed failure, site) => (.failed failure, ⟨site, none⟩)
  | (.panicked text, site) => (.panicked text, ⟨site, none⟩)

/-- The channel of the lease, bound now if there is none. -/
def ensure (host : Host ω) (grip : Grip ω) : Outcome Nat × Grip ω :=
  match grip.channel with
  | some number => (.done number, grip)
  | none => grip.rebind host

/-- Releases the channel, if there is one. -/
def drop (host : Host ω) (grip : Grip ω) : Site ω :=
  match grip.channel with
  | some number => grip.site.release host number
  | none => grip.site

def reconnect (host : Host ω) (operation : String) (grip : Grip ω) : Outcome Nat × Grip ω :=
  let site := grip.drop host
  match rebind host ⟨{ site with manager := site.manager.reconnected }, none⟩ with
  | (.failed failure, grip) => (.failed (failure.withContext "operation" operation), grip)
  | other => other

def attempt (remote : Remote ω α) (number : Nat) (grip : Grip ω) : Ending TransportError α × Grip ω :=
  let (reply, world) := remote number grip.site.world
  (reply.ending, { grip with site := grip.site.hear reply.notices world })

/-- Both attempts failed; their texts are told in order. -/
def remoteFailure (operation : String) (first second : TransportError) : Failure :=
  (((Failure.ofKind .remoteCallFailed "remote call failed after reconnect").withContext "operation" operation).withCause
    first.line).withSource TransportError.typeName [second.line]

def secondAttempt (host : Host ω) (operation : String) (remote : Remote ω α) (first : TransportError)
    (grip : Grip ω) : Outcome α × Grip ω :=
  match grip.reconnect host operation with
  | (.failed failure, grip) => (.failed failure, grip)
  | (.panicked text, grip) => (.panicked text, grip)
  | (.done number, grip) =>
    match grip.attempt remote number with
    | (.done value, grip) => (.done value, grip)
    | (.panicked text, grip) => (.panicked text, grip)
    | (.failed second, grip) => (.failed (remoteFailure operation first second), grip)

/-- A call, made once more after a reconnect if it fails. -/
def call (host : Host ω) (operation : String) (remote : Remote ω α) (grip : Grip ω) : Outcome α × Grip ω :=
  match grip.ensure host with
  | (.failed failure, grip) => (.failed failure, grip)
  | (.panicked text, grip) => (.panicked text, grip)
  | (.done number, grip) =>
    match grip.attempt remote number with
    | (.done value, grip) => (.done value, grip)
    | (.panicked text, grip) => (.panicked text, grip)
    | (.failed first, grip) => grip.secondAttempt host operation remote first

/-- The settled strategy; the service is asked for it only while there is none. -/
def strategy (host : Host ω) (grip : Grip ω) : Outcome UserStrategy × Grip ω :=
  match grip.site.manager.strategy with
  | some strategy => (.done strategy, grip)
  | none =>
    match grip.call host "capabilities" host.capabilities with
    | (.failed failure, grip) => (.failed failure, grip)
    | (.panicked text, grip) => (.panicked text, grip)
    | (.done capabilities, grip) =>
      let (strategy, manager) := grip.site.manager.adopt capabilities
      (.done strategy, { grip with site.manager := manager })

/-- Without any user told, the primary one is taken to be alive. -/
def orPrimary (ids : List Int32) : List Int32 := if ids.isEmpty then [0] else ids

/-- The users that are alive, in ascending order; only the primary one where the service cannot list them. -/
def listUserIds (host : Host ω) (grip : Grip ω) : Outcome (List Int32) × Grip ω :=
  match grip.strategy host with
  | (.failed failure, grip) => (.failed failure, grip)
  | (.panicked text, grip) => (.panicked text, grip)
  | (.done .primaryOnly, grip) => (.done [0], grip)
  | (.done strategy, grip) =>
    let (ending, grip) := grip.call host "list_user_ids" fun number => host.listUserIds number strategy
    (ending.map fun ids => orPrimary (ascending ids), grip)

def listPackages (host : Host ω) (flags : UInt32) (grip : Grip ω) : Outcome (List PackageMeta) × Grip ω :=
  grip.call host "list_packages" fun number => host.listPackages number flags

end Grip

/-- What is done with a lease: calls one after another, each chosen from the results so far. -/
inductive Body (α : Type) where
  | finish (outcome : Outcome α)
  | strategy (next : Except Failure UserStrategy → Body α)
  | listUserIds (next : Except Failure (List Int32) → Body α)
  | listPackages (flags : UInt32) (next : Except Failure (List PackageMeta) → Body α)

namespace Body

/-- Goes on with a result; a panic goes through. -/
def proceed (next : Except Failure β → Grip ω → Outcome α × Grip ω) : Outcome β × Grip ω → Outcome α × Grip ω
  | (.done value, grip) => next (.ok value) grip
  | (.failed failure, grip) => next (.error failure) grip
  | (.panicked text, grip) => (.panicked text, grip)

def run (host : Host ω) : Body α → Grip ω → Outcome α × Grip ω
  | finish outcome, grip => (outcome, grip)
  | strategy next, grip => proceed (fun result => (next result).run host) (grip.strategy host)
  | listUserIds next, grip => proceed (fun result => (next result).run host) (grip.listUserIds host)
  | listPackages flags next, grip => proceed (fun result => (next result).run host) (grip.listPackages host flags)

/-- A body that goes on only from a value. -/
def onValue (next : β → Body α) : Except Failure β → Body α
  | .ok value => next value
  | .error failure => .finish (.failed failure)

end Body

namespace Site

/-- The label of a job that acquires a lease. -/
def acquireLabel : String := "service_acquire"

def acquire (host : Host ω) (site : Site ω) : Outcome Unit × Grip ω :=
  let (ending, grip) := Grip.rebind host ⟨site, none⟩
  (ending.map fun _ => (), grip)

/-- Runs a body with a lease of its own, which is dropped however the body ends. -/
def withChannel (host : Host ω) (body : Body α) (site : Site ω) : Outcome α × Site ω :=
  match site.acquire host with
  | (.failed failure, grip) => (.failed failure, grip.site)
  | (.panicked text, grip) => (.panicked text, grip.site)
  | (.done _, grip) =>
    let (outcome, grip) := body.run host grip
    (outcome, grip.drop host)

end Site
end AppGrants.Service
