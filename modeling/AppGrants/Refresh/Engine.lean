import AppGrants.Catalog.Feed

/-! Refreshing the catalog. Refreshes take turns; each one goes from step to step, between which settings may change, the
store may change, and other refreshes may ask for the turn or be cancelled. A full refresh that gets the turn after another
one has ended shares the result of that one. -/
namespace AppGrants.Refresh

open Catalog

inductive Mode where
  | full
  | profileOnly
  | incremental
  | skipped
  | joined
deriving DecidableEq, Repr

def Mode.name : Mode → String
  | .full => "full"
  | .profileOnly => "profile_only"
  | .incremental => "incremental"
  | .skipped => "skipped"
  | .joined => "joined"

def Mode.wireName : Mode → String
  | .profileOnly => "profileOnly"
  | mode => mode.name

/-- What is told of a refresh: its kind, the snapshot that it ended with, and how long it took. -/
structure Report where
  mode : Mode
  generation : Nat
  recordCount : Nat
  milliseconds : UInt64
deriving DecidableEq, Repr

def Report.ofSnapshot (mode : Mode) (snapshot : Snapshot) (nanoseconds : Nat) : Report :=
  ⟨mode, snapshot.generation, snapshot.allRecords.length, UInt64.ofNat (nanoseconds / 1000000)⟩

/-- The report of a full refresh, as one who shares it is told. -/
def Report.shared (report : Report) : Report := { report with mode := .joined }

/-- A full refresh, with how many of them had ended when it was called; or one of the profiles only, with the moment of
its call. -/
inductive Aim where
  | full (ended : Nat)
  | profiles (resort : Bool) (since : Nat)
deriving DecidableEq, Repr

/-- The users that are alive, and the packages. -/
abbrev Enumeration := List Int32 × List PackageMeta

/-- How far a refresh has come. From `admitted` to `leaving` it has the turn; `since` is the moment that its time is taken
from. Only where it waits, for the turn or for work, can it be cancelled; what leaves without a result was cancelled. -/
inductive Phase where
  | waiting (aim : Aim)
  | admitted (aim : Aim)
  | listing (since : Nat)
  | listed (since : Nat) (result : Except Failure Enumeration)
  | joining (since : Nat) (users : List Int32) (packages : List PackageMeta)
  | joined (since : Nat) (users : List Int32) (result : Except Failure (List AppRecord))
  | reading (since : Nat) (resort : Bool) (before : List AppRecord)
  | read (since : Nat) (resort : Bool) (before : List AppRecord) (result : Except Failure (List AppRecord))
  | published (result : Except Failure Report)
  | noted (result : Except Failure Report)
  | leaving (result : Option (Except Failure Report))
  | ended (result : Except Failure Report)
  | cancelled

/-- Refreshes are numbered as they are called. The clock counts nanoseconds. -/
structure Engine where
  feed : Feed
  store : StoreView
  clock : Nat := 0
  turn : Option Nat := none
  fullsEnded : Nat := 0
  lastFull : Option (Except Failure Report) := none
  phases : List Phase := []

inductive Call where
  | full
  | profiles (resort : Bool)
deriving DecidableEq, Repr

/-- With `resume` a refresh goes one step on. -/
inductive Event where
  | change (change : Change)
  | storeChange (store : StoreView)
  | elapse (nanoseconds : Nat)
  | call (call : Call)
  | trigger (force resort : Bool)
  | take (task : Nat)
  | enumerated (task : Nat) (outcome : Outcome Enumeration)
  | looked (task : Nat)
  | resume (task : Nat)
  | cancel (task : Nat)

def enumerateLabel : String := "app_directory_enumerate"

def joinLabel : String := "app_directory_join_profiles"

def reloadLabel : String := "app_directory_reload_profiles"

namespace Engine

def start (filters : Filters) (store : StoreView) : Engine := { feed := .start filters, store }

def snapshot (engine : Engine) : Snapshot := engine.feed.snapshot

def setPhase (engine : Engine) (task : Nat) (phase : Phase) : Engine :=
  { engine with phases := engine.phases.set task phase }

/-- A step of a refresh that publishes. -/
def publish (engine : Engine) (task : Nat) (phase : Phase) (feed : Feed) : Engine :=
  { engine.setPhase task phase with feed }

/-- The result of the last full refresh, as the one who shares it is told. -/
def sharedResult (engine : Engine) : Except Failure Report :=
  match engine.lastFull with
  | some result => result.map Report.shared
  | none => .ok (.ofSnapshot .joined engine.snapshot 0)

/-- What a refresh does first when it has the turn. -/
def begin (rules : Rules) (engine : Engine) (task : Nat) : Aim → Engine
  | .full ended =>
    if engine.fullsEnded ≠ ended then engine.setPhase task (.leaving (some engine.sharedResult))
    else engine.publish task (.listing engine.clock) (engine.feed.setRefreshing rules true)
  | .profiles resort since =>
    let records := engine.snapshot.allRecords
    if records.isEmpty then
      engine.setPhase task (.leaving (some (.ok (.ofSnapshot .skipped engine.snapshot (engine.clock - since)))))
    else engine.setPhase task (.reading since resort records)

def failFull (rules : Rules) (engine : Engine) (task : Nat) (failure : Failure) : Engine :=
  engine.publish task (.published (.error failure)) (engine.feed.fail rules failure.kind)

def completeFull (rules : Rules) (engine : Engine) (task since : Nat) (users : List Int32) (records : List AppRecord) :
    Engine :=
  let feed := engine.feed.complete rules engine.store.shouldUnmount users records
  engine.publish task (.published (.ok (.ofSnapshot .full feed.snapshot (engine.clock - since)))) feed

/-- The feed with new profiles. -/
def reloadedFeed (rules : Rules) (engine : Engine) (resort : Bool) (before records : List AppRecord) : Feed :=
  if resort then engine.feed.reload rules engine.store.shouldUnmount records else engine.feed.patch rules before records

def completeProfiles (rules : Rules) (engine : Engine) (task since : Nat) (resort : Bool)
    (before records : List AppRecord) : Engine :=
  let feed := engine.reloadedFeed rules resort before records
  let mode := if resort then Mode.profileOnly else .incremental
  engine.publish task (.leaving (some (.ok (.ofSnapshot mode feed.snapshot (engine.clock - since))))) feed

/-- The turn is given back. -/
def leave (engine : Engine) (task : Nat) (result : Option (Except Failure Report)) : Engine :=
  { engine.setPhase task (result.elim .cancelled .ended) with turn := none }

def resume (rules : Rules) (engine : Engine) (task : Nat) : Phase → Engine
  | .admitted aim => engine.begin rules task aim
  | .listed since (.ok (users, packages)) => engine.setPhase task (.joining since users packages)
  | .listed _ (.error failure) => engine.failFull rules task failure
  | .joined since users (.ok records) => engine.completeFull rules task since users records
  | .joined _ _ (.error failure) => engine.failFull rules task failure
  | .read since resort before (.ok records) => engine.completeProfiles rules task since resort before records
  | .read _ _ _ (.error failure) => engine.setPhase task (.leaving (some (.error failure)))
  | .published result => { engine.setPhase task (.noted result) with lastFull := some result }
  | .noted result => { engine.setPhase task (.leaving (some result)) with fullsEnded := engine.fullsEnded + 1 }
  | .leaving result => engine.leave task result
  | _ => engine

/-- The profiles are looked up, all of them in the store as it is now. No key is looked up twice, so a store that changes
meanwhile is one that has for each key what it had when asked. -/
def look (engine : Engine) (task : Nat) : Phase → Engine
  | .joining since users packages =>
    engine.setPhase task (.joined since users (onPool joinLabel (joinProfiles engine.store packages)))
  | .reading since resort before =>
    engine.setPhase task (.read since resort before (onPool reloadLabel (reloadProfiles engine.store before)))
  | _ => engine

/-- A full refresh that has begun is no longer told to be running. -/
def cancel (rules : Rules) (engine : Engine) (task : Nat) : Phase → Engine
  | .waiting _ => engine.setPhase task .cancelled
  | .listing _ | .listed _ _ | .joining _ _ _ | .joined _ _ _ =>
    engine.publish task (.leaving none) (engine.feed.setRefreshing rules false)
  | .reading _ _ _ | .read _ _ _ _ => engine.setPhase task (.leaving none)
  | _ => engine

def aim (engine : Engine) : Call → Aim
  | .full => .full engine.fullsEnded
  | .profiles resort => .profiles resort engine.clock

def call (engine : Engine) (call : Call) : Engine :=
  { engine with phases := engine.phases ++ [.waiting (engine.aim call)] }

/-- Without records nothing but a full refresh makes sense. -/
def chooseCall (engine : Engine) (force resort : Bool) : Call :=
  if force || engine.snapshot.allRecords.isEmpty then .full else .profiles resort

/-- Nothing happens where the refresh has not come to the point that the event is about. -/
def apply (rules : Rules) (engine : Engine) : Event → Engine
  | .change change => { engine with feed := engine.feed.change rules engine.store.shouldUnmount change }
  | .storeChange store => { engine with store }
  | .elapse nanoseconds => { engine with clock := engine.clock + nanoseconds }
  | .call call => engine.call call
  | .trigger force resort => engine.call (engine.chooseCall force resort)
  | .take task =>
    match engine.turn, engine.phases[task]? with
    | none, some (.waiting aim) => { engine.setPhase task (.admitted aim) with turn := some task }
    | _, _ => engine
  | .enumerated task outcome =>
    match engine.phases[task]? with
    | some (.listing since) => engine.setPhase task (.listed since (onPool enumerateLabel outcome))
    | _ => engine
  | .looked task => (engine.phases[task]?).elim engine (engine.look task)
  | .resume task => (engine.phases[task]?).elim engine (engine.resume rules task)
  | .cancel task => (engine.phases[task]?).elim engine (engine.cancel rules task)

def run (rules : Rules) (engine : Engine) (events : List Event) : Engine := events.foldl (apply rules) engine

end Engine
end AppGrants.Refresh
