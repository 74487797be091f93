import AppGrants.Refresh.Engine
import AppGrants.Service.Connection

/-! A catalog with the service that it is listed from. Refreshes get the turn in the order of their calls, and the work that
they wait for is done one piece after another. Work that was begun is done to its end even if nobody waits for it any more. -/
namespace AppGrants.Refresh

open Catalog Service

/-- Work that a refresh waits for. -/
inductive Work where
  | enumerate
  | lookUp
deriving DecidableEq, Repr

structure Session (ω : Type) where
  engine : Engine
  site : Site ω
  work : List (Nat × Work) := []
  waiting : List Nat := []

/-- What a session is set up with. -/
structure Setup (ω : Type) where
  rules : Rules
  packageFlags : UInt32
  host : Host ω

/-- The users first, then the packages, on one lease. -/
def enumeration (packageFlags : UInt32) : Body Enumeration :=
  .listUserIds (Body.onValue fun users =>
    .listPackages packageFlags (Body.onValue fun packages => .finish (.done (users, packages))))

inductive Action where
  | change (change : Change)
  | call (call : Call)
  | trigger (force resort : Bool)
deriving DecidableEq, Repr

/-- The generation that a change was published as, or the end of a refresh. -/
inductive Answer where
  | generation (number : Nat)
  | ended (result : Except Failure Report)
  | cancelled

/-- An action that was taken: a change is answered at once, a refresh has a number. -/
inductive Ticket where
  | answered (generation : Nat)
  | refresh (task : Nat)
deriving DecidableEq, Repr

namespace Phase

/-- The work that has to be done before the refresh can go on. -/
def work? : Phase → Option Work
  | listing _ => some .enumerate
  | joining _ _ _ => some .lookUp
  | reading _ _ _ => some .lookUp
  | _ => none

def answer? : Phase → Option Answer
  | ended result => some (.ended result)
  | cancelled => some .cancelled
  | _ => none

end Phase

namespace Session

def start (filters : Filters) (store : StoreView) (world : ω) : Session ω :=
  ⟨.start filters store, ⟨{}, world⟩, [], []⟩

def snapshot (session : Session ω) : Snapshot := session.engine.snapshot

def apply (setup : Setup ω) (session : Session ω) (event : Event) : Session ω :=
  { session with engine := session.engine.apply setup.rules event }

/-- The refresh goes on until it waits for something or is over; no more than four steps lie between. -/
def proceed (setup : Setup ω) (session : Session ω) (task : Nat) : Session ω :=
  (List.replicate 4 (Event.resume task)).foldl (apply setup) session

/-- What the refresh now waits for is put behind the other work. -/
def enqueue (session : Session ω) (task : Nat) : Session ω :=
  match (session.engine.phases[task]?).bind Phase.work? with
  | some work => { session with work := session.work ++ [(task, work)] }
  | none => session

/-- The first one that waits gets the turn if it is free. -/
def passTurn (setup : Setup ω) (session : Session ω) : Session ω :=
  match session.engine.turn, session.waiting with
  | none, task :: others => (({ session with waiting := others }.apply setup (.take task)).proceed setup task).enqueue task
  | _, _ => session

def doWork (setup : Setup ω) (session : Session ω) (task : Nat) : Work → Session ω
  | .enumerate =>
    let (outcome, site) := session.site.withChannel setup.host (enumeration setup.packageFlags)
    { session with site }.apply setup (.enumerated task outcome)
  | .lookUp => session.apply setup (.looked task)

/-- The turn is passed on while it is free; else the first piece of work is done, and who waits for it goes on. -/
def advance (setup : Setup ω) (session : Session ω) : Session ω :=
  if session.engine.turn.isNone && !session.waiting.isEmpty then session.passTurn setup
  else match session.work with
    | (task, work) :: others =>
      ((doWork setup { session with work := others } task work).proceed setup task).enqueue task
    | [] => session

def advanceWithin (setup : Setup ω) : Nat → Session ω → Session ω
  | 0, session => session
  | fuel + 1, session => advanceWithin setup fuel (session.advance setup)

/-- No refresh takes more than a turn, an enumeration and a reading of profiles. -/
def settle (setup : Setup ω) (session : Session ω) : Session ω :=
  session.advanceWithin setup (3 * (session.waiting.length + session.work.length))

/-- A refresh is called by an event; if it finds the turn free, it has it at once. -/
def call (setup : Setup ω) (session : Session ω) (event : Event) : Ticket × Session ω :=
  let task := session.engine.phases.length
  let called := session.apply setup event
  (.refresh task, { called with waiting := called.waiting ++ [task] }.passTurn setup)

def submit (setup : Setup ω) (session : Session ω) : Action → Ticket × Session ω
  | .change change =>
    let changed := session.apply setup (.change change)
    (.answered changed.snapshot.generation, changed)
  | .call call => session.call setup (.call call)
  | .trigger force resort => session.call setup (.trigger force resort)

def submitAll (setup : Setup ω) (session : Session ω) : List Action → List Ticket × Session ω
  | [] => ([], session)
  | action :: rest =>
    let (ticket, session) := session.submit setup action
    let (tickets, session) := session.submitAll setup rest
    (ticket :: tickets, session)

def cancel (setup : Setup ω) (session : Session ω) : Ticket → Session ω
  | .refresh task =>
    ({ session with waiting := session.waiting.filter (· ≠ task) }.apply setup (.cancel task)).proceed setup task
  | .answered _ => session

def answer (session : Session ω) : Ticket → Answer
  | .answered generation => .generation generation
  | .refresh task => ((session.engine.phases[task]?).bind Phase.answer?).getD .cancelled

/-- One action, to its end. -/
def perform (setup : Setup ω) (session : Session ω) (action : Action) : Answer × Session ω :=
  let (ticket, session) := session.submit setup action
  let session := session.settle setup
  (session.answer ticket, session)

/-- Actions side by side: all are made before any work is done, then those at the given places are cancelled, and the
snapshot of that moment is told beside the answers. -/
def performTogether (setup : Setup ω) (session : Session ω) (actions : List Action) (cancelled : List Nat) :
    (Snapshot × List Answer) × Session ω :=
  let (tickets, session) := session.submitAll setup actions
  let session := (cancelled.filterMap (tickets[·]?)).foldl (cancel setup) session
  let middle := session.snapshot
  let session := session.settle setup
  ((middle, tickets.map session.answer), session)

end Session
end AppGrants.Refresh
