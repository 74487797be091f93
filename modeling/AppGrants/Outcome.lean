import AppGrants.Failure

/-! How a piece of work ends: with a value, with an error, or in a panic that takes its surroundings down. A release build does
not survive a panic at all, so what comes after one is what comes in a build that unwinds. -/
namespace AppGrants

/-- What becomes of a number that does not fit: it is a panic, or the number that is left of its lowest bits. -/
inductive Overflow where
  | panics
  | wraps
deriving DecidableEq, Repr

/-- What is done where nothing else was asked for when the program was built. -/
def Build.overflow : Build → Overflow
  | .debug => .panics
  | .release => .wraps

inductive Ending (ε α : Type) where
  | done (value : α)
  | failed (error : ε)
  | panicked (text : String)
deriving DecidableEq, Repr

abbrev Outcome (α : Type) := Ending Failure α

namespace Ending

def map (f : α → β) : Ending ε α → Ending ε β
  | done value => done (f value)
  | failed error => failed error
  | panicked text => panicked text

def bind (ending : Ending ε α) (next : α → Ending ε β) : Ending ε β :=
  match ending with
  | done value => next value
  | failed error => failed error
  | panicked text => panicked text

/-- The values of a list one after another, up to the first one that is none. -/
def forAll (f : α → Ending ε β) : List α → Ending ε (List β)
  | [] => done []
  | item :: rest => (f item).bind fun value => (forAll f rest).map (value :: ·)

def ofExcept : Except ε α → Ending ε α
  | .ok value => done value
  | .error error => failed error

end Ending

/-- The end of a job on the pool of blocking threads; a panic may have no text, and a job may never have begun. -/
inductive JobEnd (α : Type) where
  | ended (outcome : Outcome α)
  | panickedSilently
  | cancelled
deriving DecidableEq, Repr

namespace JobEnd

/-- What is said of a task that panicked; its number means nothing to anyone and is not told. -/
def panicDetail : Option String → String
  | some text => "JoinError::Panic(Id(N), " ++ Text.quoted text ++ ", ...)"
  | none => "JoinError::Panic(Id(N), ...)"

def panicFailure (label : String) (text : Option String) : Failure :=
  ((Failure.new "blocking_task_panicked" "blocking task panicked").withContext "joinError" (panicDetail text)).withContext
    "blockingTask" label

/-- The job's own result, or a failure that says how the job was lost. -/
def result (label : String) : JobEnd α → Except Failure α
  | ended (.done value) => .ok value
  | ended (.failed failure) => .error failure
  | ended (.panicked text) => .error (panicFailure label (some text))
  | panickedSilently => .error (panicFailure label none)
  | cancelled =>
    .error ((Failure.new "blocking_task_canceled" "blocking task was canceled").withContext "blockingTask" label)

end JobEnd

/-- The outcome of a job on the pool, as seen by the one who waits for it. -/
def onPool (label : String) (outcome : Outcome α) : Except Failure α := (JobEnd.ended outcome).result label

end AppGrants
