import AppGrants.Machine.World
import AppGrants.Shell.Fields
import AppGrants.Shell.Grammar
import AppGrants.Text.Digit

/-! What a running shell holds, and how its commands come to an end. -/
namespace AppGrants.Shell

open Machine Text

structure Variable where
  value : Option (List Char)
  exported : Bool := false
  isFixed : Bool := false

/-- A command that runs beside the shell, with what it has still open. -/
structure BackgroundJob where
  number : Nat
  finish : Finish
  descriptors : Descriptors := []
  /-- Its end has been noticed. -/
  isSeen : Bool := false
  /-- It takes its time, so until someone waits for it a signal finds it still there. -/
  isSlow : Bool := false

/-- A shell as it stands between two commands. `name` is what it calls itself in its complaints. -/
structure Frame where
  name : List Char
  arguments : List (List Char) := []
  bindings : List (List Char × Variable) := []
  functions : List (List Char × Command) := []
  /-- Variables that a function has made its own, as they were before. -/
  shadowed : List (List Char × Option Variable) := []
  /-- How many functions are being carried out, each within the one before it. -/
  calls : Nat := 0
  descriptors : Descriptors := []
  folder : List String := []
  status : Nat := 0
  /-- The status of the last script whose output was put into a word. -/
  captured : Nat := 0
  line : Nat := 1
  /-- The command of the shell's own that is being carried out. -/
  running : Option (List Char) := none
  /-- Letters of the switches that are on. -/
  options : List Char := []
  /-- A failure is being looked at, so it does not end a strict shell. -/
  isTested : Bool := false
  /-- Nothing is left to do for the shell after this command. -/
  isLast : Bool := false
  loops : Nat := 0
  /-- What is done on a signal, or at the end of the shell under the number zero. -/
  traps : List (Nat × List Char) := []
  /-- The status from before such an action, which is what the shell ends with if the action ends it. -/
  kept : Option Nat := none
  /-- Where options are looked for in a word that has more of them, by the number of the next word. -/
  optionPlace : Option (Nat × Nat) := none
  mask : Nat := 0o22
  /-- Names of programs that have been found before. -/
  tracked : List (List Char) := []
  /-- The shell is a part of another one, which has its number. -/
  isPart : Bool := false
  jobs : List BackgroundJob := []

/-- Signals are pending until the command that is being carried out has ended. -/
structure State where
  frame : Frame
  world : World
  pending : List Nat := []

/-- Why the commands that follow are not run. -/
inductive Stop where
  /-- There is no shell any more, or it gets no further. -/
  | ended (finish : Finish)
  | exit (status : Nat)
  | fault
  | leave
  | breakOut (loops : Nat)
  | goOn (loops : Nat)

abbrev Run := ExceptT Stop (StateM State)

/-- The status after a fault. -/
def faultStatus : Nat := 2

/-- How a shell has come to its end. Of a status only the last eight bits are seen from outside. -/
def finishOf (result : Except Stop Unit) (frame : Frame) : Finish :=
  match result with
  | .error (.ended finish) => finish
  | .error (.exit status) => .exited (status % 256)
  | .error .fault => .exited faultStatus
  | _ => .exited (frame.status % 256)

/-- The number by which a shell knows itself; the commands beside it have those that follow. -/
def ownNumber : Nat := 2

def defaultSeparators : List Char := [' ', '\t', '\n']

def find? (name : List Char) (table : List (List Char × α)) : Option α := table.lookup name

def put (name : List Char) (value : α) (table : List (List Char × α)) : List (List Char × α) :=
  (name, value) :: table.filter (·.1 != name)

def digits (n : Nat) : List Char := Nat.toDigits 10 n

namespace Frame

def value? (frame : Frame) (name : List Char) : Option (List Char) :=
  (find? name frame.bindings).bind (·.value)

def separators (frame : Frame) : List Char := (frame.value? "IFS".toList).getD defaultSeparators

/-- The switches in the order in which they are shown. -/
def allOptions : List Char := "pubaCEVvxsnmiIfe".toList

def has (frame : Frame) (option : Char) : Bool := frame.options.contains option

def switch (frame : Frame) (option : Char) (isOn : Bool) : Frame :=
  let others := frame.options.filter (· != option)
  { frame with options := if isOn then option :: others else others }

/-- The value of a parameter that is one text. -/
def parameter? (frame : Frame) (name : List Char) : Option (List Char) :=
  match name with
  | ['#'] => some (digits frame.arguments.length)
  | ['?'] => some (digits frame.status)
  | ['$'] => some (digits ownNumber)
  | ['-'] => some (allOptions.filter frame.has)
  | ['!'] => frame.jobs.getLast?.map fun job => digits job.number
  | name =>
    if !name.all Char.isDigit then frame.value? name
    else match natOfDigits name with
      | 0 => some frame.name
      | place + 1 => frame.arguments[place]?

def assign (frame : Frame) (name value : List Char) : Frame :=
  let kept := (find? name frame.bindings).getD { value := none }
  let exported := kept.exported || frame.has 'a'
  { frame with bindings := put name { kept with value := some value, exported } frame.bindings }

def forget (frame : Frame) (name : List Char) : Frame :=
  { frame with bindings := frame.bindings.filter (·.1 != name) }

/-- A variable as it was before, or none at all. -/
def reset (frame : Frame) (name : List Char) (before : Option Variable) : Frame :=
  match before with
  | some kept => { frame with bindings := put name kept frame.bindings }
  | none => frame.forget name

/-- Changes how a variable is kept, whether it has a value or not. -/
def mark (frame : Frame) (name : List Char) (change : Variable → Variable) : Frame :=
  { frame with bindings := put name (change ((find? name frame.bindings).getD { value := none })) frame.bindings }

/-- The place of a variable among all of them, by which they are given to commands. -/
def placeOf (name : List Char) : Nat := name.foldl (fun sum c => sum + c.toNat) ((name.headD ' ').toNat * 16)

def places : Nat := 39

/-- What commands are given of the bindings. -/
def environment (frame : Frame) : List (String × List Char) :=
  let given := frame.bindings.reverse.filterMap fun (name, found) =>
    if found.exported then found.value.map (name, ·) else none
  let ordered := given.mergeSort fun a b => decide (placeOf a.1 % places ≤ placeOf b.1 % places)
  ordered.map fun (name, value) => (textOfOctets name, value)

def connect (frame : Frame) (descriptor : Nat) (target : Target) : Frame :=
  { frame with descriptors := (descriptor, target) :: frame.descriptors.filter (·.1 != descriptor) }

def disconnect (frame : Frame) (descriptor : Nat) : Frame :=
  { frame with descriptors := frame.descriptors.filter (·.1 != descriptor) }

/-- Keeps in mind that a program has been found by its name alone. -/
def track (frame : Frame) (name : List Char) : Frame :=
  if name.contains '/' || frame.tracked.contains name then frame else { frame with tracked := frame.tracked ++ [name] }

def changeJob (frame : Frame) (job : BackgroundJob) : Frame :=
  { frame with jobs := frame.jobs.map fun other => if other.number = job.number then job else other }

/-- The place in the script that a complaint is about. -/
def place (frame : Frame) : List Char :=
  joinWith (octets ": ") (frame.name :: digits frame.line :: frame.running.toList)

/-- The frame of a shell within this one, which only the signals that are ignored stay ignored in. -/
def part (frame : Frame) : Frame :=
  { frame with traps := frame.traps.filter (·.2.isEmpty), isLast := true, isPart := true }

/-- A shell ends without anything else if nothing is left to do for it. -/
def endsHere (frame : Frame) : Bool := frame.isLast && frame.traps.all (·.2.isEmpty)

end Frame

namespace Run

def frame : Run Frame := do return (← get).frame

def change (f : Frame → Frame) : Run Unit := modify fun state => { state with frame := f state.frame }

def onWorld (f : World → α × World) : Run α :=
  modifyGet fun state =>
    let (value, world) := f state.world
    (value, { state with world })

def setStatus (status : Nat) : Run Unit := change ({ · with status })

def stop (finish : Finish) : Run α := throw (.ended finish)

/-- What is never over keeps everyone waiting. -/
def endless : Run α := stop .pauses

def writeTo (descriptor : Nat) (text : List Char) : Run Bool := do
  let frame ← frame
  onWorld fun world => world.write (frame.descriptors.lookup descriptor) text

/-- Writes to the error output, with the place in the script before the text. -/
def complain (text : List Char) : Run Unit := do
  let _ ← writeTo 2 ((← frame).place ++ octets ": " ++ text ++ ['\n'])

/-- Writes what a command of the shell's own has to say. -/
def say (text : List Char) : Run Unit := do
  if ← writeTo 1 text then setStatus 0
  else
    complain ((← frame).running.getD [] ++ octets ": I/O error")
    setStatus 1

def refuse (text : List Char) (status : Nat) : Run Unit := do
  complain text
  setStatus status

/-- A fault that ends the shell, or the command of its own that it is found in. -/
def giveUp (text : List Char) : Run α := do
  complain text
  throw .fault

/-- Tells of the end of a command by a signal. -/
def tell (finish : Finish) : Run Unit := do
  match finish with
  | .killed signal =>
    if !Signal.endsQuietly signal then
      let _ ← writeTo 2 (octets (Signal.description signal) ++ ['\n'])
  | _ => pure ()

/-- The status of a command that is over; one that is not keeps the whole shell waiting. The end of one by a signal is
told, or is the end of the shell too where nothing is left to do. -/
def await (finish : Finish) : Run Unit := do
  change fun frame => { frame with
    jobs := frame.jobs.map fun job => { job with isSeen := job.isSeen || (job.finish.isOver && !job.isSlow) } }
  match finish with
  | .exited code => setStatus code
  | .killed _ => do
    if (← frame).endsHere then stop finish
    tell finish
    setStatus finish.code
  | finish => stop finish

/-- Variables that are read only keep their values. -/
def notFixed (name : List Char) : Run Unit := do
  if (find? name (← frame).bindings).any (·.isFixed) then giveUp (name ++ octets ": is read only")

def assign (name value : List Char) : Run Unit := do
  notFixed name
  change (·.assign name value)

/-- What is to be the name of a variable must be one. -/
def named (name : List Char) : Run Unit := do
  if !isName name then giveUp (name ++ octets ": bad variable name")

/-- Runs a body and puts back parts of the frame however it ends. -/
def keeping (putBack : Frame → Frame → Frame) (body : Run α) : Run α := fun state =>
  let (result, after) := body state
  (result, { after with frame := putBack state.frame after.frame })

/-- Runs a body in a shell of its own: of its frame only how it ended is left, and what it has still open. -/
def apart (body : Run Unit) : Run (Finish × Descriptors) := fun state =>
  let (result, after) := body { state with frame := state.frame.part }
  let finish := finishOf result after.frame
  let left := if finish.isOver then [] else after.frame.descriptors
  (.ok (finish, left), { after with frame := state.frame, world := after.world.hold left })

/-- A failure in the body is looked at, so it ends nothing. -/
def tested (body : Run Unit) : Run Unit :=
  keeping (fun before after => { after with isTested := before.isTested, isLast := before.isLast })
    (do
      change ({ · with isTested := true, isLast := false })
      body)

/-- Something is left to do after the body. -/
def first (body : Run α) : Run α :=
  keeping (fun before after => { after with isLast := before.isLast })
    (do
      change ({ · with isLast := false })
      body)

/-- After a command: a failure that nothing looks at ends a strict shell. -/
def strictly : Run Unit := do
  let frame ← frame
  if frame.has 'e' && !frame.isTested && frame.status != 0 then throw (.exit frame.status)

/-- One round of a loop: whether there may be another one. -/
def round (body : Run Bool) : Run Bool := fun state =>
  match body state with
  | (.error (.breakOut loops), after) => (if loops ≤ 1 then .ok false else .error (.breakOut (loops - 1)), after)
  | (.error (.goOn loops), after) => (if loops ≤ 1 then .ok true else .error (.goOn (loops - 1)), after)
  | other => other

/-- The commands of a loop, which may be left. -/
def looping (body : Run Unit) : Run Unit :=
  keeping (fun before after => { after with loops := before.loops })
    (do
      change fun frame => { frame with loops := frame.loops + 1 }
      first body)

/-- The body of a function, which may be left early. -/
def leaving (body : Run Unit) : Run Unit := fun state =>
  match body state with
  | (.error .leave, after) => (.ok (), after)
  | other => other

/-- A fault in a command of the shell's own is the end of that command only. -/
def guarded (body : Run Unit) : Run Unit := fun state =>
  match body state with
  | (.error .fault, after) => (.ok (), { after with frame := { after.frame with status := faultStatus } })
  | other => other

/-- Runs a body as the command of the name. -/
def within (name : List Char) (body : Run Unit) : Run Unit :=
  keeping (fun before after => { after with running := before.running })
    (do
      change ({ · with running := some name })
      body)

end Run
end AppGrants.Shell
