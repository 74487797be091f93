import AppGrants.Shell.Builtin.Basic

/-! Commands about signals and about the commands that run beside the shell. -/
namespace AppGrants.Shell.Builtin

open Machine Text

def killUsage : List Char := octets
  "Usage: kill [-s sigspec | -signum | -sigspec] [pid | job]... or\nkill -l [exitstatus]"

def noProcess : Run Bool := do
  Run.complain (octets "No such process\n")
  return false

/-- What a signal does to the shell: what it has said itself, or what the signal does to any command. A part of a shell
sends it to the whole shell, which looks at it later. -/
def sendOwn (signal : Nat) : Run Bool := do
  let frame ← Run.frame
  if signal = 0 then return true
  let action := if Signal.isSure signal then none else frame.traps.lookup signal
  if frame.isPart || action.any (!·.isEmpty) then
    modify fun state => { state with pending := state.pending ++ [signal] }
    return true
  if action.isSome then return true
  match Signal.effect signal with
  | .nothing => return true
  | .holds => Run.stop .pauses
  | .ends => Run.stop (.killed signal)

/-- What a signal does to a command beside the shell, which is over already or still has something open. -/
def sendJob (signal : Nat) (job : BackgroundJob) : Run Bool := do
  if job.isSeen then noProcess
  else
    if (job.isSlow || !job.finish.isOver) && Signal.effect signal = .ends then
      modify fun state => { state with world := state.world.release job.descriptors }
      Run.change (·.changeJob { job with finish := .killed signal, descriptors := [], isSlow := false })
    return true

/-- A job by its sign: the last one, the one before it, or one by its place. -/
def jobOfSign (text : List Char) : Run BackgroundJob := do
  let jobs := (← Run.frame).jobs
  let orElse (job : Option BackgroundJob) (fault : List Char) : Run BackgroundJob :=
    match job with
    | some job => pure job
    | none => Run.giveUp fault
  match text.drop 1 with
  | [] | ['%'] | ['+'] => orElse jobs.getLast? (octets "No current job")
  | ['-'] => orElse (jobs.reverse[1]?) (octets "No previous job")
  | sign =>
    let place := natOfDigits? sign
    orElse (place.bind fun place => if place = 0 then none else jobs[place - 1]?) (octets "No such job: " ++ text)

/-- Sends a signal to commands by their numbers or signs. The groups that signs stand for are there only where someone
looks after the jobs. -/
def sendAll (signal status : Nat) : List (List Char) → Run Unit
  | [] => Run.setStatus status
  | text :: rest => do
    let sent ← match text with
      | '%' :: _ =>
        let _ ← jobOfSign text
        noProcess
      | '-' :: digits =>
        let _ ← number digits
        noProcess
      | text =>
        let wanted ← number text
        match (← Run.frame).jobs.find? (·.number = wanted) with
        | some job => sendJob signal job
        | none => if wanted = ownNumber || wanted = 0 then sendOwn signal else noProcess
    sendAll signal (if sent then status else 1) rest

/-- The names of all signals, or of the one that a command ended with. -/
def listSignals : List (List Char) → Run Unit
  | [] => Run.say (octets "0\n" ++ (List.range Signal.last).flatMap fun n => octets (Signal.label (n + 1) ++ "\n"))
  | text :: _ => do
    let status ← number text
    let signal := if status > 128 then status - 128 else status
    if 0 < signal && signal ≤ Signal.last then Run.say (octets (Signal.label signal ++ "\n"))
    else Run.giveUp (octets "invalid signal number or exit status: " ++ text)

def kill : Body := fun arguments => do
  let plain : Option (Nat × List (List Char)) := match arguments with
    | ('-' :: name) :: rest => (Signal.ofText? name).map (·, rest)
    | _ => none
  let send (signal : Nat) (numbers : List (List Char)) : Run Unit :=
    if numbers.isEmpty then Run.giveUp killUsage else sendAll signal 0 numbers
  match plain, arguments with
  | _, [] => Run.giveUp killUsage
  | some (signal, numbers), _ => send signal numbers
  | none, arguments => do
    let options ← options "l" "s" arguments
    match options.text? 's' with
    | none => if options.has 'l' then listSignals options.operands else send 15 options.operands
    | some text =>
      match Signal.ofText? text with
      | none => Run.giveUp (octets "invalid signal number or name: " ++ text)
      | some signal => if options.has 'l' then listSignals options.operands else send signal options.operands

/-- Waits for one job; the end of it by a signal is told if nobody has noticed it before. -/
def waitFor (job : BackgroundJob) : Run Unit := do
  if !job.finish.isOver then Run.stop job.finish
  if !job.isSeen then Run.tell job.finish
  Run.change (·.changeJob { job with isSeen := true })
  Run.setStatus job.finish.code

def wait : Body := fun arguments => do
  let options ← options "" "" arguments
  if options.operands.isEmpty then
    match (← Run.frame).jobs.find? (!·.finish.isOver) with
    | some job => Run.stop job.finish
    | none =>
      Run.change fun frame => { frame with jobs := frame.jobs.map ({ · with isSeen := true }) }
      Run.setStatus 0
  else
    options.operands.forM fun text => do
      if text.head? = some '%' then waitFor (← jobOfSign text)
      else
        let wanted ← number text
        match (← Run.frame).jobs.find? (·.number = wanted) with
        | some job => waitFor job
        | none => Run.setStatus 127

/-! What is done on a signal. -/

def trapLabel (signal : Nat) : String := if signal = 0 then "EXIT" else Signal.label signal

def trapNumber? (text : List Char) : Option Nat :=
  if text.map Char.toUpper = "EXIT".toList then some 0 else Signal.ofText? text

/-- Sets what is done on the signals, up to the first one that there is not. -/
def setTraps (action : Option (List Char)) : List (List Char) → Run Unit
  | [] => Run.setStatus 0
  | text :: rest => do
    match trapNumber? text with
    | none =>
      let _ ← Run.writeTo 2 (octets "trap: " ++ text ++ octets ": bad trap\n")
      Run.setStatus 1
    | some signal =>
      Run.change fun frame =>
        let others := frame.traps.filter (·.1 != signal)
        { frame with traps := (action.map (signal, ·)).toList ++ others }
      setTraps action rest

def trap : Body := fun arguments => do
  let options ← options "" "" arguments
  match options.operands with
  | [] =>
    let traps := (← Run.frame).traps.mergeSort fun a b => decide (a.1 ≤ b.1)
    Run.say (traps.flatMap fun (signal, action) =>
      octets "trap -- " ++ quoted action ++ octets (" " ++ trapLabel signal ++ "\n"))
  | [signal] => setTraps none [signal]
  | action :: signals =>
    if (natOfDigits? action).any (· ≤ Signal.last) then setTraps none (action :: signals)
    else setTraps (if action = ['-'] then none else some action) signals

end AppGrants.Shell.Builtin
