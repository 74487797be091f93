import AppGrants.Shell.Builtin
import AppGrants.Shell.Connection
import AppGrants.Shell.Expansion

/-! Carrying out the commands of a script. Commands that are not the shell's own are left to whatever spawns them. -/
namespace AppGrants.Shell

open Machine Text

namespace Run

/-- Starts a program, or tells why it cannot be started. A file that is no program is a script for another shell. -/
def launch (spawn : Spawn) (arguments : List (List Char)) : Run (Except Files.FileFault Finish) := do
  let state ← get
  let name := arguments.headD []
  let job : Job := {
    arguments, environment := state.frame.environment, folder := state.frame.folder
    descriptors := state.frame.descriptors }
  let started := match spawn job state.world with
    | .error .notProgram =>
      let path := (Builtin.program? name state.frame state.world).getD name
      spawn { job with arguments := octets "/bin/sh" :: path :: arguments.tail } state.world
    | started => started
  match started with
  | .ok (finish, world) =>
    set { state with world }
    change (·.track name)
    return .ok finish
  | .error fault =>
    let fault := if name.isEmpty || fault = .isFolder then .denied else fault
    complain (name ++ octets (": " ++ if fault = .missing || fault = .notFolder then "not found" else fault.reason))
    return .error fault

/-- The status for a program that cannot be started. -/
def launchStatus (fault : Files.FileFault) : Nat :=
  if fault matches .missing | .notFolder | .nameTooLong | .tooManyLevels then 127 else 126

/-- How many functions may be carried out within each other. -/
def mostCalls : Nat := 1000

/-- A function has arguments of its own, and its own variables end with it. -/
def calling (arguments : List (List Char)) (body : Run Unit) : Run Unit :=
  keeping (fun before after =>
      let restored := after.shadowed.foldl (fun frame (name, kept) => frame.reset name kept) after
      { restored with
        arguments := before.arguments, shadowed := before.shadowed, calls := before.calls
        loops := before.loops, isLast := before.isLast, optionPlace := before.optionPlace })
    (leaving do
      let calls := (← frame).calls
      if calls ≥ mostCalls then giveUp (octets ("Maximum function recursion depth (" ++ toString mostCalls ++ ") reached"))
      change ({ · with
        arguments, shadowed := [], calls := calls + 1, loops := 0, isLast := false, optionPlace := none })
      body)

/-- How a simple command is found by its words. -/
inductive Callee where
  | nothing
  | function (body : Command)
  | builtin (name : List Char) (body : Builtin.Body)
  /-- Commands that run other commands. -/
  | eval
  | exec
  | dot
  | program

/-- The words of a command that is named after the word `command`, unless that is to tell something itself. -/
def afterCommand : List (List Char) → Option (List (List Char))
  | [] => none
  | ['-', '-'] :: rest => if rest.isEmpty then none else some rest
  | ('-' :: letter :: letters) :: rest => if (letter :: letters).all (· == 'p') then afterCommand rest else none
  | words => some words

/-- The command with its words, and whether its faults end the shell. -/
def callee (frame : Frame) (mayBeFunction : Bool) (isSpecial : Option Bool) :
    Nat → List (List Char) → Callee × Bool × List (List Char)
  | 0, words => (.nothing, false, words)
  | _, [] => (.nothing, false, [])
  | fuel + 1, name :: arguments =>
    let words := name :: arguments
    let special := isSpecial.getD (Builtin.isSpecial name)
    match if mayBeFunction then find? name frame.functions else none, String.ofList name with
    | some body, _ => (.function body, false, words)
    | none, "eval" => (.eval, special, words)
    | none, "exec" => (.exec, special, words)
    | none, "." => (.dot, special, words)
    | none, "command" =>
      match afterCommand arguments with
      | some words => callee frame false (some false) fuel words
      | none => (.builtin name Builtin.command, special, words)
    | none, _ =>
      match Builtin.body? name with
      | some body => (.builtin name body, special, words)
      | none => (.program, isSpecial.getD false, words)

/-- The file that is to be run as a part of the script: without a slash it is looked for like a program. -/
def partOf (name : List Char) (state : State) : Option (List Char) :=
  if name.contains '/' then some name
  else
    let folders := parts (· == ':') ((state.frame.value? "PATH".toList).getD [])
    (folders.map fun folder => if folder.isEmpty then name else folder ++ '/' :: name).find? fun path =>
      match state.world.tree.find state.frame.folder (textOfOctets path) with
      | .ok node => node.isFile
      | .error _ => false

/-- Shows a command before it is carried out. -/
def trace (errors : Option Target) (assigned : List (List Char × List Char)) (words : List (List Char)) : Run Unit := do
  let frame ← frame
  if frame.has 'x' then
    let sign := (frame.value? "PS4".toList).getD []
    let shown := assigned.map (fun (name, value) => name ++ '=' :: value) ++ words
    let _ ← onWorld fun world => world.write errors (sign ++ joinWith [' '] shown ++ ['\n'])

/-- The status at the end of a body, unless there is no shell any more. -/
def statusAfter (body : Run Unit) : Run Nat := fun state =>
  match body state with
  | (.error (.ended finish), after) => (.error (.ended finish), after)
  | (.error (.exit status), after) => (.ok status, after)
  | (.error .fault, after) => (.ok faultStatus, after)
  | (_, after) => (.ok after.frame.status, after)

/-- Runs a body at the end of a shell, which ends with its status unless the body says otherwise. -/
def afterwards (status : Nat) (body : Run Unit) : Run Unit := fun state =>
  match body state with
  | (.error (.ended finish), after) => (.error (.ended finish), after)
  | (.error (.exit other), after) => (.error (.exit other), after)
  | (_, after) => (.error (.exit status), after)

end Run

open Run in
mutual

/-- The output of commands. -/
def capture (spawn : Spawn) : Nat → Capture
  | 0, _ => endless
  | fuel + 1, body => do
    let number ← onWorld World.addSink
    let (finish, _) ← apart (ending spawn fuel do
      change (·.connect 1 (.sink number))
      run spawn fuel body)
    if !finish.isOver then stop finish
    tell finish
    let world := (← get).world
    if world.held.contains (.sink number) then endless
    change ({ · with captured := finish.code })
    let text := (world.sink number).filter (· != '\x00')
    return (text.reverse.dropWhile (· == '\n')).reverse

/-- The words of a command. Those of some commands are not split if they are assignments. -/
def wordsOf (spawn : Spawn) : Nat → List (List Char) → List Word → Run (List (List Char))
  | 0, _, _ => endless
  | _, found, [] => pure found
  | fuel + 1, found, word :: rest => do
    let name := (found.dropWhile fun text => text = "command".toList || text.head? = some '-').headD []
    let fields ← match word.assignment? with
      | some assignment =>
        if Builtin.keepsWords name then
          let value ← Expansion.assignment (capture spawn fuel) fuel assignment
          pure [assignment.name ++ '=' :: value]
        else Expansion.fields (capture spawn fuel) fuel word
      | none => Expansion.fields (capture spawn fuel) fuel word
    wordsOf spawn fuel (found ++ fields) rest

/-- Makes redirections; whether all could be made. -/
def connect (spawn : Spawn) : Nat → List Redirection → Run Bool
  | 0, _ => endless
  | fuel + 1, redirections => do
    let requests ← redirections.mapM fun redirection => do
      let content ← Expansion.text (capture spawn fuel) fuel redirection.word
      let request : Connection.Request := ⟨redirection.descriptor, redirection.direction, content⟩
      Connection.check request
      return request
    Connection.makeAll requests

/-- Runs a body with assignments; unless they stay they are put back after it. -/
def assigning (spawn : Spawn) : Nat → (stays exported : Bool) → List Assignment →
    (List (List Char × List Char) → Run Unit) → Run Unit
  | 0, _, _, _, _ => endless
  | fuel + 1, stays, exported, assignments, body => do
    let putBack (before after : Frame) : Frame :=
      if stays then after
      else assignments.foldl (fun frame assignment =>
        frame.reset assignment.name (find? assignment.name before.bindings)) after
    keeping putBack do
      let assigned ← assignments.mapM fun assignment => do
        let value ← Expansion.assignment (capture spawn fuel) fuel assignment
        assign assignment.name value
        if exported then change (·.mark assignment.name ({ · with exported := true }))
        return (assignment.name, value)
      body assigned

def runSimple (spawn : Spawn) : Nat → List Assignment → List Word → List Redirection → Run Unit
  | 0, _, _, _ => endless
  | fuel + 1, assignments, words, redirections => do
    change ({ · with captured := 0 })
    let words ← wordsOf spawn fuel [] words
    let before ← frame
    let (callee, isSpecial, called) := callee before true none (words.length + 1) words
    let stays := isSpecial || words.isEmpty
    let keepsOpen := callee matches .exec
    keeping (fun before after => if keepsOpen then after else { after with descriptors := before.descriptors }) do
      if ← connect spawn fuel redirections then
        let exported := !stays || (keepsOpen && called.length > 1)
        assigning spawn fuel stays exported assignments fun assigned => do
          trace (before.descriptors.lookup 2) assigned words
          call spawn fuel callee isSpecial called
      else
        setStatus faultStatus
        if isSpecial then throw .fault

/-- Carries out a command that has been found. -/
def call (spawn : Spawn) : Nat → Callee → Bool → List (List Char) → Run Unit
  | 0, _, _, _ => endless
  | fuel + 1, callee, isSpecial, words => do
    let name := words.headD []
    let arguments := words.tail
    let own (body : Run Unit) : Run Unit := if isSpecial then within name body else guarded (within name body)
    match callee with
    | .nothing => setStatus (← frame).captured
    | .function body => calling arguments (run spawn fuel body)
    | .builtin _ body => own (body arguments)
    | .eval => own (first do
      if !(← runScript spawn fuel false { rest := joinWith [' '] arguments }) then setStatus 0)
    | .exec => own (do
      if arguments.isEmpty then setStatus 0
      else match ← launch spawn arguments with
        | .error fault => throw (.exit (launchStatus fault))
        | .ok finish => stop finish)
    | .dot => own (first do
      match arguments with
      | [] => setStatus 0
      | file :: _ =>
        let state ← get
        match partOf file state with
        | none => giveUp (file ++ octets ": not found")
        | some path =>
          match Connection.openForReading path state with
          | .error fault => giveUp (Connection.faultText .read path fault)
          | .ok (target, world) =>
            let (source, _) := world.readAll (some target)
            within path (leaving do
              change ({ · with isTested := false })
              if !(← runScript spawn fuel false { rest := source.rest }) then setStatus 0))
    | .program =>
      match ← launch spawn words with
      | .error fault => setStatus (if fault = .denied && !name.contains '/' then 127 else launchStatus fault)
      | .ok finish => await finish

def run (spawn : Spawn) : Nat → Command → Run Unit
  | 0, _ => endless
  | fuel + 1, command => do
    if (← frame).has 'n' then return
    match command with
    | .nothing => pure ()
    | .simple line assignments words redirections =>
      change ({ · with line })
      runSimple spawn fuel assignments words redirections
      settle spawn fuel
      strictly
    | .redirected line (.subshell body) redirections =>
      change ({ · with line })
      subshell spawn fuel do
        if ← connect spawn fuel redirections then run spawn fuel body else throw .fault
    | .redirected line body redirections =>
      change ({ · with line })
      keeping (fun before after => { after with descriptors := before.descriptors }) do
        if ← connect spawn fuel redirections then first (run spawn fuel body)
        else
          setStatus faultStatus
          strictly
    | .subshell body => subshell spawn fuel (run spawn fuel body)
    | .sequence before after =>
      first (run spawn fuel before)
      run spawn fuel after
    | .andThen before after =>
      tested (run spawn fuel before)
      if (← frame).status = 0 then run spawn fuel after
    | .orElse before after =>
      tested (run spawn fuel before)
      if (← frame).status != 0 then run spawn fuel after
    | .negated body =>
      tested (run spawn fuel body)
      setStatus (if (← frame).status = 0 then 1 else 0)
    | .pipe left right =>
      let number ← onWorld World.addSink
      let (begun, _) ← apart (ending spawn fuel do
        change (·.connect 1 (.sink number))
        run spawn fuel left)
      let world := (← get).world
      let source ← onWorld (·.addSource (world.sink number) (world.held.contains (.sink number)))
      let (finish, _) ← apart (ending spawn fuel do
        change (·.connect 0 (.source source))
        run spawn fuel right)
      if !begun.isOver then stop begun
      tell begun
      first (await finish)
      settle spawn fuel
      strictly
    | .background body =>
      let before ← get
      let (finish, descriptors) ← apart (ending spawn fuel do
        change (·.connect 0 .nothing)
        tested (run spawn fuel body))
      let number := ownNumber + 1 + before.frame.jobs.length
      let isSlow := (← get).world.pauses < before.world.pauses
      change fun frame => { frame with jobs := frame.jobs ++ [{ number, finish, descriptors, isSlow }] }
      setStatus 0
    | .choice condition body other =>
      tested (run spawn fuel condition)
      if (← frame).status = 0 then run spawn fuel body
      else match other with
        | .nothing => setStatus 0
        | other => run spawn fuel other
    | .loop untilTrue condition body => looping (runLoop spawn fuel untilTrue 0 condition body)
    | .each line name words body =>
      change ({ · with line })
      let values ← match words with
        | some words => wordsOf spawn fuel [] words
        | none => pure (← frame).arguments
      if values.isEmpty then setStatus 0 else looping (runEach spawn fuel name body values)
    | .select line word branches =>
      change ({ · with line })
      runBranches spawn fuel (← Expansion.text (capture spawn fuel) fuel word) branches
    | .define name body =>
      change fun frame => { frame with functions := put name body frame.functions }
      setStatus 0

def subshell (spawn : Spawn) : Nat → Run Unit → Run Unit
  | 0, _ => endless
  | fuel + 1, body => do
    await (← apart (ending spawn fuel body)).1
    settle spawn fuel
    strictly

/-- A loop that goes on while its condition holds; its status is that of the body's last round. -/
def runLoop (spawn : Spawn) : Nat → Bool → Nat → Command → Command → Run Unit
  | 0, _, _, _, _ => endless
  | fuel + 1, untilTrue, last, condition, body => do
    let again ← round do
      tested (run spawn fuel condition)
      if ((← frame).status = 0) = untilTrue then
        setStatus last
        pure false
      else
        run spawn fuel body
        pure true
    if again then runLoop spawn fuel untilTrue (← frame).status condition body

def runEach (spawn : Spawn) : Nat → List Char → Command → List (List Char) → Run Unit
  | 0, _, _, _ => endless
  | _, _, _, [] => pure ()
  | fuel + 1, name, body, value :: rest => do
    assign name value
    let again ← round do
      run spawn fuel body
      pure true
    if again then runEach spawn fuel name body rest

/-- The first branch with a pattern that stands for the text. -/
def runBranches (spawn : Spawn) : Nat → List Char → List (List Word × Command) → Run Unit
  | 0, _, _ => endless
  | _, _, [] => setStatus 0
  | fuel + 1, text, (patterns, body) :: rest => do
    let meant ← patterns.anyM fun pattern => return fits (← Expansion.pattern (capture spawn fuel) fuel pattern) text
    if !meant then runBranches spawn fuel text rest
    else match body with
      | .nothing => setStatus 0
      | body => run spawn fuel body

/-- Runs what is left of a script, one line of commands after another; whether there was any command. -/
def runScript (spawn : Spawn) : Nat → Bool → Cursor → Run Bool
  | 0, _, _ => endless
  | fuel + 1, any, cursor => do
    match cursor.command? with
    | .error fault =>
      change ({ · with line := fault.line })
      giveUp (octets ("Syntax error: " ++ fault.cause.message))
    | .ok (none, _) => return any
    | .ok (some .nothing, rest) => runScript spawn fuel any rest
    | .ok (some command, rest) =>
      first (run spawn fuel command)
      runScript spawn fuel true rest

/-- Does what is to be done on the signals that have come. The status stays what it was. -/
def settle (spawn : Spawn) : Nat → Run Unit
  | 0 => endless
  | fuel + 1 => do
    let state ← get
    if !state.frame.isPart then
      set { state with pending := [] }
      (state.pending.eraseDups.mergeSort (fun a b => decide (a ≤ b))).forM fun signal => do
        let before ← frame
        match if Signal.isSure signal then none else before.traps.lookup signal with
        | some action =>
          change ({ · with kept := some (before.kept.getD before.status) })
          first (discard (runScript spawn fuel false { rest := action }))
          change ({ · with kept := before.kept, status := before.status })
        | none =>
          match Signal.effect signal with
          | .nothing => pure ()
          | .holds => endless
          | .ends => stop (.killed signal)

/-- Runs a body as all that a shell does; what is to be done at the end of it comes after it. -/
def ending (spawn : Spawn) : Nat → Run Unit → Run Unit
  | 0, _ => endless
  | fuel + 1, body => do
    let status ← statusAfter body
    match (← frame).traps.lookup 0 with
    | some action =>
      change fun frame =>
        { frame with traps := frame.traps.filter (·.1 != 0), status, kept := some status, isLast := false }
      afterwards status (first (discard (runScript spawn fuel false { rest := action })))
    | none => throw (.exit status)

end

/-- How deep commands may stand within each other, and how often a loop may go round. -/
def depth : Nat := 10000

/-- A shell that runs a script to its end, or as far as it gets. -/
def interpret (spawn : Spawn) (frame : Frame) (script : List Char) (world : World) : Finish × World :=
  let (result, after) := ending spawn depth (discard (runScript spawn depth false { rest := script })) { frame, world }
  let finish := finishOf result after.frame
  (finish, if finish.isOver then after.world else after.world.hold after.frame.descriptors)

end AppGrants.Shell
