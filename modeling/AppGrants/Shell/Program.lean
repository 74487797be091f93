import AppGrants.Shell.Run

/-! The shell as a program: its switches, and the script, which is an argument, a file, or the input. -/
namespace AppGrants.Shell

open Machine Text

/-- Variables that every shell has, with those of its environment. -/
def bindingsOf (job : Job) : List (List Char × Variable) :=
  let own := [("IFS", defaultSeparators), ("OPTIND", ['1']), ("PS1", octets "# "), ("PS2", octets "> "), ("PS4", octets "+ ")]
  let replaced := own.map (·.1) ++ ["PWD"]
  let given := job.environment.filter fun (name, _) => isName (octets name) && !replaced.contains name
  let path := if given.any (·.1 == "PATH") then [] else [("PATH", octets commonPath)]
  let bindings := (path ++ own).map (fun (name, value) => (octets name, { value := some value : Variable })) ++
    (given ++ [("PWD", Builtin.pathOf job.folder)]).map fun (name, value) =>
      (octets name, { value := some value, exported := true : Variable })
  bindings.reverse

/-- What a shell has to run. -/
inductive Script where
  | argument (text : List Char)
  | file (path : List Char)
  | input

/-- The switch of a shell whose script is an argument. -/
def isArgument : Char := 'c'

/-- Reads the words of the command line: the name and the arguments of the script, and the script. -/
def start (words : List (List Char)) : Run Script := do
  let name := (← Run.frame).name
  let left := (← Builtin.switches [isArgument, 'l'] (words.length + 1) words).getD []
  if (← Run.frame).has isArgument then
    match left with
    | [] => Run.giveUp (octets "-c requires an argument")
    | script :: rest =>
      Run.change ({ · with name := rest.headD name, arguments := rest.tail })
      return .argument script
  else if (← Run.frame).has 's' || left.isEmpty then
    Run.change fun frame => { frame.switch 's' true with arguments := left }
    return .input
  else
    Run.change ({ · with name := left.headD name, arguments := left.tail })
    return .file (left.headD [])

/-- A shell from its beginning to its end. -/
def program (spawn : Spawn) (job : Job) (world : World) : Finish × World :=
  let name := job.arguments.headD []
  let frame : Frame := {
    name, bindings := bindingsOf job, descriptors := job.descriptors, folder := job.folder, line := 0 }
  let (result, state) := start job.arguments.tail { frame, world }
  let run (script : List Char) (world : World) : Finish × World :=
    interpret spawn { state.frame with line := 1 } script world
  match result with
  | .error stop => (finishOf (.error stop) state.frame, state.world)
  | .ok (.argument text) => run text state.world
  | .ok (.file path) =>
    match Connection.openForReading path state with
    | .ok (target, world) =>
      let (source, world) := world.readAll (some target)
      run source.rest world
    | .error fault =>
      let (_, state) := Run.complain (Connection.faultText .read path fault) { state with frame }
      (.exited faultStatus, state.world)
  | .ok .input =>
    let (source, world) := state.world.readAll (job.descriptors.lookup 0)
    let (finish, world) := run source.rest world
    if source.more && finish.isOver then (.awaitsInput, world.hold job.descriptors) else (finish, world)

end AppGrants.Shell
