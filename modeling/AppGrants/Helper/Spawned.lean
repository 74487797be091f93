import AppGrants.Helper.Command
import AppGrants.Machine.World

/-! Commands that are spawned: they are given no input, and run to their end. -/
namespace AppGrants.Helper

open Machine Text

/-- More pauses than a command has. -/
def ample : Nat := 1000000

def spawnFailure (build : Build) (command : Command) (fault : String) : Failure :=
  ((Failure.ofRaised build (.ofText fault)).withCode "helper_command_spawn_failed" "failed to run system command"
    ).withContext "command" command.line

/-- What the command complained about is the cause. -/
def exitFailure (command : Command) (finish : Finish) (complaint : String) : Failure :=
  (((Failure.new "helper_command_failed" "system command exited with failure").withContext "command" command.line
    ).withContext "status" finish.statusText).withCause (trimmed complaint)

def spawnedRunner (build : Build) (spawn : Spawn) (caller : Job) : Runner World := fun command world =>
  let (output, prepared) := world.addSink
  let (errors, prepared) := prepared.addSink
  let job : Job := { caller with
    arguments := (command.program :: command.arguments).map octets
    descriptors := [(0, .nothing), (1, .sink output), (2, .sink errors)] }
  match spawn job { prepared with pauses := ample } with
  | .error fault => (.error (spawnFailure build command fault.message), world)
  | .ok (finish, after) =>
    let after := { after with pauses := world.pauses }
    if finish = .exited 0 then (.ok (textOfOctets (after.sink output)), after)
    else (.error (exitFailure command finish (textOfOctets (after.sink errors))), after)

end AppGrants.Helper
