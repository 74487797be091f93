import AppGrants.Machine.World
import AppGrants.Text.Utf8

/-! A command that is talked to line by line. A command does the same on the same input, so at every moment it is where it
gets when it is run from its beginning on all that it was told so far. -/
namespace AppGrants.Machine

open Text

structure Dialogue where
  job : Job
  /-- The world in which the command was started, with the ends of its input and its output. -/
  origin : World
  input : Nat
  output : Nat
  told : List Char := []
  /-- How much of its output has been read. -/
  taken : Nat := 0
  pauses : Nat := 0
  finish : Finish
  world : World

namespace Dialogue

/-- Runs the command again from its beginning, unless it is over. -/
def advance (spawn : Spawn) (dialogue : Dialogue) : Dialogue :=
  if dialogue.finish.isOver then dialogue
  else
    let origin := { dialogue.origin.setSource dialogue.input ⟨dialogue.told, true⟩ with pauses := dialogue.pauses }
    match spawn dialogue.job origin with
    | .ok (finish, world) => { dialogue with finish, world }
    | .error _ => dialogue

/-- A command that was started has not done anything yet. -/
def start (spawn : Spawn) (caller : Job) (command : List String) (world : World) : Except Files.FileFault Dialogue := do
  let (input, world) := world.addSource [] true
  let (output, world) := world.addSink
  let errors := (caller.descriptors.lookup 2).toList.map (2, ·)
  let job : Job := { caller with
    arguments := command.map octets, descriptors := [(0, .source input), (1, .sink output)] ++ errors }
  let _ ← spawn job world
  .ok { job, origin := world, input, output, finish := .pauses, world := world.hold job.descriptors }

def status? (dialogue : Dialogue) : Option String :=
  if dialogue.finish.isOver then some dialogue.finish.statusText else none

/-- What is written stays unread until the command goes on. -/
def write (text : String) (dialogue : Dialogue) : Except String Unit × Dialogue :=
  if dialogue.world.held.contains (.source dialogue.input) then
    (.ok (), { dialogue with told := dialogue.told ++ octets text })
  else (.error "Broken pipe (os error 32)", dialogue)

def pass (dialogue : Dialogue) : Dialogue := { dialogue with pauses := dialogue.pauses + 1 }

/-- How many pauses a reader waits for at most. -/
def patience : Nat := 200

/-- Goes on until there is a line, or the end of the output. -/
def awaitLine (spawn : Spawn) : Nat → Dialogue → List Char × Dialogue
  | 0, dialogue => ([], dialogue)
  | fuel + 1, dialogue =>
    let reached := dialogue.advance spawn
    let unread := (reached.world.sink reached.output).drop reached.taken
    let line := unread.takeWhile (· != '\n')
    if line.length < unread.length then (line ++ ['\n'], { reached with taken := reached.taken + line.length + 1 })
    else if reached.world.held.contains (.sink reached.output) then awaitLine spawn fuel reached.pass
    else (line, { reached with taken := reached.taken + line.length })

/-- No line is the end of the output. -/
def readLine (spawn : Spawn) (dialogue : Dialogue) : Except String (Option String) × Dialogue :=
  let (line, dialogue) := awaitLine spawn patience dialogue
  match line, ofUtf8? (bytesOfOctets line) with
  | [], _ => (.ok none, dialogue)
  | _, some text => (.ok (some text), dialogue)
  | _, none => (.error Files.FileFault.notText.message, dialogue)

def kill (dialogue : Dialogue) : Dialogue :=
  if dialogue.finish.isOver then dialogue else { dialogue with finish := .killed 9 }

def awaitEnd (spawn : Spawn) : Nat → Dialogue → Dialogue
  | 0, dialogue => dialogue
  | fuel + 1, dialogue =>
    let reached := dialogue.advance spawn
    if reached.finish.isOver then reached else awaitEnd spawn fuel reached.pass

end Dialogue
end AppGrants.Machine
