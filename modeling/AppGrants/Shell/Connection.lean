import AppGrants.Shell.Frame
import AppGrants.Text.Digit

/-! Where the input and the output of a command are led: files, texts, and what other descriptors stand for. -/
namespace AppGrants.Shell.Connection

open Machine Text

/-- A redirection with its word carried out. -/
structure Request where
  descriptor : Nat
  direction : Direction
  content : List Char

/-- Why a file could not be opened, as the shell tells it. -/
def faultText (direction : Direction) (path : List Char) (fault : Files.FileFault) : List Char :=
  let reason := match fault, direction with
    | .missing, .read | .notFolder, .read => "No such file"
    | .missing, _ | .notFolder, _ => "Directory nonexistent"
    | fault, _ => fault.reason
  octets (if direction = .read then "cannot open " else "cannot create ") ++ path ++ octets (": " ++ reason)

/-- A file to be read; of a folder there is nothing to read. -/
def openForReading (path : List Char) (state : State) : Except Files.FileFault (Target × World) := do
  match ← state.world.tree.find state.frame.folder (textOfOctets path) with
  | .file content _ =>
    let (number, world) := state.world.addSource (octetsOfBytes content) false
    .ok (.source number, world)
  | .folder => .ok (.nothing, state.world)

/-- A file to be written; a shell that spares files does not take one that is there. -/
def openForWriting (direction : Direction) (spares : Bool) (path : List Char) (state : State) :
    Except Files.FileFault (Target × World) :=
  let folder := state.frame.folder
  match state.world.openFile folder (textOfOctets path) (direction = .append || direction = .both) with
  | .ok (.file names, world) =>
    if spares && ((state.world.tree.node? names).any Files.Node.isFile) then .error .exists else .ok (.file names, world)
  | opened => opened

/-- What a path stands for, if it is no file of the tree. -/
def device? (frame : Frame) (path : List Char) : Option (Option Target) :=
  match String.ofList path with
  | "/dev/stdin" => some (frame.descriptors.lookup 0)
  | "/dev/stdout" => some (frame.descriptors.lookup 1)
  | "/dev/stderr" => some (frame.descriptors.lookup 2)
  | _ => none

/-- The target of a path, or a complaint. -/
def openPath (direction : Direction) (path : List Char) : Run (Option Target) := do
  let state ← get
  match device? state.frame path with
  | some target => return target
  | none =>
    let spares := direction = Direction.write && state.frame.has 'C'
    let opened := if direction = .read then openForReading path state else openForWriting direction spares path state
    match opened with
    | .ok (target, world) =>
      set { state with world }
      return some target
    | .error fault =>
      Run.complain (faultText direction path fault)
      return none

/-- Connects a descriptor as asked for; whether that could be done. -/
def make (request : Request) : Run Bool := do
  match request.direction with
  | .document =>
    let number ← Run.onWorld (·.addSource request.content false)
    Run.change (·.connect request.descriptor (.source number))
    return true
  | .duplicate =>
    match natOfDigits? request.content with
    | none =>
      Run.change (·.disconnect request.descriptor)
      return true
    | some other =>
      match (← Run.frame).descriptors.lookup other with
      | some target =>
        Run.change (·.connect request.descriptor target)
        return true
      | none =>
        Run.complain (digits other ++ octets ": Bad file descriptor")
        return false
  | direction =>
    match ← openPath direction request.content with
    | some target =>
      Run.change (·.connect request.descriptor target)
      return true
    | none => return false

/-- Makes connections up to the first one that cannot be made. -/
def makeAll : List Request → Run Bool
  | [] => pure true
  | request :: rest => do if ← make request then makeAll rest else pure false

/-- A descriptor to duplicate is one digit, or a dash for none. -/
def check (request : Request) : Run Unit := do
  if request.direction = .duplicate && request.content != ['-'] &&
      !(request.content.length = 1 && request.content.all Char.isDigit) then
    Run.giveUp (octets ("Syntax error: " ++ SyntaxCause.message .badDescriptor))

end AppGrants.Shell.Connection
