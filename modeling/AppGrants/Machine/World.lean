import AppGrants.Files.Tree
import AppGrants.Machine.Signal

/-! What running commands have in common: files, the texts that they read from, and the texts that they write to. Nothing
waits: what is read from may be told to have more later on, and a pause is passed over only as often as was asked for. What
commands that are not over still have open is kept as well. How a command is run is not said here: whoever runs commands is
given the way to do so. -/
namespace AppGrants.Machine

open Files Text

/-- A text that is read from, and whether more of it may come. -/
structure Source where
  rest : List Char
  more : Bool := false
deriving DecidableEq, Repr

/-- What a descriptor stands for. -/
inductive Target where
  | source (number : Nat)
  | sink (number : Nat)
  | file (names : List String)
  | nothing
deriving DecidableEq, Repr

abbrev Descriptors := List (Nat × Target)

structure World where
  tree : Tree := {}
  sources : List Source := []
  sinks : List (List Char) := []
  pauses : Nat := 0
  held : List Target := []
deriving Repr

/-- How far a command has come. -/
inductive Finish where
  | exited (code : Nat)
  | killed (signal : Nat)
  | awaitsInput
  | pauses
deriving DecidableEq, Repr

namespace Finish

def isOver : Finish → Bool
  | exited _ | killed _ => true
  | _ => false

/-- The status of a command that is over. -/
def statusText : Finish → String
  | exited code => "exit status: " ++ toString code
  | killed signal => "signal: " ++ toString signal ++ ((Signal.name? signal).map fun name => " (SIG" ++ name ++ ")").getD ""
  | _ => ""

/-- The same as the shell tells it. -/
def code : Finish → Nat
  | exited code => code
  | killed signal => 128 + signal
  | _ => 0

end Finish

/-- A command to be run: its name and arguments, and what it is given. -/
structure Job where
  arguments : List (List Char)
  environment : List (String × List Char) := []
  folder : List String := []
  descriptors : Descriptors := []
deriving DecidableEq, Repr

/-- Where programs are looked for if nothing else has been said. -/
def commonPath : String := "/usr/local/sbin:/usr/local/bin:/usr/sbin:/usr/bin:/sbin:/bin"

/-- Runs a command as far as it gets, or says why it cannot be run. -/
abbrev Spawn := Job → World → Except FileFault (Finish × World)

namespace World

def addSource (world : World) (rest : List Char) (more : Bool) : Nat × World :=
  (world.sources.length, { world with sources := world.sources ++ [⟨rest, more⟩] })

def addSink (world : World) : Nat × World := (world.sinks.length, { world with sinks := world.sinks ++ [[]] })

def sink (world : World) (number : Nat) : List Char := world.sinks.getD number []

def source (world : World) (number : Nat) : Source := world.sources.getD number ⟨[], false⟩

def setSource (world : World) (number : Nat) (source : Source) : World :=
  { world with sources := world.sources.set number source }

def hold (world : World) (descriptors : Descriptors) : World :=
  { world with held := world.held ++ descriptors.map (·.2) }

/-- What was still open is closed. -/
def release (world : World) (descriptors : Descriptors) : World :=
  { world with held := descriptors.foldl (fun held entry => held.erase entry.2) world.held }

/-- The place where everything that is written is lost, and where nothing is to be read. -/
def nowhere : List String := ["dev", "null"]

/-- A file to write to from its beginning or from its end, which is made where there is none. -/
def openFile (world : World) (folder : List String) (path : String) (append : Bool) :
    Except FileFault (Target × World) := do
  let names ← world.tree.resolve folder path
  if names = nowhere then return (.nothing, world)
  match world.tree.node? names with
  | some .folder => .error .isFolder
  | some (.file content executable) =>
    let node := Node.file (if append then content else []) executable
    .ok (.file names, { world with tree := world.tree.insert { names, node } })
  | none =>
    if Path.asksForFolder path then .error .isFolder
    else if world.tree.node? names.dropLast = some .folder then
      .ok (.file names, { world with tree := world.tree.insert { names, node := .file [] false } })
    else .error .missing

/-- Whether there was something to write to. -/
def write (world : World) (target : Option Target) (text : List Char) : Bool × World :=
  match target with
  | some (.sink number) => (true, { world with sinks := world.sinks.modify number (· ++ text) })
  | some (.file names) =>
    let content := match world.tree.node? names with
      | some (.file content _) => content
      | _ => []
    let executable := match world.tree.node? names with
      | some (.file _ executable) => executable
      | _ => false
    (true, { world with
      tree := world.tree.insert { names, node := .file (content ++ bytesOfOctets text) executable } })
  | some .nothing => (true, world)
  | some (.source _) | none => (text.isEmpty, world)

/-- All that is there to be read, and whether more may come. -/
def readAll (world : World) (target : Option Target) : Source × World :=
  match target with
  | some (.source number) => (world.source number, world.setSource number { world.source number with rest := [] })
  | _ => (⟨[], false⟩, world)

/-- The text up to a line feed, and whether one was found; none where it may still come. -/
def readLine (world : World) (target : Option Target) : Option (List Char × Bool) × World :=
  match target with
  | some (.source number) =>
    let source := world.source number
    let line := source.rest.takeWhile (· != '\n')
    match source.rest.dropWhile (· != '\n') with
    | _ :: rest => (some (line, true), world.setSource number { source with rest })
    | [] => if source.more then (none, world) else (some (line, false), world.setSource number { source with rest := [] })
  | _ => (some ([], false), world)

end World

abbrev Utility := Job → World → Finish × World

/-- A program may run other ones. -/
abbrev Program := Spawn → Utility

/-- A program that keeps what it was given open until it is over. -/
def Utility.keepingOpen (utility : Utility) : Utility := fun job world =>
  let (finish, world) := utility job world
  (finish, if finish.isOver then world else world.hold job.descriptors)

end AppGrants.Machine
