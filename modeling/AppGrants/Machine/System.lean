import AppGrants.Machine.Filter
import AppGrants.Shell.Program

/-! A system with its programs, and the way from the name of a command to the program that it runs. It is one way to run
commands, for trying the program out; nothing else rests on it. -/
namespace AppGrants.Machine

open Files Text

/-- Programs by the places that they are installed in. -/
abbrev Programs := List (List String × Program)

namespace Programs

/-- Runs a command as another user, who is the same one here. -/
def substituteUser : Program := fun spawn job world =>
  let command := match job.arguments.tail.dropWhile (· != "-c".toList) with
    | _ :: script :: _ => ["-c".toList, script]
    | _ => []
  Shell.program spawn { job with arguments := octets "sh" :: command } world

/-- Runs a command with more bindings or fewer; without a command the bindings are shown. -/
def environment : Program := fun spawn job world =>
  match Options.leading ['i'] ['u'] (job.arguments.length + 1) job.arguments.tail with
  | .error fault => Utility.misuse 125 fault.message job world
  | .ok options =>
    let dropsAll := options.has 'i' || options.operands.head? = some ['-']
    let dropped := options.found.filterMap fun (letter, name) => if letter = 'u' then some (textOfOctets name) else none
    let words := if options.operands.head? = some ['-'] then options.operands.tail else options.operands
    let (added, arguments) := words.span (·.contains '=')
    let named := added.map fun argument =>
      (textOfOctets (argument.takeWhile (· != '=')), (argument.dropWhile (· != '=')).tail)
    let kept := if dropsAll then [] else job.environment.filter fun (name, _) => !dropped.contains name
    let environment := named.foldl (fun (bindings : List (String × List Char)) (name, value) =>
      if bindings.any (·.1 == name) then bindings.map fun entry => if entry.1 = name then (name, value) else entry
      else bindings ++ [(name, value)]) kept
    if arguments.isEmpty then
      Utility.printed job Utility.writeFault
        (environment.flatMap fun (name, value) => octets name ++ '=' :: value ++ ['\n']) world
    else
      let inner := { job with arguments, environment }
      let started := match spawn inner world with
        | .error .notProgram => spawn { inner with arguments := octets "/bin/sh" :: arguments } world
        | started => started
      match started with
      | .ok result => result
      | .error fault =>
        let status := if fault = .missing then 127 else 126
        (.exited status, Utility.complainOctets job
          (Format.quoted (arguments.headD []) ++ octets (": " ++ fault.reason)) world)

def byName : List (String × Program) :=
  utilities.map (fun (name, utility) => (name, fun _ => utility.keepingOpen)) ++
    [("sh", Shell.program), ("dash", Shell.program), ("su", substituteUser), ("env", environment)]

def folders : List (List String) := [["bin"], ["usr", "bin"]]

/-- What every system has. -/
def standard : Programs := folders.flatMap fun folder => byName.map fun (name, program) => (folder ++ [name], program)

/-- The first bytes of a program that is no script. -/
def mark : Bytes := [0x7F, 0x45, 0x4C, 0x46]

def addTo (programs : Programs) (tree : Tree) : Tree :=
  programs.foldl (fun tree (names, _) => tree.place { names, node := .file mark true }) tree

/-- Where a system looks for programs if it is told nowhere. -/
def defaultPath : List Char := octets "/bin:/usr/bin"

/-- Whether a file may be run; a folder may not. -/
def runnable (tree : Tree) (folder : List String) (path : String) : Except FileFault Bytes := do
  match ← tree.find folder path with
  | .file content true => .ok content
  | _ => .error .denied

/-- How much of a script is looked at for the name of its interpreter. -/
def headLength : Nat := 256

/-- The interpreter in the first line of a script, and the argument that it has there. A first line without an end is
taken to go on with zeros. -/
def interpreter? (content : Bytes) : Option (Except FileFault (List (List Char))) :=
  match octetsOfBytes (content.take headLength) with
  | '#' :: '!' :: rest =>
    let isGap (c : Char) : Bool := c == ' ' || c == '\t'
    let ends := rest.contains '\n'
    let line := ((rest.takeWhile (· != '\n')).dropWhile isGap).reverse.dropWhile isGap |>.reverse
    let name := line.takeWhile fun c => !isGap c && c != '\x00'
    let after := line.dropWhile fun c => !isGap c && c != '\x00'
    let argument := (after.dropWhile isGap).takeWhile (· != '\x00')
    let isWhole := ends || content.length < headLength || !after.isEmpty
    if (ends && line.isEmpty) || !isWhole then some (.error .notProgram)
    else some (.ok (if argument.isEmpty then [name] else [name, argument]))
  | _ => none

/-- How many interpreters a script has at most, each of them a script for the next one. -/
def mostInterpreters : Nat := 5

/-- The place of the program that a file is or is run by, and the arguments that it gets. -/
def load (programs : Programs) (tree : Tree) (folder : List String) :
    Nat → String → List (List Char) → Except FileFault (Program × List (List Char))
  | 0, _, _ => .error .tooManyLevels
  | fuel + 1, path, arguments => do
    let content ← runnable tree folder path
    match interpreter? content with
    | some (.ok command) =>
      load programs tree folder fuel (textOfOctets (command.headD [])) (command ++ octets path :: arguments.tail)
    | some (.error fault) => .error fault
    | none =>
      let names ← tree.resolve folder path
      match if mark.isPrefixOf content then programs.lookup names else none with
      | some program => .ok (program, arguments)
      | none => .error .notProgram

/-- The longest argument with its end. -/
def longestArgument : Nat := 131072

/-- A file that is there is given the arguments only if none of them is too long. -/
def loadFirst (programs : Programs) (tree : Tree) (folder : List String) (arguments : List (List Char)) (path : String) :
    Except FileFault (Program × List (List Char)) := do
  let _ ← runnable tree folder path
  if arguments.any (·.length ≥ longestArgument) then .error .argumentsTooLong
  else load programs tree folder (mostInterpreters + 1) path arguments

/-- What comes of the first folder that has a program of the name; one that may not be run is told only if there is no
other one. -/
def search (attempt : String → Except FileFault α) (name : String) (denied : Bool) :
    FileFault → List String → Except FileFault α
  | fault, [] => .error (if denied then .denied else fault)
  | _, place :: rest =>
    match attempt (Path.join place name) with
    | .error .denied => search attempt name true .denied rest
    | .error .missing => search attempt name denied .missing rest
    | .error .notFolder => search attempt name denied .notFolder rest
    | found => found

/-- The program that a command names, with its arguments. -/
def locate (programs : Programs) (job : Job) (tree : Tree) : Except FileFault (Program × List (List Char)) :=
  let name := textOfOctets (job.arguments.headD [])
  let attempt := loadFirst programs tree job.folder job.arguments
  if job.arguments.any (·.contains '\x00') then .error .argumentHoldsNul
  else if name.isEmpty then .error .missing
  else if name.contains '/' then attempt name
  else
    let path := (job.environment.lookup "PATH").getD defaultPath
    search attempt name false .missing ((parts (· == ':') path).map textOfOctets)

/-- Runs commands that may run commands, at most so many within each other. -/
def spawn (programs : Programs) : Nat → Spawn
  | 0, _, world => .ok (.pauses, world)
  | depth + 1, job, world => do
    let (program, arguments) ← locate programs job world.tree
    .ok (program (spawn programs depth) { job with arguments } world)

def mostWithin : Nat := 64

end Programs

/-- The files of a system without any others. -/
def systemTree : Tree :=
  let folders := [["tmp"], ["dev"], ["etc"], ["usr", "local", "bin"], ["sbin"], ["usr", "sbin"]]
  let empty : Tree := {}
  let tree := folders.foldl (fun (tree : Tree) names => tree.place { names, node := .folder }) empty
  let users := Node.file (utf8 "root:x:0:0:root:/root:/bin/sh\n") false
  let nothing := Node.file [] false
  Programs.standard.addTo
    ((tree.place { names := ["etc", "passwd"], node := users }).place { names := World.nowhere, node := nothing })

end AppGrants.Machine
