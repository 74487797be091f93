import AppGrants.Machine.Condition
import AppGrants.Machine.Format
import AppGrants.Machine.Options
import AppGrants.Machine.World

/-! Small programs of the system. -/
namespace AppGrants.Machine

open Files Text

namespace Utility

def operands (job : Job) : List (List Char) := job.arguments.tail

def put (job : Job) (descriptor : Nat) (text : List Char) (world : World) : Bool × World :=
  world.write (job.descriptors.lookup descriptor) text

def complainOctets (job : Job) (text : List Char) (world : World) : World :=
  (put job 2 (job.arguments.headD [] ++ octets ": " ++ text ++ ['\n']) world).2

def complain (job : Job) (text : String) (world : World) : World := complainOctets job (octets text) world

/-- The complaint of a program about an output that is not open. -/
def writeFault (_ : Job) : List Char := octets "write error: Bad file descriptor"

/-- The same of a command of the shell's own, which gives its own name once more. -/
def ioFault (job : Job) : List Char :=
  let caller := job.arguments.headD []
  (caller.reverse.takeWhile (· != ' ')).reverse ++ octets ": I/O error"

/-- Success unless the output could not be written. -/
def printed (job : Job) (fault : Job → List Char) (text : List Char) (world : World) : Finish × World :=
  match put job 1 text world with
  | (true, world) => (.exited 0, world)
  | (false, world) => (.exited 1, complainOctets job (fault job) world)

/-- The end of a program that was not called as it should be. -/
def misuse (status : Nat) (text : List Char) : Utility := fun job world =>
  let hint := octets "\nTry '" ++ job.arguments.headD [] ++ octets " --help' for more information."
  (.exited status, complainOctets job (text ++ hint) world)

def withOptions (status : Nat) (plain withText : String) (run : Options → Utility) : Utility := fun job world =>
  match Options.ofWords plain withText (operands job) with
  | .ok options => run options job world
  | .error fault => misuse status fault.message job world

def isOption (argument : List Char) : Bool := argument.length > 1 && argument.head? = some '-'

def missingOperand : List Char := octets "missing operand"

def inQuotes (text : List Char) : List Char := '\'' :: text ++ ['\'']

def succeed : Utility := fun _ world => (.exited 0, world)

def fail : Utility := fun _ world => (.exited 1, world)

def spaced (texts : List (List Char)) : List Char := joinWith [' '] texts

/-- Options of echo before the texts: no line feed at the end, escapes or not. -/
def echoOptions (feed escapes : Bool) : List (List Char) → Bool × Bool × List (List Char)
  | option :: rest =>
    match option with
    | '-' :: letters =>
      if !letters.isEmpty && letters.all "neE".toList.contains then
        let escapes := letters.foldl (fun escapes c => if c = 'e' then true else if c = 'E' then false else escapes) escapes
        echoOptions (feed && !letters.contains 'n') escapes rest
      else (feed, escapes, option :: rest)
    | _ => (feed, escapes, option :: rest)
  | [] => (feed, escapes, [])

def echo : Utility := fun job world =>
  let (feed, escapes, texts) := echoOptions true false (operands job)
  let text := spaced texts
  let (shown, ending) := if escapes then Format.unescape .program text.length text else (text, none)
  printed job writeFault (shown ++ if feed && ending.isNone then ['\n'] else []) world

/-- The shell's own echo replaces escapes always and knows one option. -/
def shellEcho : Utility := fun job world =>
  let (feed, texts) := match operands job with
    | option :: rest => if option = "-n".toList then (false, rest) else (true, option :: rest)
    | [] => (true, [])
  let text := spaced texts
  let (shown, ending) := Format.unescape .shell text.length text
  printed job ioFault (shown ++ if feed && ending.isNone then ['\n'] else []) world

/-- All that a format writes. The shell's own command keeps its output back until its complaints are told. -/
def printf (dialect : Format.Dialect) : Utility := fun job world =>
  let arguments := if (operands job).head? = some ['-', '-'] then (operands job).tail else operands job
  match dialect, arguments with
  | .program, [] => misuse 1 missingOperand job world
  | .shell, [] => (.exited 2, complain job "usage: printf format [arg ...]" world)
  | dialect, format :: arguments =>
    if dialect = .shell && isOption format && (operands job).head? = some format then
      (.exited 2, complain job (textOfOctets (octets "Illegal option -" ++ (format.drop 1).take 1)) world)
    else
      let written := Format.apply dialect format arguments
      let output := written.flatMap fun
        | .output text => text
        | .fault _ => []
      let faults := written.filterMap fun
        | .fault fault => some fault
        | .output _ => none
      let told (world : World) : World :=
        faults.foldl (fun world fault => complainOctets job (fault.message dialect) world) world
      let status := faults.foldl (fun status fault => max status (fault.status dialect)) 0
      let (finish, world) := match dialect with
        | .shell => printed job ioFault output (told world)
        | .program =>
          let (finish, world) := printed job writeFault output world
          (finish, told world)
      (if status = 0 then finish else .exited status, world)

/-- What is read is put out as it comes. -/
def copyInput (job : Job) (world : World) : Finish × World :=
  let (source, world) := world.readAll (job.descriptors.lookup 0)
  let (_, world) := put job 1 source.rest world
  (if source.more then .awaitsInput else .exited 0, world)

def catFiles (job : Job) (failed : Bool) : List (List Char) → World → Finish × World
  | [], world => (.exited (if failed then 1 else 0), world)
  | ['-'] :: rest, world =>
    match copyInput job world with
    | (.exited _, world) => catFiles job failed rest world
    | other => other
  | name :: rest, world =>
    match world.tree.read job.folder (textOfOctets name) with
    | .ok content => catFiles job failed rest (put job 1 (octetsOfBytes content) world).2
    | .error fault =>
      catFiles job true rest (complainOctets job (name ++ octets (": " ++ fault.reason)) world)

def cat : Utility := withOptions 1 "u" "" fun options job world =>
  if (job.descriptors.lookup 1).isNone then
    (.exited 1, complain job "standard output: Bad file descriptor" world)
  else if options.operands.isEmpty then copyInput job world
  else catFiles job false options.operands world

/-- Pauses are passed over while any are left to pass. -/
def pauseFor (isLong : Bool) (world : World) : Finish × World :=
  if !isLong then (.exited 0, world)
  else match world.pauses with
    | 0 => (.pauses, world)
    | pauses + 1 => (.exited 0, { world with pauses })

def isDuration (cs : List Char) : Bool :=
  let bare := cs.dropWhile isAsciiBlank
  let digits := if bare.getLast?.any "smhd".toList.contains then bare.dropLast else bare
  digits.any Char.isDigit && digits.all (fun c => c.isDigit || c == '.') && digits.count '.' ≤ 1

def sleep : Utility := withOptions 1 "" "" fun options job world =>
  if options.operands.isEmpty then misuse 1 missingOperand job world
  else match (options.operands.filter (!isDuration ·)).reverse with
    | [] => pauseFor (options.operands.any (·.any fun c => '1' ≤ c && c ≤ '9')) world
    | last :: others =>
      let fault (text : List Char) : List Char := octets "invalid time interval " ++ inQuotes text
      misuse 1 (fault last) job (others.reverse.foldl (fun world text => complainOctets job (fault text) world) world)

/-- A condition; between brackets it ends with one. -/
def test : Utility := fun job world =>
  let given := operands job
  let inBrackets := job.arguments.head?.any fun caller => caller.getLast? = some '['
  if inBrackets && given.getLast? != some [']'] then (.exited 2, complain job "missing ]" world)
  else
    match Condition.value ⟨world.tree, job.folder⟩ (if inBrackets then given.dropLast else given) with
    | .ok true => (.exited 0, world)
    | .ok false => (.exited 1, world)
    | .error fault => (.exited 2, complainOctets job fault.message world)

/-! Names and files. -/

def withoutSlashes (cs : List Char) : List Char :=
  let kept := (cs.reverse.dropWhile (· == '/')).reverse
  if kept.isEmpty && !cs.isEmpty then ['/'] else kept

/-- The last name of a path, without an ending that it has. -/
def lastName (ending path : List Char) : List Char :=
  let path := withoutSlashes path
  let name := if path = ['/'] then path else (path.reverse.takeWhile (· != '/')).reverse
  if !ending.isEmpty && name != ending && ending.isSuffixOf name then name.take (name.length - ending.length) else name

def basename : Utility := withOptions 1 "a" "s" fun options job world =>
  let ending := options.text? 's'
  match options.has 'a' || ending.isSome, options.operands with
  | _, [] => misuse 1 missingOperand job world
  | true, paths => printed job writeFault (paths.flatMap fun path => lastName (ending.getD []) path ++ ['\n']) world
  | false, [path] => printed job writeFault (lastName [] path ++ ['\n']) world
  | false, [path, ending] => printed job writeFault (lastName ending path ++ ['\n']) world
  | false, _ :: _ :: extra :: _ => misuse 1 (octets "extra operand " ++ inQuotes extra) job world

/-- What stands before the last name of a path. -/
def folderName (path : List Char) : List Char :=
  let front := (withoutSlashes path).reverse.dropWhile (· != '/')
  if front.isEmpty then ['.'] else withoutSlashes front.reverse

def dirname : Utility := withOptions 1 "" "" fun options job world =>
  if options.operands.isEmpty then misuse 1 missingOperand job world
  else printed job writeFault (options.operands.flatMap fun path => folderName path ++ ['\n']) world

/-- Changes the files one after another; what cannot be changed is told. -/
def changeFiles (verb : String) (change : World → String → Except FileFault World) (names : List (List Char)) : Utility :=
  fun job world =>
    let step (state : Nat × World) (name : List Char) : Nat × World :=
      match change state.2 (textOfOctets name) with
      | .ok world => (state.1, world)
      | .error fault =>
        (1, complainOctets job (octets (verb ++ " ") ++ inQuotes name ++ octets (": " ++ fault.reason)) state.2)
    let (status, world) := names.foldl step (0, world)
    (.exited status, world)

def touch : Utility := withOptions 1 "acm" "dtr" fun options job world =>
  let change (world : World) (path : String) : Except FileFault World := do
    if world.tree.holds job.folder path then return world
    else return (← world.openFile job.folder path true).2
  if options.operands.isEmpty then misuse 1 (octets "missing file operand") job world
  else changeFiles "cannot touch" change options.operands job world

def rm : Utility := withOptions 1 "rRfidv" "" fun options job world =>
  let change (world : World) (path : String) : Except FileFault World := do
    match world.tree.resolve job.folder path, world.tree.find job.folder path with
    | .ok names, .ok node =>
      if node.isFile || options.has 'r' || options.has 'R' then return { world with tree := world.tree.erase names }
      else throw .isFolder
    | _, .error .missing => if options.has 'f' then return world else throw .missing
    | _, .error fault => throw fault
    | .error fault, _ => throw fault
  if options.operands.isEmpty && !options.has 'f' then misuse 1 missingOperand job world
  else changeFiles "cannot remove" change options.operands job world

def mkdir : Utility := withOptions 1 "pv" "m" fun options job world =>
  let change (world : World) (path : String) : Except FileFault World := do
    if options.has 'p' then return { world with tree := ← world.tree.createFolders job.folder path }
    else
      let names ← world.tree.resolve job.folder path
      if (world.tree.node? names).isSome then throw .exists
      else if world.tree.node? names.dropLast != some .folder then throw .missing
      else return { world with tree := world.tree.insert { names, node := .folder } }
  if options.operands.isEmpty then misuse 1 missingOperand job world
  else changeFiles "cannot create directory" change options.operands job world

end Utility

/-- The programs that work on names, files and single texts. -/
def plainUtilities : List (String × Utility) := [
  ("true", Utility.succeed), ("false", Utility.fail), ("echo", Utility.echo), ("printf", Utility.printf .program),
  ("cat", Utility.cat), ("sleep", Utility.sleep), ("test", Utility.test), ("[", Utility.test),
  ("basename", Utility.basename), ("dirname", Utility.dirname), ("touch", Utility.touch), ("rm", Utility.rm),
  ("mkdir", Utility.mkdir)]

end AppGrants.Machine
