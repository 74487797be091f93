import AppGrants.Shell.Builtin.Signals
import AppGrants.Shell.Builtin.Variables

/-! Commands that a shell carries out itself, by name. -/
namespace AppGrants.Shell.Builtin

open Machine Text

def nothing : Body := fun _ => Run.setStatus 0

def failure : Body := fun _ => Run.setStatus 1

/-! The way out of commands. -/

/-- Without a number the shell ends with the status it has, or had before it looked at a signal. -/
def exit : Body := fun arguments => do
  let frame ← Run.frame
  throw (.exit (← count (frame.kept.getD frame.status) arguments))

def return_ : Body := fun arguments => do
  Run.setStatus (← count (← Run.frame).status arguments)
  throw .leave

/-- Leaves so many loops, if there are any. -/
def leaveLoops (stop : Nat → Stop) : Body := fun arguments => do
  let wanted ← count 1 arguments
  if wanted = 0 then illegalNumber (arguments.headD [])
  let loops := min wanted (← Run.frame).loops
  Run.setStatus 0
  if loops > 0 then throw (stop loops)

/-! Places. -/

def pathOf (names : List String) : List Char := octets ("/" ++ "/".intercalate names)

/-- The names that a path leads to by its text alone. -/
def placeOf (folder : List String) (path : String) : List String :=
  (Files.Path.names path).foldl
    (fun place name => if name == "." then place else if name == ".." then place.dropLast else place ++ [name])
    (if Files.Path.isAbsolute path then [] else folder)

def cd : Body := fun arguments => do
  let options ← options "LP" "" arguments
  let frame ← Run.frame
  let isBack := options.operands.head? = some ['-']
  let asked := (match options.operands with
    | [] => frame.value? "HOME".toList
    | first :: _ => if isBack then frame.value? "OLDPWD".toList else some first).getD []
  let path := if asked.isEmpty then ['.'] else asked
  let names := placeOf frame.folder (textOfOctets path)
  if (← get).world.tree.node? names = some .folder then
    Run.change ({ · with folder := names })
    Run.assign "OLDPWD".toList ((frame.value? "PWD".toList).getD (pathOf frame.folder))
    Run.assign "PWD".toList (pathOf names)
    ["OLDPWD", "PWD"].forM fun name => Run.change (·.mark name.toList ({ · with exported := true }))
    if isBack then Run.say (pathOf names ++ ['\n']) else Run.setStatus 0
  else Run.giveUp (octets "can't cd to " ++ asked)

def pwd : Body := fun arguments => do
  let _ ← options "LP" "" arguments
  Run.say (pathOf (← Run.frame).folder ++ ['\n'])

/-! The names of commands. -/

/-- What a name stands for as a command. -/
inductive Meaning where
  | keyword
  | special
  | builtin
  | function
  | file (path : List Char) (isTracked : Bool)

/-- The path of a program. -/
def program? (name : List Char) (frame : Frame) (world : World) : Option (List Char) :=
  let runs (path : List Char) : Bool := match world.tree.find frame.folder (textOfOctets path) with
    | .ok (.file _ executable) => executable
    | _ => false
  if name.contains '/' then
    if world.tree.holds frame.folder (textOfOctets name) then some name else none
  else
    let folders := parts (· == ':') ((frame.value? "PATH".toList).getD [])
    (folders.map fun folder => if folder.isEmpty then name else folder ++ '/' :: name).find? runs

def meaning? (isBuiltin : Bool) (name : List Char) (frame : Frame) (world : World) : Option Meaning :=
  let text := String.ofList name
  if Token.keywords.contains text then some .keyword
  else if specialNames.contains text then some .special
  else if (frame.functions.lookup name).isSome then some .function
  else if isBuiltin then some .builtin
  else (program? name frame world).map (.file · (frame.tracked.contains name))

/-- What is told of a name, in full or only what stands for it. -/
def Meaning.text (isFull : Bool) (name : List Char) : Meaning → List Char
  | file path isTracked =>
    if isFull then name ++ octets (if isTracked then " is a tracked alias for " else " is ") ++ path else path
  | meaning =>
    if !isFull then name
    else name ++ octets (match meaning with
      | keyword => " is a shell keyword"
      | special => " is a special shell builtin"
      | function => " is a shell function"
      | _ => " is a shell builtin")

/-- Tells what names stand for; a name that stands for nothing is told of only in full. -/
def describe (isBuiltin : List Char → Bool) (isFull : Bool) (names : List (List Char)) : Run Unit := do
  let state ← get
  let meanings := names.map fun name => (name, meaning? (isBuiltin name) name state.frame state.world)
  Run.say (meanings.flatMap fun (name, meaning) => match meaning with
    | some meaning => meaning.text isFull name ++ ['\n']
    | none => if isFull then name ++ octets ": not found\n" else [])
  Run.change fun frame => meanings.foldl (fun frame (name, meaning) => match meaning with
    | some (.file _ _) => frame.track name
    | _ => frame) frame
  if meanings.any (·.2.isNone) then Run.setStatus 127

/-- How many places there are for programs that have been found. -/
def trackedPlaces : Nat := 31

/-- Shows the programs that have been found before, looks for more of them, or forgets them all. -/
def hash (isBuiltin : List Char → Bool) : Body := fun arguments => do
  let options ← options "r" "" arguments
  let state ← get
  if options.has 'r' then
    Run.change ({ · with tracked := [] })
    Run.setStatus 0
  else if options.operands.isEmpty then
    let place (name : List Char) : Nat := Frame.placeOf name % trackedPlaces
    let names := state.frame.tracked.mergeSort fun a b => decide (place a ≤ place b)
    Run.say ((names.filterMap (program? · state.frame state.world)).flatMap (· ++ ['\n']))
  else
    Run.setStatus 0
    options.operands.forM fun name => match meaning? (isBuiltin name) name state.frame state.world with
      | some (.file _ _) => Run.change (·.track name)
      | some _ => pure ()
      | none => Run.refuse (name ++ octets ": not found") 1

/-! Limits and times. -/

/-- The rights that a mask leaves to the owner, the group and the others. -/
def rights (mask : Nat) : List Char :=
  let share (who : String) (place : Nat) : String :=
    let bits := mask / Nat.pow 8 place % 8
    who ++ "=" ++ (if bits / 4 % 2 = 0 then "r" else "") ++ (if bits / 2 % 2 = 0 then "w" else "") ++
      (if bits % 2 = 0 then "x" else "")
  octets (",".intercalate [share "u" 2, share "g" 1, share "o" 0])

def umask : Body := fun arguments => do
  let options ← options "S" "" arguments
  let mask := (← Run.frame).mask
  match options.operands with
  | [] =>
    let octal := Nat.toDigits 8 mask
    Run.say ((if options.has 'S' then rights mask else List.replicate (4 - octal.length) '0' ++ octal) ++ ['\n'])
  | text :: _ =>
    if !text.head?.any Char.isDigit then Run.giveUp (octets "Illegal mode: " ++ text)
    else if !text.all Numeral.isOctalDigit then illegalNumber text
    else
      Run.change ({ · with mask := Numeral.valueOf 8 text % 512 })
      Run.setStatus 0

def ulimit : Body := fun _ => Run.say (octets "unlimited\n")

/-- No time is taken by anything. -/
def times : Body := fun _ => Run.say (octets "0m0.000000s 0m0.000000s\n0m0.000000s 0m0.000000s\n")

/-- Jobs stay where they were started. -/
def noJob : Body := fun _ => Run.giveUp (octets "No current job")

/-- Commands that need nothing but their arguments. -/
def table : List (String × Body) := [
  (":", nothing), ("true", nothing), ("false", failure), ("echo", ofUtility Utility.shellEcho),
  ("printf", ofUtility (Utility.printf .shell)), ("test", ofUtility Utility.test), ("[", ofUtility Utility.test),
  ("exit", exit), ("return", return_), ("break", leaveLoops .breakOut), ("continue", leaveLoops .goOn), ("cd", cd),
  ("chdir", cd), ("pwd", pwd), ("export", export_), ("readonly", readonly), ("local", local_), ("unset", unset),
  ("shift", shift), ("set", set), ("read", read), ("getopts", getopts), ("kill", kill), ("wait", wait), ("trap", trap),
  ("umask", umask), ("ulimit", ulimit), ("times", times), ("fg", noJob), ("bg", noJob), ("jobs", nothing), ("alias", nothing)]

/-- Commands that run other ones or look at all of them. -/
def others : List String := [".", "command", "eval", "exec", "hash", "type"]

def isBuiltin (name : List Char) : Bool :=
  let text := String.ofList name
  (table.lookup text).isSome || others.contains text

def type : Body := describe isBuiltin true

/-- Tells of a command how it would be found. -/
def command : Body := fun arguments => do
  let options ← options "pvV" "" arguments
  match options.operands with
  | [] => Run.setStatus 0
  | name :: _ =>
    if options.has 'V' then describe isBuiltin true [name]
    else if options.has 'v' then describe isBuiltin false [name]
    else Run.setStatus 0

def body? (name : List Char) : Option Body :=
  match String.ofList name with
  | "hash" => some (hash isBuiltin)
  | "type" => some type
  | "command" => some command
  | text => table.lookup text

/-- Commands for which variables that are assigned before them stay assigned, and whose faults end the shell. -/
def isSpecial (name : List Char) : Bool := specialNames.contains (String.ofList name)

/-- Commands whose words that are assignments are not split. -/
def keepsWords (name : List Char) : Bool := ["export", "readonly", "local"].contains (String.ofList name)

end AppGrants.Shell.Builtin
