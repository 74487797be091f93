import AppGrants.Shell.Builtin.Basic

/-! Commands that set variables, arguments and switches. -/
namespace AppGrants.Shell.Builtin

open Machine Text

/-- A name with its value, if it has one. -/
def assigned (argument : List Char) : List Char × Option (List Char) :=
  match argument.dropWhile (· != '=') with
  | _ :: value => (argument.takeWhile (· != '='), some value)
  | [] => (argument, none)

/-- The bindings by name, each as a command that makes it again. -/
def listing (command : String) (p : Variable → Bool) (frame : Frame) : List Char :=
  let chosen := (frame.bindings.filter fun (_, found) => p found).mergeSort fun a b => (compare a.1 b.1) != .gt
  let before := if command.isEmpty then [] else octets command ++ [' ']
  chosen.flatMap fun (name, found) =>
    before ++ name ++ ((found.value.map fun value => '=' :: quoted value).getD []) ++ ['\n']

/-- Marks variables, or shows those that are marked. -/
def marking (command : String) (isMarked : Variable → Bool) (mark : Variable → Variable) : Body := fun arguments => do
  let options ← options "p" "" arguments
  if options.has 'p' || options.operands.isEmpty then Run.say (listing command isMarked (← Run.frame))
  else
    options.operands.forM fun argument => do
      let (name, value) := assigned argument
      Run.named name
      match value with
      | some value => Run.assign name value
      | none => pure ()
      Run.change (·.mark name mark)
    Run.setStatus 0

def export_ : Body := marking "export" (·.exported) ({ · with exported := true })

def readonly : Body := marking "readonly" (·.isFixed) ({ · with isFixed := true })

def local_ : Body := fun arguments => do
  if (← Run.frame).calls = 0 then Run.giveUp (octets "not in a function")
  arguments.forM fun argument => do
    let (name, value) := assigned argument
    Run.change fun frame => { frame with shadowed := (name, find? name frame.bindings) :: frame.shadowed }
    match value with
    | some value => Run.assign name value
    | none => Run.named name
  Run.setStatus 0

def unset : Body := fun arguments => do
  let options ← options "vf" "" arguments
  let last := (options.found.getLast?.map (·.1)).getD 'v'
  options.operands.forM fun name => do
    if last = 'f' then Run.change fun frame => { frame with functions := frame.functions.filter (·.1 != name) }
    else
      Run.named name
      Run.notFixed name
      Run.change (·.forget name)
  Run.setStatus 0

def shift : Body := fun arguments => do
  let places ← count 1 arguments
  if places > (← Run.frame).arguments.length then Run.giveUp (octets "can't shift that many")
  Run.change fun frame => { frame with arguments := frame.arguments.drop places }
  Run.setStatus 0

/-! Switches. -/

/-- The switches by name, in the order in which they are shown. -/
def switchNames : List (String × Char) := [
  ("errexit", 'e'), ("noglob", 'f'), ("ignoreeof", 'I'), ("interactive", 'i'), ("monitor", 'm'), ("noexec", 'n'),
  ("stdin", 's'), ("xtrace", 'x'), ("verbose", 'v'), ("vi", 'V'), ("emacs", 'E'), ("noclobber", 'C'), ("allexport", 'a'),
  ("notify", 'b'), ("nounset", 'u'), ("privileged", 'p'), ("nolog", ' '), ("debug", ' ')]

def switchListing (isOn : Bool) (frame : Frame) : List Char :=
  if isOn then
    octets "Current option settings\n" ++ switchNames.flatMap fun (name, letter) =>
      octets name ++ List.replicate (16 - name.length) ' ' ++ octets (if frame.has letter then "on\n" else "off\n")
  else
    switchNames.flatMap fun (name, letter) =>
      octets ("set " ++ (if frame.has letter then "-o " else "+o ") ++ name ++ "\n")

/-- Letters that stand for switches, some of them only where a shell is started. The letter for a name takes the next word;
the words that are left are returned. -/
def switchLetters (others : List Char) (isOn : Bool) : List Char → List (List Char) → Run (List (List Char))
  | [], rest => pure rest
  | letter :: letters, rest => do
    if others.contains letter then
      Run.change (·.switch letter true)
      switchLetters others isOn letters rest
    else match letter, rest with
      | 'o', [] =>
        Run.say (switchListing isOn (← Run.frame))
        switchLetters others isOn letters []
      | 'o', name :: rest =>
        match switchNames.lookup (textOfOctets name) with
        | some letter => Run.change (·.switch letter isOn)
        | none => Run.giveUp (octets "Illegal option -o " ++ name)
        switchLetters others isOn letters rest
      | letter, rest =>
        if switchNames.any (·.2 == letter) then Run.change (·.switch letter isOn)
        else Run.giveUp (octets "Illegal option -" ++ [letter])
        switchLetters others isOn letters rest

/-- Switches before the arguments, and the arguments if there are to be new ones. -/
def switches (others : List Char) : Nat → List (List Char) → Run (Option (List (List Char)))
  | 0, _ => pure none
  | _, [] => pure none
  | fuel + 1, word :: rest =>
    match word with
    | ['-', '-'] => pure (some rest)
    | ['-'] => do
      Run.change fun frame => (frame.switch 'x' false).switch 'v' false
      pure (if rest.isEmpty then none else some rest)
    | '-' :: letters => do switches others fuel (← switchLetters others true letters rest)
    | '+' :: letters => do switches others fuel (← switchLetters others false letters rest)
    | _ => pure (some (word :: rest))

def set : Body := fun arguments => do
  if arguments.isEmpty then Run.say (listing "" (·.value.isSome) (← Run.frame))
  else
    match ← switches [] (arguments.length + 1) arguments with
    | some arguments => Run.change ({ · with arguments })
    | none => pure ()
    Run.setStatus 0

/-! Input. -/

/-- The characters of a line where a backslash keeps the next one, and whether it keeps the end of the line. -/
def escaped : List Char → List PatternChar × Bool
  | '\\' :: c :: rest =>
    let (items, goesOn) := escaped rest
    (⟨c, true⟩ :: items, goesOn)
  | ['\\'] => ([], true)
  | c :: rest =>
    let (items, goesOn) := escaped rest
    (⟨c, false⟩ :: items, goesOn)
  | [] => ([], false)

/-- A line of the input, which has several of its lines where backslashes keep the ends of them. -/
def readItems (raw : Bool) : Nat → Run (List PatternChar × Bool)
  | 0 => pure ([], false)
  | fuel + 1 => do
    let frame ← Run.frame
    match ← Run.onWorld fun world => world.readLine (frame.descriptors.lookup 0) with
    | none => Run.stop .awaitsInput
    | some (line, ended) =>
      let line := line.filter (· != '\x00')
      if raw then pure (line.map (⟨·, false⟩), ended)
      else
        let (items, goesOn) := escaped line
        if goesOn && ended then
          let (others, ended) ← readItems raw fuel
          pure (items ++ others, ended)
        else pure (items, ended)

def read : Body := fun arguments => do
  let options ← options "r" "p" arguments
  let names := options.operands
  if names.isEmpty then Run.giveUp (octets "arg count")
  let state ← get
  let length := (state.world.sources.map (·.rest.length)).foldl max 0
  let (items, ended) ← readItems (options.has 'r') (length + 1)
  (names.zip (Fields.shareLine state.frame.separators names.length items)).forM fun (name, value) => do
    Run.named name
    Run.assign name value
  Run.setStatus (if ended then 0 else 1)

/-! Options of the script itself. -/

/-- The letter of an option with what it takes, and the place of the next one: the number of a word, and how many
characters of the word before it have been used. -/
structure Found where
  letter : Char
  text : Option (List Char)
  place : Nat × Option Nat
  complaint : Option (List Char) := none

/-- The next option among the words, or the number of the first operand. -/
def nextOption (letters : List Char) (words : List (List Char)) (next : Nat) (used : Option Nat) : Except Nat Found :=
  let isQuiet := letters.head? = some ':'
  let known := if isQuiet then letters.drop 1 else letters
  let left := (used.bind fun used => (words[next - 2]?).map (·.drop used)).getD []
  let opened : Except Nat (List Char × Nat) :=
    if !left.isEmpty then .ok (left, next)
    else match words[next - 1]? with
      | some ['-', '-'] => .error (next + 1)
      | some ('-' :: c :: rest) => .ok (c :: rest, next + 1)
      | _ => .error next
  match opened with
  | .error next => .error next
  | .ok ([], next) => .error next
  | .ok (letter :: rest, next) =>
    let usedNow := ((words[next - 2]?).map fun word => word.length - rest.length)
    match (if letter = ':' then [] else known.dropWhile (· != letter)) with
    | [] =>
      .ok (if isQuiet then ⟨'?', some [letter], (next, usedNow), none⟩
        else ⟨'?', none, (next, usedNow), some (octets "Illegal option -" ++ [letter])⟩)
    | _ :: ':' :: _ =>
      match rest, words[next - 1]? with
      | [], some text => .ok ⟨letter, some text, (next + 1, none), none⟩
      | [], none =>
        .ok (if isQuiet then ⟨':', some [letter], (next, usedNow), none⟩
          else ⟨'?', none, (next, usedNow), some (octets "No arg for -" ++ letter :: octets " option")⟩)
      | text, _ => .ok ⟨letter, some text, (next, none), none⟩
    | _ => .ok ⟨letter, some [], (next, usedNow), none⟩

def getopts : Body := fun arguments => do
  match arguments with
  | letters :: name :: given =>
    let frame ← Run.frame
    let words := if given.isEmpty then frame.arguments else given
    let kept := ((frame.value? "OPTIND".toList).bind natOfDigits?).getD 1
    let next := if kept = 0 || kept > words.length + 1 then 1 else kept
    let used := match frame.optionPlace with
      | some (place, used) => if place = next then some used else none
      | none => none
    let finish (next : Nat) (used : Option Nat) (letter : Char) (status : Nat) : Run Unit := do
      Run.assign "OPTIND".toList (digits next)
      Run.named name
      Run.assign name [letter]
      Run.change ({ · with optionPlace := used.map (next, ·) })
      Run.setStatus status
    match nextOption letters words next used with
    | .error next => finish next none '?' 1
    | .ok found =>
      match found.complaint with
      | some text =>
        let _ ← Run.writeTo 2 (text ++ ['\n'])
      | none => pure ()
      match found.text with
      | some text => Run.assign "OPTARG".toList text
      | none => Run.change (·.forget "OPTARG".toList)
      finish found.place.1 found.place.2 found.letter 0
  | _ => Run.giveUp (octets "Usage: getopts optstring var [arg...]")

end AppGrants.Shell.Builtin
