/-! The arguments of the program: what they ask for, or what is wrong with them. An option's value is judged only when the
next option comes or the arguments end, so a later fault may be told before an earlier one. -/
namespace AppGrants.CommandLine

inductive UsageFault where
  | helpAsked
  | versionAsked
  | nothingGiven
  | missingSubcommand
  | unknownSubcommand
  | unknownArgument
  | unusableValue
  | givenTwice
  | valueForSwitch
deriving DecidableEq, Repr

inductive Switch where
  | help
  | version
  | system
  | primaryOnly
  | grouped
deriving DecidableEq, Repr

/-- Options that take a value. -/
inductive Setting where
  | config
  | search
  | profiles
deriving DecidableEq, Repr

/-- No path is empty; a text to search for may be. -/
def Setting.accepts : Setting → String → Bool
  | .search, _ => true
  | _, value => !value.isEmpty

inductive LongOption where
  | switch (switch : Switch)
  | setting (setting : Setting)
deriving DecidableEq, Repr

inductive Subcommand where
  | list
  | serve
  | help
deriving DecidableEq, Repr

/-- The place of arguments: before the subcommand, or after one. -/
inductive Level where
  | program
  | list
  | serve
deriving DecidableEq, Repr

namespace Level

def longOptions : Level → List (String × LongOption)
  | program => [("config", .setting .config), ("help", .switch .help), ("version", .switch .version)]
  | list => [("config", .setting .config), ("help", .switch .help), ("system", .switch .system),
      ("primary-only", .switch .primaryOnly), ("search", .setting .search), ("grouped", .switch .grouped),
      ("profiles", .setting .profiles)]
  | serve => [("config", .setting .config), ("help", .switch .help)]

def letters : Level → List (Char × Switch)
  | program => [('h', .help), ('V', .version)]
  | _ => [('h', .help)]

def subcommands : Level → List (String × Subcommand)
  | program => [("list", .list), ("serve", .serve), ("help", .help)]
  | _ => []

end Level

/-- What was given so far at one level. The pending setting has not been judged; it may still be without its value. -/
structure Given where
  switches : List Switch := []
  values : List (Setting × String) := []
  pending : Option (Setting × Option String) := none
deriving DecidableEq, Repr

namespace Given

def store (given : Given) (setting : Setting) (value : String) : Except UsageFault Given :=
  if (given.values.lookup setting).isSome then .error .givenTwice
  else if setting.accepts value then .ok { given with values := given.values ++ [(setting, value)] }
  else .error .unusableValue

/-- Judges the pending setting. -/
def resolve (given : Given) : Except UsageFault Given :=
  match given.pending with
  | none => .ok given
  | some (_, none) => .error .unusableValue
  | some (setting, some value) => { given with pending := none }.store setting value

/-- Help and the version are told at once. -/
def turnOn (given : Given) (switch : Switch) : Except UsageFault Given := do
  let resolved ← given.resolve
  match switch with
  | .help => .error .helpAsked
  | .version => .error .versionAsked
  | switch =>
    if resolved.switches.contains switch then .error .givenTwice
    else .ok { resolved with switches := resolved.switches ++ [switch] }

/-- A value that is attached is judged at once. -/
def set (given : Given) (setting : Setting) (attached : Option String) : Except UsageFault Given := do
  let resolved ← given.resolve
  match attached with
  | some value => resolved.store setting value
  | none => .ok { resolved with pending := some (setting, none) }

/-- The pending setting that has no value gets this one. -/
def fill? (given : Given) (value : String) : Option Given :=
  match given.pending with
  | some (setting, none) => some { given with pending := some (setting, some value) }
  | _ => none

def isWaiting (given : Given) : Bool := given.pending.any (·.2.isNone)

def isNothing (given : Given) : Bool := given.switches.isEmpty && given.values.isEmpty

end Given

/-- An argument by its form; a name may have a value attached with an equals sign. -/
inductive Form where
  | dashes
  | long (name : String) (value : Option String)
  | short (letter : Char)
  | plain
deriving DecidableEq, Repr

def attachedValue : List Char → Option String
  | _ :: value => some (String.ofList value)
  | [] => none

def formOf (argument : String) : Form :=
  match argument.toList with
  | ['-', '-'] => .dashes
  | '-' :: '-' :: rest =>
    .long (String.ofList (rest.takeWhile (· != '='))) (attachedValue (rest.dropWhile (· != '=')))
  | '-' :: letter :: _ => .short letter
  | _ => .plain

def takeLong (level : Level) (given : Given) (name : String) (value : Option String) : Except UsageFault Given :=
  match level.longOptions.lookup name with
  | none => .error .unknownArgument
  | some (.setting setting) => given.set setting value
  | some (.switch switch) => if value.isSome then .error .valueForSwitch else given.turnOn switch

def takeShort (level : Level) (given : Given) (letter : Char) : Except UsageFault Given :=
  match level.letters.lookup letter with
  | none => .error .unknownArgument
  | some switch => given.turnOn switch

/-- The fault of an argument that is neither an option nor a value. -/
def misplaced (level : Level) (afterDashes : Bool) (argument : String) : UsageFault :=
  if level.subcommands.isEmpty then .unknownArgument
  else if afterDashes && (level.subcommands.lookup argument).isSome then .unknownArgument
  else .unknownSubcommand

/-- The arguments of a level up to its end or to a subcommand, with what stands after that. -/
def takeAll (level : Level) (given : Given) (afterDashes : Bool) :
    List String → Except UsageFault (Given × Option (Subcommand × List String))
  | [] => .ok (given, none)
  | argument :: rest =>
    if afterDashes then .error (misplaced level afterDashes argument)
    else if !given.isWaiting && (level.subcommands.lookup argument).isSome then
      .ok (given, (level.subcommands.lookup argument).map (·, rest))
    else match formOf argument with
      | .dashes => takeAll level given true rest
      | .long name value => do
        let next ← takeLong level given name value
        takeAll level next false rest
      | .short letter => do
        let next ← takeShort level given letter
        takeAll level next false rest
      | .plain =>
        match given.fill? argument with
        | some next => takeAll level next false rest
        | none => .error (misplaced level afterDashes argument)

structure ListOptions where
  showSystemApps : Bool := false
  showOnlyPrimaryUserApps : Bool := false
  search : Option String := none
  grouped : Bool := false
deriving DecidableEq, Repr

inductive Task where
  | serve
  | list (options : ListOptions) (profiles : Option String)
deriving DecidableEq, Repr

structure Invocation where
  config : Option String
  task : Task
deriving DecidableEq, Repr

def Given.listOptions (given : Given) : ListOptions where
  showSystemApps := given.switches.contains .system
  showOnlyPrimaryUserApps := given.switches.contains .primaryOnly
  search := given.values.lookup .search
  grouped := given.switches.contains .grouped

/-- All arguments of the level after a subcommand. -/
def takeLast (level : Level) (arguments : List String) : Except UsageFault Given := do
  let (given, _) ← takeAll level {} false arguments
  given.resolve

/-- Help may be asked about a subcommand, and about nothing within it. -/
def helpFault : List String → UsageFault
  | [] => .helpAsked
  | [name] => if (Level.program.subcommands.lookup name).isSome then .helpAsked else .unknownSubcommand
  | _ => .unknownSubcommand

def takeSubcommand (subcommand : Subcommand) (arguments : List String) : Except UsageFault (Given × Task) :=
  match subcommand with
  | .list => (takeLast .list arguments).map fun given => (given, .list given.listOptions (given.values.lookup .profiles))
  | .serve => (takeLast .serve arguments).map fun given => (given, .serve)
  | .help => .error (helpFault arguments)

/-- The arguments after the program's name. The config file named last counts. -/
def Invocation.ofArguments (arguments : List String) : Except UsageFault Invocation := do
  let (given, subcommand) ← takeAll .program {} false arguments
  match subcommand with
  | some (subcommand, rest) =>
    let (inner, task) ← takeSubcommand subcommand rest
    let outer ← given.resolve
    .ok ⟨(inner.values.lookup .config) <|> outer.values.lookup .config, task⟩
  | none =>
    let outer ← given.resolve
    .error (if outer.isNothing then .nothingGiven else .missingSubcommand)

end AppGrants.CommandLine
