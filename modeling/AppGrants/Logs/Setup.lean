import AppGrants.Logs.Retention
import AppGrants.Settings.Load

/-! Getting the folder for logs ready: it is made where it is missing, and expired logs are removed from it. -/
namespace AppGrants.Logs

open Files Settings

/-- What the system decides: in which order it lists a folder, and how asking for the time of an entry and removing it go. -/
structure Circumstances where
  listing : List (String × Tree) → List (String × Tree) := id
  whole : ∀ entries, (listing entries).Perm entries := by exact fun _ => .refl _
  time : String → Except String Unit := fun _ => .ok ()
  removal : String → Except String Unit := fun _ => .ok ()

def Circumstances.entry (circumstances : Circumstances) (item : String × Tree) : Entry where
  name := item.1
  isFile := item.2.node.isFile
  modified := (circumstances.time item.1).map fun _ => item.2.modified
  removal := circumstances.removal item.1

/-- How many expired logs were removed from a folder, and the tree without these; a folder that is not there has none. -/
def clearFolder (circumstances : Circumstances) (build : Build) (folder : List String) (path : String) (keep : Nat)
    (now : Int) (tree : Tree) : Except Failure Nat × Tree :=
  match tree.resolve folder path with
  | .error _ => (.ok 0, tree)
  | .ok place =>
    match tree.at? place with
    | none => (.ok 0, tree)
    | some (.file _ _ _) =>
      let raised := (Raised.ofText FileFault.notFolder.message).remark ("failed to read log dir: " ++ path)
      (.error (((Failure.ofRaised build raised).withCode "log_cleanup_read_dir_failed" "failed to read log dir"
        ).withContext "logDir" path), tree)
    | some (.folder _ entries) =>
      let (removed, failure) := cleanUp build path keep now ((circumstances.listing entries).map circumstances.entry)
      (match failure with
        | some failure => .error failure
        | none => .ok removed.length, tree.eraseAll place removed)

/-- The tree without the logs that are older than the days for which logs are kept. -/
def cleanFolder (build : Build) (folder : List String) (path : String) (days : Nat) (now : Int) (tree : Tree) :
    Except Failure Unit × Tree :=
  let (cleared, rest) := clearFolder {} build folder path (daysToKeep days) now tree
  (cleared.map fun _ => (), rest)

/-- The level that counts and the folder of the logs. -/
structure Ready where
  level : LogLevel
  folder : String
deriving DecidableEq, Repr

def folderFailure (build : Build) (path : String) (fault : FileFault) : Failure :=
  ((Failure.ofRaised build ((Raised.ofText fault.message).remark ("failed to create log dir: " ++ path))).withCode
    "log_dir_create_failed" "failed to create log dir").withContext "logDir" path

def prepare (build : Build) (surroundings : Surroundings) (dataFolder : String) (settings : LogSettings) (now : Int) :
    Except Failure Ready × Tree :=
  let tree := surroundings.tree
  match settings.normalize with
  | .error failure => (.error failure, tree)
  | .ok normal =>
    let path := Path.join dataFolder "logs"
    match tree.createFolders surroundings.folder path with
    | .error fault => (.error (folderFailure build path fault), tree)
    | .ok grown =>
      let (result, cleaned) := cleanFolder build surroundings.folder path normal.keepDays.toNat now grown
      (result.map fun _ => ⟨normal.level build (surroundings.environment.lookup levelVariable), path⟩, cleaned)

end AppGrants.Logs
