import AppGrants.Files.Tree
import AppGrants.ProfileStore
import AppGrants.Settings.Manager

/-! Settings and profiles read from files. What the environment says comes after what was asked for, but the data folder
that it names goes before the one in the settings. -/
namespace AppGrants.Settings

open Files

/-- Where files are looked for, and what the environment holds. -/
structure Surroundings where
  tree : Tree := {}
  folder : List String := []
  environment : List (String × String) := []

def configVariable : String := "SUMGR_CONFIG"

def dataFolderVariable : String := "SUMGR_DATA_DIR"

def levelVariable : String := "SUMGR_LOG_LEVEL"

namespace Surroundings

def readText (build : Build) (surroundings : Surroundings) (path code message key : String) : Except Failure String :=
  match surroundings.tree.readText surroundings.folder path with
  | .ok text => .ok text
  | .error fault =>
    .error (((Failure.ofRaised build (.ofText fault.message)).withCode code message).withContext key path)

end Surroundings

def parse [Json.Codec α] (build : Build) (text code message key path : String) : Except Failure α :=
  match Json.decode text with
  | .ok value => .ok value
  | .error fault => .error (((Failure.ofRaised build (.ofFault fault)).withCode code message).withContext key path)

namespace ManagerSettings

/-- The settings of the file, or the defaults where no file is named. -/
def loadFrom (build : Build) (surroundings : Surroundings) (path dataFolder : Option String) :
    Except Failure ManagerSettings := do
  let settings : ManagerSettings ← match path with
    | none => .ok {}
    | some path => do
      let text ← surroundings.readText build path "config_read_failed" "failed to read config file" "configPath"
      parse build text "config_parse_failed" "failed to parse config file" "configPath" path
  normalize { settings with dataDir := dataFolder.getD settings.dataDir }

def load (build : Build) (surroundings : Surroundings) (path : Option String) : Except Failure ManagerSettings :=
  loadFrom build surroundings (path <|> surroundings.environment.lookup configVariable)
    (surroundings.environment.lookup dataFolderVariable)

end ManagerSettings

/-- The store of an exported file; without a file it is empty. -/
def loadProfiles (build : Build) (surroundings : Surroundings) : Option String → Except Failure ProfileStore
  | none => .ok {}
  | some path =>
    if surroundings.tree.holds surroundings.folder path then do
      let text ← surroundings.readText build path "profiles_read_failed" "failed to read profile export" "profilesPath"
      let exported ← parse build text "profiles_parse_failed" "failed to parse profile export" "profilesPath" path
      .ok (.ofExport exported)
    else .error ((Failure.new "profiles_missing" "profile export not found").withContext "profilesPath" path)

end AppGrants.Settings
