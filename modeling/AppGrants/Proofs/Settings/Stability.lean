import AppGrants.Logs.Setup
import AppGrants.Proofs.Files.Writing
import AppGrants.Proofs.Json.Defaults
import AppGrants.Proofs.Text.Words
import Mathlib

/-! Settings that are loaded are stable: they are normal, normal settings are their own normal form, and they are loaded again as
they are from a file that they are written to. -/
namespace AppGrants.Settings
open Files Json
open Text (Solid solid_trimmed isBlankText trimmed)

namespace LogLevel

theorem ofText?_name (level : LogLevel) : ofText? level.name = some level := by
  cases level <;> decide

end LogLevel

namespace LogSettings

/-- A level by its own name, and days within the limits. -/
structure Normal (settings : LogSettings) : Prop where
  level : ∃ level : LogLevel, settings.minLevel = level.name
  days : fewestDays ≤ settings.keepDays ∧ settings.keepDays ≤ mostDays

theorem clampDays_within (days : UInt32) : fewestDays ≤ clampDays days ∧ clampDays days ≤ mostDays := by
  unfold clampDays
  split
  · decide
  next least =>
    split
    · decide
    next greatest => exact ⟨UInt32.not_lt.mp least,UInt32.not_lt.mp greatest⟩

theorem normalize_of_level {settings : LogSettings} {level : LogLevel} (known : LogLevel.ofText? settings.minLevel = some level) :
    settings.normalize = .ok ⟨level.name,clampDays settings.keepDays⟩ := by
  rw [normalize,known]

theorem normal_of_level (level : LogLevel) (days : UInt32) : Normal ⟨level.name,clampDays days⟩ :=
  ⟨⟨level,rfl⟩,clampDays_within days⟩

theorem clampDays_of_within {days : UInt32} (within : fewestDays ≤ days ∧ days ≤ mostDays) : clampDays days = days := by
  rw [clampDays,if_neg (UInt32.not_lt.mpr within.1),if_neg (UInt32.not_lt.mpr within.2)]

theorem Normal.normalize_eq {settings : LogSettings} (normal : settings.Normal) : settings.normalize = .ok settings := by
  obtain ⟨level,named⟩ := normal.level
  have known : LogLevel.ofText? settings.minLevel = some level := by rw [named,level.ofText?_name]
  rw [normalize_of_level known,clampDays_of_within normal.days,← named]

end LogSettings

namespace ManagerSettings

/-- Nothing is blank or to be trimmed, nothing is empty, and the log's own settings are normal. -/
structure Normal (settings : ManagerSettings) : Prop where
  package : Solid settings.selfPackage.toList
  arguments : ∀ argument ∈ settings.helperCommand, Solid argument.toList
  few : settings.helperCommand.length ≤ mostArguments
  profiles : settings.profilesPath ≠ some ""
  folder : settings.dataDir ≠ ""
  log : settings.log.Normal

theorem normalArguments_eq (arguments : List String) : normalArguments arguments =
    ((arguments.filter (!isBlankText ·)).take mostArguments).map trimmed := List.map_take.symm

theorem solid_of_mem_normalArguments {arguments : List String} {argument : String} (member : argument ∈ normalArguments arguments) :
    Solid argument.toList := by
  obtain ⟨given,listed,rfl⟩ := List.mem_map.mp (List.mem_of_mem_take member)
  exact solid_trimmed (by simpa using (List.mem_filter.mp listed).2)

theorem normalArguments_of_solid {arguments : List String} (solid : ∀ argument ∈ arguments, Solid argument.toList)
    (few : arguments.length ≤ mostArguments) : normalArguments arguments = arguments := by
  have seen : arguments.filter (!isBlankText ·) = arguments :=
    List.filter_eq_self.mpr fun argument member => by rw [(solid argument member).seen]; rfl
  have whole : arguments.map trimmed = arguments :=
    (List.map_congr_left fun argument member => (solid argument member).trimmed_eq).trans arguments.map_id'
  rw [normalArguments,seen,whole,List.take_of_length_le few]

theorem solid_trimmedOr {default : String} (solid : Solid default.toList) (text : String) :
    Solid (trimmedOr default text).toList := by
  unfold trimmedOr
  split
  · exact solid
  next seen => exact solid_trimmed (by simpa using seen)

theorem solid_default : Solid ({} : ManagerSettings).selfPackage.toList :=
  ⟨⟨'m',_,rfl,by decide⟩,⟨"me.sumgr.manage".toList,'r',by decide,by decide⟩⟩

theorem profiles_eq {path? : Option String} (written : path? ≠ some "") : path?.filter (!·.isEmpty) = path? := by
  cases path? with
  | none => rfl
  | some path =>
    have written : path ≠ "" := fun empty => written (congrArg some empty)
    exact Option.filter_some_pos (by simpa using written)

theorem Normal.normalize_eq {settings : ManagerSettings} (normal : settings.Normal) : settings.normalize = .ok settings := by
  have package : trimmedOr ({} : ManagerSettings).selfPackage settings.selfPackage = settings.selfPackage := by
    rw [trimmedOr,normal.package.seen,if_neg Bool.false_ne_true,normal.package.trimmed_eq]
  have folder : (if settings.dataDir.isEmpty then ({} : ManagerSettings).dataDir else settings.dataDir) = settings.dataDir :=
    if_neg (by simpa using normal.folder)
  rw [normalize,normal.log.normalize_eq]
  simp only [Except.map,package,normalArguments_of_solid normal.arguments normal.few,profiles_eq normal.profiles,folder]

/-- What was normal is kept. -/
structure Keeps (settings normal : ManagerSettings) : Prop where
  package : isBlankText settings.selfPackage = false → normal.selfPackage = trimmed settings.selfPackage
  arguments : normal.helperCommand = ((settings.helperCommand.filter (!isBlankText ·)).take mostArguments).map trimmed
  profiles : settings.profilesPath ≠ some "" → normal.profilesPath = settings.profilesPath
  folder : settings.dataDir ≠ "" → normal.dataDir = settings.dataDir
  days : LogSettings.fewestDays ≤ settings.log.keepDays ∧ settings.log.keepDays ≤ LogSettings.mostDays →
    normal.log.keepDays = settings.log.keepDays
  listing : normal.filters = settings.filters ∧ normal.packageFlags = settings.packageFlags

theorem normalize_of_level {settings : ManagerSettings} {level : LogLevel}
    (known : LogLevel.ofText? settings.log.minLevel = some level) :
    ∃ normal, settings.normalize = .ok normal ∧ normal.Normal ∧ Keeps settings normal ∧ normal.log.minLevel = level.name := by
  refine ⟨_,by rw [normalize,LogSettings.normalize_of_level known]; rfl,?_,?_,rfl⟩
  · refine ⟨solid_trimmedOr solid_default _,fun argument member => solid_of_mem_normalArguments member,List.length_take_le ..,
      fun empty => ?_,?_,LogSettings.normal_of_level level _⟩
    · exact absurd (Option.filter_eq_some_iff.mp empty).2 (by decide)
    · dsimp only
      split
      · decide
      next written => simpa using written
  · refine ⟨fun seen => if_neg (by simp [seen]),normalArguments_eq _,profiles_eq,?_,fun within => ?_,rfl,rfl⟩
    · intro written
      exact if_neg (by simpa using written)
    · exact LogSettings.clampDays_of_within within

/-- A data folder that is named goes before that of the settings, an empty one for the default. -/
theorem normalize_withFolder (settings : ManagerSettings) (folder : String) : normalize { settings with dataDir := folder } =
    settings.normalize.map fun normal =>
      { normal with dataDir := if folder = "" then ({} : ManagerSettings).dataDir else folder } := by
  unfold normalize
  cases settings.log.normalize with
  | error => rfl
  | ok log => simp only [Except.map,String.isEmpty_iff]

theorem loadFrom_of_read {build : Build} {surroundings : Surroundings} {path text : String} {settings : ManagerSettings}
    (reads : surroundings.tree.read surroundings.folder path = .ok (Text.utf8 text)) (decodes : decode text = .ok settings)
    (dataFolder : Option String) : loadFrom build surroundings (some path) dataFolder =
      normalize { settings with dataDir := dataFolder.getD settings.dataDir } := by
  have shows : surroundings.tree.readText surroundings.folder path = .ok text := by
    simp only [Tree.readText,reads,bind,Except.bind,Text.ofUtf8?_utf8]
  simp only [loadFrom,Surroundings.readText,shows,parse,decodes,bind,Except.bind]

end ManagerSettings
end AppGrants.Settings

namespace AppGrants.Logs
open Settings
variable {build : Build} {folder path : String} {keep : Nat} {now : Int} {failure : Failure}

/-- How getting the folder ready may fail. -/
def folderCodes : List String :=
  ["log_dir_create_failed","log_cleanup_read_dir_failed","log_cleanup_modified_time_failed","log_cleanup_remove_failed"]

theorem code_of_clean {entry : Entry} (fails : entry.clean build folder keep now = .error failure) :
    failure.code ∈ folderCodes := by
  unfold Entry.clean at fails
  split at fails
  · cases fails
  dsimp only at fails
  split at fails
  · cases fails
    exact show "log_cleanup_modified_time_failed" ∈ folderCodes by decide
  split at fails
  · cases fails
  split at fails
  · cases fails
  · cases fails
    exact show "log_cleanup_remove_failed" ∈ folderCodes by decide

theorem code_of_cleanUp {entries : List Entry} (fails : (cleanUp build folder keep now entries).2 = some failure) :
    failure.code ∈ folderCodes := by
  induction entries with
  | nil => cases fails
  | cons entry rest ih =>
    unfold cleanUp at fails
    split at fails
    next cleaned =>
      obtain rfl := Option.some.inj fails
      exact code_of_clean cleaned
    · exact ih fails

theorem code_of_clearFolder {circumstances : Circumstances} {names : List String} {tree : Files.Tree}
    (fails : (clearFolder circumstances build names path keep now tree).1 = .error failure) : failure.code ∈ folderCodes := by
  unfold clearFolder at fails
  split at fails
  · cases fails
  split at fails
  · cases fails
  · cases fails
    exact show "log_cleanup_read_dir_failed" ∈ folderCodes by decide
  dsimp only at fails
  split at fails
  next stopped =>
    obtain rfl := Except.error.inj fails
    exact code_of_cleanUp stopped
  · cases fails

theorem code_of_cleanFolder {names : List String} {days : Nat} {tree : Files.Tree}
    (fails : (cleanFolder build names path days now tree).1 = .error failure) : failure.code ∈ folderCodes := by
  unfold cleanFolder at fails
  dsimp only at fails
  cases cleared : (clearFolder {} build names path (daysToKeep days) now tree).1 with
  | ok => rw [cleared] at fails; cases fails
  | error stopped =>
    rw [cleared] at fails
    obtain rfl := Except.error.inj fails
    exact code_of_clearFolder cleared

/-- With normal settings only the folder can be at fault. -/
theorem code_of_prepare {surroundings : Surroundings} {settings : LogSettings} (normal : settings.Normal)
    (fails : (prepare build surroundings folder settings now).1 = .error failure) : failure.code ∈ folderCodes := by
  unfold prepare at fails
  rw [normal.normalize_eq] at fails
  dsimp only at fails
  split at fails
  · cases fails
    exact show "log_dir_create_failed" ∈ folderCodes by decide
  next grown _ =>
    cases cleaned : (cleanFolder build surroundings.folder (Files.Path.join folder "logs") settings.keepDays.toNat now grown).1 with
    | ok => rw [cleaned] at fails; cases fails
    | error stopped =>
      rw [cleaned] at fails
      obtain rfl := Except.error.inj fails
      exact code_of_cleanFolder cleaned

end AppGrants.Logs

namespace AppGrants.Settings.ManagerSettings
open Files Json

/-- Written as JSON: compactly, or else with gaps and with the fields in any order. -/
def WrittenAs (settings : ManagerSettings) (text : String) : Prop :=
  text = encode settings ∨ Writes (settings.draft (fun _ => true) (fun _ => true)) text

theorem WrittenAs.decodes {settings : ManagerSettings} {text : String} (written : settings.WrittenAs text) :
    decode text = .ok settings := by
  rcases written with rfl | written
  · exact settings.returns.roundTrips.decoded
  · have whole : settings.overlaid (fun _ => true) (fun _ => true) = settings := rfl
    exact decode_taken (settings.takes_draft _ _) written ((settings.ofDoc_docs _ _).trans whole)

/-- Settings have a normal form if and only if the level of the log is known. It is its own normal form, so that the log can be set
up with it, and it is loaded as it is from a file that it is written to, but for a data folder that goes before its own. -/
theorem normalize_stable (settings : ManagerSettings) : match LogLevel.ofText? settings.log.minLevel with
    | none => settings.normalize =
        .error ((Failure.new "invalid_log_level" "invalid log level").withContext "level" settings.log.minLevel)
    | some level => ∃ normal, settings.normalize = .ok normal ∧ normal.Normal ∧ Keeps settings normal ∧
        normal.log.minLevel = level.name ∧ normal.normalize = .ok normal ∧ normal.log.normalize = .ok normal.log ∧
        (∀ build surroundings dataFolder now failure,
          (Logs.prepare build surroundings dataFolder normal.log now).1 = .error failure → failure.code ∈ Logs.folderCodes) ∧
        ∀ build surroundings path text, normal.WrittenAs text →
          surroundings.tree.read surroundings.folder path = .ok (Text.utf8 text) →
          loadFrom build surroundings (some path) none = .ok normal ∧
          ∀ folder, loadFrom build surroundings (some path) (some folder) =
            .ok { normal with dataDir := if folder = "" then ({} : ManagerSettings).dataDir else folder } := by
  split
  next unknown => rw [normalize,LogSettings.normalize,unknown]; rfl
  next level known =>
    obtain ⟨normal,normalizes,is_normal,keeps,named⟩ := normalize_of_level known
    refine ⟨normal,normalizes,is_normal,keeps,named,is_normal.normalize_eq,is_normal.log.normalize_eq,?_,?_⟩
    · exact fun build surroundings dataFolder now failure fails => Logs.code_of_prepare is_normal.log fails
    · intro build surroundings path text written reads
      have loads := @loadFrom_of_read build surroundings path text normal reads written.decodes
      refine ⟨(loads none).trans is_normal.normalize_eq,fun folder => ?_⟩
      rw [loads,Option.getD_some,normalize_withFolder,is_normal.normalize_eq]
      rfl

def untidySettings : ManagerSettings where
  selfPackage := " me.app\u3000"
  helperCommand := [" su ","","\u2003","-c"]
  profilesPath := some ""
  dataDir := ""
  log := ⟨" WARNING ",500⟩

def tidiedSettings : ManagerSettings where
  selfPackage := "me.app"
  helperCommand := ["su","-c"]
  log := ⟨"warn",90⟩

def storedSettings : Surroundings where
  tree := Tree.withFile {} ["config.json"] (Text.utf8 (encode tidiedSettings)) false 0

theorem normalize_stable_untidy : untidySettings.normalize = .ok tidiedSettings ∧
    loadFrom .release storedSettings (some "config.json") none = .ok tidiedSettings ∧
    loadFrom .release storedSettings (some "config.json") (some "/tmp") = .ok { tidiedSettings with dataDir := "/tmp" } := by
  have tidied : untidySettings.normalize = .ok tidiedSettings := by rfl
  have stable := normalize_stable untidySettings
  have known : LogLevel.ofText? untidySettings.log.minLevel = some .warn := by decide
  rw [known] at stable
  obtain ⟨normal,normalizes,-,-,-,-,-,-,loads⟩ := stable
  obtain rfl := Except.ok.inj (tidied.symm.trans normalizes)
  have reads : storedSettings.tree.read storedSettings.folder "config.json" = .ok (Text.utf8 (encode tidiedSettings)) :=
    @Tree.read_withFile {} ["config.json"] _ false 0 [] "config.json" (by cbv) (by decide) (by cbv)
  obtain ⟨same,named⟩ := loads .release storedSettings "config.json" _ (.inl rfl) reads
  exact ⟨tidied,same,named "/tmp"⟩

end AppGrants.Settings.ManagerSettings
