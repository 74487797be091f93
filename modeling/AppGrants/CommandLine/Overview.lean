import AppGrants.CommandLine.Arguments
import AppGrants.Refresh.Session
import AppGrants.Service.Elevation
import AppGrants.Service.HelperHost
import AppGrants.Settings.Load

/-! One full listing of the apps: a catalog is started empty, set up, refreshed once, and told. -/
namespace AppGrants.CommandLine

open Json Catalog Machine Refresh Service Settings

/-- What is told of a listing; the records, the groups and the search only where they were asked for. -/
structure Overview where
  report : Report
  liveUserIds : List Int32
  lastError : Option FailureKind
  records : Option (List AppRecord)
  groups : Option (List Group)
  search : Option SearchView
  connection : Stats

namespace Overview

def ofSession (options : ListOptions) (report : Report) (session : Session ω) : Overview :=
  let snapshot := session.snapshot
  { report, liveUserIds := snapshot.liveUserIds, lastError := snapshot.lastError
    records := if options.grouped then none else some snapshot.visibleRecords
    groups := if options.grouped then some snapshot.groups else none
    search := options.search.map fun _ => snapshot.search
    connection := session.site.manager.stats }

def unlessAbsent (name : String) (write : α → Doc) : Option α → List (String × Doc)
  | some value => [(name, write value)]
  | none => []

/-- The document, with how many milliseconds the refresh took. -/
def toDoc (milliseconds : Nat) (overview : Overview) : Doc := .object (
  [("outcome", .object [
      ("mode", .text overview.report.mode.wireName), ("generation", .nat overview.report.generation),
      ("recordCount", .nat overview.report.recordCount), ("durationMs", .nat milliseconds)]),
    ("liveUserIds", Codec.toDoc overview.liveUserIds)] ++
    unlessNone "lastError" overview.lastError ++ unlessNone "records" overview.records ++
    unlessAbsent "groups" (fun groups => .list (groups.map Group.toDoc)) overview.groups ++
    unlessAbsent "search" SearchView.toDoc overview.search ++ [("connection", overview.connection.toDoc)])

end Overview

/-- The filters first, each one as it is asked for here or in the settings, then the search, then the refresh. -/
def preparations (settings : ManagerSettings) (options : ListOptions) : List Action :=
  [.change (.showSystemApps (options.showSystemApps || settings.showSystemApps)),
    .change (.showOnlyPrimaryUserApps (options.showOnlyPrimaryUserApps || settings.showOnlyPrimaryUserApps))] ++
    options.search.toList.map (.change <| .searchText ·)

/-- The command that starts the helper: the one in the settings, or this program itself with root rights. -/
def helperCommand (executable : String) (settings : ManagerSettings) : List String :=
  if settings.helperCommand.isEmpty then elevatedCommand executable else settings.helperCommand

/-- What a program sees of the files and of its environment. -/
def surroundingsOf (job : Job) (world : World) : Surroundings :=
  ⟨world.tree, job.folder, job.environment.map fun (name, value) => (name, Text.textOfOctets value)⟩

def overview (pinyin : Text.Pinyin) (launch : Launch) (settings : ManagerSettings) (profiles : Option String)
    (options : ListOptions) (world : World) : Except Failure Overview × World :=
  match loadProfiles launch.build (surroundingsOf launch.caller world) (profiles <|> settings.profilesPath) with
  | .error failure => (.error failure, world)
  | .ok store =>
    let rules : Rules := ⟨settings.selfPackage, ownerName [], Text.compareLabels, pinyin⟩
    let setup : Setup Helpers := ⟨rules, settings.packageFlags, launch.host⟩
    let session := Session.start settings.filters (store.view []) { world }
    let prepared := (preparations settings options).foldl (fun session action => (session.perform setup action).2) session
    let (answer, session) := prepared.perform setup (.call .full)
    let left := session.site.world.world
    match answer with
    | .ended (.ok report) => (.ok (.ofSession options report session), left)
    | .ended (.error failure) => (.error failure, left)
    | _ => (.error (.new FailureKind.internal.code "operation failed"), left)

end AppGrants.CommandLine
