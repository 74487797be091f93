import AppGrants.CommandLine.Overview
import AppGrants.CommandLine.Usage
import AppGrants.Helper.Serve
import AppGrants.Helper.Spawned
import AppGrants.Logs.Setup

/-! The program: it lists apps, or it is the helper that answers on its input. Failures are told as one line on the error
output. -/
namespace AppGrants.CommandLine

open Helper Machine Service Settings Text

/-- The program as it was built, with the readings of characters that it knows and the place where it lies. -/
structure Installation where
  build : Build
  overflow : Overflow := build.overflow
  pinyin : Pinyin
  executable : String

namespace Program

def usageStatus : Nat := 2

def failureStatus : Nat := 1

def panicStatus : Nat := 101

def say (job : Job) (descriptor : Nat) (text : String) (world : World) : World :=
  (world.write (job.descriptors.lookup descriptor) (octets text)).2

def tell (job : Job) (failure : Failure) (world : World) : Finish × World :=
  (.exited failureStatus, say job 2 (failure.toDoc.compact ++ "\n") world)

def refuse (job : Job) (fault : UsageFault) (world : World) : Finish × World :=
  if fault.isAnswer then (.exited 0, say job 1 fault.message world)
  else (.exited usageStatus, say job 2 fault.message world)

/-- The part of a text that ends with a line feed. -/
def completeLines (cs : List Char) : List Char := (cs.reverse.dropWhile (· != '\n')).reverse

/-- Answers the lines that are there. The last one counts as a line without its end only if no more may come. -/
def serveInput (installed : Installation) (spawn : Spawn) (job : Job) (world : World) : Finish × World :=
  let (source, world) := world.readAll (job.descriptors.lookup 0)
  let input := if source.more then completeLines source.rest else source.rest
  let runner := spawnedRunner installed.build spawn job
  let served := serve installed.build installed.overflow runner {} (bytesOfOctets input) ⟨world, none⟩
  let world := say job 1 (String.join (served.lines.map (· ++ "\n"))) served.backend.world
  match served.ending with
  | .done _ => (if source.more && !served.isOver then .awaitsInput else .exited 0, world)
  | .failed failure => tell job failure world
  | .panicked text => (.exited panicStatus, say job 2 ("panicked: " ++ text ++ "\n") world)

/-- Lists the apps. In a world where nothing waits a refresh takes no time. -/
def listApps (pinyin : Pinyin) (launch : Launch) (settings : ManagerSettings) (options : ListOptions)
    (profiles : Option String) (world : World) : Finish × World :=
  match overview pinyin launch settings profiles options world with
  | (.ok found, world) => (.exited 0, say launch.caller 1 ((found.toDoc found.report.milliseconds.toNat).pretty ++ "\n") world)
  | (.error failure, world) => tell launch.caller failure world

/-- Gets the folder of the logs ready; without one the program goes on. -/
def prepareLogs (build : Build) (now : Int) (job : Job) (settings : ManagerSettings) (world : World) : World :=
  let (ready, tree) := Logs.prepare build (surroundingsOf job world) settings.dataDir settings.log now
  let world := { world with tree }
  match ready with
  | .ok _ => world
  | .error failure => say job 2 ("logging disabled: " ++ failure.line ++ "\n") world

def perform (installed : Installation) (now : Int) (invocation : Invocation) : Program := fun spawn job world =>
  match ManagerSettings.load installed.build (surroundingsOf job world) invocation.config with
  | .error failure => tell job failure world
  | .ok settings =>
    let world := prepareLogs installed.build now job settings world
    match invocation.task with
    | .serve => serveInput installed spawn job world
    | .list options profiles =>
      let launch : Launch := ⟨installed.build, spawn, job, helperCommand installed.executable settings⟩
      listApps installed.pinyin launch settings options profiles world

end Program

/-- The whole program, which is told what time it is. -/
def program (installed : Installation) (now : Int) : Program := fun spawn => Utility.keepingOpen fun job world =>
  match Invocation.ofArguments (job.arguments.tail.map textOfOctets) with
  | .error fault => Program.refuse job fault world
  | .ok invocation => Program.perform installed now invocation spawn job world

end AppGrants.CommandLine
