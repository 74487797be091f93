import AppGrants.Helper.Command
import AppGrants.Helper.Listing
import AppGrants.Service.Capabilities

/-! The package manager, asked through its commands. What it can do is found out once and kept. -/
namespace AppGrants.Helper

open Service

structure Backend (ω : Type) where
  world : ω
  known : Option Capabilities := none

namespace Backend

def run (runner : Runner ω) (command : Command) (backend : Backend ω) : Except Failure String × Backend ω :=
  let (result, world) := runner command backend.world
  (result, { backend with world })

def usersCommand : Command := ⟨"pm", ["list", "users"]⟩

def userArgument (user : Int32) : String := toString user.toInt

/-- The flag that asks for packages which are no longer installed. -/
def matchUninstalled : UInt32 := 0x2000

def packagesCommand (flags : UInt32) (user : Int32) : Command :=
  ⟨"pm", ["list", "packages", "-U", "-f", "--user", userArgument user] ++
    if flags &&& matchUninstalled != 0 then ["-u"] else []⟩

def overlaysCommand (user : Int32) : Command := ⟨"cmd", ["overlay", "list", "--user", userArgument user]⟩

/-- Both ways of listing users are there if the list has an entry at all. -/
def capabilitiesOf : Except Failure String → Capabilities
  | .ok output => if (UserEntry.parseAll output).isEmpty then {} else ⟨true, true⟩
  | .error _ => {}

def capabilities (runner : Runner ω) (backend : Backend ω) : Capabilities × Backend ω :=
  match backend.known with
  | some known => (known, backend)
  | none =>
    let (result, backend) := backend.run runner usersCommand
    (capabilitiesOf result, { backend with known := some (capabilitiesOf result) })

def orPrimary (ids : List Int32) : List Int32 := if ids.isEmpty then [0] else ids

/-- Dying users are not printed; of the others some may not be running. -/
def idsOf (strategy : UserStrategy) (users : List UserEntry) : List Int32 :=
  orPrimary (ascending ((users.filter fun user => strategy != .aliveUsers || user.running).map (·.id)))

def listUserIds (runner : Runner ω) (strategy : UserStrategy) (backend : Backend ω) :
    Except Failure (List Int32) × Backend ω :=
  match strategy with
  | .primaryOnly => (.ok [0], backend)
  | strategy =>
    let (result, backend) := backend.run runner usersCommand
    (result.map fun output => idsOf strategy (UserEntry.parseAll output), backend)

/-- Without a list no package is an overlay. -/
def overlaysFor (runner : Runner ω) (user : Int32) (backend : Backend ω) : List String × Backend ω :=
  let (result, backend) := backend.run runner (overlaysCommand user)
  match result with
  | .ok output => (Overlay.parseAll output, backend)
  | .error _ => ([], backend)

def markOverlays (overlays : List String) (packages : List PackageMeta) : List PackageMeta :=
  packages.map fun package =>
    if overlays.contains package.packageName then package.flagged .resourceOverlay else package

def markShared (packages : List PackageMeta) : List PackageMeta :=
  packages.map fun package =>
    if packages.countP (·.uid == package.uid) > 1 then package.flagged .sharedUid else package

def packagesOf (overflow : Overflow) (runner : Runner ω) (flags : UInt32) (user : Int32) (backend : Backend ω) :
    Outcome (List PackageMeta) × Backend ω :=
  let (result, backend) := backend.run runner (packagesCommand flags user)
  match result with
  | .error failure => (.failed failure, backend)
  | .ok output =>
    let (overlays, backend) := backend.overlaysFor runner user
    ((PackageLine.parseAll overflow output user).map (markOverlays overlays), backend)

/-- The packages of all users one after another; the first user whose packages cannot be listed ends it. -/
def packagesOfAll (overflow : Overflow) (runner : Runner ω) (flags : UInt32) :
    List Int32 → Backend ω → Outcome (List PackageMeta) × Backend ω
  | [], backend => (.done [], backend)
  | user :: others, backend =>
    match backend.packagesOf overflow runner flags user with
    | (.done packages, backend) =>
      let (ending, backend) := packagesOfAll overflow runner flags others backend
      (ending.map (packages ++ ·), backend)
    | other => other

def listPackages (overflow : Overflow) (runner : Runner ω) (flags : UInt32) (backend : Backend ω) :
    Outcome (List PackageMeta) × Backend ω :=
  let (capabilities, backend) := backend.capabilities runner
  match backend.listUserIds runner capabilities.negotiate with
  | (.error failure, backend) => (.failed failure, backend)
  | (.ok users, backend) =>
    let (ending, backend) := backend.packagesOfAll overflow runner flags users
    (ending.map markShared, backend)

end Backend
end AppGrants.Helper
