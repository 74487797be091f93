import AppGrants.Service.Pool

/-! A service that follows a script: it returns what it was set up with, unless the next entry planned for the method
says otherwise, and it keeps a log of all calls. -/
namespace AppGrants.Service

/-- The next entries of one method; none of them means that the call succeeds. -/
abbrev Plan (ε : Type) := List (Option (Ending ε Unit))

structure Script where
  capabilities : Capabilities := {}
  users : List Int32 := []
  packages : List PackageMeta := []
  bindPlan : Plan Failure := []
  capabilitiesPlan : Plan TransportError := []
  usersPlan : Plan TransportError := []
  packagesPlan : Plan TransportError := []
  log : List String := []
  hooks : Nat := 0

namespace Script

def follow (plan : Plan ε) (value : α) : Reply ε α :=
  match plan with
  | some (.failed error) :: _ => ⟨.failed error, 0⟩
  | some (.panicked text) :: _ => ⟨.panicked text, 0⟩
  | _ => ⟨.done value, 0⟩

def logged (script : Script) (entry : String) : Script := { script with log := script.log ++ [entry] }

def host : Host Script where
  bind _ script :=
    (follow script.bindPlan (),
      { script.logged "bind" with bindPlan := script.bindPlan.tail, hooks := script.hooks + 1 })
  capabilities _ script :=
    (follow script.capabilitiesPlan script.capabilities,
      { script.logged "capabilities" with capabilitiesPlan := script.capabilitiesPlan.tail })
  listUserIds _ strategy script :=
    (follow script.usersPlan script.users,
      { script.logged ("users " ++ strategy.name) with usersPlan := script.usersPlan.tail })
  listPackages _ flags script :=
    (follow script.packagesPlan script.packages,
      { script.logged ("packages " ++ toString flags.toNat) with packagesPlan := script.packagesPlan.tail })
  release _ script := script.logged "release"
  discard _ script := script

/-- The log since it was last taken. -/
def takeLog (script : Script) : List String × Script := (script.log, { script with log := [] })

end Script

/-- Calls a hook that was handed to the service when binding; there is none for a number that is too large. -/
def Pool.callHook (number : Nat) (pool : Pool Script) : Pool Script :=
  if number < pool.site.world.hooks then pool.disconnect else pool

end AppGrants.Service
