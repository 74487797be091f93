import AppGrants.Machine.Dialogue
import AppGrants.Service.Channel
import AppGrants.Service.Host

/-! The service as a helper that is started by a command and talked to over its standard streams. -/
namespace AppGrants.Service

open Machine

/-- What starting helpers takes: the command, and who starts it. -/
structure Launch where
  build : Build
  spawn : Spawn
  caller : Job
  command : List String

/-- Helpers by the number of their channel, in the world that they share. -/
structure Helpers where
  world : World
  channels : List (Nat × Channel Dialogue) := []

namespace Launch

def peer (launch : Launch) : Peer Dialogue where
  status? := Dialogue.status?
  write := Dialogue.write
  readLine := Dialogue.readLine launch.spawn
  stop := Dialogue.kill

/-- A helper that was started and greeted; one that could not be started has no channel. -/
def connect (launch : Launch) (world : World) : Except Failure Unit × Option (Channel Dialogue) :=
  if launch.command.isEmpty then (.error Channel.emptyCommand, none)
  else match Dialogue.start launch.spawn launch.caller launch.command world with
    | .error fault => (.error (Channel.startFailure launch.build launch.command fault.message), none)
    | .ok dialogue =>
      let (result, channel) := Channel.greet launch.peer launch.command { peer := dialogue }
      (result, some channel)

end Launch

namespace Helpers

/-- The channel as it stands now, and the world as its helper left it. Time passes for helpers only. -/
def store (number : Nat) (channel : Channel Dialogue) (helpers : Helpers) : Helpers where
  world := { channel.peer.world with pauses := helpers.world.pauses }
  channels := (number, channel) :: helpers.channels.filter (·.1 != number)

def call (number : Nat) (operation : Channel Dialogue → Except TransportError α × Channel Dialogue) (helpers : Helpers) :
    Reply TransportError α × Helpers :=
  match helpers.channels.lookup number with
  | none => (⟨.failed ⟨"helper already disconnected"⟩, 0⟩, helpers)
  | some channel =>
    let (result, after) := operation channel
    (⟨.ofExcept result, if channel.lost.isNone && after.lost.isSome then 1 else 0⟩, helpers.store number after)

def update (number : Nat) (operation : Channel Dialogue → Channel Dialogue) (helpers : Helpers) : Helpers :=
  match helpers.channels.lookup number with
  | none => helpers
  | some channel => helpers.store number (operation channel)

end Helpers

def Launch.host (launch : Launch) : Host Helpers where
  bind number helpers :=
    match launch.connect helpers.world with
    | (result, none) => (⟨.ofExcept result, 0⟩, helpers)
    | (result, some channel) => (⟨.ofExcept result, channel.lost.toList.length⟩, helpers.store number channel)
  capabilities number := Helpers.call number (Channel.askCapabilities launch.peer)
  listUserIds number strategy := Helpers.call number (Channel.listUserIds launch.peer strategy)
  listPackages number flags := Helpers.call number (Channel.listPackages launch.peer flags)
  release number := Helpers.update number (Channel.release launch.peer)
  discard number helpers :=
    let released := helpers.update number (Channel.release launch.peer)
    { released with channels := released.channels.filter (·.1 != number) }

end AppGrants.Service
