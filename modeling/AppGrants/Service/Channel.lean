import AppGrants.Failure
import AppGrants.Service.Wire

/-! A channel to the helper: requests are written with ascending ids, and each one waits for one line that answers it. The
channel is lost at most once; from then on nothing is written to it. -/
namespace AppGrants.Service

open Json

/-- The helper as it is seen from this end: how it ended if it has ended, lines to it and from it, and ending it by force.
A line that cannot be written or read has the text of the fault; no line is the end of the stream. -/
structure Peer (π : Type) where
  status? : π → Option String
  write : String → π → Except String Unit × π
  readLine : π → Except String (Option String) × π
  stop : π → π

structure Channel (π : Type) where
  peer : π
  /-- The number after the greatest one is 0. -/
  nextId : UInt64 := 1
  capabilities : Option Capabilities := none
  /-- Why the helper went away, if it has. -/
  lost : Option String := none
  isReleased : Bool := false

namespace Channel

def lose (reason : String) (channel : Channel π) : Channel π := { channel with lost := channel.lost <|> some reason }

/-- The value that a line brings as the answer to a request. -/
def valueOf [Codec α] (id : Nat) (line : String) : Except TransportError α :=
  match decode (α := Response) (String.ofList (Text.trimEnd line.toList)) with
  | .error fault => .error ⟨"decode response failed: " ++ fault.message⟩
  | .ok response =>
    if response.id = id then response.intoResult
    else .error ⟨"response id mismatch: expected " ++ toString id ++ ", got " ++ toString response.id⟩

/-- The answer to a request that has been written. -/
def receive [Codec α] (peer : Peer π) (id : Nat) (method : Method) (channel : Channel π) :
    Except TransportError α × Channel π :=
  let (line, rest) := peer.readLine channel.peer
  let read := { channel with peer := rest }
  match line with
  | .error fault => (.error ⟨fault⟩, read)
  | .ok none =>
    (.error ⟨"helper closed the stream during " ++ method.name⟩, read.lose "helper stdout closed")
  | .ok (some line) => (valueOf id line, read)

def request [Codec α] (peer : Peer π) (method : Method) (channel : Channel π) : Except TransportError α × Channel π :=
  if channel.lost.isSome then (.error ⟨"helper already disconnected"⟩, channel)
  else match peer.status? channel.peer with
    | some status => (.error ⟨"helper exited: " ++ status⟩, channel.lose ("helper exited: " ++ status))
    | none =>
      let id := channel.nextId.toNat
      let (written, rest) := peer.write ((Request.mk id method).encode ++ "\n") channel.peer
      let sent := { channel with peer := rest, nextId := channel.nextId + 1 }
      match written with
      | .error fault => (.error ⟨fault⟩, sent.lose "helper stdin closed")
      | .ok () => receive peer id method sent

/-- The capabilities are asked for only while they are not known. -/
def askCapabilities (peer : Peer π) (channel : Channel π) : Except TransportError Capabilities × Channel π :=
  match channel.capabilities with
  | some capabilities => (.ok capabilities, channel)
  | none =>
    match channel.request (α := Hello) peer .hello with
    | (.ok hello, channel) => (.ok hello.capabilities, { channel with capabilities := some hello.capabilities })
    | (.error error, channel) => (.error error, channel)

def listUserIds (peer : Peer π) (strategy : UserStrategy) (channel : Channel π) :
    Except TransportError (List Int32) × Channel π :=
  channel.request peer (.listUserIds strategy)

def listPackages (peer : Peer π) (flags : UInt32) (channel : Channel π) :
    Except TransportError (List PackageMeta) × Channel π :=
  channel.request peer (.listPackages flags)

/-- A helper that is still there is asked to shut down, and then ended; a second time nothing happens. -/
def release (peer : Peer π) (channel : Channel π) : Channel π :=
  if channel.isReleased then channel
  else
    let told :=
      if channel.lost.isSome then channel.peer
      else (peer.write ((Request.mk channel.nextId.toNat .shutdown).encode ++ "\n") channel.peer).2
    { channel with peer := peer.stop told, isReleased := true }

/-! Binding. -/

def emptyCommand : Failure := .serviceUnavailable "helper command is empty"

def startFailure (build : Build) (command : List String) (fault : String) : Failure :=
  ((Failure.ofRaised build ((Raised.ofText fault).remark ("failed to spawn helper: " ++ command.headD ""))).withCode
    FailureKind.serviceUnavailable.code "failed to start privileged helper").withContext "command" (" ".intercalate command)

def handshakeFailure (command : List String) (error : TransportError) : Failure :=
  ((Failure.serviceUnavailable "privileged helper handshake failed").withContext "command" (" ".intercalate command)
    ).withSource TransportError.typeName [error.line]

def versionFailure (actual : UInt32) : Failure :=
  ((Failure.serviceUnavailable "privileged helper speaks another protocol").withContext "expected"
    (toString protocolVersion.toNat)).withContext "actual" (toString actual.toNat)

/-- The first request to a helper that was started. A channel whose helper does not answer it well is released. -/
def greet (peer : Peer π) (command : List String) (channel : Channel π) : Except Failure Unit × Channel π :=
  match channel.request (α := Hello) peer .hello with
  | (.error error, channel) => (.error (handshakeFailure command error), channel.release peer)
  | (.ok hello, channel) =>
    if hello.protocolVersion = protocolVersion then
      (.ok (), { channel with capabilities := some hello.capabilities })
    else (.error (versionFailure hello.protocolVersion), channel.release peer)

end Channel
end AppGrants.Service
