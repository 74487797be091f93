import AppGrants.Outcome
import AppGrants.Service.Wire

/-! The service at the other end: something that can be bound, and calls on the channels that binding gives. A host is
any deterministic behaviour with a state of its own; channels are numbered in the order in which they are bound. -/
namespace AppGrants.Service

/-- An answer, and how often the host told meanwhile that the service went away. -/
structure Reply (ε α : Type) where
  ending : Ending ε α
  notices : Nat := 0
deriving DecidableEq, Repr

/-- `release` ends a channel properly; `discard` lets go of one without that. -/
structure Host (ω : Type) where
  bind : Nat → ω → Reply Failure Unit × ω
  capabilities : Nat → ω → Reply TransportError Capabilities × ω
  listUserIds : Nat → UserStrategy → ω → Reply TransportError (List Int32) × ω
  listPackages : Nat → UInt32 → ω → Reply TransportError (List PackageMeta) × ω
  release : Nat → ω → ω
  discard : Nat → ω → ω

end AppGrants.Service
