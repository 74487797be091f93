import AppGrants.Json.Codec

/-! What the enumeration service can do, and the way of listing users that follows from it. -/
namespace AppGrants.Service

open Json

inductive UserStrategy where
  | usersExcludingDying
  | aliveUsers
  | primaryOnly
deriving DecidableEq, Repr

namespace UserStrategy

def name : UserStrategy → String
  | usersExcludingDying => "usersExcludingDying"
  | aliveUsers => "aliveUsers"
  | primaryOnly => "primaryOnly"

def all : List UserStrategy := [usersExcludingDying, aliveUsers, primaryOnly]

def ofName (text : String) : UserStrategy := (all.find? (·.name == text)).getD primaryOnly

instance : Codec UserStrategy where
  shape := .choice (all.map name)
  toDoc strategy := .text strategy.name
  ofDoc doc := ofName doc.asText

end UserStrategy

structure Capabilities where
  usersExcludingDying : Bool := false
  aliveUsers : Bool := false
deriving DecidableEq, Repr

namespace Capabilities

def shape : Shape := .record "ServiceCapabilities" [
  Field.defaulted "usersExcludingDying" .boolean, Field.defaulted "aliveUsers" .boolean]

def toDoc (capabilities : Capabilities) : Doc := .object [
  ("usersExcludingDying", .bool capabilities.usersExcludingDying), ("aliveUsers", .bool capabilities.aliveUsers)]

instance : Codec Capabilities where
  shape := shape
  toDoc := toDoc
  ofDoc doc := ⟨doc.fieldOr "usersExcludingDying" false Codec.ofDoc, doc.fieldOr "aliveUsers" false Codec.ofDoc⟩

/-- The first way in the order of preference that the service supports. -/
def negotiate (capabilities : Capabilities) : UserStrategy :=
  if capabilities.usersExcludingDying then .usersExcludingDying
  else if capabilities.aliveUsers then .aliveUsers
  else .primaryOnly

end Capabilities

/-- A call that did not come back with a value. -/
structure TransportError where
  message : String
deriving DecidableEq, Repr

def TransportError.line (error : TransportError) : String := "transport error: " ++ error.message

def TransportError.typeName : String := "sumgr_service::channel::TransportError"

end AppGrants.Service
