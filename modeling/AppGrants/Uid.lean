import AppGrants.Json.Codec

/-! User ids. Every user account of the device owns a range of them, and a package has in each account the same place
within the range. -/
namespace AppGrants

abbrev Uid := Int32

namespace Uid

/-- How many uids one user account owns. -/
def perUser : Int32 := 100000

/-- The shell's uid; it is always listed. -/
def shell : Uid := 2000

/-- The account that the uid belongs to; division is toward zero. -/
def userIndex (uid : Uid) : Int32 := uid / perUser

/-- The place within the account's range, with the sign of the uid. -/
def appId (uid : Uid) : Int32 := uid % perUser

def order (left right : Int32) : Ordering := compare left.toInt right.toInt

end Uid

/-- The number put in its place of an ascending list, unless it is there. -/
def insertAscending (n : Int32) : List Int32 → List Int32
  | [] => [n]
  | m :: rest =>
    match Uid.order n m with
    | .lt => n :: m :: rest
    | .eq => m :: rest
    | .gt => m :: insertAscending n rest

/-- The numbers in ascending order, each once. -/
def ascending (numbers : List Int32) : List Int32 :=
  numbers.foldl (fun kept n => insertAscending n kept) []

end AppGrants
