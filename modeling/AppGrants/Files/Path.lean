import AppGrants.Text.Blank

/-! Paths as texts: names with slashes between them. -/
namespace AppGrants.Files

namespace Path

/-- The second path seen from the first one; an absolute path stays as it is. -/
def join (base path : String) : String :=
  if path.startsWith "/" || base.isEmpty then path
  else if base.endsWith "/" then base ++ path
  else base ++ "/" ++ path

def isAbsolute (path : String) : Bool := path.startsWith "/"

/-- The names from left to right, without the empty ones. -/
def names (path : String) : List String :=
  ((Text.parts (· == '/') path.toList).filter (!·.isEmpty)).map String.ofList

/-- Whether the path can only be meant for a folder. -/
def asksForFolder (path : String) : Bool := path.endsWith "/" || path.endsWith "/." || path == "." || path == ".."

/-- What follows the last point of a name that does not begin with it. -/
def extension? (name : List Char) : Option (List Char) :=
  let after := (name.reverse.takeWhile (· != '.')).reverse
  let before := name.reverse.dropWhile (· != '.')
  if before.length > 1 then some after else none

end Path
end AppGrants.Files
