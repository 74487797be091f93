import AppGrants.Files.Tree
import AppGrants.Shell.Pattern
import AppGrants.Text.Octets

/-! Fields that are patterns of paths. Each name of a path is a pattern of its own; a name that begins with a point is found
only by a pattern that does. -/
namespace AppGrants.Shell

open Files Text

namespace Glob

def isPattern (items : List PatternChar) : Bool := items.any fun item => !item.quoted && "*?[".toList.contains item.c

/-- The names in a folder that a pattern stands for, in order. -/
def namesIn (tree : Tree) (folder : List String) (pattern : List PatternChar) : List (List Char) :=
  let names := [".", ".."] ++ (tree.children folder).filterMap (·.names.getLast?)
  let found := (names.map octets).filter fun name =>
    (name.head? != some '.' || pattern.head?.any (·.c == '.')) && fits pattern name
  found.mergeSort fun a b => (compare a b) != .gt

/-- The paths that there are of those that a pattern stands for, each after what stands before it. -/
def paths (tree : Tree) (folder : List String) : List (List PatternChar) → List Char → List (List Char)
  | [], before => if tree.holds folder (textOfOctets before) then [before] else []
  | name :: rest, before =>
    let place := if before.isEmpty then .ok folder else tree.resolve folder (textOfOctets before)
    let found : List (List Char) := match isPattern name, place with
      | false, _ => [name.map PatternChar.c]
      | true, .ok place => namesIn tree place name
      | true, .error _ => []
    found.flatMap fun text => paths tree folder rest (before ++ text ++ if rest.isEmpty then [] else ['/'])

end Glob

/-- The paths that a field stands for, or its own text if it stands for none. -/
def pathsOf (tree : Files.Tree) (folder : List String) (field : List PatternChar) : List (List Char) :=
  let text := field.map (·.c)
  if !Glob.isPattern field then [text]
  else match Glob.paths tree folder (parts (fun (item : PatternChar) => item.c == '/') field) [] with
    | [] => [text]
    | found => found

end AppGrants.Shell
