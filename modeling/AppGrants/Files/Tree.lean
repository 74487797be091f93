import AppGrants.Files.Path
import AppGrants.Text.Utf8

/-! Files and folders as a value: what is where, and how looking for a path fails. Names are texts, so there are none here
that are not UTF-8. Times are in nanoseconds. -/
namespace AppGrants.Files

open Text

inductive FileFault where
  | missing
  | denied
  | exists
  | notFolder
  | isFolder
  | nameTooLong
  | holdsNul
  | notText
  | notProgram
  | argumentHoldsNul
  | argumentsTooLong
  | tooManyLevels
deriving DecidableEq, Repr

/-- The system's own words. -/
def FileFault.reason : FileFault → String
  | .missing => "No such file or directory"
  | .denied => "Permission denied"
  | .exists => "File exists"
  | .notFolder => "Not a directory"
  | .isFolder => "Is a directory"
  | .nameTooLong => "File name too long"
  | .holdsNul => "file name contained an unexpected NUL byte"
  | .notText => "stream did not contain valid UTF-8"
  | .notProgram => "Exec format error"
  | .argumentHoldsNul => "nul byte found in provided data"
  | .argumentsTooLong => "Argument list too long"
  | .tooManyLevels => "Too many levels of symbolic links"

/-- The number of a fault that the system itself has found. -/
def FileFault.number? : FileFault → Option Nat
  | .missing => some 2
  | .argumentsTooLong => some 7
  | .notProgram => some 8
  | .denied => some 13
  | .exists => some 17
  | .notFolder => some 20
  | .isFolder => some 21
  | .nameTooLong => some 36
  | .tooManyLevels => some 40
  | .holdsNul | .notText | .argumentHoldsNul => none

def FileFault.message (fault : FileFault) : String :=
  match fault.number? with
  | some number => fault.reason ++ " (os error " ++ toString number ++ ")"
  | none => fault.reason

inductive Node where
  | folder
  | file (content : Bytes) (executable : Bool)
deriving DecidableEq, Repr

def Node.isFile : Node → Bool
  | .folder => false
  | .file _ _ => true

/-- A file or folder under its names from the root, with the time when it was last written. -/
structure Item where
  names : List String
  node : Node
  modified : Int := 0
deriving DecidableEq, Repr

/-- A file, or a folder with what is in it by name. -/
inductive Tree where
  | file (content : Bytes) (executable : Bool) (modified : Int)
  | folder (modified : Int) (entries : List (String × Tree))
deriving Repr

namespace Tree

def empty : Tree := .folder 0 []

instance : EmptyCollection Tree := ⟨empty⟩

def node : Tree → Node
  | file content executable _ => .file content executable
  | folder _ _ => .folder

def modified : Tree → Int
  | file _ _ modified => modified
  | folder modified _ => modified

def entries : Tree → List (String × Tree)
  | file _ _ _ => []
  | folder _ entries => entries

/-- What is under the names, if anything is. -/
def at? (tree : Tree) : List String → Option Tree
  | [] => some tree
  | name :: rest => (tree.entries.lookup name).bind (at? · rest)

def node? (tree : Tree) (names : List String) : Option Node := (tree.at? names).map node

/-- Changes what is under the names; folders on the way are made where they are missing. -/
def alter (change : Option Tree → Option Tree) : List String → Option Tree → Option Tree
  | [], found => change found
  | name :: rest, found =>
    let tree := found.getD empty
    let others := tree.entries.filter (·.1 != name)
    match alter change rest (tree.entries.lookup name) with
    | some changed => some (.folder tree.modified (others ++ [(name, changed)]))
    | none => some (.folder tree.modified others)

/-- What is put in place of what was there; a folder keeps what is in it. -/
def insert (tree : Tree) (item : Item) : Tree :=
  let change (found : Option Tree) : Option Tree :=
    match item.node with
    | .file content executable => some (.file content executable item.modified)
    | .folder => some (.folder item.modified ((found.map entries).getD []))
  (alter change item.names (some tree)).getD empty

def erase (tree : Tree) (names : List String) : Tree := (alter (fun _ => none) names (some tree)).getD empty

/-- The tree without the named entries of a folder. -/
def eraseAll (tree : Tree) (place : List String) (names : List String) : Tree :=
  names.foldl (fun tree name => tree.erase (place ++ [name])) tree

/-- The longest name, and the longest path with the end of its text. -/
def longestName : Nat := 255

def longestPath : Nat := 4096

/-- The names that a path leads to from a folder; the last one need not be there. -/
def walk (tree : Tree) (place : List String) : List String → Except FileFault (List String)
  | [] => .ok place
  | name :: rest =>
    match tree.node? place with
    | none => .error .missing
    | some (.file _ _) => .error .notFolder
    | some .folder =>
      if name.utf8ByteSize > longestName then .error .nameTooLong
      else walk tree (if name == "." then place else if name == ".." then place.dropLast else place ++ [name]) rest

/-- What is wrong with a path whatever there is. -/
def pathFault? (path : String) : Option FileFault :=
  if path.isEmpty then some .missing
  else if path.contains '\x00' then some .holdsNul
  else if path.utf8ByteSize ≥ longestPath then some .nameTooLong
  else none

def resolve (tree : Tree) (folder : List String) (path : String) : Except FileFault (List String) := do
  match pathFault? path with
  | some fault => .error fault
  | none =>
    let place ← tree.walk (if Path.isAbsolute path then [] else folder) (Path.names path)
    if Path.asksForFolder path && ((tree.node? place).any Node.isFile) then .error .notFolder else .ok place

def find (tree : Tree) (folder : List String) (path : String) : Except FileFault Node := do
  let place ← tree.resolve folder path
  match tree.node? place with
  | some node => .ok node
  | none => .error .missing

def holds (tree : Tree) (folder : List String) (path : String) : Bool := (tree.find folder path).isOk

def read (tree : Tree) (folder : List String) (path : String) : Except FileFault Bytes := do
  match ← tree.find folder path with
  | .file content _ => .ok content
  | .folder => .error .isFolder

def readText (tree : Tree) (folder : List String) (path : String) : Except FileFault String := do
  let content ← tree.read folder path
  match ofUtf8? content with
  | some text => .ok text
  | none => .error .notText

/-- The folders on the way to a place, the place itself among them, are made where they are missing. -/
def makeFolders (tree : Tree) (place : List String) : List String → Except FileFault Tree
  | [] => .ok tree
  | name :: rest =>
    let next := if name == "." then place else if name == ".." then place.dropLast else place ++ [name]
    match tree.node? next with
    | some .folder => makeFolders tree next rest
    | some (.file _ _) => .error (if rest.isEmpty then .exists else .notFolder)
    | none =>
      if name.utf8ByteSize > longestName then .error .nameTooLong
      else makeFolders (tree.insert ⟨next, .folder, 0⟩) next rest

def createFolders (tree : Tree) (folder : List String) (path : String) : Except FileFault Tree :=
  match pathFault? path with
  | some .missing => .ok tree
  | some fault => .error fault
  | none => tree.makeFolders (if Path.isAbsolute path then [] else folder) (Path.names path)

/-- An item is put in its place unless a file is in the way. -/
def place (tree : Tree) (item : Item) : Tree :=
  match tree.makeFolders [] item.names.dropLast with
  | .ok grown => grown.insert item
  | .error _ => tree

/-- The items directly in a folder. -/
def children (tree : Tree) (names : List String) : List Item :=
  match tree.at? names with
  | some found => found.entries.map fun (name, entry) => ⟨names ++ [name], entry.node, entry.modified⟩
  | none => []

mutual

/-- Everything in a tree that is found under the names, each folder before what is in it. -/
def itemsUnder (names : List String) : Tree → List Item
  | file content executable modified => [⟨names, .file content executable, modified⟩]
  | folder modified entries => ⟨names, .folder, modified⟩ :: itemsWithin names entries

def itemsWithin (names : List String) : List (String × Tree) → List Item
  | [] => []
  | (name, entry) :: rest => itemsUnder (names ++ [name]) entry ++ itemsWithin names rest

end

def items (tree : Tree) : List Item := itemsUnder [] tree

end Tree
end AppGrants.Files
