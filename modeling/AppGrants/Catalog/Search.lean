import AppGrants.Catalog.Group
import AppGrants.Failure
import AppGrants.Text.Lowercase
import AppGrants.Text.Pinyin

/-! Searching the list: a text is found in labels, in package names, and in labels spelled in Latin letters, whatever
the case. -/
namespace AppGrants.Catalog

open Json

inductive SearchStatus where
  | default
  | loading
  | empty
  | show
deriving DecidableEq, Repr

def SearchStatus.name : SearchStatus → String
  | .default => "default"
  | .loading => "loading"
  | .empty => "empty"
  | .show => "show"

structure SearchView where
  text : String := ""
  status : SearchStatus := .default
  results : List AppRecord := []
  matchedGroups : List Group := []
deriving DecidableEq, Repr

namespace Search

def needle (text : String) : List Char := Text.lowercase (Text.trim text.toList)

def spelledLabel (pinyin : Text.Pinyin) (label : String) : List Char := Text.lowercase (Text.spell pinyin label.toList)

def finds (pinyin : Text.Pinyin) (needle : List Char) (record : AppRecord) : Bool :=
  Failure.hasInfix needle (Text.lowercase record.displayLabel.toList) ||
    Failure.hasInfix needle (Text.lowercase record.packageName.toList) ||
    Failure.hasInfix needle (spelledLabel pinyin record.displayLabel)

/-- Nothing found is told as still loading while it may yet come. -/
def status (results : List AppRecord) (loading : Bool) : SearchStatus :=
  if !results.isEmpty then .show else if loading then .loading else .empty

end Search

def search (pinyin : Text.Pinyin) (text : String) (visible : List AppRecord) (groups : List Group) (loading : Bool) :
    SearchView :=
  let needle := Search.needle text
  if needle.isEmpty then { text }
  else
    let results := visible.filter (Search.finds pinyin needle)
    { text, status := Search.status results loading, results
      matchedGroups := groups.filter fun group => results.any (·.uid == group.uid) }

def SearchView.toDoc (view : SearchView) : Doc := .object [
  ("text", .text view.text), ("status", .text view.status.name), ("results", Codec.toDoc view.results),
  ("matchedGroups", .list (view.matchedGroups.map Group.toDoc))]

end AppGrants.Catalog
