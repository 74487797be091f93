import AppGrants.Failure
import AppGrants.Files.Path

/-! Which log files are kept. A log is a regular file with the extension of logs; it has expired when it was last written
longer ago than logs are kept. Names are texts here; a folder with a name that is not UTF-8 is not spoken of. -/
namespace AppGrants.Logs

open Files

/-- An entry of the folder, with how asking for its time and removing it would go. -/
structure Entry where
  name : String
  isFile : Bool
  modified : Except String Int
  removal : Except String Unit := .ok ()

def isLogName (name : String) : Bool :=
  match Path.extension? name.toList with
  | some ending => ending.map Char.toLower == "log".toList
  | none => false

namespace Entry

def isLog (entry : Entry) : Bool := entry.isFile && isLogName entry.name

/-- A time that is still to come is no time ago. -/
def hasExpired (keep : Nat) (now modified : Int) : Bool := (now - modified).toNat > keep

def failure (build : Build) (path remark text code message : String) : Failure :=
  ((Failure.ofRaised build ((Raised.ofText text).remark (remark ++ ": " ++ path))).withCode code message).withContext
    "logPath" path

def timeFailure (build : Build) (path text : String) : Failure :=
  failure build path "failed to read log mtime" text "log_cleanup_modified_time_failed" "failed to read log mtime"

def removalFailure (build : Build) (path text : String) : Failure :=
  failure build path "failed to remove expired log" text "log_cleanup_remove_failed" "failed to remove expired log"

/-- Whether the entry is to be removed and was removed. -/
def clean (build : Build) (folder : String) (keep : Nat) (now : Int) (entry : Entry) : Except Failure Bool :=
  if !entry.isLog then .ok false
  else
    let path := Path.join folder entry.name
    match entry.modified, entry.removal with
    | .error text, _ => .error (timeFailure build path text)
    | .ok modified, removal =>
      if !hasExpired keep now modified then .ok false
      else match removal with
        | .ok _ => .ok true
        | .error text => .error (removalFailure build path text)

end Entry

/-- The names of the entries that were removed, and the failure that put an end to it. -/
def cleanUp (build : Build) (folder : String) (keep : Nat) (now : Int) : List Entry → List String × Option Failure
  | [] => ([], none)
  | entry :: rest =>
    match entry.clean build folder keep now with
    | .error failure => ([], some failure)
    | .ok removed =>
      let (names, failure) := cleanUp build folder keep now rest
      (if removed then entry.name :: names else names, failure)

def secondsPerDay : Nat := 24 * 60 * 60

def mostSeconds : Nat := 18446744073709551615

/-- Days in nanoseconds, as many as the largest number of seconds allows. -/
def daysToKeep (days : Nat) : Nat := min (days * secondsPerDay) mostSeconds * 1000000000

end AppGrants.Logs
