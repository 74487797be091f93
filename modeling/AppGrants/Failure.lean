import AppGrants.Json.Codec
import AppGrants.Text.Blank

/-! Failures as they are told to the caller: a code that decides their kind, a message, context by keys, and causes from
the outermost inwards. Every operation on a failure only adds to it, and no cause is blank. -/
namespace AppGrants

/-- A release build tells less about errors that come from elsewhere. -/
inductive Build where
  | debug
  | release
deriving DecidableEq, Repr

structure Failure where
  code : String
  message : String
  context : List (String × String)
  causes : List String
deriving DecidableEq, Repr

inductive FailureKind where
  | serviceUnavailable
  | remoteCallFailed
  | profileLookupFailed
  | internal
deriving DecidableEq, Repr

namespace FailureKind

def code : FailureKind → String
  | serviceUnavailable => "service_unavailable"
  | remoteCallFailed => "remote_call_failed"
  | profileLookupFailed => "profile_lookup_failed"
  | internal => "internal_error"

def ofCode (code : String) : FailureKind :=
  if code = "service_unavailable" then serviceUnavailable
  else if code = "remote_call_failed" then remoteCallFailed
  else if code = "profile_lookup_failed" then profileLookupFailed
  else internal

def name : FailureKind → String
  | serviceUnavailable => "serviceUnavailable"
  | remoteCallFailed => "remoteCallFailed"
  | profileLookupFailed => "profileLookupFailed"
  | internal => "internal"

def all : List FailureKind := [serviceUnavailable, remoteCallFailed, profileLookupFailed, internal]

def ofName (text : String) : FailureKind := (all.find? (·.name == text)).getD internal

instance : Json.Codec FailureKind where
  shape := .choice (all.map name)
  toDoc kind := .text kind.name
  ofDoc doc := ofName doc.asText

end FailureKind

namespace Failure

def new (code message : String) : Failure := ⟨code, message, [], []⟩

def ofKind (kind : FailureKind) (message : String) : Failure := new kind.code message

def serviceUnavailable (message : String) : Failure := ofKind .serviceUnavailable message

def kind (failure : Failure) : FailureKind := .ofCode failure.code

def withCode (failure : Failure) (code message : String) : Failure := { failure with code, message }

def withContext (failure : Failure) (key value : String) : Failure :=
  { failure with context := failure.context ++ [(key, value)] }

/-- The first value given for the key. -/
def contextValue (failure : Failure) (key : String) : Option String := failure.context.lookup key

def withContextIfNew (failure : Failure) (key value : String) : Failure :=
  if (failure.contextValue key).isSome then failure else failure.withContext key value

def withCause (failure : Failure) (cause : String) : Failure :=
  if Text.isBlankText cause then failure else { failure with causes := failure.causes ++ [cause] }

def withCauses (failure : Failure) (causes : List String) : Failure := causes.foldl withCause failure

/-- The texts that are not blank, a text that only repeats the one before it left out. -/
def collect (texts : List String) : List String :=
  texts.foldl (fun causes text =>
    if Text.isBlankText text || causes.getLast? = some text then causes else causes ++ [text]) []

/-- The causes so far, and those that are found by following an error, from what it says to the error behind it while there is one. -/
def gather (causes : List String) : List String → List String
  | [] => causes
  | text :: behind =>
    gather (if !Text.isBlankText text && causes.getLast?.all (· ≠ text) then causes ++ [text] else causes) behind

/-- The texts of an error and of what lies behind it, with the name of the error's type. -/
def withSource (failure : Failure) (typeName : String) (texts : List String) : Failure :=
  let chain := gather [] texts
  let named := failure.withContextIfNew "sourceType" typeName
  let counted := if chain.isEmpty then named else named.withContextIfNew "sourceChainDepth" (toString chain.length)
  counted.withCauses chain

def ioTypeName : String := "core::io::error::Error"

def jsonTypeName : String := "serde_json::error::Error"

/-- An error of the system with the texts of what lies behind it. -/
def ofIoChain (texts : List String) : Failure := (new "io_error" "I/O operation failed").withSource ioTypeName texts

def ofIo (text : String) : Failure := ofIoChain [text]

def ofJson (fault : Json.Fault) : Failure :=
  (new "json_error" "JSON encoding failed").withSource jsonTypeName [fault.message]

/-- One line: the code and the message. -/
def line (failure : Failure) : String := failure.code ++ ": " ++ failure.message

def toDoc (failure : Failure) : Json.Doc :=
  let item (entry : String × String) : Json.Doc := .object [("key", .text entry.1), ("value", .text entry.2)]
  .object ([("code", .text failure.code), ("message", .text failure.message)] ++
    (if failure.context.isEmpty then [] else [("context", .list (failure.context.map item))]) ++
    (if failure.causes.isEmpty then [] else [("causes", .list (failure.causes.map .text))]))

end Failure

/-- What an error began as: a failure of this program, or texts from the outermost inwards. -/
inductive Origin where
  | failure (failure : Failure)
  | texts (texts : List String)
deriving DecidableEq, Repr

/-- An error under way, with what has been said about it since, the latest first. -/
structure Raised where
  remarks : List String
  origin : Origin
deriving DecidableEq, Repr

namespace Raised

def ofText (text : String) : Raised := ⟨[], .texts [text]⟩

def ofFault (fault : Json.Fault) : Raised := ofText fault.message

def ofFailure (failure : Failure) : Raised := ⟨[], .failure failure⟩

def remark (raised : Raised) (text : String) : Raised := { raised with remarks := text :: raised.remarks }

def texts (raised : Raised) : List String :=
  raised.remarks ++ match raised.origin with
    | .failure failure => [failure.line]
    | .texts texts => texts

end Raised

namespace Failure

def hiddenCause : String := "error details hidden, see logs"

def largestShownCause : Nat := 220

def hasInfix (part : List Char) : List Char → Bool
  | [] => part.isEmpty
  | c :: rest => part.isPrefixOf (c :: rest) || hasInfix part rest

/-- A cause on one line that is neither long nor names a data path. -/
def shownCause (cause : String) : String :=
  let line := Text.trim (cause.toList.map fun c => if c = '\n' then ' ' else c)
  if line.isEmpty || (String.ofList line).utf8ByteSize > largestShownCause || hasInfix "/data/".toList line then
    hiddenCause
  else String.ofList line

def visibleCauses : Build → List String → List String
  | .debug, causes => causes
  | .release, causes => causes.head?.toList.map shownCause

/-- A failure of this program is kept as it is whatever has been remarked on it. -/
def ofRaised (build : Build) (raised : Raised) : Failure :=
  match raised.origin with
  | .failure failure => failure
  | .texts _ => ⟨FailureKind.internal.code, "operation failed", [], visibleCauses build (collect raised.texts)⟩

end Failure

/-- How the error of a result is told: as it is, with a code for it, or with context. -/
inductive Telling where
  | plain
  | withCode (code message : String)
  | withContext (key value : String)
deriving DecidableEq, Repr

namespace Telling

def failure (build : Build) (raised : Raised) : Telling → Failure
  | plain => .ofRaised build raised
  | withCode code message => (Failure.ofRaised build raised).withCode code message
  | withContext key value => (Failure.ofRaised build raised).withContext key value

/-- A result that is no error stays as it is. -/
def result (build : Build) (telling : Telling) (result : Except Raised α) : Except Failure α :=
  result.mapError fun raised => telling.failure build raised

end Telling
end AppGrants
