import AppGrants.Failure

/-! Settings of the log: the least level that is written, and for how many days files are kept. -/
namespace AppGrants.Settings

open Json

inductive LogLevel where
  | trace
  | debug
  | info
  | warn
  | error
deriving DecidableEq, Repr

namespace LogLevel

def name : LogLevel → String
  | trace => "trace"
  | debug => "debug"
  | info => "info"
  | warn => "warn"
  | error => "error"

/-- Names in any ASCII case with blanks around them; one level has a longer name besides. -/
def ofText? (text : String) : Option LogLevel :=
  match String.ofList ((Text.trim text.toList).map Char.toLower) with
  | "trace" => some trace
  | "debug" => some debug
  | "info" => some info
  | "warn" => some warn
  | "warning" => some warn
  | "error" => some error
  | _ => none

end LogLevel

structure LogSettings where
  minLevel : String := "info"
  keepDays : UInt32 := 7
deriving DecidableEq, Repr

namespace LogSettings

def shape : Shape := .record "LogConfig" [
  Field.defaulted "minLevel" .text, Field.defaulted "keepDays" (.whole .unsigned32)]

instance : Codec LogSettings where
  shape := shape
  toDoc settings := .object [("minLevel", .text settings.minLevel), ("keepDays", Codec.toDoc settings.keepDays)]
  ofDoc doc := ⟨doc.fieldOr "minLevel" "info" Codec.ofDoc, doc.fieldOr "keepDays" 7 Codec.ofDoc⟩

def fewestDays : UInt32 := 1

def mostDays : UInt32 := 90

def clampDays (days : UInt32) : UInt32 :=
  if days < fewestDays then fewestDays else if days > mostDays then mostDays else days

/-- A level by its own name, and days within the limits. -/
def normalize (settings : LogSettings) : Except Failure LogSettings :=
  match LogLevel.ofText? settings.minLevel with
  | some level => .ok ⟨level.name, clampDays settings.keepDays⟩
  | none => .error ((Failure.new "invalid_log_level" "invalid log level").withContext "level" settings.minLevel)

/-- A level of the environment goes before the settings, which only a release build heeds. -/
def level (build : Build) (fromEnvironment : Option String) (settings : LogSettings) : LogLevel :=
  match fromEnvironment.bind LogLevel.ofText? with
  | some level => level
  | none =>
    match build with
    | .debug => .debug
    | .release => (LogLevel.ofText? settings.minLevel).getD .info

end LogSettings
end AppGrants.Settings
