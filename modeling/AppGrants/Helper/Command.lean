import AppGrants.Failure

/-! Commands of the system, and whatever runs them. -/
namespace AppGrants.Helper

structure Command where
  program : String
  arguments : List String
deriving DecidableEq, Repr

def Command.line (command : Command) : String := command.program ++ " " ++ " ".intercalate command.arguments

/-- What a command prints, or why it failed; running one may change what later ones print. -/
abbrev Runner (ω : Type) := Command → ω → Except Failure String × ω

/-- Commands whose outcome is known beforehand, and those that have been run. -/
structure Answers where
  known : List (String × Except Failure String) := []
  asked : List String := []

namespace Answers

/-- The newest answer to a command counts. -/
def add (answers : Answers) (line : String) (answer : Except Failure String) : Answers :=
  { answers with known := (line, answer) :: answers.known }

def unexpected : Failure := .new "helper_command_failed" "unexpected command"

def runner : Runner Answers := fun command answers =>
  ((answers.known.lookup command.line).getD (.error unexpected), { answers with asked := answers.asked ++ [command.line] })

end Answers
end AppGrants.Helper
