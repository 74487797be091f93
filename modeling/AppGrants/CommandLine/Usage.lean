import AppGrants.CommandLine.Arguments

/-! What the program says about its own use. -/
namespace AppGrants.CommandLine

def programName : String := "sumgr"

def versionText : String := programName ++ " 0.1.0\n"

def helpText : String := "\n".intercalate [
  "Lists installed apps with their root grants and security profiles", "",
  "Usage: sumgr [OPTIONS] <COMMAND>", "",
  "Commands:",
  "  list   List the apps that the privileged helper enumerates, as JSON",
  "  serve  Run the privileged helper on stdin/stdout",
  "  help   Print this message", "",
  "Options:",
  "      --config <CONFIG>  Path to a JSON config file (defaults to $SUMGR_CONFIG)",
  "  -h, --help             Print help",
  "  -V, --version          Print version", "",
  "Options of list:",
  "      --system               Include system apps without a root grant or custom profile",
  "      --primary-only         Only list apps of the primary device user",
  "      --search <SEARCH>      Filter by label or package name",
  "      --grouped              Print uid groups instead of the flat list",
  "      --profiles <PROFILES>  Profile export to join against (overrides the config file)", ""]

namespace UsageFault

def message : UsageFault → String
  | helpAsked | nothingGiven => helpText
  | versionAsked => versionText
  | missingSubcommand => "error: a subcommand is required but one was not provided\n"
  | unknownSubcommand => "error: unrecognized subcommand\n"
  | unknownArgument => "error: unexpected argument found\n"
  | unusableValue => "error: a value is required but none was supplied\n"
  | givenTwice => "error: an argument cannot be used multiple times\n"
  | valueForSwitch => "error: unexpected value found\n"

/-- What was asked for is no mistake. -/
def isAnswer : UsageFault → Bool
  | helpAsked | versionAsked => true
  | _ => false

end UsageFault
end AppGrants.CommandLine
