/-! The command that starts the helper with root rights: a shell is given one line, in which the path is quoted. -/
namespace AppGrants.Service

/-- Characters that mean nothing to a shell. -/
def isShellPlain (c : Char) : Bool := c.isAlphanum || "/._-+:@%,=".toList.contains c

/-- A quote ends the quoted part, stands for itself after a backslash, and begins the next part. -/
def quoteForShell (cs : List Char) : List Char :=
  if !cs.isEmpty && cs.all isShellPlain then cs
  else '\'' :: cs.flatMap (fun c => if c = '\'' then ['\'', '\\', '\'', '\''] else [c]) ++ ['\'']

def serveArgument : String := "serve"

def elevatedCommand (executable : String) : List String :=
  ["su", "-c", String.ofList (quoteForShell executable.toList) ++ " " ++ serveArgument]

end AppGrants.Service
