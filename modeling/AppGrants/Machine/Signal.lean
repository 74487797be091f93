import AppGrants.Text.Digit
import AppGrants.Text.Octets

/-! Signals: their names, and what they do to a command that has not said otherwise. -/
namespace AppGrants.Machine

namespace Signal

/-- The names in the order of their numbers, from the first one on. -/
def names : List String := [
  "HUP", "INT", "QUIT", "ILL", "TRAP", "ABRT", "BUS", "FPE", "KILL", "USR1", "SEGV", "USR2", "PIPE", "ALRM", "TERM",
  "STKFLT", "CHLD", "CONT", "STOP", "TSTP", "TTIN", "TTOU", "URG", "XCPU", "XFSZ", "VTALRM", "PROF", "WINCH", "IO", "PWR",
  "SYS"]

/-- What is said of a command that a signal has ended. -/
def descriptions : List String := [
  "Hangup", "Interrupt", "Quit", "Illegal instruction", "Trace/breakpoint trap", "Aborted", "Bus error",
  "Floating point exception", "Killed", "User defined signal 1", "Segmentation fault", "User defined signal 2",
  "Broken pipe", "Alarm clock", "Terminated", "Stack fault", "Child exited", "Continued", "Stopped (signal)", "Stopped",
  "Stopped (tty input)", "Stopped (tty output)", "Urgent I/O condition", "CPU time limit exceeded",
  "File size limit exceeded", "Virtual timer expired", "Profiling timer expired", "Window changed", "I/O possible",
  "Power failure", "Bad system call"]

/-- The largest number; those after the named ones are for commands to agree on. -/
def last : Nat := 64

def name? (number : Nat) : Option String := if number = 0 then none else names[number - 1]?

/-- The first of the signals that commands agree on, as they are counted; the two before it are kept for the system. -/
def firstFree : Nat := 34

def description (number : Nat) : String :=
  match if number = 0 then none else descriptions[number - 1]? with
  | some text => text
  | none =>
    if number < firstFree then "Unknown signal " ++ toString number
    else "Real-time signal " ++ toString (number - firstFree)

/-- What a shell calls a signal: those that commands agree on are counted from both ends. -/
def label (number : Nat) : String :=
  if number < firstFree then
    match name? number with
    | some "STKFLT" | none => toString number
    | some name => name
  else if number = firstFree then "RTMIN"
  else if number = last then "RTMAX"
  else if number < 50 then "RTMIN+" ++ toString (number - firstFree)
  else "RTMAX-" ++ toString (last - number)

/-- The number of a signal, which may be written itself; zero is no signal, but may be sent. -/
def ofText? (text : List Char) : Option Nat :=
  match Text.natOfDigits? text with
  | some number => if number ≤ last then some number else none
  | none =>
    let wanted := text.map Char.toUpper
    (List.range last).findSome? fun n => if (label (n + 1)).toList = wanted then some (n + 1) else none

/-- Whether nothing is said of the end of a command by this signal. -/
def endsQuietly (number : Nat) : Bool := [2, 13].contains number

/-- Whether a command has no say in what the signal does to it. -/
def isSure (number : Nat) : Bool := [9, 19].contains number

inductive Effect where
  | nothing
  | holds
  | ends
deriving DecidableEq, Repr

def effect (number : Nat) : Effect :=
  if number = 0 || [17, 18, 23, 28].contains number then .nothing
  else if [19, 20, 21, 22].contains number then .holds
  else .ends

end Signal
end AppGrants.Machine
