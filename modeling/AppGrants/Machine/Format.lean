import AppGrants.Decimal.Places
import AppGrants.Text.Numeral
import AppGrants.Text.Octets

/-! Output by a format: directives take the arguments one after another, and the format is used again while arguments are
left. The shell's own command and the program of the system differ in some escapes and directives and in their complaints. -/
namespace AppGrants.Machine.Format

open Text Text.Numeral

inductive Dialect where
  | shell
  | program
deriving DecidableEq, Repr

inductive Fault where
  | noNumber (argument : List Char)
  | restAfterNumber (argument : List Char)
  | outOfRange (argument : List Char)
  | restAfterCharacter (rest : List Char)
  | unknownDirective (directive : List Char)
  | cutDirective (directive : List Char)
  | noHexDigits
  | extraArguments (first : List Char)
deriving DecidableEq, Repr

/-- A text between quotes, with escapes for what could not be read. -/
def quoted (text : List Char) : List Char :=
  let shown (c : Char) : List Char :=
    match c with
    | '\'' | '\\' => ['\\', c]
    | '\n' => ['\\', 'n']
    | '\t' => ['\\', 't']
    | '\r' => ['\\', 'r']
    | c =>
      if ' ' ≤ c && c ≤ '~' then [c]
      else '\\' :: (List.replicate (3 - (Nat.toDigits 8 c.toNat).length) '0' ++ Nat.toDigits 8 c.toNat)
  ['\''] ++ text.flatMap shown ++ ['\'']

def Fault.message : Dialect → Fault → List Char
  | .shell, noNumber argument => argument ++ octets ": expected numeric value"
  | .shell, restAfterNumber argument => argument ++ octets ": not completely converted"
  | .shell, outOfRange argument => argument ++ octets ": Numerical result out of range"
  | .shell, unknownDirective directive => directive ++ octets ": invalid directive"
  | .shell, cutDirective _ => octets "missing format character"
  | .program, noNumber argument => quoted argument ++ octets ": expected a numeric value"
  | .program, restAfterNumber argument => quoted argument ++ octets ": value not completely converted"
  | .program, outOfRange argument => quoted argument ++ octets ": Numerical result out of range"
  | .program, unknownDirective directive | .program, cutDirective directive =>
    directive ++ octets ": invalid conversion specification"
  | _, restAfterCharacter rest =>
    octets "warning: " ++ rest ++ octets ": character(s) following character constant have been ignored"
  | _, noHexDigits => octets "missing hexadecimal number in escape"
  | _, extraArguments first => octets "warning: ignoring excess arguments, starting with " ++ quoted first

/-- The status of a command with this fault; what is only a warning leaves it alone. -/
def Fault.status : Dialect → Fault → Nat
  | _, restAfterCharacter _ | _, extraArguments _ => 0
  | .shell, unknownDirective _ | .shell, cutDirective _ => 2
  | _, _ => 1

/-! Escapes. -/

def byteChar (n : Nat) : Char := Char.ofNat (n % 256)

/-- What a backslash and the characters after it stand for. -/
inductive Escape where
  | text (shown rest : List Char)
  | endOfOutput
  | fault (fault : Fault)

def simpleEscape? : Char → Option Char
  | 'a' => some '\x07'
  | 'b' => some '\x08'
  | 'f' => some '\x0c'
  | 'n' => some '\n'
  | 'r' => some '\r'
  | 't' => some '\t'
  | 'v' => some '\x0b'
  | '\\' => some '\\'
  | _ => none

/-- In a text a zero may stand before the octal digits. -/
def escape (dialect : Dialect) (inText : Bool) (cs : List Char) : Escape :=
  let isProgram := dialect = .program
  match cs with
  | [] => .text ['\\'] []
  | c :: rest =>
    let octal := if inText && c = '0' && rest.head?.any isOctalDigit then rest else cs
    let digits := (octal.take 3).takeWhile isOctalDigit
    match simpleEscape? c, c with
    | some shown, _ => .text [shown] rest
    | none, 'c' => if inText || isProgram then .endOfOutput else .text ['\\', 'c'] rest
    | none, 'e' => .text ['\x1b'] rest
    | none, '"' => .text (if isProgram then ['"'] else ['\\', '"']) rest
    | none, 'x' =>
      let digits := (rest.take 2).takeWhile isHexDigit
      if !isProgram then .text ['\\', 'x'] rest
      else if digits.isEmpty then .fault .noHexDigits
      else .text [byteChar (valueOf 16 digits)] (rest.drop digits.length)
    | none, c =>
      if digits.isEmpty then .text ['\\', c] rest
      else .text [byteChar (valueOf 8 digits)] (octal.drop digits.length)

/-- A text with its escapes replaced, and how it ends: by itself, or with all output. -/
def unescape (dialect : Dialect) : Nat → List Char → List Char × Option (Option Fault)
  | 0, cs => (cs, none)
  | _, [] => ([], none)
  | fuel + 1, c :: rest =>
    let go (shown rest : List Char) : List Char × Option (Option Fault) :=
      let (text, ending) := unescape dialect fuel rest
      (shown ++ text, ending)
    if c != '\\' then go [c] rest
    else match escape dialect true rest with
      | .text shown rest => go shown rest
      | .endOfOutput => ([], some none)
      | .fault fault => ([], some (some fault))

/-! Numbers. -/

/-- How many words of 64 bits there are. -/
def words : Nat := Nat.pow 2 64

/-- The number that an argument begins with, kept within the words of 64 bits, and what is wrong with the argument. -/
def number (dialect : Dialect) (isSigned : Bool) (argument : List Char) : Int × Option Fault :=
  let character (c : Char) (rest : List Char) : Int × Option Fault :=
    (c.toNat, if dialect = .program && !rest.isEmpty then some (.restAfterCharacter rest) else none)
  match argument with
  | '\'' :: c :: rest | '"' :: c :: rest => character c rest
  | argument =>
    let (negative, unsigned) := signOf argument
    match digitsAt unsigned with
    | none =>
      (0, if argument.isEmpty || (dialect = .shell && (argument = ['\''] || argument = ['"'])) then none
        else some (.noNumber argument))
    | some (magnitude, rest) =>
      let limit : Nat := if !isSigned then words - 1 else if negative then words / 2 else words / 2 - 1
      let kept : Int :=
        if magnitude ≤ limit then if negative then -magnitude else magnitude
        else if negative && isSigned then -(limit : Int) else limit
      let fault :=
        if dialect = .program && magnitude > limit then some (.outOfRange argument)
        else if !rest.isEmpty then some (.restAfterNumber argument)
        else if magnitude > limit then some (.outOfRange argument)
        else none
      (kept, fault)

/-- The largest exponent that is taken as it is written. -/
def largestExponent : Nat := 4932

/-- How many bits a fraction is kept in. -/
def bitsOf : Dialect → Nat
  | .shell => 53
  | .program => 64

/-- The fraction that an argument begins with and its sign. -/
def fraction (dialect : Dialect) (argument : List Char) : Bool × Fraction × Option Fault :=
  let (negative, unsigned) := signOf argument
  let whole := unsigned.takeWhile Char.isDigit
  let (places, rest) := match unsigned.dropWhile Char.isDigit with
    | '.' :: rest => (rest.takeWhile Char.isDigit, rest.dropWhile Char.isDigit)
    | rest => ([], rest)
  if whole.isEmpty && places.isEmpty then
    (false, .ofNat 0, if argument.isEmpty then none else some (.noNumber argument))
  else
    let (exponent, rest) : Int × List Char := match rest with
      | e :: after =>
        let (below, digits) : Bool × List Char := match after with
          | '-' :: digits => (true, digits)
          | '+' :: digits => (false, digits)
          | digits => (false, digits)
        if (e == 'e' || e == 'E') && digits.head?.any Char.isDigit then
          let power := min (valueOf 10 (digits.takeWhile Char.isDigit)) largestExponent
          (if below then -(power : Int) else power, digits.dropWhile Char.isDigit)
        else (0, rest)
      | [] => (0, [])
    let exact := (Fraction.ofNat (valueOf 10 (whole ++ places))).shift (exponent - places.length)
    (negative, exact.toBits (bitsOf dialect), if rest.isEmpty then none else some (.restAfterNumber argument))

/-! Directives. -/

structure Directive where
  flags : List Char
  width : Nat
  precision : Option Nat
  conversion : Char

def Directive.has (directive : Directive) (flag : Char) : Bool := directive.flags.contains flag

def padded (directive : Directive) (text : List Char) : List Char :=
  let gap := List.replicate (directive.width - text.length) ' '
  if directive.has '-' then text ++ gap else gap ++ text

/-- A number with what stands before its digits; zeros may fill up the width between the two. -/
def filled (directive : Directive) (mayFill : Bool) (before digits : List Char) : List Char :=
  if directive.has '0' && mayFill && !directive.has '-' then
    before ++ List.replicate (directive.width - before.length - digits.length) '0' ++ digits
  else padded directive (before ++ digits)

def signText (directive : Directive) (negative : Bool) : List Char :=
  if negative then ['-'] else if directive.has '+' then ['+'] else if directive.has ' ' then [' '] else []

def isSignedConversion (c : Char) : Bool := "di".toList.contains c

def isFractionConversion (c : Char) : Bool := "feEFgG".toList.contains c

/-- Without a sign a negative number is written as the word of 64 bits that it is stored in. -/
def integerText (directive : Directive) (value : Int) : List Char :=
  let isSigned := isSignedConversion directive.conversion
  let magnitude := if value < 0 && !isSigned then (words + value).toNat else value.natAbs
  let digits := match directive.conversion with
    | 'o' => Nat.toDigits 8 magnitude
    | 'x' => Nat.toDigits 16 magnitude
    | 'X' => (Nat.toDigits 16 magnitude).map Char.toUpper
    | _ => Nat.toDigits 10 magnitude
  let written := if directive.precision = some 0 && magnitude = 0 then [] else digits
  let exact := List.replicate (directive.precision.getD 1 - written.length) '0' ++ written
  let marked := directive.has '#' && magnitude != 0
  let (before, exact) := match directive.conversion with
    | 'o' => ([], if directive.has '#' && exact.head? != some '0' then '0' :: exact else exact)
    | 'x' => (if marked then ['0', 'x'] else [], exact)
    | 'X' => (if marked then ['0', 'X'] else [], exact)
    | _ => (if isSigned then signText directive (value < 0) else [], exact)
  filled directive directive.precision.isNone before exact

def fractionText (directive : Directive) (negative : Bool) (value : Fraction) : List Char :=
  let places := directive.precision.getD 6
  let point := directive.has '#'
  let text := match directive.conversion with
    | 'f' | 'F' => value.fixed places point
    | 'e' => value.scientific places point
    | 'E' => (value.scientific places point).map Char.toUpper
    | 'g' => value.general places point
    | _ => (value.general places point).map Char.toUpper
  filled directive true (signText directive negative) text

/-- What is written, in the order in which it is. -/
inductive Written where
  | output (text : List Char)
  | fault (fault : Fault)

/-- What has been written in reverse, the arguments left, and whether output ended early. -/
structure Progress where
  written : List Written := []
  arguments : List (List Char)
  used : Bool := false
  stopped : Bool := false

namespace Progress

def put (progress : Progress) (text : List Char) : Progress :=
  { progress with written := .output text :: progress.written }

def tell (progress : Progress) (fault : Option Fault) : Progress :=
  match fault with
  | some fault => { progress with written := .fault fault :: progress.written }
  | none => progress

def stop (progress : Progress) (fault : Option Fault) : Progress := { progress.tell fault with stopped := true }

def next (progress : Progress) : List Char × Progress :=
  (progress.arguments.headD [], { progress with arguments := progress.arguments.tail, used := true })

def nextNumber (progress : Progress) (dialect : Dialect) (isSigned : Bool) : Int × Progress :=
  let (argument, progress) := progress.next
  let (value, fault) := number dialect isSigned argument
  (value, progress.tell fault)

end Progress

/-- A number in a directive, which an asterisk takes from the arguments. -/
def measure (dialect : Dialect) (progress : Progress) : List Char → Option Int × Progress × List Char
  | '*' :: rest =>
    let (value, progress) := progress.nextNumber dialect true
    (some value, progress, rest)
  | cs =>
    let digits := cs.takeWhile Char.isDigit
    (if digits.isEmpty then none else some (valueOf 10 digits), progress, cs.dropWhile Char.isDigit)

def convert (dialect : Dialect) (directive : Directive) (progress : Progress) : Progress :=
  let cut (text : List Char) : List Char := (directive.precision.map text.take).getD text
  match directive.conversion with
  | 's' =>
    let (argument, progress) := progress.next
    progress.put (padded directive (cut argument))
  | 'b' =>
    let (argument, progress) := progress.next
    let (text, ending) := unescape dialect argument.length argument
    let progress := progress.put (padded directive (cut text))
    match ending with
    | some fault => progress.stop fault
    | none => progress
  | 'c' =>
    let (argument, progress) := progress.next
    progress.put (padded directive [argument.headD '\x00'])
  | conversion =>
    if isFractionConversion conversion then
      let (argument, progress) := progress.next
      let (negative, value, fault) := fraction dialect argument
      (progress.tell fault).put (fractionText directive negative value)
    else
      let (value, progress) := progress.nextNumber dialect (isSignedConversion conversion)
      progress.put (integerText directive value)

/-- Whether a conversion goes with its flags. -/
def admits (dialect : Dialect) (flags : List Char) (hasPrecision bare : Bool) (conversion : Char) : Bool :=
  let known := "scdiuoxX".toList.contains conversion || isFractionConversion conversion
  match dialect with
  | .shell => known || conversion = 'b'
  | .program =>
    if conversion = 'b' then bare
    else known && !(flags.contains '#' && "cdisu".toList.contains conversion) &&
      !(flags.contains '0' && "cs".toList.contains conversion) && !(hasPrecision && conversion = 'c')

/-- A directive after its percent sign, carried out, and the rest of the format. -/
def directive (dialect : Dialect) (progress : Progress) (cs : List Char) : Progress × List Char :=
  let isFlag (c : Char) : Bool := "-+ 0#".toList.contains c
  let flags := cs.takeWhile isFlag
  let (width, progress, rest) := measure dialect progress (cs.dropWhile isFlag)
  let (precision, progress, rest) := match rest with
    | '.' :: rest =>
      let (precision, progress, rest) := measure dialect progress rest
      (some (precision.getD 0), progress, rest)
    | rest => (none, progress, rest)
  let bare := rest.length = cs.length
  let rest := if dialect = .program then rest.dropWhile "lLhjtz".toList.contains else rest
  let read (more : Nat) : List Char := '%' :: cs.take (cs.length - rest.length + more)
  match rest with
  | conversion :: rest =>
    if admits dialect flags precision.isSome bare conversion then
      let width := width.getD 0
      let flags := if width < 0 then '-' :: flags else flags
      let precision := precision.bind fun value => if value < 0 then none else some value.toNat
      (convert dialect ⟨flags, width.natAbs, precision, conversion⟩ progress, rest)
    else (progress.stop (some (.unknownDirective (read 1))), rest)
  | [] => (progress.stop (some (.cutDirective (read 0))), [])

/-- The format once from its beginning to its end. -/
def once (dialect : Dialect) : Nat → List Char → Progress → Progress
  | 0, _, progress => progress
  | _, [], progress => progress
  | fuel + 1, c :: rest, progress =>
    if progress.stopped then progress
    else match c, rest with
      | '\\', rest =>
        match escape dialect false rest with
        | .text shown rest => once dialect fuel rest (progress.put shown)
        | .endOfOutput => progress.stop none
        | .fault fault => progress.stop (some fault)
      | '%', '%' :: rest => once dialect fuel rest (progress.put ['%'])
      | '%', rest =>
        let (progress, rest) := directive dialect progress rest
        once dialect fuel rest progress
      | c, rest => once dialect fuel rest (progress.put [c])

def again (dialect : Dialect) (format : List Char) : Nat → Progress → Progress
  | 0, progress => progress
  | fuel + 1, progress =>
    let next := once dialect (format.length + 1) format { progress with used := false }
    if next.stopped || next.arguments.isEmpty then next
    else if next.used then again dialect format fuel next
    else if dialect = .program then next.tell (some (.extraArguments (next.arguments.headD [])))
    else next

/-- All that is written of the arguments by the format. -/
def apply (dialect : Dialect) (format : List Char) (arguments : List (List Char)) : List Written :=
  (again dialect format (arguments.length + 1) { arguments }).written.reverse

end AppGrants.Machine.Format
