import AppGrants.Machine.Utility
import AppGrants.Text.Numeral

/-! Programs that make one text of another one. They read files or their input, and what they read as lines is put together
again in the same way. -/
namespace AppGrants.Machine

namespace Filter

open Files Text Utility

/-- A text as lines, and whether the last one is ended. -/
structure Lines where
  lines : List (List Char)
  isEnded : Bool

def Lines.ofText (text : List Char) : Lines :=
  let all := parts (· == '\n') text
  if all.getLast? = some [] then ⟨all.dropLast, true⟩ else ⟨all, false⟩

def Lines.toText (lines : Lines) : List Char :=
  let text := lines.lines.flatMap (· ++ ['\n'])
  if lines.isEnded then text else text.dropLast

/-- Lines that are all ended. -/
def ended (lines : List (List Char)) : List Char := lines.flatMap (· ++ ['\n'])

/-- Text that a program reads, or why it cannot be read. More of an input may come. -/
inductive Input where
  | text (name : Option (List Char)) (content : List Char) (more : Bool)
  | fault (name : List Char) (fault : FileFault)

def openInput (job : Job) (name : List Char) (world : World) : Input × World :=
  if name = ['-'] then
    let (source, world) := world.readAll (job.descriptors.lookup 0)
    (.text none source.rest source.more, world)
  else match world.tree.read job.folder (textOfOctets name) with
    | .ok content => (.text (some name) (octetsOfBytes content) false, world)
    | .error fault => (.fault name fault, world)

/-- How a program tells of a file that it cannot read, and the status that it ends with then. -/
structure FaultStyle where
  before : String := ""
  quotes : Bool := false
  after : String := ": "
  status : Nat := 1

def FaultStyle.message (style : FaultStyle) (name : List Char) (fault : FileFault) : List Char :=
  octets style.before ++ (if style.quotes then ['\''] ++ name ++ ['\''] else name) ++ octets (style.after ++ fault.reason)

/-- Reads the texts one after another and writes what becomes of each; the first one is told apart. An input that is not
all there keeps the program waiting, unless what is there is enough. -/
def eachText (style : FaultStyle) (enough : List Char → Bool) (make : Bool → Option (List Char) → List Char → List Char)
    (job : Job) : Bool → Nat → List (List Char) → World → Finish × World
  | _, status, [], world => (.exited status, world)
  | isFirst, status, name :: rest, world =>
    match openInput job name world with
    | (.fault name fault, world) =>
      eachText style enough make job isFirst style.status rest (complainOctets job (style.message name fault) world)
    | (.text name content more, world) =>
      if more && !enough content then (.awaitsInput, world)
      else
        let (written, world) := put job 1 (make isFirst name content) world
        eachText style enough make job false (if written then status else 1) rest world

def inputs (operands : List (List Char)) : List (List Char) := if operands.isEmpty then [['-']] else operands

/-- A program that makes one text of all that it reads. -/
def together (style : FaultStyle) (make : List Char → List Char) (operands : List (List Char)) : Utility := fun job world =>
  let rec gather (content : List Char) : List (List Char) → World → Except (Finish × World) (List Char × World)
    | [], world => .ok (content, world)
    | name :: rest, world =>
      match openInput job name world with
      | (.fault name fault, world) => .error (.exited style.status, complainOctets job (style.message name fault) world)
      | (.text _ _ true, world) => .error (.awaitsInput, world)
      | (.text _ text false, world) => gather (content ++ text) rest world
  match gather [] (inputs operands) world with
  | .error found => found
  | .ok (content, world) => printed job writeFault (make content) world

/-! The beginning and the end of a text. -/

/-- A count with the sign before it. -/
structure Count where
  sign : Option Char
  number : Nat

def Count.ofText? (text : List Char) : Option Count :=
  let (sign, digits) := match text with
    | '-' :: rest => (some '-', rest)
    | '+' :: rest => (some '+', rest)
    | rest => (none, rest)
  (natOfDigits? digits).map (⟨sign, ·⟩)

def Lines.take (lines : Lines) (count : Nat) : Lines :=
  ⟨lines.lines.take count, lines.isEnded || count < lines.lines.length⟩

def Lines.drop (lines : Lines) (count : Nat) : Lines := ⟨lines.lines.drop count, lines.isEnded⟩

/-- A word such as `-3` is the old way to say how many lines. -/
def oldCount (words : List (List Char)) : List (List Char) :=
  match words with
  | ('-' :: c :: digits) :: rest =>
    if (c :: digits).all Char.isDigit then ['-', 'n'] :: (c :: digits) :: rest else words
  | words => words

/-- The heading of a text where there is more than one. -/
def heading (isFirst : Bool) (name : Option (List Char)) : List Char :=
  (if isFirst then [] else ['\n']) ++ octets "==> " ++ name.getD (octets "standard input") ++ octets " <==\n"

def part (keep : Count → Lines → Lines) (keepOctets : Count → List Char → List Char)
    (enough : Bool → Count → List Char → Bool) : Utility := fun job world =>
  match Options.ofWords "qv" "nc" (oldCount (operands job)) with
  | .error fault => misuse 1 fault.message job world
  | .ok options =>
    let byLines := (options.text? 'c').isNone
    let text := if byLines then (options.text? 'n').getD ['1', '0'] else (options.text? 'c').getD []
    match Count.ofText? text with
    | none =>
      let unit := if byLines then "lines" else "bytes"
      (.exited 1, complainOctets job (octets ("invalid number of " ++ unit ++ ": '") ++ text ++ ['\'']) world)
    | some count =>
      let headed := options.has 'v' || (options.operands.length > 1 && !options.has 'q')
      let make (isFirst : Bool) (name : Option (List Char)) (content : List Char) : List Char :=
        (if headed then heading isFirst name else []) ++
          if byLines then (keep count (Lines.ofText content)).toText else keepOctets count content
      eachText { before := "cannot open ", quotes := true, after := " for reading: " } (enough byLines count) make job true 0
        (inputs options.operands) world

def head : Utility :=
  part (fun count lines => lines.take (if count.sign = some '-' then lines.lines.length - count.number else count.number))
    (fun count text => text.take (if count.sign = some '-' then text.length - count.number else count.number))
    (fun byLines count text =>
      count.sign != some '-' && count.number ≤ if byLines then text.count '\n' else text.length)

def tail : Utility :=
  part (fun count lines => lines.drop (if count.sign = some '+' then count.number - 1 else lines.lines.length - count.number))
    (fun count text => text.drop (if count.sign = some '+' then count.number - 1 else text.length - count.number))
    (fun _ _ _ => false)

/-! Counting. -/

def wordCount (text : List Char) : Nat := ((parts isAsciiBlank text).filter (!·.isEmpty)).length

def padLeft (width : Nat) (text : List Char) : List Char := List.replicate (width - text.length) ' ' ++ text

/-- The counts that are asked for, in their own order. -/
def countsOf (options : Options) (text : List Char) : List Nat :=
  let all := [('l', text.count '\n'), ('w', wordCount text), ('m', text.length), ('c', text.length)]
  let asked := all.filter fun (letter, _) => options.has letter
  (if asked.isEmpty then all.filter (·.1 != 'm') else asked).map (·.2)

/-- As wide as the size of all files; one count of one text has no width, and an input has one of its own. -/
def countWidth (options : Options) (size : Nat) : Nat :=
  let single := (countsOf options []).length = 1 && options.operands.length ≤ 1
  if single then 1 else if options.operands.isEmpty || options.operands.contains ['-'] then 7
  else (Nat.toDigits 10 size).length

def countLine (width : Nat) (counts : List Nat) (name : Option (List Char)) : List Char :=
  joinWith [' '] (counts.map (fun n => padLeft width (Nat.toDigits 10 n)) ++ name.toList) ++ ['\n']

def wc : Utility := withOptions 1 "lwcm" "" fun options job world =>
  let sizes := (inputs options.operands).filterMap fun name =>
    match openInput job name world with
    | (.text _ content _, _) => some (name, content)
    | _ => none
  let width := countWidth options (sizes.foldl (fun sum (_, content) => sum + content.length) 0)
  let (finish, world) := eachText {} (fun _ => false)
    (fun _ name content => countLine width (countsOf options content) name) job true 0 (inputs options.operands) world
  if options.operands.length > 1 && finish.isOver then
    let total := sizes.foldl (fun sum (_, content) => sum.zipWith (· + ·) (countsOf options content))
      ((countsOf options []).map fun _ => 0)
    (finish, (put job 1 (countLine width total (some (octets "total"))) world).2)
  else (finish, world)

/-! Parts of lines. -/

/-- Numbers and ranges with commas between them; an open end has no number. -/
def ranges? (text : List Char) : Option (List (Nat × Option Nat)) :=
  (parts (· == ',') text).mapM fun part =>
    match parts (· == '-') part with
    | [single] => (natOfDigits? single).map fun n => (n, some n)
    | [low, high] =>
      match low, high with
      | [], [] => none
      | [], high => (natOfDigits? high).map fun n => (1, some n)
      | low, [] => (natOfDigits? low).map fun n => (n, none)
      | low, high => do return (← natOfDigits? low, some (← natOfDigits? high))
    | _ => none

def isChosen (ranges : List (Nat × Option Nat)) (place : Nat) : Bool :=
  ranges.any fun (low, high) => low ≤ place && high.all (place ≤ ·)

def chosen (ranges : List (Nat × Option Nat)) (items : List α) : List α :=
  (items.zipIdx 1).filterMap fun (item, place) => if isChosen ranges place then some item else none

/-- The chosen fields of a line; one without a delimiter is kept whole unless only others are asked for. -/
def cutFields (delimiter : Char) (onlyDelimited : Bool) (ranges : List (Nat × Option Nat)) (line : List Char) :
    Option (List Char) :=
  if line.contains delimiter then some (joinWith [delimiter] (chosen ranges (parts (· == delimiter) line)))
  else if onlyDelimited then none
  else some line

def cut : Utility := withOptions 1 "sn" "dfcb" fun options job world =>
  let places := (options.text? 'c').orElse fun _ => options.text? 'b'
  let delimiter := (options.text? 'd').getD ['\t']
  let noun := if places.isSome then "byte/character position" else "field value"
  match places.orElse fun _ => options.text? 'f' with
  | none => misuse 1 (octets "you must specify a list of bytes, characters, or fields") job world
  | some text =>
    if delimiter.length != 1 then misuse 1 (octets "the delimiter must be a single character") job world
    else match ranges? text with
      | none => misuse 1 (octets ("invalid " ++ noun ++ " '") ++ text ++ ['\'']) job world
      | some ranges =>
        if ranges.any (·.1 = 0) then
          let nouns := if places.isSome then "byte/character positions" else "fields"
          misuse 1 (octets (nouns ++ " are numbered from 1")) job world
        else
          let make (_ : Bool) (_ : Option (List Char)) (content : List Char) : List Char :=
            ended ((Lines.ofText content).lines.filterMap fun line =>
              if places.isSome then some (chosen ranges line)
              else cutFields (delimiter.headD '\t') (options.has 's') ranges line)
          eachText {} (fun _ => false) make job true 0 (inputs options.operands) world

def rev : Utility := withOptions 1 "" "" fun options job world =>
  let make (_ : Bool) (_ : Option (List Char)) (content : List Char) : List Char :=
    let lines := Lines.ofText content
    ({ lines with lines := lines.lines.map List.reverse } : Lines).toText
  eachText { before := "cannot open " } (fun _ => false) make job true 0 (inputs options.operands) world

/-! Lines in order and lines that are alike. -/

/-- The number that a line begins with, in thousandths. -/
def leadingNumber (line : List Char) : Int :=
  let bare := line.dropWhile isAsciiBlank
  let (negative, unsigned) := match bare with
    | '-' :: rest => (true, rest)
    | rest => (false, rest)
  let whole := unsigned.takeWhile Char.isDigit
  let places := match unsigned.dropWhile Char.isDigit with
    | '.' :: rest => (rest.takeWhile Char.isDigit).take 3
    | _ => []
  let digits := whole ++ places ++ List.replicate (3 - places.length) '0'
  let value : Int := natOfDigits digits
  if negative then -value else value

def isBefore (numeric : Bool) (a b : List Char) : Bool :=
  let first := if numeric then compare (leadingNumber a) (leadingNumber b) else .eq
  (first.then (compare a b)) != .gt

/-- Each line once where those beside it are alike, with how often it was there. -/
def runs (lines : List (List Char)) : List (List Char × Nat) :=
  (lines.foldl (fun (found : List (List Char × Nat)) line =>
    match found with
    | (last, count) :: rest => if last = line then (last, count + 1) :: rest else (line, 1) :: found
    | [] => [(line, 1)]) []).reverse

def sort : Utility := withOptions 2 "rnu" "" fun options =>
  let make (content : List Char) : List Char :=
    let sorted := (Lines.ofText content).lines.mergeSort (isBefore (options.has 'n'))
    let kept := if options.has 'u' then (runs sorted).map (·.1) else sorted
    ended (if options.has 'r' then kept.reverse else kept)
  together { before := "cannot read: ", status := 2 } make options.operands

def uniq : Utility := withOptions 1 "cdu" "" fun options =>
  let make (content : List Char) : List Char :=
    let kept := (runs (Lines.ofText content).lines).filter fun (_, count) =>
      (!options.has 'd' || count > 1) && (!options.has 'u' || count = 1)
    ended (kept.map fun (line, count) =>
      if options.has 'c' then padLeft 7 (Nat.toDigits 10 count) ++ ' ' :: line else line)
  together {} make (options.operands.take 1)

/-! A text to more than one place, and a text of numbers. -/

def tee : Utility := withOptions 1 "ai" "" fun options job world =>
  let (source, world) := world.readAll (job.descriptors.lookup 0)
  let write (state : Nat × World) (name : List Char) : Nat × World :=
    let (status, world) := state
    match world.openFile job.folder (textOfOctets name) (options.has 'a') with
    | .ok (target, world) => (status, (world.write (some target) source.rest).2)
    | .error fault => (1, complainOctets job (name ++ octets (": " ++ fault.reason)) world)
  let (status, world) := options.operands.foldl write (0, world)
  let (_, world) := put job 1 source.rest world
  (if source.more then .awaitsInput else .exited status, world)

def integer? (text : List Char) : Option Int :=
  match text with
  | '-' :: digits => (natOfDigits? digits).map fun n => -(n : Int)
  | digits => (natOfDigits? digits).map fun n => (n : Int)

/-- How many numbers a sequence has at most. -/
def longest : Nat := 100000

def sequence (first step last : Int) : List Int :=
  let count := if step > 0 then (last - first) / step + 1 else if step < 0 then (first - last) / -step + 1 else 0
  (List.range (min count.toNat longest)).map fun (n : Nat) => first + step * n

def seq : Utility := fun job world =>
  let (separator, numbers) := match operands job with
    | ('-' :: 's' :: separator) :: rest => if separator.isEmpty then (rest.headD [], rest.tail) else (separator, rest)
    | words => (['\n'], words)
  match numbers.find? fun text => (integer? text).isNone with
  | some text => misuse 1 (octets "invalid floating point argument: '" ++ text ++ ['\'']) job world
  | none =>
    let write (first step last : Int) : Finish × World :=
      let texts := (sequence first step last).map fun n => octets (toString n)
      printed job writeFault (if texts.isEmpty then [] else joinWith separator texts ++ ['\n']) world
    match numbers.filterMap integer? with
    | [last] => write 1 1 last
    | [first, last] => write first 1 last
    | [first, step, last] =>
      if step = 0 then
        misuse 1 (octets "invalid Zero increment value: '" ++ (numbers.getD 1 []) ++ ['\'']) job world
      else write first step last
    | [] => misuse 1 (octets "missing operand") job world
    | _ => misuse 1 (octets "extra operand '" ++ numbers.getD 3 [] ++ ['\'']) job world

/-! Exchanging characters. -/

def asciiBetween (low high : Char) : List Char :=
  (List.range (high.toNat + 1 - low.toNat)).map fun n => Char.ofNat (low.toNat + n)

def characterClass : List (String × List Char) := [
  ("[:upper:]", asciiBetween 'A' 'Z'), ("[:lower:]", asciiBetween 'a' 'z'), ("[:digit:]", asciiBetween '0' '9'),
  ("[:alpha:]", asciiBetween 'A' 'Z' ++ asciiBetween 'a' 'z'),
  ("[:alnum:]", asciiBetween '0' '9' ++ asciiBetween 'A' 'Z' ++ asciiBetween 'a' 'z'),
  ("[:blank:]", ['\t', ' ']), ("[:space:]", ['\t', '\n', '\x0b', '\x0c', '\r', ' ']),
  ("[:punct:]", asciiBetween '!' '/' ++ asciiBetween ':' '@' ++ asciiBetween '[' '\x60' ++ asciiBetween '\x7b' '~'),
  ("[:cntrl:]", asciiBetween '\x00' '\x1f' ++ ['\x7f'])]

/-- A set of characters as it is written: escapes, classes and ranges. -/
def characters : Nat → List Char → List Char
  | 0, _ => []
  | _, [] => []
  | fuel + 1, cs =>
    match characterClass.findSome? fun (name, members) => (name.toList.isPrefixOf? cs).map (members, ·) with
    | some (members, rest) => members ++ characters fuel rest
    | none =>
      let (first, rest) := match cs with
        | '\\' :: more =>
          match Format.escape .shell false more with
          | .text [c] rest | .text ['\\', c] rest => (c, rest)
          | _ => ('\\', more)
        | c :: rest => (c, rest)
        | [] => (' ', [])
      match rest with
      | '-' :: last :: rest => asciiBetween first last ++ characters fuel rest
      | rest => first :: characters fuel rest

def setOf (cs : List Char) : List Char := characters cs.length cs

def squeeze (set : List Char) : List Char → List Char
  | a :: b :: rest => if a = b && set.contains a then squeeze set (b :: rest) else a :: squeeze set (b :: rest)
  | cs => cs

def exchanged (before after : List Char) (c : Char) : Char :=
  match before.idxOf? c, after.getLast? with
  | some place, some last => after.getD place last
  | _, _ => c

def tr : Utility := withOptions 1 "cCds" "" fun options job world =>
  let sets := options.operands
  let written := setOf (sets.headD [])
  let first := if options.has 'c' || options.has 'C' then
      (List.range 256).map Char.ofNat |>.filter (!written.contains ·)
    else written
  let second := setOf ((sets.drop 1).headD [])
  let translates := !options.has 'd' && !options.has 's'
  match sets with
  | [] => misuse 1 (octets "missing operand") job world
  | [only] =>
    if translates then
      misuse 1 (octets "missing operand after '" ++ only ++
        octets "'\nTwo strings must be given when translating.") job world
    else exchange options first second false job world
  | _ =>
    if translates && second.isEmpty && !first.isEmpty then
      (.exited 1, complain job "when not truncating set1, string2 must be non-empty" world)
    else exchange options first second true job world
where
  exchange (options : Options) (first second : List Char) (hasSecond : Bool) : Utility := fun job world =>
    let (source, world) := world.readAll (job.descriptors.lookup 0)
    let deleted := if options.has 'd' then source.rest.filter (!first.contains ·)
      else if hasSecond then source.rest.map (exchanged first second) else source.rest
    let squeezed := if options.has 's' then squeeze (if hasSecond then second else first) deleted else deleted
    if source.more then (.awaitsInput, world) else printed job writeFault squeezed world

end Filter

/-- The programs that a system has in its folders, apart from those that run other ones. -/
def utilities : List (String × Utility) :=
  plainUtilities ++ [
    ("head", Filter.head), ("tail", Filter.tail), ("wc", Filter.wc), ("cut", Filter.cut), ("rev", Filter.rev),
    ("sort", Filter.sort), ("uniq", Filter.uniq), ("tee", Filter.tee), ("seq", Filter.seq), ("tr", Filter.tr)]

end AppGrants.Machine
