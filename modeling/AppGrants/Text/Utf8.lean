import AppGrants.Text.Blank

/-! Bytes as text in UTF-8, strictly or with a replacement character for every faulty stretch. -/
namespace AppGrants.Text

abbrev Bytes := List UInt8

def utf8 (text : String) : Bytes := text.toUTF8.toList

/-- The bytes that may stand second after a leading byte, and how many bytes follow the leading one. -/
def continuation? (lead : UInt8) : Option (UInt8 × UInt8 × Nat) :=
  if 0xC2 ≤ lead && lead ≤ 0xDF then some (0x80, 0xBF, 1)
  else if lead == 0xE0 then some (0xA0, 0xBF, 2)
  else if lead == 0xED then some (0x80, 0x9F, 2)
  else if 0xE1 ≤ lead && lead ≤ 0xEF then some (0x80, 0xBF, 2)
  else if lead == 0xF0 then some (0x90, 0xBF, 3)
  else if 0xF1 ≤ lead && lead ≤ 0xF3 then some (0x80, 0xBF, 3)
  else if lead == 0xF4 then some (0x80, 0x8F, 3)
  else none

def leadValue (lead : UInt8) (following : Nat) : Nat :=
  lead.toNat % Nat.pow 2 (6 - following)

/-- The rest of a character of which `value` is known and `following` bytes are due, the next of them within
`low` and `high`. A fault takes no byte of the next character with it. -/
def decodeTail : Nat → Nat → UInt8 → UInt8 → Bytes → Option Char × Bytes
  | 0, value, _, _, rest => (some (Char.ofNat value), rest)
  | following + 1, value, low, high, b :: rest =>
    if low ≤ b && b ≤ high then decodeTail following (value * 64 + b.toNat % 64) 0x80 0xBF rest
    else (none, b :: rest)
  | _ + 1, _, _, _, [] => (none, [])

/-- The first character, or none where the longest beginning of one that stands there is faulty. -/
def decodeFirst (lead : UInt8) (rest : Bytes) : Option Char × Bytes :=
  if lead < 0x80 then (some (Char.ofNat lead.toNat), rest)
  else match continuation? lead with
    | some (low, high, following) => decodeTail following (leadValue lead following) low high rest
    | none => (none, rest)

/-- The characters of a byte text in order, none for each fault. -/
def decodeWithin : Nat → Bytes → List (Option Char)
  | 0, _ => []
  | _, [] => []
  | fuel + 1, lead :: rest =>
    let (first, others) := decodeFirst lead rest
    first :: decodeWithin fuel others

def decodeAll (bytes : Bytes) : List (Option Char) := decodeWithin bytes.length bytes

def ofUtf8? (bytes : Bytes) : Option String :=
  (decodeAll bytes).mapM id |>.map String.ofList

/-- Lines of bytes end as lines of text do. -/
def byteLines (bytes : Bytes) : List Bytes := linesBy 0x0A 0x0D bytes

def replacement : Char := Char.ofNat 0xFFFD

def ofUtf8Lossy (bytes : Bytes) : String :=
  String.ofList ((decodeAll bytes).map (·.getD replacement))

end AppGrants.Text
