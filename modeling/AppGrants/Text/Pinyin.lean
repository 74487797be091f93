/-! Han characters spelled in the Latin alphabet. How a character is read is not decided here. -/
namespace AppGrants.Text

/-- The first reading of a character, tones left out, if it has one. -/
abbrev Pinyin := Char → Option String

/-- Characters without a reading are kept. -/
def spellChar (pinyin : Pinyin) (c : Char) : List Char :=
  match pinyin c with
  | some reading => reading.toList
  | none => [c]

def spell (pinyin : Pinyin) (cs : List Char) : List Char := cs.flatMap (spellChar pinyin)

end AppGrants.Text
