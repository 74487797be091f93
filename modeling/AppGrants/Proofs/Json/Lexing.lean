import AppGrants.Proofs.Json.Grammar
import AppGrants.Proofs.Json.Reading

/-! Gaps and strings as readers meet them. A string is read as the text that it spells; one whose escapes make no characters is
passed over where nobody asks for it. -/
namespace AppGrants.Json

/-- What may follow a value. -/
def Ends (rest : List Char) : Prop := ∀ c ∈ rest.head?, c ∈ [' ','\n','\t','\r',',',']','\x7d']

section
variable {gap rest : List Char}

theorem isGap_iff {c : Char} : isGap c = true ↔ c ∈ [' ','\n','\t','\r'] := by
  simp [isGap,or_assoc]

theorem skipGaps_gap (blank : Gap gap) (rest : List Char) : skipGaps (gap ++ rest) = skipGaps rest :=
  List.dropWhile_append_of_pos fun c member => isGap_iff.mpr (blank c member)

theorem Gap.nil : Gap [] := List.forall_mem_nil _

theorem Gap.ends (blank : Gap gap) (ends : Ends rest) : Ends (gap ++ rest) := by
  cases gap with
  | nil => exact ends
  | cons c gap =>
    intro first head
    obtain rfl : c = first := by simpa using head
    have inside := blank c List.mem_cons_self
    simp only [List.mem_cons,List.not_mem_nil,or_false] at inside ⊢
    tauto

theorem Gap.closes (blank : Gap gap) : Ends gap := by
  have ends : Ends (gap ++ []) := blank.ends (by simp [Ends])
  rwa [List.append_nil] at ends

theorem Gap.skipGaps_eq (blank : Gap gap) : skipGaps gap = [] := by
  have skipped := skipGaps_gap blank []
  rw [List.append_nil] at skipped
  exact skipped

theorem ends_cons {c : Char} (closes : c ∈ [' ','\n','\t','\r',',',']','\x7d']) (rest : List Char) : Ends (c :: rest) := by
  intro first head
  obtain rfl : c = first := by simpa using head
  exact closes

theorem Ends.endsNumber (ends : Ends rest) : EndsNumber rest := by
  intro c first
  have listed := ends c first
  simp only [List.mem_cons,List.not_mem_nil,or_false] at listed
  rcases listed with rfl | rfl | rfl | rfl | rfl | rfl | rfl <;> decide

/-- What follows the first of the parts that are in a list or an object. -/
def followed (closing : Char) (others : List (List Char)) (rest : List Char) : List Char :=
  others.flatMap (',' :: ·) ++ closing :: rest

theorem followed_cons (closing : Char) (other : List Char) (others : List (List Char)) (rest : List Char) :
    followed closing (other :: others) rest = ',' :: (other ++ followed closing others rest) := by
  simp [followed]

section
variable {closing : Char} (closes : closing = ']' ∨ closing = '\x7d')
include closes

theorem ends_followed (others : List (List Char)) (rest : List Char) : Ends (followed closing others rest) := by
  cases others with
  | nil => exact ends_cons (by rcases closes with rfl | rfl <;> decide) rest
  | cons other others => exact ends_cons (by decide) _

theorem skipGaps_last (blank : Gap gap) (rest : List Char) : skipGaps (gap ++ followed closing [] rest) = closing :: rest := by
  rw [skipGaps_gap blank]
  rcases closes with rfl | rfl <;> exact skipGaps_cons (by decide)

end

theorem skipGaps_comma (blank : Gap gap) (closing : Char) (other : List Char) (others : List (List Char)) (rest : List Char) :
    skipGaps (gap ++ followed closing (other :: others) rest) = ',' :: (other ++ followed closing others rest) := by
  rw [skipGaps_gap blank,followed_cons,skipGaps_cons (by decide)]

theorem Spaced.text_append (item : Spaced) (rest : List Char) :
    item.text ++ rest = item.before ++ (item.value ++ (item.after ++ rest)) := by
  simp [Spaced.text]

theorem Entry.text_append (entry : Entry) (rest : List Char) :
    entry.text ++ rest = entry.before ++ '"' :: (entry.name ++ '"' :: (entry.colon ++ ':' :: (entry.item.text ++ rest))) := by
  simp [Entry.text]

theorem listText_nil : listText gap [] ++ rest = '[' :: (gap ++ ']' :: rest) := by
  simp [listText,separated]

theorem listText_cons (item : Spaced) (others : List Spaced) :
    listText gap (item :: others) ++ rest = '[' :: (item.text ++ followed ']' (others.map Spaced.text) rest) := by
  simp [listText,separated,followed]

theorem objectText_nil : objectText gap [] ++ rest = '\x7b' :: (gap ++ '\x7d' :: rest) := by
  simp [objectText,separated]

theorem objectText_cons (entry : Entry) (others : List Entry) :
    objectText gap (entry :: others) ++ rest = '\x7b' :: (entry.text ++ followed '\x7d' (others.map Entry.text) rest) := by
  simp [objectText,separated,followed]

end

section
variable {c : Char} {n : Nat} {digits raw rest : List Char}

theorem hexValue?_eq (digit : HexDigit c n) : hexValue? c = some n := by
  obtain ⟨small,same⟩ := digit
  have all : ∀ n < 16, hexValue? (hexDigit n) = some n ∧ hexValue? (hexDigit n).toUpper = some n := by decide
  rcases same with rfl | rfl
  · exact (all n small).1
  · exact (all n small).2

theorem utf8Size_hexDigit (digit : HexDigit c n) : c.utf8Size = 1 := by
  obtain ⟨small,same⟩ := digit
  have all : ∀ n < 16, (hexDigit n).utf8Size = 1 ∧ (hexDigit n).toUpper.utf8Size = 1 := by decide
  rcases same with rfl | rfl
  · exact (all n small).1
  · exact (all n small).2

theorem HexWord.four (word : HexWord n digits) : ∃ a b c d, digits = [a,b,c,d] := by
  cases word
  exact ⟨_,_,_,_,rfl⟩

theorem HexWord.readHex_eq (word : HexWord n digits) (rest : List Char) : readHex (digits ++ rest) = .ok n := by
  cases word with
  | @digits a b c d _ _ _ _ first second third fourth =>
    have bytes : byteCount [a,b,c,d] = 4 := by
      simp [byteCount,utf8Size_hexDigit first,utf8Size_hexDigit second,utf8Size_hexDigit third,utf8Size_hexDigit fourth]
    simp [readHex,hexNumber?,hexValue?_eq first,hexValue?_eq second,hexValue?_eq third,hexValue?_eq fourth,bytes]

end

theorem simpleEscape?_of_mem {code c : Char} (listed : (code,c) ∈ shortEscapes) : simpleEscape? code = some c := by
  revert listed
  have all : ∀ pair ∈ shortEscapes, simpleEscape? pair.1 = some pair.2 := by decide
  exact all (code,c)

section
variable {c : Char} {piece text rest left cs : List Char}

/-- A character is read from what it is written as, and then what follows. -/
theorem SpellsChar.readChars_eq (spells : SpellsChar c piece)
    (after : ∀ leading, readChars .plain leading rest = .ok (text,left)) (leading : Nat) :
    readChars .plain leading (piece ++ rest) = .ok (c :: text,left) := by
  cases spells with
  | plain unquoted unescaped printable => simp [readChars,unquoted,unescaped,Nat.not_lt.mpr printable,after,Except.map]
  | short listed => simp [readChars,simpleEscape?_of_mem listed,after,Except.map]
  | word word =>
    have unit := word.readHex_eq rest
    obtain ⟨a,b,d,e,rfl⟩ := word.four
    -- The unit of a character is no half of a pair.
    have valid : c.toNat < 0xD800 ∨ 0xDFFF < c.toNat ∧ c.toNat < 0x110000 := c.valid
    have leads : isLeading c.toNat = false := by simp [isLeading]; omega
    have trails : isTrailing c.toNat = false := by simp [isTrailing]; omega
    simp only [List.cons_append,List.nil_append] at unit ⊢
    simp [readChars,simpleEscape?,unit,leads,trails,after,bind,Except.bind,Except.map]
  | @pair _ leading trailing first second leads trails high low means =>
    have one := leads.readHex_eq ('\\' :: 'u' :: second ++ rest)
    have two := trails.readHex_eq rest
    obtain ⟨a,b,d,e,rfl⟩ := leads.four
    obtain ⟨f,g,h,i,rfl⟩ := trails.four
    have leading_unit : isLeading (0xD800 + leading) = true := by simp [isLeading]; omega
    have not_trailing : isTrailing (0xD800 + leading) = false := by simp [isTrailing]; omega
    have trailing_unit : isTrailing (0xDC00 + trailing) = true := by simp [isTrailing]; omega
    have joined : Char.ofNat (joinSurrogates (0xD800 + leading) (0xDC00 + trailing)) = c := by
      have same : joinSurrogates (0xD800 + leading) (0xDC00 + trailing) = c.toNat := by
        rw [joinSurrogates]
        omega
      rw [same,Char.ofNat_toNat]
    simp only [List.cons_append,List.nil_append] at one two ⊢
    simp [readChars,simpleEscape?,one,two,leading_unit,not_trailing,trailing_unit,joined,after,bind,Except.bind,Except.map]

theorem Spells.readChars_eq (spells : Spells text cs) (leading : Nat) :
    readChars .plain leading (cs ++ '"' :: rest) = .ok (text,rest) := by
  induction spells generalizing leading with
  | nil => simp [readChars]
  | cons first _ ih =>
    rw [List.append_assoc]
    exact first.readChars_eq ih leading

theorem readText_eq {text : String} (spells : Spells text.toList cs) (rest : List Char) :
    readText (cs ++ '"' :: rest) = .ok (text,rest) := by
  rw [readText,spells.readChars_eq]
  exact congrArg (fun text => Except.ok (text,rest)) text.ofList_toList

theorem Raw.skipChars_eq (inside : Raw cs) (rest : List Char) : skipChars .plain (cs ++ '"' :: rest) = .ok rest := by
  induction inside with
  | nil => simp [skipChars]
  | plain unquoted unescaped printable _ ih => simp [skipChars,unquoted,unescaped,Nat.not_lt.mpr printable,ih]
  | short listed _ ih => simp [skipChars,isSimpleEscape,simpleEscape?_of_mem listed,ih]
  | @word n digits raw word _ ih =>
    have unit := word.readHex_eq (raw ++ '"' :: rest)
    obtain ⟨a,b,d,e,rfl⟩ := word.four
    simp only [List.cons_append,List.nil_append] at unit ⊢
    simp [skipChars,isSimpleEscape,simpleEscape?,unit,ih]

theorem SpellsChar.raw (spells : SpellsChar c piece) (others : Raw rest) : Raw (piece ++ rest) := by
  cases spells with
  | plain unquoted unescaped printable => exact .plain unquoted unescaped printable others
  | short listed => exact .short listed others
  | word word => exact .word word others
  | @pair _ leading trailing first second leads trails high low means =>
    have two : Raw ('\\' :: 'u' :: second ++ rest) := .word trails others
    have one : Raw ('\\' :: 'u' :: first ++ ('\\' :: 'u' :: second ++ rest)) := .word leads two
    simpa using one

theorem Spells.raw (spells : Spells text cs) : Raw cs := by
  induction spells with
  | nil => exact .nil
  | cons first _ ih => exact first.raw ih

end
end AppGrants.Json
