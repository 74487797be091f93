import AppGrants.Json.Read
import AppGrants.Proofs.Json.Printing
import Mathlib.Data.List.Forall2

/-! Reading what was printed gives the document back. -/
namespace AppGrants.Json
variable {α σ : Type}

/-- What may follow a printed value. -/
def Closes (rest : List Char) : Prop := ∀ c ∈ rest.head?, c = ',' ∨ c = ']' ∨ c = '\x7d'

theorem readWord_append (word rest : List Char) : readWord word (word ++ rest) = .ok rest := by
  induction word with
  | nil => rfl
  | cons c word ih => rw [List.cons_append,readWord,if_pos rfl,ih]

section
variable {leading : Nat} {rest : List Char}

theorem hexDigits_small : ∀ high < 2, ∀ low < 16, byteCount ['0','0',hexDigit high,hexDigit low] = 4 ∧
    hexNumber? ['0','0',hexDigit high,hexDigit low] = some (high * 16 + low) := by decide

theorem readHex_small {n : Nat} (small : n < 32) :
    readHex ('0' :: '0' :: hexDigit (n / 16) :: hexDigit (n % 16) :: rest) = .ok n := by
  obtain ⟨bytes,value⟩ := hexDigits_small (n / 16) (by omega) (n % 16) (by omega)
  have whole : n / 16 * 16 + n % 16 = n := by omega
  simp [readHex,bytes,value,whole]

theorem readChars_escapeChar (c : Char) :
    readChars .plain leading (escapeChar c ++ rest) =
      (readChars .plain leading rest).map fun (chars,left) => (c :: chars,left) := by
  have escape {code : Char} {meant : Char} (means : simpleEscape? code = some meant) :
      readChars .plain leading ('\\' :: code :: rest) =
        (readChars .plain leading rest).map fun (chars,left) => (meant :: chars,left) := by
    simp [readChars,means]
  have control {n : Nat} (same : c.toNat = n) : Char.ofNat n = c := same ▸ Char.ofNat_toNat c
  unfold escapeChar
  split
  next quote =>
    subst quote
    exact escape rfl
  split
  next backslash =>
    subst backslash
    exact escape rfl
  split
  next code => exact control code ▸ escape rfl
  split
  next code => exact control code ▸ escape rfl
  split
  next code => exact control code ▸ escape rfl
  split
  next code => exact control code ▸ escape rfl
  split
  next code => exact control code ▸ escape rfl
  split
  next small =>
    have unit := @readHex_small rest _ small
    have leads : isLeading c.toNat = false := by simp [isLeading]; omega
    have trails : isTrailing c.toNat = false := by simp [isTrailing]; omega
    simp [readChars,simpleEscape?,unit,leads,trails,bind,Except.bind]
  next quote backslash _ _ _ _ _ large => simp [readChars,quote,backslash,large]

theorem readText_printText (text : String) : readText (text.toList.flatMap escapeChar ++ '"' :: rest) = .ok (text,rest) := by
  have chars (cs : List Char) : readChars .plain 0 (cs.flatMap escapeChar ++ '"' :: rest) = .ok (cs,rest) := by
    induction cs with
    | nil => simp [readChars]
    | cons c cs ih =>
      rw [List.flatMap_cons,List.append_assoc,readChars_escapeChar,ih]
      rfl
  rw [readText,chars]
  exact congrArg (fun text => Except.ok (text,rest)) text.ofList_toList

end
section
variable {rest : List Char}

/-- With what follows, a number is at its end. -/
def EndsNumber (rest : List Char) : Prop := ∀ c ∈ rest.head?, c.isDigit = false ∧ c ≠ '.' ∧ c ≠ 'e' ∧ c ≠ 'E'

theorem Closes.endsNumber (closes : Closes rest) : EndsNumber rest := by
  intro c first
  rcases closes c first with rfl | rfl | rfl <;> decide

theorem takeWhile_digits {digits : List Char} (all : ∀ c ∈ digits, c.isDigit = true)
    (after : ∀ c ∈ rest.head?, c.isDigit = false) :
    (digits ++ rest).takeWhile Char.isDigit = digits ∧ (digits ++ rest).dropWhile Char.isDigit = rest := by
  rw [List.takeWhile_append_of_pos all,List.dropWhile_append_of_pos all]
  cases rest with
  | nil => simp
  | cons c rest =>
    have other : c.isDigit = false := after c rfl
    simp [other]

theorem le_ofDigitChars (digits : List Char) (value : Nat) : value ≤ Nat.ofDigitChars 10 digits value := by
  induction digits generalizing value with
  | nil => simp
  | cons d digits ih =>
    rw [Nat.ofDigitChars_cons]
    exact Nat.le_trans (by omega) (ih _)

theorem absorb_eq {digits : List Char} {value : Nat} (fits : Nat.ofDigitChars 10 digits value ≤ wordLimit) :
    absorb value digits = (Nat.ofDigitChars 10 digits value,0) := by
  induction digits generalizing value with
  | nil => simp [absorb]
  | cons d digits ih =>
    rw [Nat.ofDigitChars_cons,Nat.mul_comm] at fits ⊢
    have below := Nat.le_trans (le_ofDigitChars digits _) fits
    rw [absorb,if_neg (Nat.not_lt.mpr below),ih fits]

theorem readWhole_toDigits {positive : Bool} {n : Nat} (fits : n ≤ wordLimit)
    (signed : positive = false → n ≠ 0 ∧ n ≤ 9223372036854775808) (ends : EndsNumber rest) :
    readWhole positive (Nat.toDigits 10 n) rest = .ok (.whole (if positive then n else -n),rest) := by
  have absorbed : absorb 0 (Nat.toDigits 10 n) = (n,0) := by
    rw [absorb_eq] <;> rw [Nat.ofDigitChars_ten_toDigits]
    exact fits
  unfold readWhole
  rw [absorbed]
  dsimp only
  split
  · exact absurd (ends '.' rfl) (by decide)
  · exact absurd (ends 'e' rfl) (by decide)
  · exact absurd (ends 'E' rfl) (by decide)
  · cases positive with
    | true => rfl
    | false =>
      obtain ⟨nonzero,bound⟩ := signed rfl
      simp [nonzero,Nat.not_lt.mpr bound]

theorem head_toDigits {n : Nat} (positive : 0 < n) : ∃ c digits, Nat.toDigits 10 n = c :: digits ∧ c ≠ '0' := by
  induction n using Nat.strongRecOn with
  | ind n ih =>
    by_cases small : n < 10
    · refine ⟨n.digitChar,[],Nat.toDigits_of_lt_base small,?_⟩
      rw [Ne,Nat.digitChar_eq_zero]
      exact Nat.ne_of_gt positive
    · obtain ⟨c,digits,same,nonzero⟩ := ih (n / 10) (by omega) (by omega)
      rw [Nat.toDigits_of_base_le (by decide) (Nat.le_of_not_lt small),same]
      exact ⟨c,_,rfl,nonzero⟩

theorem readMagnitude_toDigits {positive : Bool} {n : Nat} (fits : n ≤ wordLimit)
    (signed : positive = false → n ≠ 0 ∧ n ≤ 9223372036854775808) (ends : EndsNumber rest) :
    readMagnitude positive (Nat.toDigits 10 n ++ rest) = .ok (.whole (if positive then n else -n),rest) := by
  have whole := readWhole_toDigits fits signed ends
  obtain rfl | some_digit := Nat.eq_zero_or_pos n
  · rw [Nat.toDigits_zero] at whole ⊢
    cases rest with
    | nil => exact whole
    | cons c rest =>
      have other : c.isDigit = false := (ends c rfl).1
      simp only [List.singleton_append,readMagnitude,other,Bool.false_eq_true,if_false,whole]
  · obtain ⟨c,digits,same,nonzero⟩ := head_toDigits some_digit
    have all := isDigit_natText n
    obtain ⟨taken,left⟩ := takeWhile_digits all fun c first => (ends c first).1
    rw [same] at all taken left whole ⊢
    have first := all c (.head _)
    rw [List.cons_append] at taken left ⊢
    unfold readMagnitude
    split
    next nothing => cases nothing
    next zero => exact absurd (List.cons.inj zero).1 nonzero
    next c' rest' _ other =>
      obtain ⟨rfl,rfl⟩ := List.cons.inj other
      rw [if_pos first,taken,left,whole]

theorem readNumber_digits {digits : List Char} (some_digit : digits ≠ []) (all : ∀ c ∈ digits, c.isDigit = true) :
    readNumber (digits ++ rest) = readMagnitude true (digits ++ rest) := by
  obtain ⟨c,digits,rfl⟩ := List.exists_cons_of_ne_nil some_digit
  have first := all c (.head _)
  unfold readNumber
  split
  next sign =>
    obtain ⟨rfl,-⟩ := List.cons.inj sign
    exact absurd first (by decide)
  · rfl

theorem readNumber_printNumber {n : Int} (least : -9223372036854775808 ≤ n) (greatest : n ≤ 18446744073709551615)
    (ends : EndsNumber rest) : readNumber (printNumber (.whole n) ++ rest) = .ok (.whole n,rest) := by
  cases n with
  | ofNat n =>
    have fits : n ≤ wordLimit := by
      change (n : Int) ≤ _ at greatest
      unfold wordLimit
      omega
    change readNumber (printNumber (.whole (n : Int)) ++ rest) = .ok (.whole (n : Int),rest)
    rw [printNumber_nat,readNumber_digits Nat.toDigits_ne_nil (isDigit_natText n),readMagnitude_toDigits fits (by simp) ends]
    rfl
  | negSucc n =>
    have fits : n + 1 ≤ 9223372036854775808 := by omega
    have read := @readMagnitude_toDigits rest false (n + 1) (Nat.le_trans fits (by decide)) (by omega) ends
    rw [printNumber_negative]
    exact read

end
/-- How the printed form of a document begins. -/
def Opens (cs : List Char) : Prop := ∃ c rest, cs = c :: rest ∧ isGap c = false ∧ c ≠ ',' ∧ c ≠ ']'

section
variable {rest : List Char}

theorem isGap_of_isDigit {c : Char} (digit : c.isDigit = true) : isGap c = false := by
  have other {blank : Char} (no_digit : blank.isDigit = false) : (c == blank) = false := by
    rw [beq_eq_false_iff_ne]
    rintro rfl
    exact absurd digit (by simp [no_digit])
  rw [isGap,other rfl,other rfl,other rfl,other rfl]
  rfl

theorem opens_toDigits (n : Nat) : Opens (Nat.toDigits 10 n) := by
  obtain ⟨c,digits,same⟩ := List.exists_cons_of_ne_nil (Nat.toDigits_ne_nil (n := n) (b := 10))
  have first := isDigit_natText n c (same ▸ .head _)
  refine ⟨c,digits,same,isGap_of_isDigit first,?_,?_⟩
  · rintro rfl
    exact absurd first (by decide)
  · rintro rfl
    exact absurd first (by decide)

theorem opens_print {depth : Nat} {doc : Doc} (plain : doc.Plain depth) : Opens (print doc) := by
  cases doc with
  | null => exact ⟨_,_,rfl,by decide⟩
  | bool value => cases value <;> exact ⟨_,_,rfl,by decide⟩
  | number n =>
    cases n with
    | whole n =>
      cases n with
      | ofNat n =>
        have opens := opens_toDigits n
        rwa [← printNumber_nat] at opens
      | negSucc n => exact ⟨_,_,printNumber_negative n,by decide⟩
    | real x => simp [Doc.Plain] at plain
  | text value => exact ⟨_,_,rfl,by decide⟩
  | list items => exact ⟨_,_,rfl,by decide⟩
  | object fields => exact ⟨_,_,rfl,by decide⟩

theorem skipGaps_cons {c : Char} (plain : isGap c = false) : skipGaps (c :: rest) = c :: rest := by
  rw [skipGaps,List.dropWhile_cons_of_neg (by simp [plain])]

/-- The document is read as the value, whatever follows. -/
structure Yields (reader : Reader α) (doc : Doc) (value : α) : Prop where
  opens : Opens (print doc)
  reads : ∀ rest, Closes rest → reader (print doc ++ rest) = .ok (value,rest)

theorem closes_moreItems (items : List Doc) (rest : List Char) : Closes (moreItems items ++ rest) := by
  cases items <;> simp [Closes,moreItems]

theorem closes_moreFields (fields : List (String × Doc)) (rest : List Char) : Closes (moreFields fields ++ rest) := by
  cases fields <;> simp [Closes,moreFields]

section
variable {item : Reader α} {fuel : Nat} {cs : List Char}

theorem readItems_end (first : Bool) : readItems item (fuel + 1) first (']' :: rest) = .ok ([],rest) := by
  rw [readItems,skipGaps_cons (by decide)]
  rfl

theorem readItems_first (opens : Opens cs) :
    readItems item (fuel + 1) true (cs ++ rest) =
      (item (cs ++ rest)).bind fun (value,left) => readItems.more item value left fuel := by
  obtain ⟨c,others,rfl,plain,comma,bracket⟩ := opens
  rw [List.cons_append,readItems,skipGaps_cons plain]
  split
  next nothing => cases nothing
  next closed => exact absurd (List.cons.inj closed).1 bracket
  next more => exact absurd (List.cons.inj more).1 comma
  · rfl

theorem readItems_next (opens : Opens cs) :
    readItems item (fuel + 1) false (',' :: cs ++ rest) =
      (item (cs ++ rest)).bind fun (value,left) => readItems.more item value left fuel := by
  obtain ⟨c,others,rfl,plain,comma,bracket⟩ := opens
  rw [List.cons_append,readItems,skipGaps_cons (by decide)]
  simp only [Bool.false_eq_true,if_false,List.cons_append,skipGaps_cons plain]
  split
  next closed => exact absurd (List.cons.inj closed).1 bracket
  next nothing => cases nothing
  · rfl

theorem readItems_more {items : List Doc} {values : List α} (yields : List.Forall₂ (Yields item) items values)
    (enough : items.length < fuel) : readItems item fuel false (moreItems items ++ rest) = .ok (values,rest) := by
  induction yields generalizing fuel with
  | nil =>
    obtain ⟨fuel,rfl⟩ := Nat.exists_eq_add_one_of_ne_zero (Nat.ne_of_gt enough)
    exact readItems_end false
  | @cons doc value items values first _ ih =>
    obtain ⟨fuel,rfl⟩ := Nat.exists_eq_add_one_of_ne_zero (Nat.ne_of_gt (Nat.lt_of_le_of_lt (Nat.zero_le _) enough))
    have others := @ih fuel (by simpa using enough)
    have read := first.reads _ (closes_moreItems items rest)
    rw [moreItems,printItems_cons,← List.cons_append,List.append_assoc,readItems_next first.opens,read]
    change readItems.more item value _ fuel = _
    rw [readItems.more,others]
    rfl

theorem readItems_printItems {items : List Doc} {values : List α} (yields : List.Forall₂ (Yields item) items values)
    (enough : items.length < fuel) : readItems item fuel true (printItems items ++ rest) = .ok (values,rest) := by
  obtain ⟨fuel,rfl⟩ := Nat.exists_eq_add_one_of_ne_zero (Nat.ne_of_gt (Nat.lt_of_le_of_lt (Nat.zero_le _) enough))
  cases yields with
  | nil => exact readItems_end true
  | @cons doc value items values first others =>
    have read := first.reads _ (closes_moreItems items rest)
    rw [printItems_cons,List.append_assoc,readItems_first first.opens,read]
    change readItems.more item value _ fuel = _
    rw [readItems.more,readItems_more others (by simpa using enough)]
    rfl

end

/-- The fields are taken up one after another, from what is held to what is held then. -/
inductive Loads (member : σ → String → Except Mismatch (Reader σ)) : σ → List (String × Doc) → σ → Prop where
  | nothing {held : σ} : Loads member held [] held
  | field {held next last : σ} {name : String} {doc : Doc} {fields : List (String × Doc)} {reader : Reader σ}
      (takes : member held name = .ok reader) (yields : Yields reader doc next) (others : Loads member next fields last) :
      Loads member held ((name,doc) :: fields) last

section
variable {member : σ → String → Except Mismatch (Reader σ)} {fuel : Nat}

theorem readColon_cons (rest : List Char) : readColon (':' :: rest) = .ok rest := by
  rw [readColon,skipGaps_cons (by decide)]
  rfl

theorem readMembers_end (held : σ) (first : Bool) :
    readMembers member (fuel + 1) first held ('\x7d' :: rest) = .ok (held,rest) := by
  rw [readMembers,skipGaps_cons (by decide)]
  rfl

theorem entry_field {held next : σ} {name : String} {doc : Doc} {reader : Reader σ} (takes : member held name = .ok reader)
    (yields : Yields reader doc next) (closes : Closes rest) :
    readMembers.entry member held (name.toList.flatMap escapeChar ++ '"' :: ':' :: (print doc ++ rest)) fuel =
      readMembers member fuel false next rest := by
  have read := yields.reads rest closes
  rw [readMembers.entry,readText_printText]
  simp only [bind,Except.bind,takes,fitting,readColon_cons,read]

theorem printFields_split (name : String) (doc : Doc) (fields : List (String × Doc)) (rest : List Char) :
    printFields ((name,doc) :: fields) ++ rest =
      '"' :: (name.toList.flatMap escapeChar ++ '"' :: ':' :: (print doc ++ (moreFields fields ++ rest))) := by
  simp [printFields_cons,printText]

theorem readMembers_more {fields : List (String × Doc)} {held last : σ} (loads : Loads member held fields last)
    (enough : fields.length < fuel) : readMembers member fuel false held (moreFields fields ++ rest) = .ok (last,rest) := by
  induction loads generalizing fuel with
  | nothing =>
    obtain ⟨fuel,rfl⟩ := Nat.exists_eq_add_one_of_ne_zero (Nat.ne_of_gt enough)
    exact readMembers_end _ false
  | @field held next last name doc fields reader takes yields _ ih =>
    obtain ⟨fuel,rfl⟩ := Nat.exists_eq_add_one_of_ne_zero (Nat.ne_of_gt (Nat.lt_of_le_of_lt (Nat.zero_le _) enough))
    have others := @ih fuel (by simpa using enough)
    have entry : readMembers.entry member held _ fuel = _ := entry_field takes yields (closes_moreFields fields rest)
    rw [moreFields,List.cons_append,printFields_split,readMembers,skipGaps_cons (by decide)]
    simp only [Bool.false_eq_true,if_false,skipGaps_cons (show isGap '"' = false by decide)]
    rw [entry,others]

theorem readMembers_printFields {fields : List (String × Doc)} {held last : σ} (loads : Loads member held fields last)
    (enough : fields.length < fuel) : readMembers member fuel true held (printFields fields ++ rest) = .ok (last,rest) := by
  obtain ⟨fuel,rfl⟩ := Nat.exists_eq_add_one_of_ne_zero (Nat.ne_of_gt (Nat.lt_of_le_of_lt (Nat.zero_le _) enough))
  cases loads with
  | nothing => exact readMembers_end _ true
  | @field held next last name doc fields reader takes yields others =>
    have entry : readMembers.entry member held _ fuel = _ := entry_field takes yields (closes_moreFields fields rest)
    rw [printFields_split,readMembers,skipGaps_cons (by decide)]
    simp only [if_true]
    rw [entry,readMembers_more others (by simpa using enough)]

end

theorem length_le_printItems (items : List Doc) : items.length ≤ (printItems items).length := by
  induction items with
  | nil => simp
  | cons item items ih =>
    rw [printItems_cons,List.length_append,List.length_cons]
    cases items with
    | nil => simp [moreItems]
    | cons other items =>
      simp only [moreItems,List.length_cons] at ih ⊢
      omega

theorem length_le_printFields (fields : List (String × Doc)) : fields.length ≤ (printFields fields).length := by
  induction fields with
  | nil => simp
  | cons field fields ih =>
    rw [printFields_cons,List.length_append,List.length_cons]
    cases fields with
    | nil => simp [moreFields]
    | cons other fields =>
      simp only [moreFields,List.length_cons] at ih ⊢
      omega

variable {depth : Nat}

theorem read_list (items : List Char) : read (depth + 1) .anything ('[' :: items) =
    (readItems (read depth .anything) (items.length + 1) true items).map fun (items,rest) => (.list items,rest) := by
  have begins : skipGaps ('[' :: items) = '[' :: items := skipGaps_cons (by decide)
  rw [read.eq_def]
  simp only [begins]

theorem read_object (fields : List Char) : read (depth + 1) .anything ('\x7b' :: fields) =
    (readMembers (anyMember (read depth .anything)) (fields.length + 1) true [] fields).map
      fun (fields,rest) => (.object fields.reverse,rest) := by
  have begins : skipGaps ('\x7b' :: fields) = '\x7b' :: fields := skipGaps_cons (by decide)
  rw [read.eq_def]
  simp only [begins]

theorem Yields.map {β : Type} {reader : Reader α} {doc : Doc} {value : α} (yields : Yields reader doc value) (f : α → β) :
    Yields (fun cs => (reader cs).map fun (value,rest) => (f value,rest)) doc (f value) where
  opens := yields.opens
  reads rest closes := by
    rw [yields.reads rest closes]
    rfl

theorem loads_any {fields : List (String × Doc)} (yields : ∀ field ∈ fields, Yields (read depth .anything) field.2 field.2)
    (held : List (String × Doc)) : Loads (anyMember (read depth .anything)) held fields (fields.reverse ++ held) := by
  induction fields generalizing held with
  | nil => exact .nothing
  | cons field fields ih =>
    have others := ih (fun other member => yields other (.tail _ member)) (field :: held)
    rw [List.reverse_cons,List.append_assoc]
    exact .field rfl ((yields field (.head _)).map fun value => (field.1,value) :: held) others

theorem startsNumber_printNumber (n : Int) : ∃ c digits, printNumber (.whole n) = c :: digits ∧ startsNumber c = true := by
  cases n with
  | ofNat n =>
    obtain ⟨c,digits,same⟩ := List.exists_cons_of_ne_nil (Nat.toDigits_ne_nil (n := n) (b := 10))
    have first := isDigit_natText n c (same ▸ .head _)
    exact ⟨c,digits,(printNumber_nat n).trans same,by simp [startsNumber,first]⟩
  | negSucc n => exact ⟨_,_,printNumber_negative n,rfl⟩

theorem isGap_of_startsNumber {c : Char} (starts : startsNumber c = true) : isGap c = false := by
  have digit : c = '-' ∨ c.isDigit = true := by simpa [startsNumber] using starts
  rcases digit with rfl | digit
  · rfl
  · exact isGap_of_isDigit digit

theorem read_number {c : Char} {rest : List Char} (starts : startsNumber c = true) :
    read depth .anything (c :: rest) = (readNumber (c :: rest)).map fun (value,rest) => (.number value,rest) := by
  have other {code : Char} (apart : startsNumber code = false) : c ≠ code := by
    rintro rfl
    exact absurd starts (by simp [apart])
  have begins : skipGaps (c :: rest) = c :: rest := skipGaps_cons (isGap_of_startsNumber starts)
  rw [read.eq_def]
  -- A number begins with no character that any other document begins with.
  have null := @other 'n' rfl
  have yes := @other 't' rfl
  have no := @other 'f' rfl
  have text := @other '"' rfl
  have list := @other '[' rfl
  have object := @other '\x7b' rfl
  simp [begins,starts]

theorem read_text (cs : List Char) :
    read depth .anything ('"' :: cs) = (readText cs).map fun (value,rest) => (.text value,rest) := by
  have begins : skipGaps ('"' :: cs) = '"' :: cs := skipGaps_cons (by decide)
  rw [read.eq_def]
  simp only [begins]

theorem read_null (cs : List Char) :
    read depth .anything ('n' :: cs) = (readWord ['u','l','l'] cs).map fun rest => (.null,rest) := by
  have begins : skipGaps ('n' :: cs) = 'n' :: cs := skipGaps_cons (by decide)
  rw [read.eq_def]
  simp only [begins]

theorem read_true (cs : List Char) :
    read depth .anything ('t' :: cs) = (readWord ['r','u','e'] cs).map fun rest => (.bool true,rest) := by
  have begins : skipGaps ('t' :: cs) = 't' :: cs := skipGaps_cons (by decide)
  rw [read.eq_def]
  simp only [begins]

theorem read_false (cs : List Char) :
    read depth .anything ('f' :: cs) = (readWord ['a','l','s','e'] cs).map fun rest => (.bool false,rest) := by
  have begins : skipGaps ('f' :: cs) = 'f' :: cs := skipGaps_cons (by decide)
  rw [read.eq_def]
  simp only [begins]

theorem read_printText (text : String) (rest : List Char) :
    read depth .anything (printText text ++ rest) = .ok (.text text,rest) := by
  have quoted : printText text ++ rest = '"' :: (text.toList.flatMap escapeChar ++ '"' :: rest) := by simp [printText]
  rw [quoted,read_text,readText_printText]
  rfl

theorem read_printNumber {n : Int} (least : -9223372036854775808 ≤ n) (greatest : n ≤ 18446744073709551615) {rest : List Char}
    (closes : Closes rest) : read depth .anything (printNumber (.whole n) ++ rest) = .ok (.number (.whole n),rest) := by
  have number := readNumber_printNumber least greatest closes.endsNumber
  obtain ⟨c,digits,same,starts⟩ := startsNumber_printNumber n
  rw [same,List.cons_append] at number ⊢
  rw [read_number starts,number]
  rfl

theorem read_print : {depth : Nat} → {doc : Doc} → doc.Plain depth → {rest : List Char} → Closes rest →
    read depth .anything (print doc ++ rest) = .ok (doc,rest)
  | _, .null, _, _, _ => by
    rw [print,List.cons_append,read_null,readWord_append]
    rfl
  | _, .bool true, _, _, _ => by
    rw [print,List.cons_append,read_true,readWord_append]
    rfl
  | _, .bool false, _, _, _ => by
    rw [print,List.cons_append,read_false,readWord_append]
    rfl
  | _, .number (.whole n), plain, _, closes => by
    obtain ⟨least,greatest⟩ : _ ≤ n ∧ n ≤ _ := by simpa [Doc.Plain] using plain
    exact read_printNumber least greatest closes
  | _, .text value, _, _, _ => read_printText value _
  | depth + 1, .list items, plain, rest, _ => by
    have yields : List.Forall₂ (Yields (read depth .anything)) items items := List.forall₂_same.mpr fun item member =>
      ⟨opens_print (plain item member),fun _ closes => read_print (plain item member) closes⟩
    -- The fuel is the number of characters that are left, and each item takes at least one.
    have enough : items.length < (printItems items ++ rest).length + 1 := by
      have some_item := length_le_printItems items
      rw [List.length_append]
      omega
    rw [print,List.cons_append,read_list,readItems_printItems yields enough]
    rfl
  | depth + 1, .object fields, plain, rest, _ => by
    have loads := loads_any (fun field member =>
      ⟨opens_print (plain field member),fun _ closes => read_print (plain field member) closes⟩) []
    have enough : fields.length < (printFields fields ++ rest).length + 1 := by
      have some_field := length_le_printFields fields
      rw [List.length_append]
      omega
    rw [print,List.cons_append,read_object,readMembers_printFields loads enough,List.append_nil]
    exact congrArg (fun fields => Except.ok (Doc.object fields,rest)) fields.reverse_reverse
  | 0, .list _, plain, _, _ => plain.elim
  | 0, .object _, plain, _, _ => plain.elim
  | _, .number (.real _), plain, _, _ => by simp [Doc.Plain] at plain

theorem yields_read {doc : Doc} (plain : doc.Plain depth) : Yields (read depth .anything) doc doc :=
  ⟨opens_print plain,fun _ closes => read_print plain closes⟩

end
end AppGrants.Json
