import AppGrants.Json.Print
import AppGrants.Proofs.Text.Lines

/-! Printed documents. What is written of values has whole numbers only, and stays on one line: what would break the line is
escaped. -/
namespace AppGrants.Json

/-- Whole numbers of 64 bits, and at most so many lists and objects within each other. -/
def Doc.Plain : Nat → Doc → Prop
  | _, .null | _, .bool _ | _, .text _ => True
  | _, .number (.whole n) => -9223372036854775808 ≤ n ∧ n ≤ 18446744073709551615
  | _, .number (.real _) => False
  | 0, .list _ | 0, .object _ => False
  | depth + 1, .list items => ∀ item ∈ items, item.Plain depth
  | depth + 1, .object fields => ∀ field ∈ fields, field.2.Plain depth

theorem Doc.plain_nat {n : Nat} (depth : Nat) (small : n < UInt64.size) : (Doc.nat n).Plain depth := by
  simp only [Doc.nat,Plain]
  unfold UInt64.size at small
  omega

theorem Doc.plain_text (depth : Nat) (text : String) : (Doc.text text).Plain depth := by simp [Plain]

theorem Doc.plain_bool (depth : Nat) (value : Bool) : (Doc.bool value).Plain depth := by simp [Plain]

theorem Doc.plain_int32 (depth : Nat) (n : Int32) : (Doc.whole n.toInt).Plain depth := by
  have least := n.le_toInt
  have greatest := n.toInt_lt
  simp only [Doc.whole,Plain]
  omega

theorem Doc.plain_uint32 (depth : Nat) (n : UInt32) : (Doc.nat n.toNat).Plain depth :=
  plain_nat depth (Nat.lt_trans n.toNat_lt (by decide))

/-- What follows an item of a list. -/
def moreItems : List Doc → List Char
  | [] => [']']
  | item :: rest => ',' :: printItems (item :: rest)

def moreFields : List (String × Doc) → List Char
  | [] => ['\x7d']
  | field :: rest => ',' :: printFields (field :: rest)

theorem printItems_cons (item : Doc) (rest : List Doc) : printItems (item :: rest) = print item ++ moreItems rest := by
  cases rest <;> rfl

theorem printFields_cons (name : String) (value : Doc) (rest : List (String × Doc)) :
    printFields ((name,value) :: rest) = printText name ++ ':' :: print value ++ moreFields rest := by
  cases rest with
  | nil => rfl
  | cons field rest => simp [printFields,moreFields]

theorem natText (n : Nat) : (toString n).toList = Nat.toDigits 10 n := Nat.toList_repr

theorem isDigit_natText (n : Nat) : ∀ c ∈ Nat.toDigits 10 n, c.isDigit = true := fun _ member =>
  Nat.isDigit_of_mem_toDigits (by decide) (by decide) member

theorem printNumber_nat (n : Nat) : printNumber (.whole n) = Nat.toDigits 10 n := natText n

theorem printNumber_negative (n : Nat) : printNumber (.whole (Int.negSucc n)) = '-' :: Nat.toDigits 10 (n + 1) := by
  change ("-" ++ toString (n + 1)).toList = _
  rw [String.toList_append,natText]
  rfl

section
variable {c : Char}

theorem isAlphanum_hexDigit : ∀ n < 16, (hexDigit n).isAlphanum = true := by decide

theorem feed_ne_hexDigit {n : Nat} (small : n < 16) : '\n' ≠ hexDigit n := by
  intro same
  have alphanumeric := isAlphanum_hexDigit n small
  rw [← same] at alphanumeric
  exact absurd alphanumeric (by decide)

theorem feed_not_mem_escapeChar : '\n' ∉ escapeChar c := by
  unfold escapeChar
  split
  · simp
  split
  · simp
  split
  · simp
  split
  · simp
  split
  · simp
  next other =>
    split
    · simp
    split
    · simp
    split
    · simp [feed_ne_hexDigit (show c.toNat / 16 < 16 by omega),feed_ne_hexDigit (show c.toNat % 16 < 16 by omega)]
    · rw [List.mem_singleton]
      rintro rfl
      exact other rfl

theorem feed_not_mem_printText (text : String) : '\n' ∉ printText text := by
  simp [printText,feed_not_mem_escapeChar]

theorem feed_not_mem_printNumber (n : Int) : '\n' ∉ printNumber (.whole n) := by
  have plain (n : Nat) : '\n' ∉ Nat.toDigits 10 n := fun member => absurd (isDigit_natText n _ member) (by decide)
  cases n with
  | ofNat n => exact printNumber_nat n ▸ plain n
  | negSucc n =>
    rw [printNumber_negative]
    simp [plain]

end

theorem feed_not_mem_items {items : List Doc} (plain : ∀ item ∈ items, '\n' ∉ print item) : '\n' ∉ printItems items := by
  induction items with
  | nil => simp [printItems]
  | cons item rest ih =>
    have one := plain item (.head _)
    have more := ih fun other member => plain other (.tail _ member)
    rw [printItems_cons]
    cases rest <;> simp [moreItems,one,more]

theorem feed_not_mem_fields {fields : List (String × Doc)} (plain : ∀ field ∈ fields, '\n' ∉ print field.2) :
    '\n' ∉ printFields fields := by
  induction fields with
  | nil => simp [printFields]
  | cons field rest ih =>
    have name := feed_not_mem_printText field.1
    have one := plain field (.head _)
    have more := ih fun other member => plain other (.tail _ member)
    rw [printFields_cons]
    cases rest <;> simp [moreFields,name,one,more]

theorem feed_not_mem_print : {depth : Nat} → {doc : Doc} → doc.Plain depth → '\n' ∉ print doc
  | _, .null, _ => by simp [print]
  | _, .bool true, _ => by simp [print]
  | _, .bool false, _ => by simp [print]
  | _, .number (.whole n), _ => feed_not_mem_printNumber n
  | _, .text value, _ => feed_not_mem_printText value
  | depth + 1, .list items, plain => by
    have rest := feed_not_mem_items fun item member => feed_not_mem_print (plain item member)
    simp [print,rest]
  | depth + 1, .object fields, plain => by
    have rest := feed_not_mem_fields fun field member => feed_not_mem_print (plain field member)
    simp [print,rest]
  | 0, .list _, plain => plain.elim
  | 0, .object _, plain => plain.elim
  | _, .number (.real _), plain => by simp [Doc.Plain] at plain

theorem printFields_closed (fields : List (String × Doc)) : ∃ front, printFields fields = front ++ ['\x7d'] := by
  induction fields with
  | nil => exact ⟨[],rfl⟩
  | cons field rest ih =>
    obtain ⟨front,closed⟩ := ih
    rw [printFields_cons]
    cases rest with
    | nil => exact ⟨_,rfl⟩
    | cons other rest => exact ⟨printText field.1 ++ ':' :: print field.2 ++ ',' :: front,by simp [moreFields,closed]⟩

theorem fillsLine_compact {depth : Nat} {fields : List (String × Doc)} (plain : (Doc.object fields).Plain depth) :
    Text.FillsLine (Doc.object fields).compact where
  unfed := by
    rw [Doc.compact,String.toList_ofList]
    exact feed_not_mem_print plain
  closed := by
    obtain ⟨front,closed⟩ := printFields_closed fields
    refine ⟨'\x7b' :: front,'\x7d',?_,by decide⟩
    rw [Doc.compact,String.toList_ofList,print,closed]
    rfl

end AppGrants.Json
