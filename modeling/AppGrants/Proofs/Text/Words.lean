import AppGrants.Proofs.Text.Lines
import AppGrants.Text.CaseMap
import Mathlib.Data.List.TakeWhile

/-! White space, and the words that it leaves of a text. Put together again with single blanks between them they make a tidy text,
and there is none only where nothing else than white space was written. -/
namespace AppGrants.Text

theorem parts_whole {α : Type} {separates : α → Bool} {items piece : List α} (member : piece ∈ parts separates items) :
    ∀ item ∈ piece, separates item = false := by
  induction items generalizing piece with
  | nil => simp_all [parts]
  | cons item rest ih =>
    rw [parts] at member
    split at member
    next =>
      rcases List.mem_cons.mp member with rfl | later
      · simp
      · exact ih later
    next plain =>
      split at member
      next first others split =>
        rcases List.mem_cons.mp member with rfl | later
        · have front := ih (split ▸ List.mem_cons_self)
          simpa [plain] using front
        · exact ih (split ▸ List.mem_cons_of_mem _ later)
      next empty => exact absurd empty (parts_ne_nil rest)

theorem flatten_parts {α : Type} (separates : α → Bool) (items : List α) :
    (parts separates items).flatten = items.filter (!separates ·) := by
  induction items with
  | nil => rfl
  | cons item rest ih =>
    rw [parts]
    split
    next separator => simp [separator,ih]
    next plain =>
      cases split : parts separates rest with
      | nil => exact absurd split (parts_ne_nil rest)
      | cons first others =>
        rw [split] at ih
        simpa [plain] using ih

theorem mem_dropWhile {α : Type} {drops : α → Bool} {items : List α} {item : α} (member : item ∈ items)
    (kept : drops item = false) : item ∈ items.dropWhile drops := by
  have whole : items.takeWhile drops ++ items.dropWhile drops = items := List.takeWhile_append_dropWhile
  rw [← whole] at member
  rcases List.mem_append.mp member with dropped | stays
  · exact absurd (List.mem_takeWhile_imp dropped) (by simp [kept])
  · exact stays

/-- Trimming takes nothing that can be read. -/
theorem mem_trim {text : List Char} {c : Char} (member : c ∈ text) (seen : isBlank c = false) : c ∈ trim text := by
  unfold trim trimEnd trimStart
  exact List.mem_reverse.mpr (mem_dropWhile (List.mem_reverse.mpr (mem_dropWhile member seen)) seen)

theorem trim_sublist (text : List Char) : (trim text).Sublist text := by
  have behind : ((trimStart text).reverse.dropWhile isBlank).Sublist (trimStart text).reverse := List.dropWhile_sublist _
  have shorter := behind.reverse
  rw [List.reverse_reverse] at shorter
  exact shorter.trans (List.dropWhile_sublist _)

/-- Trimming leaves nothing, or something that can be read. -/
theorem exists_seen_of_trim {text : List Char} (written : trim text ≠ []) : ∃ c ∈ trim text, isBlank c = false := by
  by_cases readable : ∃ c ∈ text, isBlank c = false
  · obtain ⟨c,member,seen⟩ := readable
    exact ⟨c,mem_trim member seen,seen⟩
  · have blank : trimStart text = [] := by
      apply List.dropWhile_eq_nil_iff.mpr
      intro c member
      by_contra seen
      exact readable ⟨c,member,by simpa using seen⟩
    exact absurd (by rw [trim,blank]; rfl) written

/-- The text begins and ends with what can be read. -/
structure Solid (text : List Char) : Prop where
  begins : ∃ first rest, text = first :: rest ∧ isBlank first = false
  ends : ∃ front last, text = front ++ [last] ∧ isBlank last = false

theorem Solid.trim_eq {text : List Char} (solid : Solid text) : trim text = text := by
  obtain ⟨first,rest,begins,first_seen⟩ := solid.begins
  obtain ⟨front,last,ends,last_seen⟩ := solid.ends
  exact trim_of_solid begins ends first_seen last_seen

theorem dropWhile_begins {α : Type} {drops : α → Bool} {items : List α} {item : α} (member : item ∈ items)
    (kept : drops item = false) : ∃ first rest, items.dropWhile drops = first :: rest ∧ drops first = false := by
  cases left : items.dropWhile drops with
  | nil => exact absurd (mem_dropWhile member kept) (left ▸ List.not_mem_nil)
  | cons first rest =>
    have first_kept := List.head_dropWhile_not drops (left ▸ List.cons_ne_nil first rest)
    simp only [left,List.head_cons] at first_kept
    exact ⟨first,rest,rfl,first_kept⟩

theorem trimEnd_cons {c : Char} (seen : isBlank c = false) (rest : List Char) : trimEnd (c :: rest) = c :: trimEnd rest := by
  rw [trimEnd,trimEnd,List.reverse_cons,List.dropWhile_append,List.dropWhile_cons_of_neg (by simp [seen])]
  split
  next blank =>
    rw [List.isEmpty_iff.mp blank]
    rfl
  · rw [List.reverse_append]
    rfl

/-- Where there is something to read, that is what trimming leaves at both ends. -/
theorem solid_trim {text : List Char} {c : Char} (member : c ∈ text) (seen : isBlank c = false) : Solid (trim text) := by
  obtain ⟨first,rest,started,first_seen⟩ := dropWhile_begins member seen
  have inside : first ∈ (trimStart text).reverse := by
    rw [trimStart,started,List.mem_reverse]
    exact .head _
  obtain ⟨last,front,ended,last_seen⟩ := dropWhile_begins inside first_seen
  have trimmed : trim text = front.reverse ++ [last] := by
    rw [trim,trimEnd,ended,List.reverse_cons]
  refine ⟨⟨first,trimEnd rest,?_,first_seen⟩,front.reverse,last,trimmed,last_seen⟩
  rw [trim,trimStart,started,trimEnd_cons first_seen]

theorem solid_trimmed {text : String} (seen : isBlankText text = false) : Solid (trimmed text).toList := by
  obtain ⟨c,member,readable⟩ := List.all_eq_false.mp seen
  rw [trimmed,String.toList_ofList]
  exact solid_trim member (by simpa using readable)

theorem Solid.trimmed_eq {text : String} (solid : Solid text.toList) : trimmed text = text := by
  rw [trimmed,solid.trim_eq,String.ofList_toList]

theorem Solid.seen {text : String} (solid : Solid text.toList) : isBlankText text = false := by
  obtain ⟨first,rest,begins,readable⟩ := solid.begins
  rw [isBlankText,begins,List.all_cons,readable,Bool.false_and]

/-- The code points of white space. -/
def blankCodes : List Nat := [0x09, 0x0A, 0x0B, 0x0C, 0x0D, 0x20, 0x85, 0xA0, 0x1680, 0x2000, 0x2001, 0x2002, 0x2003, 0x2004,
  0x2005, 0x2006, 0x2007, 0x2008, 0x2009, 0x200A, 0x2028, 0x2029, 0x202F, 0x205F, 0x3000]

theorem toNat_mem_blankCodes {c : Char} (blank : isBlank c = true) : c.toNat ∈ blankCodes := by
  simp only [isBlank,Bool.or_eq_true,Bool.and_eq_true,decide_eq_true_eq,beq_iff_eq] at blank
  simp only [blankCodes,List.mem_cons,List.not_mem_nil,or_false]
  omega

/-- White space has no case. -/
theorem caseless_of_isBlank {c : Char} (blank : isBlank c = true) : c.toLower = c ∧ upperChar c = [c] := by
  have all : ∀ n ∈ blankCodes, (Char.ofNat n).toLower = Char.ofNat n ∧ upperChar (Char.ofNat n) = [Char.ofNat n] := by
    decide +kernel
  have here := all c.toNat (toNat_mem_blankCodes blank)
  rwa [Char.ofNat_toNat] at here

/-- At least one character, and no white space. -/
structure IsWord (word : List Char) : Prop where
  written : word ≠ []
  solid : ∀ c ∈ word, isBlank c = false

theorem isWord_of_mem_words {text word : List Char} (member : word ∈ words text) : IsWord word := by
  obtain ⟨piece,written⟩ := List.mem_filter.mp member
  exact ⟨by simpa using written,parts_whole piece⟩

theorem flatten_words (text : List Char) : (words text).flatten = text.filter (!isBlank ·) := by
  rw [← flatten_parts isBlank,words,List.flatten_filter_not_isEmpty]

theorem words_eq_nil_iff (text : List Char) : words text = [] ↔ ∀ c ∈ text, isBlank c = true := by
  constructor
  · intro none c member
    have empty : text.filter (!isBlank ·) = [] := by rw [← flatten_words,none]; rfl
    simpa using List.filter_eq_nil_iff.mp empty c member
  · intro blank
    have nothing : (words text).flatten = [] := by
      rw [flatten_words]
      exact List.filter_eq_nil_iff.mpr fun c member => by simp [blank c member]
    refine List.eq_nil_iff_forall_not_mem.mpr fun word member => (isWord_of_mem_words member).written ?_
    exact List.flatten_eq_nil_iff.mp nothing word member

theorem words_of_isWord {word : List Char} (is_word : IsWord word) : words word = [word] := by
  rw [words,parts_of_none is_word.solid]
  simp [is_word.written]

/-- Words with single blanks between them, and at least one. -/
def Tidy (text : List Char) : Prop := ∃ pieces, pieces ≠ [] ∧ (∀ piece ∈ pieces, IsWord piece) ∧ text = joinWith [' '] pieces

theorem flatten_sublist_joinWith (separator : List Char) (pieces : List (List Char)) :
    pieces.flatten.Sublist (joinWith separator pieces) := by
  induction pieces with
  | nil => exact .slnil
  | cons first rest ih =>
    cases rest with
    | nil => exact .refl _
    | cons second others =>
      have joined : joinWith separator (first :: second :: others) =
          first ++ (separator ++ joinWith separator (second :: others)) := by simp [joinWith]
      rw [joined,List.flatten_cons]
      exact (List.Sublist.refl first).append (ih.trans (List.sublist_append_right _ _))

end AppGrants.Text
