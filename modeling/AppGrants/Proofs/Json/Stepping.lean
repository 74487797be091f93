import AppGrants.Proofs.Json.Skipping

/-! Lists and objects as their readers meet them, one item or one field after another, with gaps anywhere. -/
namespace AppGrants.Json
variable {α σ : Type} {depth fuel : Nat} {gap cs rest : List Char}

theorem read_gap {shape : Shape} (blank : Gap gap) : read depth shape (gap ++ cs) = read depth shape cs := by
  have same := skipGaps_gap blank cs
  rw [read.eq_def depth shape (gap ++ cs),read.eq_def depth shape cs]
  simp only [same]

theorem readNullable_gap {rule : FieldRule} {shape : Shape} (blank : Gap gap) :
    readNullable rule (read depth shape) (gap ++ cs) = readNullable rule (read depth shape) cs := by
  rw [readNullable,readNullable,skipGaps_gap blank,read_gap blank]

theorem readColon_eq (blank : Gap gap) : readColon (gap ++ ':' :: rest) = .ok rest := by
  rw [readColon,skipGaps_gap blank,skipGaps_cons (by decide)]
  rfl

/-- What is left of a list or an object at its beginning, or where one part of it and a gap have been read. -/
def ahead (first : Bool) (closing : Char) (gap : List Char) (parts : List (List Char)) (rest : List Char) : List Char :=
  if first then separated gap parts ++ closing :: rest else gap ++ followed closing parts rest

theorem ends_ahead {closing : Char} (closes : closing = ']' ∨ closing = '\x7d') (blank : Gap gap) (parts : List (List Char))
    (rest : List Char) : Ends (ahead false closing gap parts rest) := blank.ends (ends_followed closes parts rest)

theorem ahead_nil (first : Bool) (closing : Char) : ahead first closing gap [] rest = gap ++ closing :: rest := by
  cases first <;> rfl

theorem ahead_first (closing : Char) (part : List Char) (others : List (List Char)) :
    ahead true closing gap (part :: others) rest = part ++ followed closing others rest := by
  simp [ahead,separated,followed]

/-- Where fuel is the number of characters that are left, it is enough for the parts. -/
theorem length_le_ahead (closing : Char) (parts : List (List Char)) :
    parts.length ≤ (ahead true closing gap parts rest).length := by
  cases parts with
  | nil => exact Nat.zero_le _
  | cons part others =>
    have commas : others.length ≤ (others.flatMap (',' :: ·)).length := by
      induction others with
      | nil => simp
      | cons other others ih =>
        simp only [List.flatMap_cons,List.length_append,List.length_cons]
        omega
    simp only [ahead_first,followed,List.length_append,List.length_cons]
    omega

theorem listText_append (gap : List Char) (items : List Spaced) (rest : List Char) :
    listText gap items ++ rest = '[' :: ahead true ']' gap (items.map Spaced.text) rest := by
  simp [listText,ahead]

theorem objectText_append (gap : List Char) (entries : List Entry) (rest : List Char) :
    objectText gap entries ++ rest = '\x7b' :: ahead true '\x7d' gap (entries.map Entry.text) rest := by
  simp [objectText,ahead]

section
variable {item : Spaced} {others : List (List Char)} {first : Bool}

theorem readItems_last {reader : Reader α} (blank : Gap gap) :
    readItems reader (fuel + 1) first (ahead first ']' gap [] rest) = .ok ([],rest) := by
  rw [ahead_nil,readItems,skipGaps_gap blank,skipGaps_cons (by decide)]
  rfl

theorem nextItem_step (blank : Gap gap) (gaps : item.Gaps) (opens : Opens item.value) :
    nextItem first (ahead first ']' gap (item.text :: others) rest) =
      .ok (some (item.value ++ ahead false ']' item.after others rest)) := by
  obtain ⟨c,cs,same,plain,comma,bracket⟩ := opens
  cases first with
  | true =>
    rw [ahead_first,Spaced.text_append,same,List.cons_append,nextItem,skipGaps_gap gaps.before,skipGaps_cons plain]
    split
    next nothing => cases nothing
    next closed => exact absurd (List.cons.inj closed).1 bracket
    next more => exact absurd (List.cons.inj more).1 comma
    · rfl
  | false =>
    change nextItem false (gap ++ followed ']' (item.text :: others) rest) = _
    rw [nextItem,skipGaps_comma blank,Spaced.text_append,same,List.cons_append]
    simp only [Bool.false_eq_true,if_false,skipGaps_gap gaps.before,skipGaps_cons plain]
    split
    next closed => exact absurd (List.cons.inj closed).1 bracket
    next nothing => cases nothing
    · rfl

theorem readItems_of_nextItem {reader : Reader α} {start : List Char} (begins : nextItem first cs = .ok (some start)) :
    readItems reader (fuel + 1) first cs = (reader start).bind fun (value,left) => readItems.more reader value left fuel := by
  unfold nextItem at begins
  rw [readItems]
  split at begins
  · cases begins
  · cases begins
  · split at begins
    next is_first =>
      obtain rfl := Option.some.inj (Except.ok.inj begins)
      exact if_pos is_first
    next later =>
      split at begins
      · cases begins
      · cases begins
      · obtain rfl := Option.some.inj (Except.ok.inj begins)
        exact if_neg later
  · split at begins
    next is_first =>
      obtain rfl := Option.some.inj (Except.ok.inj begins)
      exact if_pos is_first
    · cases begins

end

section
variable {member : σ → String → Except Mismatch (Reader σ)} {held : σ} {entry : Entry} {others : List (List Char)} {first : Bool}

theorem readMembers_last (blank : Gap gap) :
    readMembers member (fuel + 1) first held (ahead first '\x7d' gap [] rest) = .ok (held,rest) := by
  rw [ahead_nil,readMembers,skipGaps_gap blank,skipGaps_cons (by decide)]
  rfl

theorem readMembers_step (blank : Gap gap) (gaps : entry.Gaps) :
    readMembers member (fuel + 1) first held (ahead first '\x7d' gap (entry.text :: others) rest) =
      readMembers.entry member held (entry.name ++ '"' :: (entry.colon ++ ':' ::
        (entry.item.before ++ (entry.item.value ++ ahead false '\x7d' entry.item.after others rest)))) fuel := by
  cases first with
  | true =>
    rw [ahead_first,Entry.text_append,Spaced.text_append,readMembers,skipGaps_gap gaps.before,skipGaps_cons (by decide)]
    rfl
  | false =>
    change readMembers member (fuel + 1) false held (gap ++ followed '\x7d' (entry.text :: others) rest) = _
    rw [readMembers,skipGaps_comma blank,Entry.text_append,Spaced.text_append]
    simp only [Bool.false_eq_true,if_false,skipGaps_gap gaps.before,skipGaps_cons (show isGap '"' = false by decide)]
    rfl

end

section
variable {name : String} {rules : List (FieldRule × Shape)}

/-- No list and no object is read where the depth allows for none. -/
theorem depth_of_read {shape : Shape} {opening : Char} {value : Doc × List Char} (opens : opening = '[' ∨ opening = '\x7b')
    (reads : read depth shape (opening :: cs) = .ok value) : ∃ below, depth = below + 1 := by
  cases depth with
  | succ below => exact ⟨below,rfl⟩
  | zero =>
    have plain : isGap opening = false := by rcases opens with rfl | rfl <;> decide
    rw [read.eq_def] at reads
    simp only [skipGaps_cons plain] at reads
    rcases opens with rfl | rfl <;> cases shape <;> cases reads

theorem read_listOf (shape : Shape) : read (depth + 1) (.listOf shape) ('[' :: cs) =
    (readItems (read depth shape) (cs.length + 1) true cs).map fun (items,rest) => (.list items,rest) := by
  have begins : skipGaps ('[' :: cs) = '[' :: cs := skipGaps_cons (by decide)
  rw [read.eq_def]
  simp only [begins]

theorem read_fields : read (depth + 1) (.record name rules) ('\x7b' :: cs) =
    (readMembers (recordMember (read depth) rules) (cs.length + 1) true [] cs).bind fun (held,rest) =>
      (fitting rest (collectFields held rules)).bind fun values => .ok (.object values,rest) := by
  have begins : skipGaps ('\x7b' :: cs) = '\x7b' :: cs := skipGaps_cons (by decide)
  rw [read.eq_def]
  simp only [begins]
  rfl

theorem read_places : read (depth + 1) (.record name rules) ('[' :: cs) =
    (readPositions (read depth) (Shape.expectedElements name rules.length) 0 rules cs).bind fun (values,rest) =>
      (closeList rest).bind fun rest => .ok (.object values,rest) := by
  have begins : skipGaps ('[' :: cs) = '[' :: cs := skipGaps_cons (by decide)
  rw [read.eq_def]
  simp only [begins]
  rfl

end
end AppGrants.Json
