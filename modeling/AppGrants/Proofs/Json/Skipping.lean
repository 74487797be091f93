import AppGrants.Proofs.Json.Lexing
import Mathlib.Data.List.DropRight

/-! Passing over a value that nobody asked for: whatever it is, what follows it is left. -/
namespace AppGrants.Json

section
variable {cs fraction exponent rest : List Char}

theorem Digits.exists_cons (digits : Digits cs) : ∃ c others, cs = c :: others ∧ c.isDigit = true := by
  obtain ⟨c,others,rfl⟩ := List.exists_cons_of_ne_nil digits.1
  exact ⟨c,others,rfl,digits.2 c (.head _)⟩

theorem Digits.dropWhile_eq (digits : Digits cs) (after : ∀ c ∈ rest.head?, c.isDigit = false) :
    (cs ++ rest).dropWhile Char.isDigit = rest := (takeWhile_digits digits.2 after).2

theorem Digits.skipExponent_eq (digits : Digits cs) (ends : EndsNumber rest) : skipExponent (cs ++ rest) = .ok rest := by
  have dropped := digits.dropWhile_eq fun c first => (ends c first).1
  obtain ⟨c,others,rfl,digit⟩ := digits.exists_cons
  rw [List.cons_append] at dropped ⊢
  unfold skipExponent
  split
  next positive =>
    obtain ⟨rfl,-⟩ := List.cons.inj positive
    exact absurd digit (by decide)
  next negative =>
    obtain ⟨rfl,-⟩ := List.cons.inj negative
    exact absurd digit (by decide)
  · simp only [digit,if_true,dropped]

theorem ExponentPart.skip_eq (is_exponent : ExponentPart cs) (ends : EndsNumber rest) :
    skipAfterDigits (cs ++ rest) = .ok rest := by
  cases is_exponent with
  | none =>
    rw [List.nil_append]
    unfold skipAfterDigits
    split
    · exact absurd rfl (ends _ rfl).2.2.1
    · exact absurd rfl (ends _ rfl).2.2.2
    · rfl
  | @some mark sign digits marks signed digits_only =>
    have skips : skipExponent (sign ++ (digits ++ rest)) = .ok rest := by
      have unsigned := digits_only.skipExponent_eq ends
      obtain ⟨c,others,rfl,digit⟩ := digits_only.exists_cons
      rcases signed with rfl | rfl | rfl
      · exact unsigned
      all_goals
        have dropped := digits_only.dropWhile_eq fun c first => (ends c first).1
        simp only [List.cons_append,List.nil_append,skipExponent,digit,if_true] at dropped ⊢
        rw [dropped]
    rcases marks with rfl | rfl
    · simpa [skipAfterDigits] using skips
    · simpa [skipAfterDigits] using skips

theorem ExponentPart.apart (is_exponent : ExponentPart cs) (ends : EndsNumber rest) :
    ∀ c ∈ (cs ++ rest).head?, c.isDigit = false ∧ c ≠ '.' := by
  cases is_exponent with
  | none => exact fun c first => ⟨(ends c first).1,(ends c first).2.1⟩
  | some marks _ _ =>
    intro c first
    obtain rfl : _ = c := by simpa using first
    rcases marks with rfl | rfl <;> decide

theorem FractionPart.skip_eq (is_fraction : FractionPart fraction) (is_exponent : ExponentPart exponent) (ends : EndsNumber rest) :
    skipAfterWhole (fraction ++ (exponent ++ rest)) = .ok rest := by
  have apart := is_exponent.apart ends
  have skips := is_exponent.skip_eq ends
  cases is_fraction with
  | none =>
    rw [List.nil_append]
    unfold skipAfterWhole
    split
    next point => exact absurd rfl (apart '.' (by rw [point]; rfl)).2
    · exact skips
  | @some digits digits_only =>
    have dropped := digits_only.dropWhile_eq fun c first => (apart c first).1
    obtain ⟨c,others,rfl,digit⟩ := digits_only.exists_cons
    simp only [List.cons_append] at dropped ⊢
    simp only [skipAfterWhole,skipFraction,digit,if_true,dropped,skips]

theorem FractionPart.apart (is_fraction : FractionPart fraction) (is_exponent : ExponentPart exponent) (ends : EndsNumber rest) :
    ∀ c ∈ (fraction ++ (exponent ++ rest)).head?, c.isDigit = false := by
  cases is_fraction with
  | none => exact fun c first => (is_exponent.apart ends c first).1
  | some _ =>
    intro c first
    obtain rfl : '.' = c := by simpa using first
    rfl

theorem WholePart.skip_eq (is_whole : WholePart cs) (is_fraction : FractionPart fraction) (is_exponent : ExponentPart exponent)
    (ends : EndsNumber rest) : skipMagnitude (cs ++ (fraction ++ (exponent ++ rest))) = .ok rest := by
  have after := is_fraction.apart is_exponent ends
  have skips := is_fraction.skip_eq is_exponent ends
  obtain ⟨digits,no_zero⟩ := is_whole
  have dropped := digits.dropWhile_eq after
  obtain ⟨c,others,rfl,digit⟩ := digits.exists_cons
  rw [List.cons_append] at dropped ⊢
  unfold skipMagnitude
  split
  next zero =>
    -- Nothing of the number is left but what comes after a lone zero.
    obtain ⟨rfl,same⟩ := List.cons.inj zero
    obtain ⟨-,rfl⟩ := List.cons.inj (no_zero rfl)
    rw [List.nil_append] at same
    subst same
    split
    next c rest follows =>
      have other := after c (by rw [follows]; rfl)
      simp only [other,Bool.false_eq_true,if_false,skips]
    next nothing =>
      rw [nothing] at skips ⊢
      exact skips
  next c' rest' _ same =>
    obtain ⟨rfl,rfl⟩ := List.cons.inj same
    rw [if_pos digit,dropped,skips]
  next nothing => cases nothing

end

section
variable {cs rest : List Char}

theorem NumberText.starts (number : NumberText cs) : ∃ c others, cs = c :: others ∧ startsNumber c = true := by
  cases number with
  | parts signed is_whole _ _ =>
    obtain ⟨c,others,rfl,digit⟩ := is_whole.1.exists_cons
    rcases signed with rfl | rfl
    · exact ⟨c,_,rfl,by simp [startsNumber,digit]⟩
    · exact ⟨'-',_,rfl,rfl⟩

theorem opens_of_startsNumber {c : Char} (starts : startsNumber c = true) (others : List Char) : Opens (c :: others) := by
  refine ⟨c,others,rfl,isGap_of_startsNumber starts,?_,?_⟩
  · rintro rfl
    exact absurd starts (by decide)
  · rintro rfl
    exact absurd starts (by decide)

theorem IsValue.opens (value : IsValue cs) : Opens cs := by
  cases value with
  | number number =>
    obtain ⟨c,others,rfl,starts⟩ := number.starts
    exact opens_of_startsNumber starts others
  | null => exact ⟨_,_,rfl,by decide⟩
  | true => exact ⟨_,_,rfl,by decide⟩
  | false => exact ⟨_,_,rfl,by decide⟩
  | text _ => exact ⟨_,_,rfl,by decide⟩
  | list _ _ _ => exact ⟨_,_,rfl,by decide⟩
  | object _ _ _ _ => exact ⟨_,_,rfl,by decide⟩

theorem skipGaps_skipGaps (cs : List Char) : skipGaps (skipGaps cs) = skipGaps cs := List.dropWhile_idempotent ..

theorem skipValue_skipGaps (fuel : Nat) : skipValue fuel (skipGaps cs) = skipValue fuel cs := by
  cases fuel with
  | zero => rfl
  | succ fuel => simp only [skipValue,skipGaps_skipGaps]

theorem skipItems_skipGaps (fuel : Nat) : skipItems fuel (skipGaps cs) = skipItems fuel cs := by
  cases fuel with
  | zero => rfl
  | succ fuel => simp only [skipItems,skipValue_skipGaps]

theorem skipFields_skipGaps (fuel : Nat) : skipFields fuel (skipGaps cs) = skipFields fuel cs := by
  cases fuel with
  | zero => rfl
  | succ fuel => simp only [skipFields,skipGaps_skipGaps]

theorem skipValue_gap {gap : List Char} (blank : Gap gap) (fuel : Nat) : skipValue fuel (gap ++ cs) = skipValue fuel cs := by
  rw [← skipValue_skipGaps,skipGaps_gap blank,skipValue_skipGaps]

theorem skipValue_digit {c : Char} (digit : c.isDigit = true) (fuel : Nat) :
    skipValue (fuel + 1) (c :: cs) = skipMagnitude (c :: cs) := by
  have other {code : Char} (apart : code.isDigit = false) : c ≠ code := by
    rintro rfl
    exact absurd digit (by simp [apart])
  -- A digit begins no value but a number.
  have null := @other 'n' rfl
  have yes := @other 't' rfl
  have no := @other 'f' rfl
  have text := @other '"' rfl
  have minus := @other '-' rfl
  have list := @other '[' rfl
  have object := @other '\x7b' rfl
  rw [skipValue,skipGaps_cons (isGap_of_isDigit digit)]
  simp [digit]

theorem NumberText.skipValue_eq (number : NumberText cs) (ends : EndsNumber rest) (fuel : Nat) :
    skipValue (fuel + 1) (cs ++ rest) = .ok rest := by
  cases number with
  | parts signed is_whole is_fraction is_exponent =>
    have skips := is_whole.skip_eq is_fraction is_exponent ends
    simp only [List.append_assoc]
    rcases signed with rfl | rfl
    · obtain ⟨c,others,rfl,digit⟩ := is_whole.1.exists_cons
      exact (skipValue_digit digit fuel).trans skips
    · rw [List.cons_append,List.nil_append,skipValue,skipGaps_cons (by decide)]
      exact skips

/-- Of the value nothing is left, with fuel for every character of it. -/
def Skips (cs : List Char) : Prop :=
  ∀ fuel, 2 * cs.length ≤ fuel → ∀ rest, Ends rest → skipValue fuel (cs ++ rest) = .ok rest

theorem Spaced.skipValue_eq {item : Spaced} (gaps : item.Gaps) (skips : Skips item.value) {fuel : Nat}
    (enough : 2 * item.text.length ≤ fuel) (ends : Ends rest) : skipValue fuel (item.text ++ rest) = .ok (item.after ++ rest) := by
  simp only [Spaced.text,List.length_append] at enough
  rw [Spaced.text_append,skipValue_gap gaps.before]
  exact skips fuel (by omega) _ (gaps.after.ends ends)

theorem skipItems_eq {item : Spaced} {others : List Spaced} (gaps : ∀ other ∈ item :: others, other.Gaps)
    (skips : ∀ other ∈ item :: others, Skips other.value) {fuel : Nat}
    (enough : 2 * (item.text ++ followed ']' (others.map Spaced.text) []).length ≤ fuel) :
    skipItems fuel (item.text ++ followed ']' (others.map Spaced.text) rest) = .ok rest := by
  induction others generalizing item fuel with
  | nil =>
    simp only [followed,List.length_append,List.length_cons] at enough
    obtain ⟨fuel,rfl⟩ := Nat.exists_eq_add_one_of_ne_zero (n := fuel) (by omega)
    have gap := gaps item (.head _)
    have value : skipValue fuel _ = _ :=
      Spaced.skipValue_eq gap (skips item (.head _)) (by omega) (ends_followed (.inl rfl) [] rest)
    rw [skipItems,List.map_nil,value]
    dsimp only
    rw [skipGaps_last (.inl rfl) gap.after]
    rfl
  | cons other others ih =>
    simp only [List.map_cons,followed_cons,List.length_append,List.length_cons] at enough
    obtain ⟨fuel,rfl⟩ := Nat.exists_eq_add_one_of_ne_zero (n := fuel) (by omega)
    have gap := gaps item (.head _)
    have value : skipValue fuel _ = _ := Spaced.skipValue_eq gap (skips item (.head _)) (by omega)
      (ends_followed (.inl rfl) ((other :: others).map Spaced.text) rest)
    rw [skipItems,value]
    dsimp only
    rw [List.map_cons,skipGaps_comma gap.after]
    refine ih (fun other member => gaps other (.tail _ member)) (fun other member => skips other (.tail _ member)) ?_
    simp only [List.length_append]
    omega

theorem skipFields_eq {entry : Entry} {others : List Entry} (gaps : ∀ other ∈ entry :: others, other.Gaps)
    (names : ∀ other ∈ entry :: others, Raw other.name) (skips : ∀ other ∈ entry :: others, Skips other.item.value) {fuel : Nat}
    (enough : 2 * (entry.text ++ followed '\x7d' (others.map Entry.text) []).length ≤ fuel) :
    skipFields fuel (entry.text ++ followed '\x7d' (others.map Entry.text) rest) = .ok rest := by
  induction others generalizing entry fuel with
  | nil =>
    simp only [Entry.text,followed,List.length_append,List.length_cons] at enough
    obtain ⟨fuel,rfl⟩ := Nat.exists_eq_add_one_of_ne_zero (n := fuel) (by omega)
    have gap := gaps entry (.head _)
    have value : skipValue fuel _ = _ :=
      Spaced.skipValue_eq gap.item (skips entry (.head _)) (by omega) (ends_followed (.inr rfl) [] rest)
    rw [Entry.text_append,skipFields,skipGaps_gap gap.before,skipGaps_cons (by decide)]
    simp only [(names entry (.head _)).skipChars_eq,skipGaps_gap gap.colon,skipGaps_cons (show isGap ':' = false by decide)]
    rw [List.map_nil,value]
    dsimp only
    rw [skipGaps_last (.inr rfl) gap.item.after]
    rfl
  | cons other others ih =>
    simp only [Entry.text,List.map_cons,followed_cons,List.length_append,List.length_cons] at enough
    obtain ⟨fuel,rfl⟩ := Nat.exists_eq_add_one_of_ne_zero (n := fuel) (by omega)
    have gap := gaps entry (.head _)
    have value : skipValue fuel _ = _ := Spaced.skipValue_eq gap.item (skips entry (.head _)) (by omega)
      (ends_followed (.inr rfl) ((other :: others).map Entry.text) rest)
    rw [Entry.text_append,skipFields,skipGaps_gap gap.before,skipGaps_cons (by decide)]
    simp only [(names entry (.head _)).skipChars_eq,skipGaps_gap gap.colon,skipGaps_cons (show isGap ':' = false by decide)]
    rw [value]
    dsimp only
    rw [List.map_cons,skipGaps_comma gap.item.after]
    refine ih (fun other member => gaps other (.tail _ member)) (fun other member => names other (.tail _ member))
      (fun other member => skips other (.tail _ member)) ?_
    simp only [Entry.text,List.length_append,List.length_cons]
    omega

theorem skipValue_list (fuel : Nat) (cs : List Char) : skipValue (fuel + 1) ('[' :: cs) =
    match skipGaps cs with
    | ']' :: rest => .ok rest
    | [] => cut .list
    | rest => skipItems fuel rest := by
  rw [skipValue,skipGaps_cons (by decide)]
  rfl

theorem skipValue_object (fuel : Nat) (cs : List Char) : skipValue (fuel + 1) ('\x7b' :: cs) =
    match skipGaps cs with
    | '\x7d' :: rest => .ok rest
    | [] => cut .object
    | rest => skipFields fuel rest := by
  rw [skipValue,skipGaps_cons (by decide)]
  rfl

theorem skips_of_succ (some_char : cs ≠ [])
    (skips : ∀ fuel, 2 * cs.length ≤ fuel + 1 → ∀ rest, Ends rest → skipValue (fuel + 1) (cs ++ rest) = .ok rest) : Skips cs := by
  intro fuel enough rest ends
  have nonempty := List.length_pos_iff.mpr some_char
  obtain ⟨fuel,rfl⟩ := Nat.exists_eq_add_one_of_ne_zero (n := fuel) (by omega)
  exact skips fuel enough rest ends

theorem skips_word {c : Char} {word : List Char}
    (skips : ∀ fuel rest, skipValue (fuel + 1) (c :: word ++ rest) = readWord word (word ++ rest)) : Skips (c :: word) :=
  skips_of_succ (List.cons_ne_nil c word) fun fuel _ rest _ => (skips fuel rest).trans (readWord_append _ rest)

section
variable {gap : List Char}

theorem skips_listText {items : List Spaced} (blank : Gap gap) (gaps : ∀ item ∈ items, item.Gaps)
    (values : ∀ item ∈ items, IsValue item.value) (skips : ∀ item ∈ items, Skips item.value) : Skips (listText gap items) := by
  refine skips_of_succ (by simp [listText]) fun fuel enough rest _ => ?_
  cases items with
  | nil =>
    rw [listText_nil,skipValue_list,skipGaps_gap blank,skipGaps_cons (by decide)]
    rfl
  | cons item others =>
    have fuelled : 2 * (item.text ++ followed ']' (others.map Spaced.text) []).length ≤ fuel := by
      have same := congrArg List.length (@listText_cons gap [] item others)
      simp only [List.append_nil,List.length_cons] at same
      omega
    have skipped := @skipItems_eq rest item others gaps skips fuel fuelled
    obtain ⟨c,cs,begins,plain,-,bracket⟩ := (values item (.head _)).opens
    rw [← skipItems_skipGaps] at skipped
    rw [listText_cons,skipValue_list]
    rw [Spaced.text_append,skipGaps_gap (gaps item (.head _)).before,begins,List.cons_append,skipGaps_cons plain] at skipped ⊢
    split
    next closed => exact absurd (List.cons.inj closed).1 bracket
    next nothing => cases nothing
    · exact skipped

theorem skips_objectText {entries : List Entry} (blank : Gap gap) (gaps : ∀ entry ∈ entries, entry.Gaps)
    (names : ∀ entry ∈ entries, Raw entry.name) (skips : ∀ entry ∈ entries, Skips entry.item.value) :
    Skips (objectText gap entries) := by
  refine skips_of_succ (by simp [objectText]) fun fuel enough rest _ => ?_
  cases entries with
  | nil =>
    rw [objectText_nil,skipValue_object,skipGaps_gap blank,skipGaps_cons (by decide)]
    rfl
  | cons entry others =>
    have fuelled : 2 * (entry.text ++ followed '\x7d' (others.map Entry.text) []).length ≤ fuel := by
      have same := congrArg List.length (@objectText_cons gap [] entry others)
      simp only [List.append_nil,List.length_cons] at same
      omega
    have skipped := @skipFields_eq rest entry others gaps names skips fuel fuelled
    rw [← skipFields_skipGaps] at skipped
    rw [objectText_cons,skipValue_object]
    rw [Entry.text_append,skipGaps_gap (gaps entry (.head _)).before,skipGaps_cons (by decide)] at skipped ⊢
    exact skipped

end

theorem IsValue.skips (value : IsValue cs) : Skips cs := by
  induction value with
  | null => exact skips_word fun fuel rest => by rw [List.cons_append,skipValue,skipGaps_cons (by decide)]; rfl
  | true => exact skips_word fun fuel rest => by rw [List.cons_append,skipValue,skipGaps_cons (by decide)]; rfl
  | false => exact skips_word fun fuel rest => by rw [List.cons_append,skipValue,skipGaps_cons (by decide)]; rfl
  | number number =>
    obtain ⟨c,others,same,-⟩ := number.starts
    refine skips_of_succ (by simp [same]) fun fuel _ rest ends => ?_
    exact number.skipValue_eq ends.endsNumber fuel
  | text inside =>
    refine skips_of_succ (by simp) fun fuel _ rest _ => ?_
    rw [List.cons_append,List.cons_append,skipValue,skipGaps_cons (by decide),List.append_assoc]
    exact inside.skipChars_eq rest
  | list blank gaps values ih => exact skips_listText blank gaps values ih
  | object blank gaps names _ ih => exact skips_objectText blank gaps names ih

/-- A value is passed over up to what follows it. -/
theorem IsValue.skip_eq {gap : List Char} (blank : Gap gap) (value : IsValue cs) (ends : Ends rest) :
    skip (gap ++ (cs ++ rest)) = .ok rest := by
  rw [skip,skipValue_gap blank]
  exact value.skips _ (by simp only [List.length_append]; omega) rest ends

end
end AppGrants.Json
