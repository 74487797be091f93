import AppGrants.Json.Codec
import AppGrants.Proofs.Json.Reading

/-! Printed objects read as records: each field is read by its own rule, and then the fields are put in order. -/
namespace AppGrants.Json
variable {α : Type} {depth : Nat}

section
variable {rest : List Char}

theorem read_whole {n : Int} {width : Width} (holds : width.holds n = true) (ends : EndsNumber rest) :
    read depth (.whole width) (printNumber (.whole n) ++ rest) = .ok (.whole n,rest) := by
  have bounds : -9223372036854775808 ≤ n ∧ n ≤ 18446744073709551615 := by
    cases width
    all_goals
      simp only [Width.holds,Bool.and_eq_true,decide_eq_true_eq] at holds
      omega
  have number := readNumber_printNumber bounds.1 bounds.2 ends
  obtain ⟨c,digits,same,starts⟩ := startsNumber_printNumber n
  have begins : skipGaps (c :: (digits ++ rest)) = c :: (digits ++ rest) := skipGaps_cons (isGap_of_startsNumber starts)
  rw [same,List.cons_append] at number ⊢
  rw [read.eq_def]
  simp [begins,starts,number,holds,Except.bind]

theorem read_boolean (value : Bool) : read depth .boolean (print (.bool value) ++ rest) = .ok (.bool value,rest) := by
  cases value with
  | true =>
    have begins : skipGaps ('t' :: (['r','u','e'] ++ rest)) = 't' :: (['r','u','e'] ++ rest) := skipGaps_cons (by decide)
    rw [print,List.cons_append,read.eq_def]
    simp only [begins,readWord_append]
    rfl
  | false =>
    have begins : skipGaps ('f' :: (['a','l','s','e'] ++ rest)) = 'f' :: (['a','l','s','e'] ++ rest) := skipGaps_cons (by decide)
    rw [print,List.cons_append,read.eq_def]
    simp only [begins,readWord_append]
    rfl

theorem read_textual (text : String) : read depth .text (printText text ++ rest) = .ok (.text text,rest) := by
  have quoted : printText text ++ rest = '"' :: (text.toList.flatMap escapeChar ++ '"' :: rest) := by simp [printText]
  have begins : skipGaps ('"' :: (text.toList.flatMap escapeChar ++ '"' :: rest)) = _ := skipGaps_cons (by decide)
  rw [quoted,read.eq_def]
  simp only [begins,readText_printText]
  rfl

theorem print_ne_null {doc : Doc} (plain : doc.Plain depth) (some_value : doc ≠ .null) :
    ∃ c cs, print doc = c :: cs ∧ isGap c = false ∧ c ≠ 'n' := by
  cases doc with
  | null => exact absurd rfl some_value
  | bool value => cases value <;> exact ⟨_,_,rfl,by decide⟩
  | number n =>
    cases n with
    | whole n =>
      obtain ⟨c,digits,same,starts⟩ := startsNumber_printNumber n
      refine ⟨c,digits,same,isGap_of_startsNumber starts,?_⟩
      rintro rfl
      exact absurd starts (by decide)
    | real x => simp [Doc.Plain] at plain
  | text value => exact ⟨_,_,rfl,by decide⟩
  | list items => exact ⟨_,_,rfl,by decide⟩
  | object fields => exact ⟨_,_,rfl,by decide⟩

end

section
variable {rule : FieldRule} {reader : Reader Doc} {doc value : Doc}

theorem Yields.required (yields : Yields reader doc value) (never : rule.nullable = false) :
    Yields (readNullable rule reader) doc value where
  opens := yields.opens
  reads rest closes := by
    rw [readNullable,never,if_neg Bool.false_ne_true]
    exact yields.reads rest closes

theorem Yields.given (yields : Yields reader doc value) (plain : doc.Plain depth) (some_value : doc ≠ .null) :
    Yields (readNullable rule reader) doc value where
  opens := yields.opens
  reads rest closes := by
    obtain ⟨c,cs,same,begins,other⟩ := print_ne_null plain some_value
    have reads := yields.reads rest closes
    rw [same,List.cons_append] at reads ⊢
    unfold readNullable
    rw [skipGaps_cons begins]
    split
    · split
      next null => exact absurd (List.cons.inj null).1 other
      · exact reads
    · exact reads

theorem Yields.null (nullable : rule.nullable = true) : Yields (readNullable rule reader) .null .null where
  opens := ⟨_,_,rfl,by decide⟩
  reads rest _ := by
    have begins : skipGaps ('n' :: (['u','l','l'] ++ rest)) = 'n' :: (['u','l','l'] ++ rest) := skipGaps_cons (by decide)
    rw [readNullable,nullable,if_pos rfl,print,List.cons_append,begins]
    simp only [readWord_append]
    rfl

theorem Yields.nullable (yields : Yields reader doc doc) (plain : doc.Plain depth) (nullable : rule.nullable = true) :
    Yields (readNullable rule reader) doc doc := by
  by_cases null : doc = .null
  · subst null
    exact .null nullable
  · exact yields.given plain null

theorem Loads.known {read : Shape → Reader Doc} {rules : List (FieldRule × Shape)} {shape : Shape} {name : String}
    {held last rest : List (String × Doc)} (finds : rules.find? (·.1.name == name) = some (rule,shape))
    (fresh : held.lookup name = none) (yields : Yields (readNullable rule (read shape)) doc value)
    (others : Loads (recordMember read rules) ((name,value) :: held) rest last) :
    Loads (recordMember read rules) held ((name,doc) :: rest) last := by
  refine .field ?_ (yields.map fun value => (name,value) :: held) others
  rw [recordMember,finds]
  simp [fresh]

theorem read_record {name : String} {rules : List (FieldRule × Shape)} {fields held values : List (String × Doc)}
    (loads : Loads (recordMember (read depth) rules) [] fields held) (collects : collectFields held rules = .ok values)
    (rest : List Char) : read (depth + 1) (.record name rules) (print (.object fields) ++ rest) = .ok (.object values,rest) := by
  have begins : skipGaps ('\x7b' :: (printFields fields ++ rest)) = _ := skipGaps_cons (by decide)
  have enough : fields.length < (printFields fields ++ rest).length + 1 := by
    have some_field := length_le_printFields fields
    rw [List.length_append]
    omega
  rw [print,List.cons_append,read.eq_def]
  simp only [begins,readMembers_printFields loads enough,collects,fitting,bind,Except.bind]

theorem readDocument_compact {shape : Shape} (reads : read depthLimit shape (print doc ++ []) = .ok (value,[])) :
    readDocument shape doc.compact = .ok value := by
  rw [List.append_nil] at reads
  rw [readDocument,readAll,Doc.compact,String.toList_ofList,reads]
  rfl

end
end AppGrants.Json
