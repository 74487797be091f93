import AppGrants.Proofs.Json.Returning
import AppGrants.Proofs.Json.Stepping
import Mathlib.Data.List.Perm.Basic

/-! Objects of some of the fields that a record has, in any order and among fields that it does not have. What is read are the given
fields in the order of the record. -/
namespace AppGrants.Json
variable {α : Type} {depth fuel : Nat} {gap cs rest : List Char}

/-- However the value is written, it is read, up to what ends it. -/
structure Takes (reader : Reader α) (texts : Texts) (value : α) : Prop where
  opens : ∀ {cs}, texts cs → Opens cs
  reads : ∀ {cs rest}, texts cs → Ends rest → reader (cs ++ rest) = .ok (value,rest)

theorem quoted_append (raw rest : List Char) : '"' :: raw ++ ['"'] ++ rest = '"' :: (raw ++ '"' :: rest) := by
  simp

namespace Takes
variable {rule : FieldRule} {shape : Shape} {texts : Texts} {doc : Doc}

theorem boolean (value : Bool) : Takes (read depth .boolean) (Texts.boolean value) (.bool value) where
  opens {cs} written := by cases value <;> exact written ▸ ⟨_,_,rfl,by decide⟩
  reads {cs rest} written _ := by
    have same : cs = print (.bool value) := by cases value <;> exact written
    rw [same,read_boolean]

theorem whole {n : Int} {width : Width} (holds : width.holds n = true) :
    Takes (read depth (.whole width)) (Texts.whole n) (.whole n) where
  opens {cs} written := by
    obtain ⟨c,digits,same,starts⟩ := startsNumber_printNumber n
    obtain rfl : cs = c :: digits := written.trans same
    exact opens_of_startsNumber starts digits
  reads {cs rest} written ends := by
    obtain rfl : cs = printNumber (.whole n) := written
    exact read_whole holds ends.endsNumber

theorem opens_quoted {text : String} (written : Texts.quoted text cs) : Opens cs := by
  obtain ⟨raw,-,rfl⟩ := written
  exact ⟨_,_,rfl,by decide⟩

theorem textual {shape : Shape} (textual : shape = .text ∨ shape = .path) (text : String) :
    Takes (read depth shape) (Texts.quoted text) (.text text) where
  opens := opens_quoted
  reads {cs rest} written _ := by
    obtain ⟨raw,spells,rfl⟩ := written
    have begins : skipGaps ('"' :: (raw ++ '"' :: rest)) = _ := skipGaps_cons (by decide)
    rw [quoted_append,read.eq_def]
    rcases textual with rfl | rfl
    all_goals
      simp only [begins,readText_eq spells]
      rfl

theorem text (text : String) : Takes (read depth .text) (Texts.quoted text) (.text text) := textual (.inl rfl) text

theorem path (text : String) : Takes (read depth .path) (Texts.quoted text) (.text text) := textual (.inr rfl) text

theorem choice {variants : List String} {name : String} (listed : variants.contains name = true) :
    Takes (read depth (.choice variants)) (Texts.quoted name) (.text name) where
  opens := opens_quoted
  reads {cs rest} written _ := by
    obtain ⟨raw,spells,rfl⟩ := written
    have begins : skipGaps ('"' :: (raw ++ '"' :: rest)) = _ := skipGaps_cons (by decide)
    rw [quoted_append,read.eq_def]
    simp only [begins,readVariant,readText_eq spells,bind,Except.bind,listed,if_true]
    rfl

theorem required (never : rule.nullable = false) (takes : Takes (read depth shape) texts doc) :
    Takes (readNullable rule (read depth shape)) texts doc where
  opens := takes.opens
  reads written ends := by
    rw [readNullable,never,if_neg Bool.false_ne_true]
    exact takes.reads written ends

theorem null (nullable : rule.nullable = true) : Takes (readNullable rule (read depth shape)) Texts.null .null where
  opens {cs} written := by
    obtain rfl : cs = ['n','u','l','l'] := written
    exact ⟨_,_,rfl,by decide⟩
  reads {cs rest} written _ := by
    obtain rfl : cs = ['n','u','l','l'] := written
    have begins : skipGaps ('n' :: (['u','l','l'] ++ rest)) = _ := skipGaps_cons (by decide)
    rw [readNullable,nullable,if_pos rfl,List.cons_append,begins]
    simp only [readWord_append]
    rfl

/-- A text, or null where there is none. -/
theorem nullable [Codec α] {write : α → Texts} {value? : Option α} (nullable : rule.nullable = true)
    (takes : ∀ value ∈ value?, Takes (read depth shape) (write value) (Codec.toDoc value))
    (apart : ∀ value ∈ value?, ∀ {cs}, write value cs → cs.head? ≠ some 'n') :
    Takes (readNullable rule (read depth shape)) (Texts.nullable write value?) (orNull value?) := by
  cases value? with
  | none => exact .null nullable
  | some value =>
    have takes := takes value rfl
    refine ⟨takes.opens,fun {cs rest} written ends => ?_⟩
    have reads := takes.reads written ends
    have other := apart value rfl written
    obtain ⟨c,others,rfl,plain,-⟩ := takes.opens written
    unfold readNullable
    rw [nullable,if_pos rfl,List.cons_append,skipGaps_cons plain]
    split
    next null => exact absurd (congrArg some (List.cons.inj null).1) other
    · exact reads

theorem readItems_eq {reader : Reader α} {items : List Texts} {values : List α} {spaced : List Spaced}
    (takes : List.Forall₂ (Takes reader) items values) (blank : Gap gap) (gaps : ∀ item ∈ spaced, item.Gaps)
    (written : List.Forall₂ (fun (texts : Texts) (item : Spaced) => texts item.value) items spaced) (enough : spaced.length < fuel)
    (first : Bool) : readItems reader fuel first (ahead first ']' gap (spaced.map Spaced.text) rest) = .ok (values,rest) := by
  induction takes generalizing spaced fuel gap first with
  | nil =>
    cases written with
    | nil =>
      obtain ⟨fuel,rfl⟩ := Nat.exists_eq_add_one_of_ne_zero (Nat.ne_of_gt enough)
      exact readItems_last blank
  | @cons texts value items values one _ ih =>
    cases written with
    | @cons _ item _ others this those =>
      obtain ⟨fuel,rfl⟩ := Nat.exists_eq_add_one_of_ne_zero (Nat.ne_of_gt (Nat.lt_of_le_of_lt (Nat.zero_le _) enough))
      have gap := gaps item (.head _)
      have read := one.reads this (ends_ahead (.inl rfl) gap.after (others.map Spaced.text) rest)
      have later := ih gap.after (fun other member => gaps other (.tail _ member)) those (by simpa using enough) false
      rw [List.map_cons,readItems_of_nextItem (nextItem_step blank gap (one.opens this)),read]
      change readItems.more reader value _ fuel = _
      rw [readItems.more,later]
      rfl

theorem list {items : List Texts} {docs : List Doc} (takes : List.Forall₂ (Takes (read depth shape)) items docs) :
    Takes (read (depth + 1) (.listOf shape)) (Texts.list items) (.list docs) where
  opens {cs} written := by
    obtain ⟨gap,spaced,-,-,-,rfl⟩ := written
    exact ⟨_,_,rfl,by decide⟩
  reads {cs rest} written _ := by
    obtain ⟨gap,spaced,blank,gaps,items,rfl⟩ := written
    have enough : spaced.length < (ahead true ']' gap (spaced.map Spaced.text) rest).length + 1 := by
      have parts := @length_le_ahead gap rest ']' (spaced.map Spaced.text)
      rw [List.length_map] at parts
      omega
    rw [listText_append,read_listOf,readItems_eq takes blank gaps items enough true]
    rfl

end Takes
/-- The fields that are written, each as its rule has it, and the documents that they are read as, both in the order of the rules. -/
inductive Drafted (depth : Nat) : List (FieldRule × Shape) → List (String × Texts) → List (String × Doc) → Prop where
  | nothing : Drafted depth [] [] []
  | given {rule : FieldRule} {shape : Shape} {texts : Texts} {doc : Doc} {rules : List (FieldRule × Shape)}
      {fields : List (String × Texts)} {docs : List (String × Doc)} (takes : Takes (readNullable rule (read depth shape)) texts doc)
      (others : Drafted depth rules fields docs) :
      Drafted depth ((rule,shape) :: rules) ((rule.name,texts) :: fields) ((rule.name,doc) :: docs)
  | absent {rule : FieldRule} {shape : Shape} {rules : List (FieldRule × Shape)} {fields : List (String × Texts)}
      {docs : List (String × Doc)} (others : Drafted depth rules fields docs) : Drafted depth ((rule,shape) :: rules) fields docs

namespace Drafted
variable {rules : List (FieldRule × Shape)} {fields : List (String × Texts)} {docs : List (String × Doc)}

/-- A field that is written only where it is given. -/
theorem part {given : String → Bool} {rule : FieldRule} {shape : Shape} {texts : Texts} {doc : Doc}
    (takes : Takes (readNullable rule (read depth shape)) texts doc)
    (others : Drafted depth rules (fields.filter (given ·.1)) (docs.filter (given ·.1))) :
    Drafted depth ((rule,shape) :: rules) (((rule.name,texts) :: fields).filter (given ·.1))
      (((rule.name,doc) :: docs).filter (given ·.1)) := by
  cases there : given rule.name with
  | true =>
    rw [List.filter_cons_of_pos (by exact there),List.filter_cons_of_pos (by exact there)]
    exact .given takes others
  | false =>
    rw [List.filter_cons_of_neg (by simp [there]),List.filter_cons_of_neg (by simp [there])]
    exact .absent others

theorem names_eq (drafted : Drafted depth rules fields docs) : fields.map (·.1) = docs.map (·.1) := by
  induction drafted with
  | nothing => rfl
  | given _ _ ih => exact congrArg (_ :: ·) ih
  | absent _ ih => exact ih

theorem names_sublist (drafted : Drafted depth rules fields docs) : (fields.map (·.1)).Sublist (ruleNames rules) := by
  induction drafted with
  | nothing => exact .slnil
  | given _ _ ih => exact ih.cons_cons _
  | absent _ ih => exact ih.cons _

theorem chosen (drafted : Drafted depth rules fields docs) (distinct : (ruleNames rules).Nodup)
    (all : ∀ pair ∈ rules, pair.1.presence = .required → pair.1.name ∈ docs.map (·.1)) : Chosen rules docs := by
  induction drafted with
  | nothing => exact .nothing
  | given _ _ ih =>
    obtain ⟨fresh,distinct⟩ := List.nodup_cons.mp distinct
    refine .given (ih distinct fun pair member required => ?_)
    rcases List.mem_cons.mp (all pair (.tail _ member) required) with same | later
    · exact absurd (same ▸ List.mem_map_of_mem member) fresh
    · exact later
  | absent others ih =>
    obtain ⟨fresh,distinct⟩ := List.nodup_cons.mp distinct
    refine .absent (fun required => fresh ?_) (ih distinct fun pair member => all pair (.tail _ member))
    have there := all _ (.head _) required
    rw [← others.names_eq] at there
    exact others.names_sublist.subset there

/-- Every field that is written is known by its name, and read as its document. -/
theorem field {all : List (FieldRule × Shape)} (drafted : Drafted depth rules fields docs) (distinct : (ruleNames all).Nodup)
    (inside : rules.Sublist all) {name : String} {texts : Texts} (member : (name,texts) ∈ fields) :
    ∃ rule shape doc, all.find? (·.1.name == name) = some (rule,shape) ∧ docs.lookup name = some doc ∧
      Takes (readNullable rule (read depth shape)) texts doc := by
  induction drafted with
  | nothing => cases member
  | @given rule shape written doc rules fields docs takes others ih =>
    have names : (ruleNames ((rule,shape) :: rules)).Nodup := (inside.map _).nodup distinct
    rcases List.mem_cons.mp member with same | later
    · obtain ⟨rfl,rfl⟩ := Prod.mk.inj same
      exact ⟨rule,shape,doc,find?_name distinct (inside.subset (.head _)),List.lookup_cons_self,takes⟩
    · obtain ⟨rule',shape',doc',known,found,takes⟩ := ih ((List.sublist_cons_self ..).trans inside) later
      have other : name ≠ rule.name := by
        rintro rfl
        exact (List.nodup_cons.mp names).1 (others.names_sublist.subset (List.mem_map_of_mem later))
      rw [lookup_cons_ne other]
      exact ⟨rule',shape',doc',known,found,takes⟩
  | absent _ ih => exact ih ((List.sublist_cons_self ..).trans inside) member

end Drafted

section
variable {rules : List (FieldRule × Shape)} {fields : List (String × Texts)} {docs held : List (String × Doc)}

theorem recordMember_known {name : String} {rule : FieldRule} {shape : Shape} (read : Shape → Reader Doc)
    (known : rules.find? (·.1.name == name) = some (rule,shape)) (fresh : held.lookup name = none) :
    recordMember read rules held name =
      .ok fun cs => (readNullable rule (read shape) cs).map fun (value,rest) => ((name,value) :: held,rest) := by
  rw [recordMember,known]
  simp [fresh]

theorem entry_known {entry : Entry} {name : String} {rule : FieldRule} {shape : Shape} {texts : Texts} {doc : Doc}
    (gaps : entry.Gaps) (named : Spells name.toList entry.name) (known : rules.find? (·.1.name == name) = some (rule,shape))
    (fresh : held.lookup name = none) (takes : Takes (readNullable rule (read depth shape)) texts doc)
    (written : texts entry.item.value) (ends : Ends rest) :
    readMembers.entry (recordMember (read depth) rules) held
        (entry.name ++ '"' :: (entry.colon ++ ':' :: (entry.item.before ++ (entry.item.value ++ rest)))) fuel =
      readMembers (recordMember (read depth) rules) fuel false ((name,doc) :: held) rest := by
  have reads := takes.reads written ends
  have member := recordMember_known (read depth) known fresh
  rw [readMembers.entry,readText_eq named]
  simp only [bind,Except.bind,member,fitting,readColon_eq gaps.colon,readNullable_gap gaps.item.before,reads,Except.map]

theorem entry_unknown {entry : Entry} {name : String} (gaps : entry.Gaps) (named : Spells name.toList entry.name)
    (unknown : name ∉ ruleNames rules) (value : IsValue entry.item.value) (ends : Ends rest) :
    readMembers.entry (recordMember (read depth) rules) held
        (entry.name ++ '"' :: (entry.colon ++ ':' :: (entry.item.before ++ (entry.item.value ++ rest)))) fuel =
      readMembers (recordMember (read depth) rules) fuel false held rest := by
  have missing : rules.find? (·.1.name == name) = none := by
    refine List.find?_eq_none.mpr fun pair member same => unknown ?_
    obtain rfl : pair.1.name = name := by simpa using same
    exact List.mem_map_of_mem member
  have member : recordMember (read depth) rules held name = .ok fun cs => (skip cs).map fun rest => (held,rest) := by
    rw [recordMember,missing]
  rw [readMembers.entry,readText_eq named]
  simp only [bind,Except.bind,member,fitting,readColon_eq gaps.colon,value.skip_eq gaps.item.before ends,Except.map]

/-- The given fields are taken up in whatever order they come. -/
theorem readMembers_entries {order : List (String × Texts)} {entries : List Entry}
    (written : Texts.Entries (ruleNames rules) order entries)
    (takes : ∀ field ∈ order, ∃ rule shape doc, rules.find? (·.1.name == field.1) = some (rule,shape) ∧
      docs.lookup field.1 = some doc ∧ Takes (readNullable rule (read depth shape)) field.2 doc)
    (distinct : (order.map (·.1)).Nodup) (fresh : ∀ name ∈ order.map (·.1), held.lookup name = none) (blank : Gap gap)
    (enough : entries.length < fuel) (first : Bool) :
    ∃ last, readMembers (recordMember (read depth) rules) fuel first held
        (ahead first '\x7d' gap (entries.map Entry.text) rest) = .ok (last,rest) ∧
      ∀ name, last.lookup name = if name ∈ order.map (·.1) then docs.lookup name else held.lookup name := by
  -- On the entries: those of the order are no longer fresh once they are held, the others change nothing.
  induction written generalizing held fuel gap first with
  | nil =>
    obtain ⟨fuel,rfl⟩ := Nat.exists_eq_add_one_of_ne_zero (Nat.ne_of_gt enough)
    exact ⟨held,readMembers_last blank,fun name => (if_neg (List.not_mem_nil)).symm⟩
  | @given name texts order entry entries gaps named written _ ih =>
    obtain ⟨fuel,rfl⟩ := Nat.exists_eq_add_one_of_ne_zero (Nat.ne_of_gt (Nat.lt_of_le_of_lt (Nat.zero_le _) enough))
    obtain ⟨unmet,distinct⟩ := List.nodup_cons.mp distinct
    obtain ⟨rule,shape,doc,known,found,takes_this⟩ := takes _ (.head _)
    have later : ∀ other ∈ order.map (·.1), ((name,doc) :: held).lookup other = none := by
      intro other member
      have apart : other ≠ name := by
        rintro rfl
        exact unmet member
      rw [lookup_cons_ne apart]
      exact fresh other (.tail _ member)
    obtain ⟨last,reads,same⟩ := ih (fun field member => takes field (.tail _ member)) distinct later gaps.item.after
      (by simpa using enough) false
    refine ⟨last,?_,fun other => ?_⟩
    · rw [List.map_cons,readMembers_step blank gaps]
      exact (entry_known gaps named known (fresh name (.head _)) takes_this written
        (ends_ahead (.inr rfl) gaps.item.after (entries.map Entry.text) rest)).trans reads
    · rw [same]
      by_cases this : other = name
      · subst this
        rw [if_neg unmet,if_pos (.head _),List.lookup_cons_self,found]
      · rw [lookup_cons_ne this]
        simp only [List.map_cons,List.mem_cons,this,false_or]
  | @other name order entry entries gaps named unknown value _ ih =>
    obtain ⟨fuel,rfl⟩ := Nat.exists_eq_add_one_of_ne_zero (Nat.ne_of_gt (Nat.lt_of_le_of_lt (Nat.zero_le _) enough))
    obtain ⟨last,reads,same⟩ := ih takes distinct fresh gaps.item.after (by simpa using enough) false
    refine ⟨last,?_,same⟩
    rw [List.map_cons,readMembers_step blank gaps]
    exact (entry_unknown gaps named unknown value (ends_ahead (.inr rfl) gaps.item.after (entries.map Entry.text) rest)).trans reads

end

theorem collectFields_congr {rules : List (FieldRule × Shape)} {left right : List (String × Doc)}
    (same : ∀ name ∈ ruleNames rules, left.lookup name = right.lookup name) :
    collectFields left rules = collectFields right rules := by
  induction rules with
  | nil => rfl
  | cons pair rules ih =>
    have others := ih fun name member => same name (.tail _ member)
    rw [collectFields,collectFields,same _ (.head _),others]

section
variable {title : String} {rules : List (FieldRule × Shape)} {fields : List (String × Texts)} {docs : List (String × Doc)}

theorem opens_object {known : List String} (written : Texts.object known fields cs) : Opens cs := by
  obtain ⟨gap,order,entries,-,-,-,rfl⟩ := written
  exact ⟨_,_,rfl,by decide⟩

/-- What is read of a record depends on the given fields alone. -/
theorem read_draft (distinct : (ruleNames rules).Nodup) (drafted : Drafted depth rules fields docs)
    (written : Texts.object (ruleNames rules) fields cs) (rest : List Char) :
    read (depth + 1) (.record title rules) (cs ++ rest) =
      (fitting rest (collectFields docs rules)).bind fun values => .ok (.object values,rest) := by
  obtain ⟨gap,order,entries,blank,perm,written,rfl⟩ := written
  have names := drafted.names_sublist.nodup distinct
  have takes : ∀ field ∈ order, ∃ rule shape doc, rules.find? (·.1.name == field.1) = some (rule,shape) ∧
      docs.lookup field.1 = some doc ∧ Takes (readNullable rule (read depth shape)) field.2 doc :=
    fun field member => drafted.field distinct (List.Sublist.refl rules) (perm.mem_iff.mp member)
  have enough : entries.length < (ahead true '\x7d' gap (entries.map Entry.text) rest).length + 1 := by
    have parts := @length_le_ahead gap rest '\x7d' (entries.map Entry.text)
    rw [List.length_map] at parts
    omega
  obtain ⟨last,reads,same⟩ := @readMembers_entries depth _ gap rest rules docs [] order entries written takes
    ((perm.map _).nodup_iff.mpr names) (fun _ _ => rfl) blank enough true
  have lookups : ∀ name ∈ ruleNames rules, last.lookup name = docs.lookup name := by
    intro name _
    rw [same name]
    split
    · rfl
    next absent =>
      rw [List.lookup_nil,lookup_eq_none]
      rwa [← drafted.names_eq,← (perm.map _).mem_iff]
  rw [objectText_append,read_fields,reads]
  change (fitting rest (collectFields last rules)).bind _ = _
  rw [collectFields_congr lookups]

/-- An object of the given fields is read as a record where all that are required are given. -/
theorem Takes.record (distinct : (ruleNames rules).Nodup) (drafted : Drafted depth rules fields docs) (chosen : Chosen rules docs) :
    Takes (read (depth + 1) (.record title rules)) (Texts.object (ruleNames rules) fields) (.object docs) where
  opens := opens_object
  reads {cs rest} written _ := by
    rw [read_draft distinct drafted written,chosen.collects distinct fun _ _ => rfl]
    rfl

theorem Takes.defaulted (distinct : (ruleNames rules).Nodup) (drafted : Drafted depth rules fields docs)
    (spared : ∀ pair ∈ rules, pair.1.presence ≠ .required) :
    Takes (read (depth + 1) (.record title rules)) (Texts.object (ruleNames rules) fields) (.object docs) :=
  .record distinct drafted (drafted.chosen distinct fun pair member required => absurd required (spared pair member))

end
end AppGrants.Json
