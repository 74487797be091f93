import AppGrants.Proofs.Json.Passing
import AppGrants.Proofs.Json.Returning
import AppGrants.Proofs.Json.Stepping

/-! A field that is given twice. Reading stops at the second one at the latest, however deep its object is and whatever stands
around it. -/
namespace AppGrants.Json
variable {α : Type} {depth fuel : Nat} {gap cs rest left : List Char} {rules : List (FieldRule × Shape)}

structure IsList (gap : List Char) (items : List Spaced) : Prop where
  blank : Gap gap
  gaps : ∀ item ∈ items, item.Gaps
  values : ∀ item ∈ items, IsValue item.value

structure IsObject (gap : List Char) (entries : List Entry) : Prop where
  blank : Gap gap
  gaps : ∀ entry ∈ entries, entry.Gaps
  names : ∀ entry ∈ entries, Raw entry.name
  values : ∀ entry ∈ entries, IsValue entry.item.value

/-- Where a record is expected, at whatever depth, there is an object with two fields of one name that the record has. -/
inductive Clashes : Shape → List Char → Prop where
  | twice {record field : String} {rules : List (FieldRule × Shape)} {gap : List Char} {entries : List Entry} {first second : Entry}
      (written : IsObject gap entries) (known : field ∈ ruleNames rules) (both : [first,second].Sublist entries)
      (one : Spells field.toList first.name) (two : Spells field.toList second.name) :
      Clashes (.record record rules) (objectText gap entries)
  | field {record field : String} {rules : List (FieldRule × Shape)} {rule : FieldRule} {shape : Shape} {gap : List Char}
      {entries : List Entry} {entry : Entry} (written : IsObject gap entries) (inside : entry ∈ entries)
      (named : Spells field.toList entry.name) (known : rules.find? (·.1.name == field) = some (rule,shape))
      (clashes : Clashes shape entry.item.value) : Clashes (.record record rules) (objectText gap entries)
  | place {record : String} {rules : List (FieldRule × Shape)} {rule : FieldRule} {shape : Shape} {gap : List Char}
      {items : List Spaced} {item : Spaced} {index : Nat} (written : IsList gap items) (placed : items[index]? = some item)
      (ruled : rules[index]? = some (rule,shape)) (clashes : Clashes shape item.value) :
      Clashes (.record record rules) (listText gap items)
  | item {shape : Shape} {gap : List Char} {items : List Spaced} {item : Spaced} (written : IsList gap items)
      (inside : item ∈ items) (clashes : Clashes shape item.value) : Clashes (.listOf shape) (listText gap items)

/-- Somewhere the text is read as a value. -/
def Admits (reader : Reader α) (cs : List Char) : Prop :=
  ∃ gap rest value left, Gap gap ∧ Ends rest ∧ reader (gap ++ (cs ++ rest)) = .ok (value,left)

theorem left_of_passes (blank : Gap gap) (value : IsValue cs) (ends : Ends rest) (passes : Passes (gap ++ (cs ++ rest)) left) :
    rest = left := by
  obtain ⟨fuel,passes⟩ := passes
  have skipped := value.skips (fuel + 2 * cs.length) (by omega) rest ends
  have passed := passes (fuel + 2 * cs.length) (by omega)
  rw [skipValue_gap blank] at passed
  exact Except.ok.inj (skipped.symm.trans passed)

theorem items_admitted {reader : Reader α} (ended : Ended reader) {items : List Spaced} (gaps : ∀ item ∈ items, item.Gaps)
    (values : ∀ item ∈ items, IsValue item.value) (blank : Gap gap) {first : Bool} {read : List α}
    (reads : readItems reader fuel first (ahead first ']' gap (items.map Spaced.text) rest) = .ok (read,left)) :
    ∀ item ∈ items, Admits reader item.value := by
  induction items generalizing fuel gap first read with
  | nil => exact List.forall_mem_nil _
  | cons item others ih =>
    cases fuel with
    | zero => simp [readItems,cut] at reads
    | succ fuel =>
      have value := values item (.head _)
      have after := (gaps item (.head _)).after
      have follows := ends_ahead (.inl rfl) after (others.map Spaced.text) rest
      rw [List.map_cons,readItems_of_nextItem (nextItem_step blank (gaps item (.head _)) value.opens)] at reads
      obtain ⟨⟨doc,passed⟩,begun,reads⟩ := exists_of_bind reads
      obtain rfl := left_of_passes .nil value follows (ended begun)
      dsimp only at reads
      rw [readItems.more] at reads
      obtain ⟨_,further⟩ := left_of_map reads fun _ => rfl
      have later := ih (fun other member => gaps other (.tail _ member)) (fun other member => values other (.tail _ member)) after
        further
      exact List.forall_mem_cons.mpr ⟨⟨[],_,doc,_,.nil,follows,begun⟩,later⟩

theorem admits_of_read_list {shape : Shape} {items : List Spaced} (written : IsList gap items)
    (admits : Admits (read depth (.listOf shape)) (listText gap items)) :
    ∃ below, ∀ item ∈ items, Admits (read below shape) item.value := by
  obtain ⟨before,rest,value,left,blank,ends,reads⟩ := admits
  rw [read_gap blank,listText_append] at reads
  obtain ⟨below,rfl⟩ := depth_of_read (.inl rfl) reads
  rw [read_listOf] at reads
  obtain ⟨_,reads⟩ := left_of_map reads fun _ => rfl
  exact ⟨below,items_admitted (ended_read below shape) written.gaps written.values written.blank reads⟩

/-- What is held has none of the known fields that are there, these have different names, and their values are read. -/
structure Once (depth : Nat) (rules : List (FieldRule × Shape)) (held : List (String × Doc)) (entries : List Entry) : Prop where
  fresh : ∀ entry ∈ entries, ∀ field ∈ ruleNames rules, Spells field.toList entry.name → held.lookup field = none
  apart : entries.Pairwise fun first second =>
    ∀ field ∈ ruleNames rules, Spells field.toList first.name → ¬Spells field.toList second.name
  admitted : ∀ entry ∈ entries, ∀ {field rule shape}, Spells field.toList entry.name →
    rules.find? (·.1.name == field) = some (rule,shape) → Admits (readNullable rule (read depth shape)) entry.item.value

theorem Once.nothing {held : List (String × Doc)} : Once depth rules held [] where
  fresh := List.forall_mem_nil _
  apart := .nil
  admitted := List.forall_mem_nil _

/-- One field was read or passed over, and what is held then differs by it at most. -/
theorem field_of_recordMember {held next : List (String × Doc)} {name : String} {reader : Reader (List (String × Doc))}
    (taken : recordMember (read depth) rules held name = .ok reader) (begun : reader cs = .ok (next,left)) :
    (rules.find? (·.1.name == name) = none ∧ next = held) ∨
    ∃ rule shape doc, rules.find? (·.1.name == name) = some (rule,shape) ∧ held.lookup name = none ∧
      readNullable rule (read depth shape) cs = .ok (doc,left) ∧ next = (name,doc) :: held := by
  unfold recordMember at taken
  split at taken
  next unknown =>
    obtain rfl := Except.ok.inj taken
    obtain ⟨after,-,same⟩ := exists_of_map begun
    exact .inl ⟨unknown,(Prod.mk.inj same).1.symm⟩
  next rule shape known =>
    split at taken
    · cases taken
    next fresh =>
      obtain rfl := Except.ok.inj taken
      obtain ⟨⟨doc,after⟩,reads,same⟩ := exists_of_map begun
      obtain ⟨rfl,rfl⟩ := Prod.mk.inj same
      exact .inr ⟨rule,shape,doc,known,Option.not_isSome_iff_eq_none.mp fresh,reads,rfl⟩

theorem known_of_mem {field : String} (known : field ∈ ruleNames rules) : rules.find? (·.1.name == field) ≠ none := by
  obtain ⟨pair,inside,rfl⟩ := List.mem_map.mp known
  intro missing
  exact absurd (List.find?_eq_none.mp missing pair inside) (by simp)

theorem once_of_entry {held last : List (String × Doc)} {entry : Entry} {others : List Entry} (gaps : entry.Gaps)
    (named : Raw entry.name) (value : IsValue entry.item.value) (ends : Ends rest)
    (further : ∀ {next}, readMembers (recordMember (read depth) rules) fuel false next rest = .ok (last,left) →
      Once depth rules next others)
    (reads : readMembers.entry (recordMember (read depth) rules) held
      (entry.name ++ '"' :: (entry.colon ++ ':' :: (entry.item.before ++ (entry.item.value ++ rest)))) fuel = .ok (last,left)) :
    Once depth rules held (entry :: others) := by
  unfold readMembers.entry at reads
  obtain ⟨⟨name,colon⟩,quoted,reads⟩ := exists_of_bind reads
  obtain ⟨reader,taken,reads⟩ := exists_of_bind reads
  obtain ⟨start,follows,reads⟩ := exists_of_bind reads
  obtain ⟨⟨next,after⟩,begun,reads⟩ := exists_of_bind reads
  dsimp only at taken follows begun reads
  have spelled {field : String} (spells : Spells field.toList entry.name) : field = name :=
    (Prod.mk.inj (Except.ok.inj ((readText_eq spells _).symm.trans quoted))).1
  obtain rfl := Except.ok.inj ((named.skipChars_eq _).symm.trans (skipChars_of_readText quoted))
  obtain rfl := Except.ok.inj ((readColon_eq gaps.colon).symm.trans follows)
  replace taken := eq_of_fitting taken
  -- Whether the field is known or not, the reader has passed its value and nothing else, so the other entries are left.
  obtain rfl := left_of_passes gaps.item.before value ends (ended_recordMember (ended_read depth) taken begun)
  have once := further reads
  rcases field_of_recordMember taken begun with ⟨unknown,rfl⟩ | ⟨rule,shape,doc,known,fresh,admitted,rfl⟩
  · have no_field {field : String} (inside : field ∈ ruleNames rules) (spells : Spells field.toList entry.name) : False :=
      known_of_mem inside (spelled spells ▸ unknown)
    refine ⟨?_,?_,?_⟩
    · exact List.forall_mem_cons.mpr ⟨fun field inside spells => (no_field inside spells).elim,once.fresh⟩
    · exact .cons (fun other _ field inside spells => (no_field inside spells).elim) once.apart
    · refine List.forall_mem_cons.mpr ⟨fun {field rule shape} spells known => ?_,once.admitted⟩
      rw [spelled spells,unknown] at known
      cases known
  · refine ⟨?_,?_,?_⟩
    · refine List.forall_mem_cons.mpr ⟨fun field _ spells => spelled spells ▸ fresh,fun other member field inside spells => ?_⟩
      have absent := once.fresh other member field inside spells
      rw [List.lookup_cons] at absent
      split at absent
      · cases absent
      · exact absent
    · refine .cons (fun other member field inside one two => ?_) once.apart
      have absent := once.fresh other member field inside two
      rw [spelled one,List.lookup_cons_self] at absent
      cases absent
    · refine List.forall_mem_cons.mpr ⟨fun {field rule' shape'} spells same => ?_,once.admitted⟩
      rw [spelled spells,known] at same
      obtain ⟨rfl,rfl⟩ := Prod.mk.inj (Option.some.inj same)
      exact ⟨_,_,doc,_,gaps.item.before,ends,admitted⟩

theorem once_of_readMembers {held last : List (String × Doc)} {entries : List Entry} (gaps : ∀ entry ∈ entries, entry.Gaps)
    (names : ∀ entry ∈ entries, Raw entry.name) (values : ∀ entry ∈ entries, IsValue entry.item.value) (blank : Gap gap)
    {first : Bool} (reads : readMembers (recordMember (read depth) rules) fuel first held
      (ahead first '\x7d' gap (entries.map Entry.text) rest) = .ok (last,left)) : Once depth rules held entries := by
  induction entries generalizing fuel gap first held with
  | nil => exact .nothing
  | cons entry others ih =>
    cases fuel with
    | zero => simp [readMembers,cut] at reads
    | succ fuel =>
      have gap := gaps entry (.head _)
      have follows := ends_ahead (.inr rfl) gap.item.after (others.map Entry.text) rest
      rw [List.map_cons,readMembers_step blank gap] at reads
      refine once_of_entry gap (names entry (.head _)) (values entry (.head _)) follows ?_ reads
      exact ih (fun other member => gaps other (.tail _ member)) (fun other member => names other (.tail _ member))
        (fun other member => values other (.tail _ member)) gap.item.after

theorem once_of_read {record : String} {entries : List Entry} (written : IsObject gap entries)
    (admits : Admits (read depth (.record record rules)) (objectText gap entries)) : ∃ below, Once below rules [] entries := by
  obtain ⟨before,rest,value,left,blank,ends,reads⟩ := admits
  rw [read_gap blank,objectText_append] at reads
  obtain ⟨below,rfl⟩ := depth_of_read (.inr rfl) reads
  rw [read_fields] at reads
  obtain ⟨⟨last,after⟩,reads,-⟩ := exists_of_bind reads
  exact ⟨below,once_of_readMembers written.gaps written.names written.values written.blank reads⟩

theorem places_of_readPositions {whole : String} {index : Nat} {items : List Spaced} (gaps : ∀ item ∈ items, item.Gaps)
    (values : ∀ item ∈ items, IsValue item.value) (blank : Gap gap) {read_values : List (String × Doc)}
    (reads : readPositions (read depth) whole index rules (ahead (index == 0) ']' gap (items.map Spaced.text) rest) =
      .ok (read_values,left)) {place : Nat} {item : Spaced} {rule : FieldRule} {shape : Shape} (placed : items[place]? = some item)
    (ruled : rules[place]? = some (rule,shape)) : Admits (readNullable rule (read depth shape)) item.value := by
  induction items generalizing rules index gap read_values place with
  | nil => cases placed
  | cons first others ih =>
    cases rules with
    | nil => cases ruled
    | cons pair rules =>
      have value := values first (.head _)
      have after := (gaps first (.head _)).after
      have follows := ends_ahead (.inl rfl) after (others.map Spaced.text) rest
      rw [List.map_cons,readPositions,nextItem_step blank (gaps first (.head _)) value.opens] at reads
      obtain ⟨⟨doc,passed⟩,begun,reads⟩ := exists_of_bind reads
      obtain rfl := left_of_passes .nil value follows (ended_nullable (ended_read depth pair.2) begun)
      obtain ⟨_,further⟩ := left_of_map reads fun _ => rfl
      cases place with
      | zero =>
        obtain rfl := Option.some.inj placed
        obtain rfl := Option.some.inj ruled
        exact ⟨[],_,doc,_,.nil,follows,begun⟩
      | succ place =>
        exact ih (fun other member => gaps other (.tail _ member)) (fun other member => values other (.tail _ member)) after
          further placed ruled

theorem places_of_read {record : String} {items : List Spaced} (written : IsList gap items)
    (admits : Admits (read depth (.record record rules)) (listText gap items)) :
    ∃ below, ∀ {index : Nat} {item : Spaced} {rule : FieldRule} {shape : Shape}, items[index]? = some item →
      rules[index]? = some (rule,shape) → Admits (readNullable rule (read below shape)) item.value := by
  obtain ⟨before,rest,value,left,blank,ends,reads⟩ := admits
  rw [read_gap blank,listText_append] at reads
  obtain ⟨below,rfl⟩ := depth_of_read (.inl rfl) reads
  rw [read_places] at reads
  obtain ⟨⟨values,after⟩,reads,-⟩ := exists_of_bind reads
  exact ⟨below,fun placed ruled => places_of_readPositions written.gaps written.values written.blank reads placed ruled⟩

theorem Clashes.begins {shape : Shape} (clashes : Clashes shape cs) : ∃ c others, cs = c :: others ∧ isGap c = false ∧ c ≠ 'n' := by
  cases clashes <;> exact ⟨_,_,rfl,by decide⟩

theorem Admits.unwrapped {rule : FieldRule} {shape : Shape} (admits : Admits (readNullable rule (read depth shape)) cs)
    (begins : ∃ c others, cs = c :: others ∧ isGap c = false ∧ c ≠ 'n') : Admits (read depth shape) cs := by
  obtain ⟨gap,rest,value,left,blank,ends,reads⟩ := admits
  obtain ⟨c,others,rfl,plain,other⟩ := begins
  refine ⟨[],rest,value,left,.nil,ends,?_⟩
  rw [readNullable_gap blank] at reads
  unfold readNullable at reads
  rw [List.cons_append,skipGaps_cons plain] at reads
  split at reads
  · split at reads
    next null => exact absurd (List.cons.inj null).1 other
    · exact reads
  · exact reads

theorem Clashes.refused {shape : Shape} (clashes : Clashes shape cs) (depth : Nat) : ¬Admits (read depth shape) cs := by
  -- On how deep the clash is. What is admitted as a whole has admitted each of its known parts, down to the object that clashes.
  induction clashes generalizing depth with
  | twice written known both one two =>
    intro admits
    obtain ⟨below,once⟩ := once_of_read written admits
    exact List.pairwise_iff_forall_sublist.mp once.apart both _ known one two
  | field written inside named known clashes ih =>
    intro admits
    obtain ⟨below,once⟩ := once_of_read written admits
    exact ih below ((once.admitted _ inside named known).unwrapped clashes.begins)
  | place written placed ruled clashes ih =>
    intro admits
    obtain ⟨below,places⟩ := places_of_read written admits
    exact ih below ((places placed ruled).unwrapped clashes.begins)
  | item written inside _ ih =>
    intro admits
    obtain ⟨below,items⟩ := admits_of_read_list written admits
    exact ih below (items _ inside)

theorem decode_clashes [Codec α] {text : String} (clashes : Writes (Clashes (Codec.shape α)) text) :
    ∃ fault, (decode text : Except Fault α) = .error fault := by
  obtain ⟨before,cs,after,leading,clashes,trailing,same⟩ := clashes
  cases decoded : (decode text : Except Fault α) with
  | error fault => exact ⟨fault,rfl⟩
  | ok value =>
    obtain ⟨doc,document,-⟩ := exists_of_map decoded
    obtain ⟨left,reads⟩ := exists_of_readAll document
    rw [same,List.append_assoc] at reads
    exact absurd ⟨before,after,doc,left,leading,trailing.closes,reads⟩ (clashes.refused depthLimit)

end AppGrants.Json
