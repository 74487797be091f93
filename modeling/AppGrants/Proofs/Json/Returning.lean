import AppGrants.Proofs.Json.Conforming
import AppGrants.Proofs.Json.Records
import AppGrants.Proofs.Lookup

/-! Values that come back from their written form. A printed record is read as itself when its fields are written in the order
of the record's rules, whichever of those that may be left out are left out. -/
namespace AppGrants.Json
variable {α : Type} {depth : Nat}

/-- The document, printed anywhere within another, is read as itself where the shape is expected. -/
structure Fits (depth : Nat) (shape : Shape) (doc : Doc) : Prop where
  plain : doc.Plain depth
  reads : ∀ rest, Closes rest → read depth shape (print doc ++ rest) = .ok (doc, rest)

namespace Fits
variable {shape : Shape} {doc : Doc} {rule : FieldRule}

theorem value (fits : Fits depth shape doc) : Yields (read depth shape) doc doc := ⟨opens_print fits.plain,fits.reads⟩

theorem yields (fits : Fits depth shape doc) : Yields (readNullable rule (read depth shape)) doc doc := by
  cases nullable : rule.nullable with
  | true => exact fits.value.nullable fits.plain nullable
  | false => exact fits.value.required nullable

theorem anything (plain : doc.Plain depth) : Fits depth .anything doc where
  plain := plain
  reads _ closes := read_print plain closes

theorem boolean (value : Bool) : Fits depth .boolean (.bool value) where
  plain := Doc.plain_bool depth value
  reads _ _ := read_boolean value

theorem text (value : String) : Fits depth .text (.text value) where
  plain := Doc.plain_text depth value
  reads _ _ := read_textual value

theorem path (value : String) : Fits depth .path (.text value) where
  plain := Doc.plain_text depth value
  reads rest closes := by
    have text : read depth .text (print (.text value) ++ rest) = _ := (text value).reads rest closes
    rw [read.eq_def] at text ⊢
    exact text

theorem int32 (n : Int32) : Fits depth (.whole .signed32) (Codec.toDoc n) where
  plain := Doc.plain_int32 depth n
  reads rest closes := by
    have least := n.le_toInt
    have greatest := n.toInt_lt
    have holds : Width.signed32.holds n.toInt = true := by
      simp only [Width.holds,Bool.and_eq_true,decide_eq_true_eq]
      omega
    exact read_whole holds closes.endsNumber

theorem uint32 (n : UInt32) : Fits depth (.whole .unsigned32) (Codec.toDoc n) where
  plain := Doc.plain_uint32 depth n
  reads rest closes := by
    have greatest := n.toNat_lt
    have holds : Width.unsigned32.holds n.toNat = true := by
      simp only [Width.holds,Bool.and_eq_true,decide_eq_true_eq]
      omega
    exact read_whole holds closes.endsNumber

theorem uint64 {n : Nat} (small : n < UInt64.size) : Fits depth (.whole .unsigned64) (.nat n) where
  plain := Doc.plain_nat depth small
  reads rest closes := by
    have holds : Width.unsigned64.holds n = true := by
      simp only [Width.holds,Bool.and_eq_true,decide_eq_true_eq]
      unfold UInt64.size at small
      omega
    exact read_whole holds closes.endsNumber

theorem choice {variants : List String} {name : String} (listed : variants.contains name = true) :
    Fits depth (.choice variants) (.text name) where
  plain := Doc.plain_text depth name
  reads rest _ := by
    have quoted : printText name ++ rest = '"' :: (name.toList.flatMap escapeChar ++ '"' :: rest) := by simp [printText]
    have begins : skipGaps ('"' :: (name.toList.flatMap escapeChar ++ '"' :: rest)) = _ := skipGaps_cons (by decide)
    rw [print,quoted,read.eq_def]
    simp only [begins,readVariant,readText_printText,bind,Except.bind,listed,if_true]
    rfl

theorem list {item : Shape} {items : List Doc} (fits : ∀ doc ∈ items, Fits depth item doc) :
    Fits (depth + 1) (.listOf item) (.list items) where
  plain doc member := (fits doc member).plain
  reads rest _ := by
    have yields : List.Forall₂ (Yields (read depth item)) items items :=
      List.forall₂_same.mpr fun doc member => (fits doc member).value
    have begins : skipGaps ('[' :: (printItems items ++ rest)) = _ := skipGaps_cons (by decide)
    have enough : items.length < (printItems items ++ rest).length + 1 := by
      have some_item := length_le_printItems items
      rw [List.length_append]
      omega
    rw [print,List.cons_append,read.eq_def]
    simp only [begins,readItems_printItems yields enough]
    rfl

end Fits

/-- The fields are those of the rules in their order, without some of those that are not required. -/
inductive Filled (depth : Nat) : List (FieldRule × Shape) → List (String × Doc) → Prop where
  | nothing : Filled depth [] []
  | given {rule : FieldRule} {shape : Shape} {doc : Doc} {rules : List (FieldRule × Shape)} {fields : List (String × Doc)}
      (plain : doc.Plain depth) (yields : Yields (readNullable rule (read depth shape)) doc doc)
      (others : Filled depth rules fields) : Filled depth ((rule, shape) :: rules) ((rule.name, doc) :: fields)
  | absent {rule : FieldRule} {shape : Shape} {rules : List (FieldRule × Shape)} {fields : List (String × Doc)}
      (spared : rule.presence ≠ .required) (others : Filled depth rules fields) : Filled depth ((rule, shape) :: rules) fields

def ruleNames (rules : List (FieldRule × Shape)) : List String := rules.map (·.1.name)

section
variable {rule : FieldRule} {shape : Shape} {rules : List (FieldRule × Shape)}

theorem find?_name (distinct : (ruleNames rules).Nodup) (member : (rule,shape) ∈ rules) :
    rules.find? (·.1.name == rule.name) = some (rule,shape) := by
  induction rules with
  | nil => cases member
  | cons first rest ih =>
    obtain ⟨fresh,distinct⟩ := List.nodup_cons.mp distinct
    rcases List.mem_cons.mp member with rfl | later
    · exact List.find?_cons_of_pos (by simp)
    · have other : first.1.name ≠ rule.name := by
        intro same
        apply fresh
        change first.1.name ∈ _
        rw [same]
        exact List.mem_map_of_mem later
      rw [List.find?_cons_of_neg (by simpa using other)]
      exact ih distinct later

end

/-- The fields are some of those of the rules in their order, and all that are required are there. -/
inductive Chosen : List (FieldRule × Shape) → List (String × Doc) → Prop where
  | nothing : Chosen [] []
  | given {rule : FieldRule} {shape : Shape} {doc : Doc} {rules : List (FieldRule × Shape)} {fields : List (String × Doc)}
      (others : Chosen rules fields) : Chosen ((rule,shape) :: rules) ((rule.name,doc) :: fields)
  | absent {rule : FieldRule} {shape : Shape} {rules : List (FieldRule × Shape)} {fields : List (String × Doc)}
      (spared : rule.presence ≠ .required) (others : Chosen rules fields) : Chosen ((rule,shape) :: rules) fields

namespace Chosen
variable {rules : List (FieldRule × Shape)} {fields : List (String × Doc)}

theorem names_sublist (chosen : Chosen rules fields) : (fields.map (·.1)).Sublist (ruleNames rules) := by
  induction chosen with
  | nothing => exact .slnil
  | given _ ih => exact ih.cons_cons _
  | absent _ _ ih => exact ih.cons _

theorem collects {held : List (String × Doc)} (chosen : Chosen rules fields) (distinct : (ruleNames rules).Nodup)
    (same : ∀ name ∈ ruleNames rules, held.lookup name = fields.lookup name) : collectFields held rules = .ok fields := by
  -- Only what is found under the names that are left matters, so the order in which fields are held does not.
  induction chosen with
  | nothing => rfl
  | @given rule shape doc rules fields _ ih =>
    obtain ⟨fresh,distinct⟩ := List.nodup_cons.mp distinct
    have found : held.lookup rule.name = some doc := (same _ (.head _)).trans List.lookup_cons_self
    have others : collectFields held rules = .ok fields := by
      refine ih distinct fun name member => ?_
      have other : name ≠ rule.name := by
        rintro rfl
        exact fresh member
      rw [same name (.tail _ member),lookup_cons_ne other]
    rw [collectFields,found,others]
    rfl
  | @absent rule shape rules fields spared chosen ih =>
    obtain ⟨fresh,distinct⟩ := List.nodup_cons.mp distinct
    have missing : held.lookup rule.name = none := by
      rw [same _ (.head _)]
      exact lookup_eq_none fun member => fresh (chosen.names_sublist.subset member)
    have others : collectFields held rules = .ok fields := ih distinct fun name member => same name (.tail _ member)
    rw [collectFields,missing]
    cases presence : rule.presence with
    | required => exact absurd presence spared
    | optional => exact others
    | defaulted => exact others

end Chosen

namespace Filled
variable {rule : FieldRule} {shape : Shape} {rules : List (FieldRule × Shape)} {fields : List (String × Doc)}

theorem required {doc : Doc} (fits : Fits depth shape doc) (others : Filled depth rules fields) :
    Filled depth ((rule,shape) :: rules) ((rule.name,doc) :: fields) :=
  .given fits.plain fits.yields others

theorem unlessNone [Codec α] {value? : Option α} (spared : rule.presence ≠ .required)
    (fits : ∀ value ∈ value?, Fits depth shape (Codec.toDoc value)) (others : Filled depth rules fields) :
    Filled depth ((rule,shape) :: rules) (unlessNone rule.name value? ++ fields) := by
  cases value? with
  | none => exact .absent spared others
  | some value => exact .required (fits value rfl) others

theorem orNull [Codec α] {value? : Option α} (nullable : rule.nullable = true)
    (fits : ∀ value ∈ value?, Fits depth shape (Codec.toDoc value)) (others : Filled depth rules fields) :
    Filled depth ((rule,shape) :: rules) ((rule.name,orNull value?) :: fields) := by
  cases value? with
  | none =>
    have plain : Doc.null.Plain depth := by simp [Doc.Plain]
    exact .given plain (.null nullable) others
  | some value => exact .required (fits value rfl) others

theorem plain (filled : Filled depth rules fields) : ∀ field ∈ fields, field.2.Plain depth := by
  induction filled with
  | nothing => exact List.forall_mem_nil _
  | given plain _ _ ih => exact List.forall_mem_cons.mpr ⟨plain,ih⟩
  | absent _ _ ih => exact ih

theorem loads {all : List (FieldRule × Shape)} {held : List (String × Doc)} (filled : Filled depth rules fields)
    (distinct : (ruleNames all).Nodup) (inside : rules.Sublist all)
    (fresh : ∀ name ∈ ruleNames rules, held.lookup name = none) :
    Loads (recordMember (read depth) all) held fields (fields.reverse ++ held) := by
  -- On the rules that are left: what is held has none of their names, and a field adds a name that is none of those behind it.
  induction filled generalizing held with
  | nothing => exact .nothing
  | @given rule shape doc rules fields _ yields _ ih =>
    have finds := find?_name distinct (inside.subset (.head _))
    have names : (ruleNames ((rule,shape) :: rules)).Nodup := (inside.map _).nodup distinct
    have later := @ih ((rule.name,doc) :: held) ((List.sublist_cons_self ..).trans inside) ?_
    · rw [List.reverse_cons,List.append_assoc,List.singleton_append]
      exact .known finds (fresh _ (.head _)) yields later
    · intro name member
      have other : name ≠ rule.name := by
        rintro rfl
        exact (List.nodup_cons.mp names).1 member
      rw [lookup_cons_ne other]
      exact fresh name (.tail _ member)
  | absent _ _ ih => exact ih ((List.sublist_cons_self ..).trans inside) fun name member => fresh name (.tail _ member)

theorem chosen (filled : Filled depth rules fields) : Chosen rules fields := by
  induction filled with
  | nothing => exact .nothing
  | given _ _ _ ih => exact .given ih
  | absent spared _ ih => exact .absent spared ih

theorem names_sublist (filled : Filled depth rules fields) : (fields.map (·.1)).Sublist (ruleNames rules) :=
  filled.chosen.names_sublist

end Filled

theorem Fits.record {name : String} {rules : List (FieldRule × Shape)} {fields : List (String × Doc)}
    (distinct : (ruleNames rules).Nodup) (filled : Filled depth rules fields) :
    Fits (depth + 1) (.record name rules) (.object fields) where
  plain := filled.plain
  reads rest _ := by
    have loads : Loads (recordMember (read depth) rules) [] fields (fields.reverse ++ []) :=
      filled.loads distinct (List.Sublist.refl rules) fun _ _ => rfl
    rw [List.append_nil] at loads
    have collects := filled.chosen.collects distinct fun name _ => lookup_reverse (filled.names_sublist.nodup distinct)
    exact read_record loads collects rest

theorem ofDoc_list [Codec α] {values : List α} (same : ∀ value ∈ values, Codec.ofDoc (Codec.toDoc value) = value) :
    Codec.ofDoc (Codec.toDoc values) = values := by
  have equal : ∀ value ∈ values, (Codec.ofDoc ∘ Codec.toDoc) value = id value := same
  change (values.map Codec.toDoc).map Codec.ofDoc = values
  rw [List.map_map,List.map_congr_left equal,List.map_id]

/-- The value comes back from its written form, as a whole text or within another one. -/
structure Returns [Codec α] (depth : Nat) (value : α) : Prop where
  fits : Fits depth (Codec.shape α) (Codec.toDoc value)
  same : Codec.ofDoc (Codec.toDoc value) = value

/-- Decoding undoes encoding, and what is encoded does not break its line. -/
structure RoundTrips [Codec α] (value : α) : Prop where
  decoded : decode (encode value) = .ok value
  unbroken : '\n' ∉ (encode value).toList

namespace Returns
variable [Codec α] {value : α}

theorem roundTrips (returns : Returns depthLimit value) : RoundTrips value where
  decoded := by
    have reads := returns.fits.reads [] (by simp [Closes])
    have document : readDocument (Codec.shape α) (encode value) = .ok (Codec.toDoc value) := readDocument_compact reads
    rw [decode,document]
    exact congrArg Except.ok returns.same
  unbroken := by
    rw [encode,Doc.compact,String.toList_ofList]
    exact feed_not_mem_print returns.fits.plain

theorem list {values : List α} (returns : ∀ value ∈ values, Returns depth value) : Returns (depth + 1) values where
  fits := by
    refine .list fun doc member => ?_
    obtain ⟨value,inside,rfl⟩ := List.mem_map.mp member
    exact (returns value inside).fits
  same := ofDoc_list fun value member => (returns value member).same

theorem int32 (n : Int32) : Returns depth n := ⟨.int32 n,ofDoc_int32 n⟩

theorem text (value : String) : Returns depth value := ⟨.text value,rfl⟩

end Returns
end AppGrants.Json
