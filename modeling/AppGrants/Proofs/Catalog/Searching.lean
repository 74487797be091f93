import AppGrants.Catalog.Search
import AppGrants.Proofs.Failure.Building
import AppGrants.Proofs.Text.Lowercase

/-! A search finds what stands in a label or a package name as it was typed, however characters are read. It fails only where a
capital sigma ends a word in what was typed and not in the label, or the other way round: the two are lowered apart, and then the
sigma becomes two different letters. -/
namespace AppGrants.Catalog
open Failure (hasInfix_iff)

namespace Search
variable {pinyin : Text.Pinyin}

/-- What was typed stands in the text, at a place where its capital sigmas end words as they do by themselves. -/
def Shows (typed : List Char) (text : String) : Prop :=
  ∃ front back, text.toList = front ++ typed ++ back ∧ Text.KeepsSigmas front typed back

theorem finds_of_shows {text : String} {record : AppRecord}
    (shown : Shows (Text.trim text.toList) record.displayLabel ∨ Shows (Text.trim text.toList) record.packageName) :
    finds pinyin (needle text) record = true := by
  have found {shownText : String} (shows : Shows (Text.trim text.toList) shownText) :
      Failure.hasInfix (needle text) (Text.lowercase shownText.toList) = true := by
    obtain ⟨front,back,split,keeps⟩ := shows
    rw [hasInfix_iff,split]
    exact keeps.lowercase_infix
  unfold finds
  rcases shown with label | name
  · rw [found label,Bool.true_or,Bool.true_or]
  · rw [found name,Bool.or_true,Bool.true_or]

theorem spell_of_unread {cs : List Char} (unread : ∀ c ∈ cs, pinyin c = none) :
    Text.spell pinyin cs = cs := by
  induction cs with
  | nil => rfl
  | cons c rest ih =>
    obtain ⟨first,others⟩ := List.forall_mem_cons.mp unread
    have kept : Text.spellChar pinyin c = [c] := by rw [Text.spellChar,first]
    rw [Text.spell,List.flatMap_cons,kept,List.singleton_append]
    exact congrArg (c :: ·) (ih others)

/-- A label of which no character is read in another way is looked at once. -/
theorem finds_of_unread {record : AppRecord} (unread : ∀ c ∈ record.displayLabel.toList, pinyin c = none)
    (needle : List Char) : finds pinyin needle record = (Failure.hasInfix needle (Text.lowercase record.displayLabel.toList) ||
      Failure.hasInfix needle (Text.lowercase record.packageName.toList)) := by
  rw [finds,spelledLabel,spell_of_unread unread,Bool.or_right_comm,Bool.or_self]

theorem search_of_typed {text : String} (typed : Text.trim text.toList ≠ []) (visible : List AppRecord) (groups : List Group)
    (loading : Bool) :
    let results := visible.filter (finds pinyin (needle text))
    search pinyin text visible groups loading =
      ⟨text,status results loading,results,groups.filter fun group => results.any (·.uid == group.uid)⟩ := by
  have sought : (needle text).isEmpty = false := by
    rw [List.isEmpty_eq_false_iff]
    exact Text.lowercase_ne_nil typed
  simp [search,sought]

end Search

/-- What was typed, blanks around it aside, is found in every label and package name that shows it: the rows in their order, and
the groups of their uids. A text whose capital sigmas are all inside it is shown wherever it stands. -/
theorem search_finds (pinyin : Text.Pinyin) (text : String) (visible : List AppRecord) (groups : List Group)
    (loading : Bool) (typed : Text.trim text.toList ≠ []) :
    let typed := Text.trim text.toList
    let view := search pinyin text visible groups loading
    let shows (record : AppRecord) := Search.Shows typed record.displayLabel ∨ Search.Shows typed record.packageName
    (∃ found : AppRecord → Bool, view.results = visible.filter found ∧ ∀ record, shows record → found record = true) ∧
      (∀ record ∈ visible, shows record →
        view.status = .show ∧ ∀ group ∈ groups, group.uid = record.uid → group ∈ view.matchedGroups) ∧
      (Text.SigmasInside typed → ∀ shown : String, typed <:+: shown.toList → Search.Shows typed shown) := by
  intro trimmed view shows
  have made : view = _ := Search.search_of_typed typed visible groups loading
  rw [made]
  refine ⟨⟨Search.finds pinyin (Search.needle text),rfl,fun record => Search.finds_of_shows⟩,?_,?_⟩
  · intro record member shown
    have found : record ∈ visible.filter (Search.finds pinyin (Search.needle text)) :=
      List.mem_filter.mpr ⟨member,Search.finds_of_shows shown⟩
    refine ⟨?_,fun group listed same => List.mem_filter.mpr ⟨listed,List.any_eq_true.mpr ⟨record,found,by simp [same]⟩⟩⟩
    simp [Search.status,List.ne_nil_of_mem found]
  · rintro inside shown ⟨front,back,split⟩
    exact ⟨front,back,split.symm,inside.keeps front back⟩

def greekRecords : List AppRecord := [
  .ofPackage { packageName := "gr.odos", uid := 10010, label := some "ΟΔΟΣ" } none,
  .ofPackage { packageName := "gr.kasa", uid := 10011, label := some "ΚΑΣΑ" } none]

def greekGroups : List Group :=
  greekRecords.map fun record => Group.ofMembers (fun _ => false) (ownerName []) record.uid record []

/-- The end of a label, typed with a blank before it: the sigma ends a word in both. -/
theorem search_finds_ending :
    let view := search (fun _ => none) " ΔΟΣ" greekRecords greekGroups true
    Text.trim " ΔΟΣ".toList ≠ [] ∧ view.status = .show ∧ ∀ one ∈ greekGroups, one.uid = 10010 → one ∈ view.matchedGroups := by
  intro view
  have typed : Text.trim " ΔΟΣ".toList = ['Δ','Ο','Σ'] := by decide +kernel
  have written : Text.trim " ΔΟΣ".toList ≠ [] := by decide +kernel
  have keeps : Text.KeepsSigmas ['Ο'] ['Δ','Ο','Σ'] [] := by
    have cased := Text.leadsToCased_greek (c := 'Ο') (by decide)
    rw [← Text.lowercaseBetween_eq_lowercase_iff]
    simp [Text.lowercase,Text.lowercaseAfter,Text.lowercaseBetween,Text.endsWord,Text.capitalSigma,cased]
  have shown : Search.Shows (Text.trim " ΔΟΣ".toList) "ΟΔΟΣ" := ⟨['Ο'],[],by decide +kernel,typed ▸ keeps⟩
  obtain ⟨-,found,-⟩ := search_finds (fun _ => none) " ΔΟΣ" greekRecords greekGroups true written
  have told := found _ (.head _) (.inl shown)
  exact ⟨written,told⟩

theorem lowered_greekRecords :
    greekRecords.map (fun record => Text.lowercase record.displayLabel.toList) = ["οδος".toList,"κασα".toList] := by
  have ending : Text.lowercase "ΟΔΟΣ".toList = "οδος".toList := by
    simp only [String.reduceToList,Text.lowercase,Text.lowercaseAfter,Text.leadsToCased_greek (c := 'Ο') (by decide)]
    decide +kernel
  have inside : Text.lowercase "ΚΑΣΑ".toList = "κασα".toList := by
    simp only [String.reduceToList,Text.lowercase,Text.lowercaseAfter,Text.leadsToCased_greek (c := 'Α') (by decide)]
    decide +kernel
  exact congrArg₂ (fun first second => [first,second]) ending inside

/-- Typed up to a sigma that the label goes on after: there no word ends with it, and the label is not found, unless one of its
letters is read in another way. -/
theorem greekRecords_missed {pinyin : Text.Pinyin}
    (unread : ∀ record ∈ greekRecords, ∀ c ∈ record.displayLabel.toList, pinyin c = none) :
    search pinyin "ΚΑΣ" greekRecords greekGroups false = { text := "ΚΑΣ", status := .empty } := by
  have typed : Text.trim "ΚΑΣ".toList = ['Κ','Α','Σ'] := by decide +kernel
  have needle : Search.needle "ΚΑΣ" = "κας".toList := by
    rw [Search.needle,typed]
    simp only [Text.lowercase,Text.lowercaseAfter,Text.leadsToCased_greek (c := 'Α') (by decide)]
    decide +kernel
  have missed : ∀ record ∈ greekRecords, Search.finds pinyin "κας".toList record = false := by
    have labels : ∀ label ∈ ["οδος".toList,"κασα".toList], Failure.hasInfix "κας".toList label = false := by decide +kernel
    have names : ∀ record ∈ greekRecords, Failure.hasInfix "κας".toList (Text.lowercase record.packageName.toList) = false := by
      decide +kernel
    intro record member
    have label := labels _ (lowered_greekRecords ▸ List.mem_map_of_mem member)
    rw [Search.finds_of_unread (unread record member),label,names record member]
    rfl
  have nothing : greekRecords.filter (Search.finds pinyin "κας".toList) = [] :=
    List.filter_eq_nil_iff.mpr fun record member => ne_true_of_eq_false (missed record member)
  rw [Search.search_of_typed (by decide +kernel),needle,nothing]
  rfl

theorem not_always_found : "ΚΑΣ".toList <:+: "ΚΑΣΑ".toList ∧ Text.trim "ΚΑΣ".toList = "ΚΑΣ".toList ∧
    greekRecords.map (·.displayLabel) = ["ΟΔΟΣ","ΚΑΣΑ"] ∧
    search (fun _ => none) "ΚΑΣ" greekRecords greekGroups false = { text := "ΚΑΣ", status := .empty } :=
  ⟨by decide +kernel,by decide +kernel,by decide +kernel,greekRecords_missed fun _ _ _ _ => rfl⟩

end AppGrants.Catalog
