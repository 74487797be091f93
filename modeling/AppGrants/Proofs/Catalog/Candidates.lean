import AppGrants.Proofs.Catalog.Sorting
import AppGrants.Proofs.Text.Words

/-! Candidates for the name of a shared uid. What may name it is put forward in turn, the members' labels and then the title of the
last segment that their package names share. None of it is lost but for what repeats another, and the best of it is taken. -/
namespace AppGrants.Catalog
open Std

namespace OwnerName

theorem normalized?_eq_none_iff (text : List Char) : normalized? text = none ↔ ∀ c ∈ text, Text.isBlank c = true := by
  rw [← Text.words_eq_nil_iff]
  unfold normalized?
  split <;> simp_all

theorem tidy_of_normalized? {text name : List Char} (normal : normalized? text = some name) : Text.Tidy name := by
  unfold normalized? at normal
  split at normal
  · simp at normal
  next written =>
    refine ⟨Text.words text,written,fun word => Text.isWord_of_mem_words,?_⟩
    exact (Option.some.inj normal).symm

/-- All that can be read of a text is in its normal form. -/
theorem readable_sublist {text name : List Char} (normal : normalized? text = some name) :
    (text.filter (!Text.isBlank ·)).Sublist name := by
  unfold normalized? at normal
  split at normal
  · simp at normal
  next =>
    cases Option.some.inj normal
    rw [← Text.flatten_words]
    exact Text.flatten_sublist_joinWith ..

theorem prefix_commonStart_iff {pieces left right : List (List Char)} :
    pieces <+: commonStart left right ↔ pieces <+: left ∧ pieces <+: right := by
  induction pieces generalizing left right with
  | nil => simp
  | cons piece pieces ih =>
    match left,right with
    | [],right => simp [commonStart]
    | first :: left,[] => simp [commonStart]
    | first :: left,second :: right =>
      rw [commonStart]
      split
      next same =>
        subst same
        rw [List.cons_prefix_cons,List.cons_prefix_cons,List.cons_prefix_cons,ih]
        tauto
      next apart =>
        rw [List.prefix_nil,List.cons_prefix_cons,List.cons_prefix_cons]
        refine ⟨nofun,?_⟩
        rintro ⟨⟨here,-⟩,there,-⟩
        exact absurd (here.symm.trans there) apart

/-- The shared segments are the longest beginning that all of the package names have. -/
theorem prefix_commonSegments_iff {pieces : List (List Char)} (first : AppRecord) (others : List AppRecord) :
    pieces <+: commonSegments (first :: others) ↔ ∀ member ∈ first :: others, pieces <+: segments member.packageName := by
  have folded (shared : List (List Char)) :
      pieces <+: others.foldl (fun shared member => commonStart shared (segments member.packageName)) shared ↔
        pieces <+: shared ∧ ∀ member ∈ others, pieces <+: segments member.packageName := by
    induction others generalizing shared with
    | nil => simp
    | cons member rest ih => rw [List.foldl_cons,ih,prefix_commonStart_iff,List.forall_mem_cons,and_assoc]
  rw [commonSegments,folded,List.forall_mem_cons]

/-- What is put forward, each text with the confidence in it: the labels, the first before all others, and a title. -/
def labels : List AppRecord → List (List Char × Nat)
  | [] => []
  | first :: others => (first.displayLabel.toList,5) :: others.map fun member => (member.displayLabel.toList,2)

def titles (shared : List (List Char)) : List (List Char × Nat) :=
  (shared.getLast?.map fun last => (titleCase last,3)).toList

/-- The candidates that are left of what was put forward. -/
def gather (offers : List (List Char × Nat)) (held : List Candidate) : List Candidate :=
  offers.foldl (fun held offer => addCandidate held offer.1 offer.2) held

theorem candidates_eq (members : List AppRecord) (shared : List (List Char)) :
    candidates members shared = gather (titles shared) (gather (labels members) []) := by
  unfold candidates titles
  cases members <;> cases shared.getLast? <;> simp [labels,gather,List.foldl_map]

section
variable (held : List Candidate) (text : List Char) (confidence : Nat)

theorem subset_addCandidate : held ⊆ addCandidate held text confidence := by
  unfold addCandidate
  split
  · exact List.Subset.refl _
  · split
    · exact List.Subset.refl _
    · exact List.subset_append_left _ _

variable {held text confidence} {candidate : Candidate}

theorem mem_addCandidate (member : candidate ∈ addCandidate held text confidence) :
    candidate ∈ held ∨ normalized? text = some candidate.text ∧ candidate.confidence = confidence := by
  unfold addCandidate at member
  split at member
  · exact .inl member
  next normal =>
    split at member
    · exact .inl member
    · rcases List.mem_append.mp member with before | new
      · exact .inl before
      · cases List.mem_singleton.mp new
        exact .inr ⟨normal,rfl⟩

theorem addCandidate_covers {normal : List Char} (normalized : normalized? text = some normal) :
    ∃ candidate ∈ addCandidate held text confidence, asciiLower candidate.text = asciiLower normal := by
  simp only [addCandidate,normalized]
  split
  next repeated =>
    obtain ⟨candidate,member,same⟩ := List.any_eq_true.mp repeated
    exact ⟨candidate,member,by simpa using same⟩
  next => exact ⟨⟨normal,confidence⟩,by simp,rfl⟩

end

section
variable {offers : List (List Char × Nat)} {held : List Candidate} {candidate : Candidate}

theorem subset_gather (offers : List (List Char × Nat)) (held : List Candidate) : held ⊆ gather offers held := by
  induction offers generalizing held with
  | nil => exact List.Subset.refl _
  | cons offer rest ih => exact List.Subset.trans (subset_addCandidate ..) (ih _)

/-- No candidate is made up. -/
theorem mem_gather (member : candidate ∈ gather offers held) :
    candidate ∈ held ∨ ∃ offer ∈ offers, normalized? offer.1 = some candidate.text ∧ candidate.confidence = offer.2 := by
  induction offers generalizing held with
  | nil => exact .inl member
  | cons offer rest ih =>
    rcases ih member with added | ⟨later,inside,made⟩
    · rcases mem_addCandidate added with before | made
      · exact .inl before
      · exact .inr ⟨offer,.head _,made⟩
    · exact .inr ⟨later,.tail _ inside,made⟩

/-- No offer that can be read is lost; it may stand there in another case. -/
theorem gather_covers {offer : List Char × Nat} (member : offer ∈ offers) {normal : List Char}
    (normalized : normalized? offer.1 = some normal) :
    ∃ candidate ∈ gather offers held, asciiLower candidate.text = asciiLower normal := by
  induction offers generalizing held with
  | nil => simp at member
  | cons first rest ih =>
    rcases List.mem_cons.mp member with rfl | later
    · obtain ⟨candidate,added,same⟩ : ∃ candidate ∈ addCandidate held offer.1 offer.2, _ := addCandidate_covers normalized
      exact ⟨candidate,subset_gather rest _ added,same⟩
    · exact ih later

theorem gather_eq_nil_iff : gather offers [] = [] ↔ ∀ offer ∈ offers, normalized? offer.1 = none := by
  constructor
  · intro none offer member
    cases normal : normalized? offer.1 with
    | none => rfl
    | some text =>
      obtain ⟨candidate,inside,-⟩ : ∃ candidate ∈ gather offers [], _ := gather_covers member normal
      simp [none] at inside
  · intro unread
    refine List.eq_nil_iff_forall_not_mem.mpr fun candidate member => ?_
    obtain before | ⟨offer,inside,normal,-⟩ := mem_gather member
    · simp at before
    · simp [unread offer inside] at normal

end

section
variable {α : Type} {order : α → α → Ordering} [TransCmp order]

/-- Of two items the one that is held. -/
private def better (order : α → α → Ordering) (held item : α) : α := if order held item == .gt then held else item

variable (order) in
private theorem better_spec (held item : α) : (better order held item = held ∨ better order held item = item) ∧
    (order (better order held item) held).isGE ∧ (order (better order held item) item).isGE := by
  by_cases greater : order held item = .gt
  · have same : better order held item = held := if_pos (by simp [greater])
    rw [same]
    exact ⟨.inl rfl,by simp [ReflCmp.compare_self],by simp [greater]⟩
  · have same : better order held item = item := if_neg (by simpa using greater)
    have swapped : order item held = (order held item).swap := OrientedCmp.eq_swap
    rw [same,swapped]
    refine ⟨.inr rfl,?_,by simp [ReflCmp.compare_self]⟩
    cases compared : order held item with
    | gt => exact absurd compared greater
    | lt | eq => rfl

variable (order) in
private theorem foldl_better (first : α) (others : List α) : others.foldl (better order) first ∈ first :: others ∧
    ∀ item ∈ first :: others, (order (others.foldl (better order) first) item).isGE := by
  induction others generalizing first with
  | nil => simp [ReflCmp.compare_self]
  | cons second rest ih =>
    obtain ⟨either,from_first,from_second⟩ := better_spec order first second
    obtain ⟨member,greatest⟩ := ih (better order first second)
    obtain ⟨from_held,from_rest⟩ := List.forall_mem_cons.mp greatest
    rw [List.foldl_cons,List.forall_mem_cons,List.forall_mem_cons]
    refine ⟨?_,TransCmp.isGE_trans from_held from_first,TransCmp.isGE_trans from_held from_second,from_rest⟩
    rcases List.mem_cons.mp member with held | later
    · rw [held]
      rcases either with same | same <;> simp [same]
    · exact .tail _ (.tail _ later)

theorem best_spec {items : List α} {chosen : α} (found : best order items = some chosen) :
    chosen ∈ items ∧ ∀ item ∈ items, order chosen item ≠ .lt := by
  cases items with
  | nil => simp [best] at found
  | cons first others =>
    obtain ⟨member,greatest⟩ := foldl_better order first others
    cases Option.some.inj found
    exact ⟨member,fun item inside => Ordering.isGE_iff_ne_lt.mp (greatest item inside)⟩

end

instance (shared : List (List Char)) : TransCmp (compareCandidates shared) :=
  have _ : TransCmp fun left right : Candidate => Ordering.byKey Candidate.text Text.compareChars right left :=
    TransCmp.opposite
  inferInstanceAs (TransCmp (compareLex (compareOn (score shared)) fun left right : Candidate =>
    Ordering.byKey Candidate.text Text.compareChars right left))

end OwnerName
end AppGrants.Catalog
