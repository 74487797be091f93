import AppGrants.Proofs.Catalog.Candidates

/-! Names of shared uids are found on the members, and where there is anything to read on a member a name is found: the best of
the labels and of the title of the last segment that counts of what the package names begin with. -/
namespace AppGrants.Catalog
open Std

theorem AppRecord.packageName_blank {package : PackageMeta} {profile : Option Profile}
    (blank : Text.isBlankText (AppRecord.ofPackage package profile).displayLabel = true) :
    Text.isBlankText (AppRecord.ofPackage package profile).packageName = true := by
  change Text.isBlankText (AppRecord.labelFor package) = true at blank
  change Text.isBlankText package.packageName = true
  unfold AppRecord.labelFor at blank
  split at blank
  · split at blank
    · exact blank
    next label _ seen =>
      -- a label that can be read can be read when it is trimmed
      refine absurd ?_ seen
      simp only [Text.isBlankText,Text.trimmed,String.toList_ofList,List.all_eq_true] at blank ⊢
      intro c member
      by_contra readable
      exact readable (blank c (Text.mem_trim member (by simpa using readable)))
  · exact blank

namespace OwnerName

/-- The title of the last segment that counts, of the longest beginning that all package names have. -/
def Titled (members : List AppRecord) (name : List Char) : Prop :=
  ∃ (pieces : List (List Char)) (segment : List Char) (position : Nat),
    (∀ beginning, beginning <+: pieces ↔ ∀ member ∈ members, beginning <+: segments member.packageName) ∧
      (meaningful pieces).getLast? = some (asciiLower segment) ∧
      (∀ member ∈ members, (segments member.packageName)[position]? = some segment) ∧
      normalized? (titleCase (asciiLower segment)) = some name

/-- A name that can be read on the members, and no candidate is better. -/
structure Names (members : List AppRecord) (name : List Char) : Prop where
  tidy : Text.Tidy name
  origin : (∃ member ∈ members, normalized? member.displayLabel.toList = some name) ∨ Titled members name
  best : let shared := meaningful (commonSegments members)
    ∃ chosen ∈ candidates members shared, chosen.text = name ∧ ∀ other ∈ candidates members shared,
      score shared other < score shared chosen ∨
        score shared other = score shared chosen ∧ Text.compareChars name other.text ≠ .gt

theorem compareCandidates_not_lt {shared : List (List Char)} {chosen other : Candidate}
    (least : compareCandidates shared chosen other ≠ .lt) : score shared other < score shared chosen ∨
      score shared other = score shared chosen ∧ Text.compareChars chosen.text other.text ≠ .gt := by
  unfold compareCandidates at least
  rcases Int.lt_trichotomy (score shared other) (score shared chosen) with lower | same | higher
  · exact .inl lower
  · rw [same,Int.compare_eq_eq.mpr rfl,Ordering.eq_then] at least
    exact .inr ⟨same,fun greater => least (OrientedCmp.gt_iff_lt.mp greater)⟩
  · exact absurd (by rw [Int.compare_eq_lt.mpr higher]; rfl) least

variable {members : List AppRecord}

theorem mem_labels {offer : List Char × Nat} (inside : offer ∈ labels members) :
    ∃ member ∈ members, offer.1 = member.displayLabel.toList := by
  cases members with
  | nil => simp [labels] at inside
  | cons first others =>
    rcases List.mem_cons.mp inside with rfl | later
    · exact ⟨first,.head _,rfl⟩
    · obtain ⟨member,listed,rfl⟩ := List.mem_map.mp later
      exact ⟨member,.tail _ listed,rfl⟩

theorem label_mem_labels {member : AppRecord} (inside : member ∈ members) :
    ∃ offer ∈ labels members, offer.1 = member.displayLabel.toList := by
  cases members with
  | nil => simp at inside
  | cons first others =>
    rcases List.mem_cons.mp inside with rfl | later
    · exact ⟨_,.head _,rfl⟩
    · exact ⟨_,.tail _ (List.mem_map_of_mem later),rfl⟩

/-- The last segment that counts stands in each package name at the same place. -/
theorem exists_segment {last : List Char} (shared : (meaningful (commonSegments members)).getLast? = some last) :
    ∃ (segment : List Char) (position : Nat), last = asciiLower segment ∧
      ∀ member ∈ members, (segments member.packageName)[position]? = some segment := by
  have counted := List.mem_of_getLast? shared
  obtain ⟨segment,inside,rfl⟩ := List.mem_map.mp (List.mem_filter.mp counted).1
  obtain ⟨position,found⟩ := List.mem_iff_getElem?.mp inside
  refine ⟨segment,position,rfl,fun member listed => ?_⟩
  cases members with
  | nil => simp at listed
  | cons first others =>
    obtain ⟨rest,split⟩ := (prefix_commonSegments_iff first others).mp (List.prefix_refl _) member listed
    rw [← split]
    exact List.getElem?_append_left (List.getElem?_eq_some_iff.mp found).1 ▸ found

theorem titled_of_last {last name : List Char} (shared : (meaningful (commonSegments members)).getLast? = some last)
    (normal : normalized? (titleCase last) = some name) : Titled members name := by
  obtain ⟨segment,position,rfl,placed⟩ := exists_segment shared
  refine ⟨commonSegments members,segment,position,fun beginning => ?_,shared,placed,normal⟩
  cases members with
  | nil => simp [commonSegments,meaningful] at shared
  | cons first others => exact prefix_commonSegments_iff first others

theorem names_of_best {chosen : Candidate} (found : best (compareCandidates (meaningful (commonSegments members)))
    (candidates members (meaningful (commonSegments members))) = some chosen) : Names members chosen.text := by
  obtain ⟨member,least⟩ := best_spec found
  have origin : (∃ member ∈ members, normalized? member.displayLabel.toList = some chosen.text) ∨ Titled members chosen.text := by
    rw [candidates_eq] at member
    rcases mem_gather member with labelled | ⟨offer,inside,normal,-⟩
    · obtain none | ⟨offer,inside,normal,-⟩ := mem_gather labelled
      · simp at none
      · obtain ⟨record,listed,same⟩ := mem_labels inside
        exact .inl ⟨record,listed,same ▸ normal⟩
    · obtain ⟨last,shared,rfl⟩ :
          ∃ last, (meaningful (commonSegments members)).getLast? = some last ∧ (titleCase last,3) = offer := by
        simpa [titles] using inside
      exact .inr (titled_of_last shared normal)
  refine ⟨?_,origin,chosen,member,rfl,fun other inside => compareCandidates_not_lt (least other inside)⟩
  obtain ⟨_,_,normal⟩ | ⟨_,_,_,_,_,_,normal⟩ := origin <;> exact tidy_of_normalized? normal

theorem normalized?_label_eq_none_iff (text : String) : normalized? text.toList = none ↔ Text.isBlankText text = true := by
  rw [normalized?_eq_none_iff,Text.isBlankText,List.all_eq_true]

theorem candidates_eq_nil_iff (shared : List (List Char)) : candidates members shared = [] ↔
    (∀ member ∈ members, Text.isBlankText member.displayLabel = true) ∧
      ∀ last, shared.getLast? = some last → normalized? (titleCase last) = none := by
  have gathered : candidates members shared = gather (labels members ++ titles shared) [] := by
    rw [candidates_eq,gather,gather,gather,List.foldl_append]
  rw [gathered,gather_eq_nil_iff,List.forall_mem_append]
  refine and_congr ⟨fun unread member inside => ?_,fun blank offer inside => ?_⟩ (by simp [titles])
  · obtain ⟨offer,put_forward,same⟩ := label_mem_labels inside
    rw [← normalized?_label_eq_none_iff,← same]
    exact unread offer put_forward
  · obtain ⟨member,listed,same⟩ := mem_labels inside
    rw [same,normalized?_label_eq_none_iff]
    exact blank member listed

theorem ofMembers_eq_none_iff :
    ofMembers members = none ↔ candidates members (meaningful (commonSegments members)) = [] := by
  unfold ofMembers
  rw [Option.map_eq_none_iff]
  cases candidates members (meaningful (commonSegments members)) <;> simp [best]

theorem titleCase_blank {text : List Char} (blank : ∀ c ∈ text, Text.isBlank c = true) : titleCase (asciiLower text) = text := by
  have lowered : asciiLower text = text :=
    (List.map_congr_left fun c member => (Text.caseless_of_isBlank (blank c member)).1).trans text.map_id'
  cases text with
  | nil => rfl
  | cons c rest =>
    rw [lowered,titleCase,(Text.caseless_of_isBlank (blank c (.head _))).2]
    rfl

/-- A text without a separator is the one part of it. -/
theorem segments_of_blank {name : String} (blank : Text.isBlankText name = true) : segments name = [name.toList] := by
  refine Text.parts_of_none fun c member => ?_
  rw [Text.isBlankText,List.all_eq_true] at blank
  rw [beq_eq_false_iff_ne]
  rintro rfl
  exact absurd (blank _ member) (by decide)

/-- Where there is nothing to read on a member its package name is white space, and so is what would be made of it. -/
theorem title_unread {last : List Char} (built : ∀ member ∈ members, ∃ package profile, member = .ofPackage package profile)
    (blank : ∀ member ∈ members, Text.isBlankText member.displayLabel = true)
    (shared : (meaningful (commonSegments members)).getLast? = some last) : normalized? (titleCase last) = none := by
  obtain ⟨segment,position,rfl,placed⟩ := exists_segment shared
  cases members with
  | nil => simp [commonSegments,meaningful] at shared
  | cons first others =>
    obtain ⟨package,profile,rfl⟩ := built first (.head _)
    have unread := AppRecord.packageName_blank (blank _ (.head _))
    have whole := List.mem_of_getElem? (placed _ (.head _))
    rw [segments_of_blank unread,List.mem_singleton] at whole
    rw [Text.isBlankText,List.all_eq_true,← whole] at unread
    rw [normalized?_eq_none_iff,titleCase_blank unread]
    exact unread

end OwnerName

section
variable {overrides : List (Int32 × String)} {uid : Uid}

theorem ownerName_eq (unforced : overrides.lookup uid = none) (unknown : OwnerName.wellKnown.lookup uid.appId = none)
    (members : List AppRecord) : ownerName overrides uid members = OwnerName.ofMembers members := by
  simp [ownerName,unforced,unknown]

theorem ownerName_isSome {members : List AppRecord} {member : AppRecord} (inside : member ∈ members)
    (readable : Text.isBlankText member.displayLabel = false) : (ownerName overrides uid members).isSome = true := by
  unfold ownerName
  split
  · rfl
  · split
    · rfl
    · rw [Option.isSome_iff_ne_none,Ne,OwnerName.ofMembers_eq_none_iff,OwnerName.candidates_eq_nil_iff]
      intro nothing
      simp [nothing.1 member inside] at readable

end

theorem group_ownerLabel {shouldUnmount : Uid → Bool} {naming : OwnerNaming} {records : List AppRecord} {one : Group}
    (member : one ∈ group shouldUnmount naming records) (shared : 2 ≤ one.members.length) :
    one.ownerLabel = naming one.uid one.members := by
  obtain ⟨uid,-,found⟩ := List.mem_filterMap.mp ((sortBy_perm ..).mem_iff.mp member)
  unfold Group.ofUid? at found
  split at found
  · simp at found
  next first others sorted =>
    cases Option.some.inj found
    cases others with
    | nil => simp [Group.ofMembers] at shared
    | cons second rest => rfl

/-- Of a uid without a name of its own: no name if and only if there is nothing to read on any member, else one that is found on the
members and that no candidate beats. So each group of several members has one if there is anything to read on a member. -/
theorem ownerName_names (overrides : List (Int32 × String)) (uid : Uid) (members : List AppRecord)
    (unforced : overrides.lookup uid = none) (unknown : OwnerName.wellKnown.lookup uid.appId = none)
    (built : ∀ member ∈ members, ∃ package profile, member = .ofPackage package profile) :
    (ownerName overrides uid members = none ↔ ∀ member ∈ members, Text.isBlankText member.displayLabel = true) ∧
      (∀ name, ownerName overrides uid members = some name → OwnerName.Names members name.toList) ∧
      ∀ shouldUnmount records, ∀ one ∈ group shouldUnmount (ownerName overrides) records, 2 ≤ one.members.length →
        (∃ member ∈ one.members, Text.isBlankText member.displayLabel = false) → one.ownerLabel.isSome = true := by
  rw [ownerName_eq unforced unknown]
  refine ⟨?_,?_,?_⟩
  · rw [OwnerName.ofMembers_eq_none_iff,OwnerName.candidates_eq_nil_iff]
    exact ⟨And.left,fun blank => ⟨blank,fun last shared => OwnerName.title_unread built blank shared⟩⟩
  · intro name named
    obtain ⟨chosen,found,rfl⟩ := Option.map_eq_some_iff.mp named
    rw [String.toList_ofList]
    exact OwnerName.names_of_best found
  · rintro shouldUnmount records one member shared ⟨record,inside,readable⟩
    rw [group_ownerLabel member shared]
    exact ownerName_isSome inside readable

/-- One label is white space only, the other is missing. -/
def foowareApps : List AppRecord := [
  .ofPackage { packageName := "org.fooware.sync", uid := 10300, label := some "\u00A0" } none,
  .ofPackage { packageName := "org.fooware.backup", uid := 10300 } none]

theorem ownerName_names_fooware :
    ownerName [] 10300 foowareApps = some "Fooware" ∧ OwnerName.Names foowareApps "Fooware".toList := by
  have named : ownerName [] 10300 foowareApps = some "Fooware" := by decide +kernel
  have built : ∀ member ∈ foowareApps, ∃ package profile, member = .ofPackage package profile := by
    intro member inside
    simp only [foowareApps,List.mem_cons,List.not_mem_nil,or_false] at inside
    rcases inside with rfl | rfl <;> exact ⟨_,_,rfl⟩
  exact ⟨named,(ownerName_names [] 10300 foowareApps rfl (by decide) built).2.1 _ named⟩

end AppGrants.Catalog
