import AppGrants.Proofs.Catalog.Naming
import Mathlib

/-! Names of shared uids whose members have no labels. The title of the last segment that the package names share has 48 points. A
bare package name has 40 points less than a label, but 18 for each of its words that is shared; so it loses to the title as long
as it has few of them, and wins where it has more. -/
namespace AppGrants

namespace Text

theorem toLower_of_le {c : Char} (beyond : 128 ≤ c.toNat) : c.toLower = c := by
  refine Char.toLower_eq_of_not_isUpper fun capital => ?_
  have bound : c.toNat ≤ 90 := UInt32.le_iff_toNat_le.mp (of_decide_eq_true capital).2
  omega

theorem forall_ascii (claim : Char → Prop) (all : ∀ n < 128, claim (Char.ofNat n)) {c : Char} (ascii : c.toNat < 128) :
    claim c := by
  have here := all c.toNat ascii
  rwa [Char.ofNat_toNat] at here

theorem isAlphanumeric_toLower (c : Char) : isAlphanumeric c.toLower = isAlphanumeric c := by
  rcases Nat.lt_or_ge c.toNat 128 with ascii | beyond
  · exact forall_ascii (fun c => isAlphanumeric c.toLower = isAlphanumeric c) (by decide +kernel) ascii
  · rw [toLower_of_le beyond]

/-- Lowering makes no character that is not a letter. -/
theorem toLower_eq_iff {c mark : Char} (uncased : isAlphanumeric mark = false) : c.toLower = mark ↔ c = mark := by
  rcases Nat.lt_or_ge c.toNat 128 with ascii | beyond
  · have kept : isAlphanumeric c = true ∨ c.toLower = c :=
      forall_ascii (fun c => isAlphanumeric c = true ∨ c.toLower = c) (by decide +kernel) ascii
    rcases kept with plain | same
    · constructor
      · rintro rfl
        rw [isAlphanumeric_toLower,plain] at uncased
        simp at uncased
      · rintro rfl
        simp [plain] at uncased
    · rw [same]
  · rw [toLower_of_le beyond]

theorem isAlphanumeric_toUpper {c : Char} (ascii : c.toNat < 128) : isAlphanumeric c.toUpper = isAlphanumeric c :=
  forall_ascii (fun c => isAlphanumeric c.toUpper = isAlphanumeric c) (by decide +kernel) ascii

/-- Letters and digits are not white space, in either case. -/
theorem solid_of_isAlphanumeric {c : Char} (ascii : c.toNat < 128) (plain : isAlphanumeric c = true) :
    isBlank c = false ∧ isBlank c.toUpper = false :=
  forall_ascii (fun c => isAlphanumeric c = true → isBlank c = false ∧ isBlank c.toUpper = false) (by decide +kernel) ascii plain

end Text

namespace Catalog
namespace OwnerName

theorem nameWords_asciiLower (text : List Char) : nameWords (asciiLower text) = nameWords text := by
  simp [nameWords,asciiLower,Function.comp_def,Text.isAlphanumeric_toLower]

theorem mem_asciiLower_iff {text : List Char} {mark : Char} (uncased : Text.isAlphanumeric mark = false) :
    mark ∈ asciiLower text ↔ mark ∈ text := by
  simp [asciiLower,Text.toLower_eq_iff uncased]

theorem titleCase_ascii {first : Char} (ascii : first.toNat < 128) (rest : List Char) :
    titleCase (first :: rest) = first.toUpper :: rest := by
  rw [titleCase,Text.upperChar,if_pos ascii,List.singleton_append]

/-- A segment of small letters and digits. -/
structure Plain (segment : List Char) : Prop where
  ascii : ∀ c ∈ segment, c.toNat < 128
  plain : ∀ c ∈ segment, Text.isAlphanumeric c = true
  small : ∀ c ∈ segment, c.toLower = c

namespace Plain
variable {segment : List Char} (is_plain : Plain segment)
include is_plain

theorem titleCase_plain : ∀ c ∈ titleCase segment, Text.isAlphanumeric c = true := by
  obtain ⟨ascii,plain,-⟩ := is_plain
  cases segment with
  | nil => simp [titleCase]
  | cons first rest =>
    rw [titleCase_ascii (ascii first (.head _)),List.forall_mem_cons,Text.isAlphanumeric_toUpper (ascii first (.head _))]
    exact List.forall_mem_cons.mp plain

theorem dot_not_mem_titleCase : '.' ∉ titleCase segment :=
  fun dot => absurd (is_plain.titleCase_plain _ dot) (by decide)

theorem length_titleCase : (titleCase segment).length = segment.length := by
  cases segment with
  | nil => rfl
  | cons first rest => rw [titleCase_ascii (is_plain.ascii first (.head _)),List.length_cons,List.length_cons]

/-- A title is read as the segment that it is made of. -/
theorem nameWords_titleCase (written : segment ≠ []) : nameWords (titleCase segment) = [segment] := by
  obtain ⟨ascii,plain,small⟩ := is_plain
  have folded : (titleCase segment).map (fun c => if Text.isAlphanumeric c then c.toLower else ' ') = segment := by
    cases segment with
    | nil => rfl
    | cons first rest =>
      obtain ⟨first_plain,plain⟩ := List.forall_mem_cons.mp plain
      obtain ⟨first_small,small⟩ := List.forall_mem_cons.mp small
      have first_ascii := ascii first (.head _)
      have kept : rest.map (fun c => if Text.isAlphanumeric c then c.toLower else ' ') = rest :=
        (List.map_congr_left fun c member => by rw [if_pos (plain c member),small c member]).trans rest.map_id'
      rw [titleCase_ascii first_ascii,List.map_cons,kept,Text.isAlphanumeric_toUpper first_ascii,if_pos first_plain,
        Char.toLower_toUpper_eq_toLower,first_small]
  rw [nameWords,folded]
  exact Text.words_of_isWord ⟨written,fun c member => (Text.solid_of_isAlphanumeric (ascii c member) (plain c member)).1⟩

theorem normalized?_titleCase (written : segment ≠ []) : normalized? (titleCase segment) = some (titleCase segment) := by
  have solid : Text.IsWord (titleCase segment) := by
    obtain ⟨ascii,plain,-⟩ := is_plain
    cases segment with
    | nil => exact absurd rfl written
    | cons first rest =>
      have unblank c (member : c ∈ first :: rest) := Text.solid_of_isAlphanumeric (ascii c member) (plain c member)
      rw [titleCase_ascii (ascii first (.head _))]
      refine ⟨List.cons_ne_nil _ _,List.forall_mem_cons.mpr ⟨(unblank first (.head _)).2,fun c member => ?_⟩⟩
      exact (unblank c (.tail _ member)).1
  simp [normalized?,Text.words_of_isWord solid,Text.joinWith]

end Plain

/-- How many of the words of a text are shared segments. -/
def known (shared : List (List Char)) (text : List Char) : Nat := ((nameWords text).filter shared.contains).length

section
variable {shared : List (List Char)}

/-- A title is put forward with 30 points, and 18 are given for the segment that it is made of. -/
theorem score_titleCase {last : List Char} (is_plain : Plain last) (member : last ∈ shared) (long : 3 < last.length) :
    score shared ⟨titleCase last,3⟩ = 48 := by
  have written : last ≠ [] := List.ne_nil_of_length_pos (by omega)
  have wide : ¬(titleCase last).length ≤ 3 := by rw [is_plain.length_titleCase]; omega
  simp [score,is_plain.nameWords_titleCase written,member,is_plain.dot_not_mem_titleCase,wide]

/-- A label loses to a title: 40 points are taken from one that has a dot and is a single word. -/
def Yields (shared : List (List Char)) (confidence : Nat) (text : List Char) : Prop :=
  10 * confidence + 18 * known shared text < 48 + if ' ' ∈ text then 0 else 40

theorem score_dotted {text : List Char} (dotted : '.' ∈ text) (long : 3 < text.length) (confidence : Nat) :
    score shared ⟨text,confidence⟩ = 10 * confidence + 18 * known shared text - if ' ' ∈ text then 0 else 40 := by
  have wide : ¬text.length ≤ 3 := by omega
  by_cases spaced : ' ' ∈ text <;> simp only [score,known,spaced] <;> simp [dotted,wide,spaced] <;> omega

theorem score_lt_iff {text : List Char} (dotted : '.' ∈ text) (long : 3 < text.length) (confidence : Nat) :
    score shared ⟨text,confidence⟩ < 48 ↔ Yields shared confidence text := by
  rw [score_dotted dotted long,Yields]
  split <;> omega

/-- Case does not matter for the points of a text. -/
theorem Yields.of_asciiLower {text other : List Char} {less more : Nat} (yields : Yields shared more other)
    (same : asciiLower other = asciiLower text) (confident : less ≤ more) : Yields shared less text := by
  have words : nameWords other = nameWords text := by rw [← nameWords_asciiLower other,same,nameWords_asciiLower]
  have spaced : ' ' ∈ other ↔ ' ' ∈ text := by
    have uncased : Text.isAlphanumeric ' ' = false := by decide
    rw [← mem_asciiLower_iff uncased,same,mem_asciiLower_iff uncased]
  simp only [Yields,known,words,spaced] at yields ⊢
  omega

end

/-- Nothing but the package name to show, which is of ASCII and has a dot. -/
structure Unlabelled (record : AppRecord) : Prop where
  label : record.displayLabel = record.packageName
  ascii : ∀ c ∈ record.packageName.toList, c.toNat < 128
  dotted : '.' ∈ record.packageName.toList

theorem segment_sublist {name : String} {segment : List Char} (inside : segment ∈ segments name) :
    segment.Sublist name.toList := by
  have whole := List.sublist_flatten_of_mem inside
  rw [segments,Text.flatten_parts] at whole
  exact whole.trans List.filter_sublist

section
variable {members : List AppRecord} {last : List Char} (unlabelled : ∀ member ∈ members, Unlabelled member)
  (shared : (meaningful (commonSegments members)).getLast? = some last)
  (plain : ∀ c ∈ last, Text.isAlphanumeric c = true)
include unlabelled shared plain

theorem plain_last : Plain last := by
  obtain ⟨segment,position,rfl,placed⟩ := exists_segment shared
  cases members with
  | nil => simp [commonSegments,meaningful] at shared
  | cons first others =>
    have inside := segment_sublist (List.mem_of_getElem? (placed first (.head _)))
    refine ⟨fun c member => ?_,plain,fun c member => ?_⟩
    all_goals obtain ⟨d,written,rfl⟩ := List.mem_map.mp member
    · exact Text.forall_ascii (fun d => d.toLower.toNat < 128) (by decide +kernel)
        ((unlabelled first (.head _)).ascii d (inside.subset written))
    · exact d.toLower_toLower_eq_toLower

/-- The normal form of a package name still has a dot, and it is no shorter than the shared segment. -/
theorem name_dotted_long {member : AppRecord} (listed : member ∈ members) {text : List Char}
    (normal : normalized? member.displayLabel.toList = some text) : '.' ∈ text ∧ last.length ≤ text.length := by
  have readable := readable_sublist normal
  rw [(unlabelled member listed).label] at readable
  refine ⟨readable.subset (List.mem_filter.mpr ⟨(unlabelled member listed).dotted,by decide⟩),?_⟩
  obtain ⟨segment,position,rfl,placed⟩ := exists_segment shared
  have within := segment_sublist (List.mem_of_getElem? (placed member listed))
  have inside := within.filter (!Text.isBlank ·)
  have solid : segment.filter (!Text.isBlank ·) = segment := by
    refine List.filter_eq_self.mpr fun c member => ?_
    have lowered := plain c.toLower (List.mem_map_of_mem member)
    rw [Text.isAlphanumeric_toLower] at lowered
    have ascii := (unlabelled _ listed).ascii c (within.subset member)
    simp [(Text.solid_of_isAlphanumeric ascii lowered).1]
  rw [solid] at inside
  simpa [asciiLower] using (inside.trans readable).length_le

end

theorem confidence_of_label {members : List AppRecord} {held : Candidate} (inside : held ∈ gather (labels members) []) :
    held.confidence = 5 ∨ held.confidence = 2 := by
  obtain none | ⟨offer,put_forward,-,same⟩ := mem_gather inside
  · simp at none
  · rw [same]
    cases members with
    | nil => simp [labels] at put_forward
    | cons first others =>
      rcases List.mem_cons.mp put_forward with rfl | later
      · exact .inl rfl
      · obtain ⟨_,_,rfl⟩ := List.mem_map.mp later
        exact .inr rfl

/-- Each label that can be read is among the candidates, in some case and with no less confidence. -/
theorem labels_cover {members : List AppRecord} {offer : List Char × Nat} (member : offer ∈ labels members) {text : List Char}
    (normal : normalized? offer.1 = some text) :
    ∃ held ∈ gather (labels members) [], asciiLower held.text = asciiLower text ∧ offer.2 ≤ held.confidence := by
  cases members with
  | nil => simp [labels] at member
  | cons first others =>
    rcases List.mem_cons.mp member with rfl | later
    · have alone : addCandidate [] first.displayLabel.toList 5 = [⟨text,5⟩] := by
        rw [addCandidate,normal]
        rfl
      refine ⟨⟨text,5⟩,?_,rfl,Nat.le_refl _⟩
      rw [labels,gather,List.foldl_cons,alone]
      exact subset_gather _ _ (List.mem_singleton_self _)
    · obtain ⟨held,inside,same⟩ : ∃ held ∈ gather (labels (first :: others)) [], _ := gather_covers member normal
      obtain ⟨_,_,rfl⟩ := List.mem_map.mp later
      have confident := confidence_of_label inside
      exact ⟨held,inside,same,show 2 ≤ held.confidence by omega⟩

section
variable {members : List AppRecord} {last : List Char} (unlabelled : ∀ member ∈ members, Unlabelled member)
  (shared : (meaningful (commonSegments members)).getLast? = some last)
  (plain : ∀ c ∈ last, Text.isAlphanumeric c = true) (long : 3 < last.length)
include unlabelled shared plain long

theorem label_dotted_long {held : Candidate} (inside : held ∈ gather (labels members) []) :
    '.' ∈ held.text ∧ 3 < held.text.length := by
  obtain none | ⟨offer,put_forward,normal,-⟩ := mem_gather inside
  · simp at none
  · obtain ⟨member,listed,same⟩ := mem_labels put_forward
    obtain ⟨dotted,longer⟩ := name_dotted_long unlabelled shared plain listed (same ▸ normal)
    exact ⟨dotted,by omega⟩

/-- The title repeats no label, for it has no dot. -/
theorem candidates_unlabelled : candidates members (meaningful (commonSegments members)) =
    gather (labels members) [] ++ [⟨titleCase last,3⟩] := by
  have is_plain := plain_last unlabelled shared plain
  have normal := is_plain.normalized?_titleCase (List.ne_nil_of_length_pos (by omega))
  have new : ¬((gather (labels members) []).any fun held => asciiLower held.text == asciiLower (titleCase last)) = true := by
    rw [List.any_eq_true]
    rintro ⟨held,inside,repeated⟩
    have uncased : Text.isAlphanumeric '.' = false := by decide
    have dotted := (label_dotted_long unlabelled shared plain long inside).1
    rw [← mem_asciiLower_iff uncased,beq_iff_eq.mp repeated,mem_asciiLower_iff uncased] at dotted
    exact is_plain.dot_not_mem_titleCase dotted
  have added : addCandidate (gather (labels members) []) (titleCase last) 3 =
      gather (labels members) [] ++ [⟨titleCase last,3⟩] := by
    rw [addCandidate,normal]
    exact if_neg new
  rw [candidates_eq,titles,shared]
  exact added

theorem score_title : score (meaningful (commonSegments members)) ⟨titleCase last,3⟩ = 48 :=
  score_titleCase (plain_last unlabelled shared plain) (List.mem_of_getLast? shared) long

/-- No label has as many points as the title. -/
theorem score_label_ne {held : Candidate} (inside : held ∈ gather (labels members) []) :
    score (meaningful (commonSegments members)) held ≠ 48 := by
  obtain ⟨dotted,longer⟩ := label_dotted_long unlabelled shared plain long inside
  have confident := confidence_of_label inside
  rw [score_dotted dotted longer]
  split <;> omega

theorem best_title_iff {chosen : Candidate} (found : best (compareCandidates (meaningful (commonSegments members)))
    (candidates members (meaningful (commonSegments members))) = some chosen) :
    chosen = ⟨titleCase last,3⟩ ↔ ∀ offer ∈ labels members, ∀ text, normalized? offer.1 = some text →
      Yields (meaningful (commonSegments members)) offer.2 text := by
  obtain ⟨member,least⟩ := best_spec found
  rw [candidates_unlabelled unlabelled shared plain long] at member least
  have titled := score_title unlabelled shared plain long
  constructor
  · rintro rfl offer put_forward text normal
    obtain ⟨held,inside,same,confident⟩ := labels_cover put_forward normal
    obtain ⟨dotted,longer⟩ := label_dotted_long unlabelled shared plain long inside
    have beaten : score (meaningful (commonSegments members)) held < 48 := by
      rcases compareCandidates_not_lt (least held (List.mem_append_left _ inside)) with lower | ⟨tied,-⟩
      · rwa [titled] at lower
      · exact absurd (tied.trans titled) (score_label_ne unlabelled shared plain long inside)
    exact ((score_lt_iff dotted longer held.confidence).mp beaten).of_asciiLower same confident
  · intro yield
    rcases List.mem_append.mp member with label | title
    · obtain none | ⟨offer,put_forward,normal,confidence⟩ := mem_gather label
      · simp at none
      · obtain ⟨dotted,longer⟩ := label_dotted_long unlabelled shared plain long label
        have beaten := (score_lt_iff dotted longer chosen.confidence).mpr (confidence ▸ yield offer put_forward _ normal)
        have unbeaten := compareCandidates_not_lt (least ⟨titleCase last,3⟩ (by simp))
        change score (meaningful (commonSegments members)) chosen < 48 at beaten
        omega
    · exact List.mem_singleton.mp title

end

/-- The label that is the best candidate is a package name. -/
theorem exists_name_of_label {held : Candidate} (unlabelled : ∀ member ∈ members, Unlabelled member)
    (inside : held ∈ gather (labels members) []) : ∃ member ∈ members, normalized? member.packageName.toList = some held.text := by
  obtain none | ⟨offer,put_forward,normal,-⟩ := mem_gather inside
  · simp at none
  · obtain ⟨member,listed,same⟩ := mem_labels put_forward
    exact ⟨member,listed,by rw [← (unlabelled member listed).label,← same,normal]⟩

theorem forall_labels_iff {first : AppRecord} {others : List AppRecord} {claim : Nat → List Char → Prop}
    (unlabelled : ∀ member ∈ first :: others, Unlabelled member) :
    (∀ offer ∈ labels (first :: others), ∀ text, normalized? offer.1 = some text → claim offer.2 text) ↔
      (∀ text, normalized? first.packageName.toList = some text → claim 5 text) ∧
        ∀ other ∈ others, ∀ text, normalized? other.packageName.toList = some text → claim 2 text := by
  rw [labels,List.forall_mem_cons,List.forall_mem_map,(unlabelled first (.head _)).label]
  refine and_congr_right fun _ => forall₂_congr fun other listed => ?_
  rw [(unlabelled other (.tail _ listed)).label]

section
variable {shared : List (List Char)} {text : List Char} (unspaced : ' ' ∉ text)
include unspaced

/-- Of the words of the first package name at most two are shared. -/
theorem yields_first_iff : Yields shared 5 text ↔ known shared text ≤ 2 := by
  rw [Yields,if_neg unspaced]
  omega

theorem yields_other_iff : Yields shared 2 text ↔ known shared text ≤ 3 := by
  rw [Yields,if_neg unspaced]
  omega

end
end OwnerName

open OwnerName

/-- Without labels a group of a shared uid has the title of the last segment that its package names share if and only if each of
them yields to it, and else one of the package names: among names without blanks, if at most two words of the first and three of
any other are shared segments. -/
theorem ownerName_titles (overrides : List (Int32 × String)) (uid : Uid) (first : AppRecord) (others : List AppRecord)
    (last : List Char) (unforced : overrides.lookup uid = none) (unknown : wellKnown.lookup uid.appId = none)
    (unlabelled : ∀ member ∈ first :: others, Unlabelled member)
    (shared : (meaningful (commonSegments (first :: others))).getLast? = some last)
    (plain : ∀ c ∈ last, Text.isAlphanumeric c = true) (long : 3 < last.length) :
    let name := ownerName overrides uid (first :: others)
    let title := String.ofList (titleCase last)
    let yields (confidence : Nat) (member : AppRecord) := ∀ text, normalized? member.packageName.toList = some text →
      Yields (meaningful (commonSegments (first :: others))) confidence text
    (name = some title ↔ yields 5 first ∧ ∀ other ∈ others, yields 2 other) ∧
      (name ≠ some title → ∃ member ∈ first :: others, ∃ text, normalized? member.packageName.toList = some text ∧
        name = some (String.ofList text)) := by
  intro name title yields
  have named : name = ofMembers (first :: others) := ownerName_eq unforced unknown _
  have listed := candidates_unlabelled unlabelled shared plain long
  cases found : best (compareCandidates (meaningful (commonSegments (first :: others))))
      (candidates (first :: others) (meaningful (commonSegments (first :: others)))) with
  | none =>
    have empty := ofMembers_eq_none_iff.mp (Option.map_eq_none_iff.mpr found)
    simp [listed] at empty
  | some chosen =>
    have called : name = some (String.ofList chosen.text) := by rw [named,ofMembers,found]; rfl
    have member := (best_spec found).1
    rw [listed] at member
    have titled : name = some title ↔ chosen = ⟨titleCase last,3⟩ := by
      rw [called,Option.some_inj,String.ofList_inj]
      refine ⟨fun same => ?_,fun same => by rw [same]⟩
      rcases List.mem_append.mp member with label | titled
      · have dotted := (label_dotted_long unlabelled shared plain long label).1
        exact absurd (same ▸ dotted) (plain_last unlabelled shared plain).dot_not_mem_titleCase
      · exact List.mem_singleton.mp titled
    have chooses := (best_title_iff unlabelled shared plain long found).trans (forall_labels_iff unlabelled)
    refine ⟨titled.trans chooses,fun beaten => ?_⟩
    rcases List.mem_append.mp member with label | same
    · obtain ⟨record,inside,normal⟩ := exists_name_of_label unlabelled label
      exact ⟨record,inside,chosen.text,normal,called⟩
    · exact absurd (titled.mpr (List.mem_singleton.mp same)) beaten

/-- Apps of one shared uid and without labels. -/
def unnamed (packageNames : List String) : List AppRecord :=
  packageNames.map fun packageName => .ofPackage { packageName, uid := 10300 } none

theorem unlabelled_unnamed (packageNames : List String)
    (written : ∀ name ∈ packageNames, (name.toList.all fun c => c.toNat < 128) = true ∧ '.' ∈ name.toList) :
    ∀ member ∈ unnamed packageNames, Unlabelled member := by
  intro member inside
  obtain ⟨name,listed,rfl⟩ := List.mem_map.mp inside
  obtain ⟨ascii,dotted⟩ := written name listed
  exact ⟨rfl,fun c member => of_decide_eq_true (List.all_eq_true.mp ascii c member),dotted⟩

def cloudApps : List AppRecord := unnamed ["com.acme.cloud.sync", "com.acme.cloud.backup"]

/-- Two words of each package name are shared, as many as the title stands against. -/
theorem ownerName_titles_cloud :
    (∀ member ∈ cloudApps, Unlabelled member) ∧ ownerName [] 10300 cloudApps = some "Cloud" := by
  have unlabelled : ∀ member ∈ cloudApps, Unlabelled member := unlabelled_unnamed _ (by decide +kernel)
  have shared : (meaningful (commonSegments cloudApps)).getLast? = some "cloud".toList := by decide +kernel
  have plain : ∀ c ∈ "cloud".toList, Text.isAlphanumeric c = true := List.all_eq_true.mp (by decide +kernel)
  have titles := ownerName_titles [] 10300 _ _ "cloud".toList rfl (by decide) unlabelled shared plain (by decide)
  refine ⟨unlabelled,titles.1.mpr ⟨fun text normal => ?_,fun other listed text normal => ?_⟩⟩
  · have itself : normalized? "com.acme.cloud.sync".toList = some "com.acme.cloud.sync".toList := by decide +kernel
    cases itself.symm.trans normal
    exact (yields_first_iff (by decide +kernel)).mpr (by decide +kernel)
  · cases List.mem_singleton.mp listed
    have itself : normalized? "com.acme.cloud.backup".toList = some "com.acme.cloud.backup".toList := by decide +kernel
    cases itself.symm.trans normal
    exact (yields_other_iff (by decide +kernel)).mpr (by decide +kernel)

/-- With three words of each that are shared the first package name has 64 points, and the title "Cloud" is not taken. -/
theorem not_always_titled :
    let members := unnamed ["com.acme.tools.cloud.sync", "com.acme.tools.cloud.backup"]
    (∀ member ∈ members, Unlabelled member) ∧
      meaningful (commonSegments members) = ["acme".toList,"tools".toList,"cloud".toList] ∧
      (∀ c ∈ "cloud".toList, Text.isAlphanumeric c = true) ∧ 3 < "cloud".toList.length ∧
      wellKnown.lookup (10300 : Uid).appId = none ∧ ownerName [] 10300 members = some "com.acme.tools.cloud.sync" :=
  ⟨unlabelled_unnamed _ (by decide +kernel),by decide +kernel,List.all_eq_true.mp (by decide +kernel),by decide +kernel⟩

end Catalog
end AppGrants
