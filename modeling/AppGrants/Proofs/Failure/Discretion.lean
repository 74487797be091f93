import AppGrants.Proofs.Failure.Building
import AppGrants.Proofs.Text.Words

/-! What a release build shows of a foreign error. It is a short line that names no data path, and it depends on nothing but the first
text of the error that is not blank. -/
namespace AppGrants.Failure
open Text (isBlankText trim trim_sublist exists_seen_of_trim)

/-- Something that can be read, on one line, of at most 220 bytes, without a data path. -/
structure Discreet (cause : String) : Prop where
  seen : isBlankText cause = false
  line : '\n' ∉ cause.toList
  short : cause.utf8ByteSize ≤ 220
  pathless : ¬"/data/".toList <:+: cause.toList

theorem discreet_hiddenCause : Discreet hiddenCause where
  seen := by decide
  line := by decide
  short := by decide
  pathless := by
    rw [← hasInfix_iff]
    decide

theorem discreet_shownCause (cause : String) : Discreet (shownCause cause) := by
  unfold shownCause
  dsimp only
  generalize spaced : cause.toList.map (fun c => if c = '\n' then ' ' else c) = text
  split
  · exact discreet_hiddenCause
  next shown =>
    simp only [Bool.or_eq_true,decide_eq_true_eq,not_or,not_lt] at shown
    obtain ⟨⟨written,short⟩,pathless⟩ := shown
    have whole : (String.ofList (trim text)).toList = trim text := String.toList_ofList
    refine ⟨?_,?_,short,?_⟩
    · obtain ⟨c,member,seen⟩ := exists_seen_of_trim fun empty => written (List.isEmpty_iff.mpr empty)
      rw [isBlankText,whole]
      exact List.all_eq_false.mpr ⟨c,member,by simp [seen]⟩
    · rw [whole]
      intro feed
      have feed := (trim_sublist _).subset feed
      rw [← spaced] at feed
      obtain ⟨c,-,same⟩ := List.mem_map.mp feed
      split at same
      · exact absurd same (by decide)
      next apart => exact apart same
    · rw [whole]
      intro found
      exact pathless ((hasInfix_iff ..).mpr found)

/-- The first text of an error that is not blank. -/
def firstSeen? (texts : List String) : Option String := texts.find? (!isBlankText ·)

theorem firstSeen?_eq_none_iff (texts : List String) : firstSeen? texts = none ↔ ∀ text ∈ texts, isBlankText text = true := by
  simp [firstSeen?]

theorem ofRaised_release (remarks texts : List String) : ofRaised .release ⟨remarks,.texts texts⟩ =
    ⟨FailureKind.internal.code,"operation failed",[],(firstSeen? (remarks ++ texts)).toList.map shownCause⟩ := by
  rw [firstSeen?,← head?_collect]
  rfl

theorem causes_telling (build : Build) (telling : Telling) (raised : Raised) :
    (telling.failure build raised).causes = (ofRaised build raised).causes := by
  cases telling <;> rfl

/-- However a foreign error is told in a release build, at most one cause is shown, which is discreet, and none only where all of its
texts are blank; and errors with the same first text that is not blank are told alike, whatever lies behind it. -/
theorem release_hides {α : Type} (telling : Telling) (remarks texts : List String) : ∃ told,
    telling.result .release (.error ⟨remarks,.texts texts⟩ : Except Raised α) = .error told ∧
    told.causes.length ≤ 1 ∧ (∀ cause ∈ told.causes, Discreet cause) ∧
    (told.causes = [] ↔ ∀ text ∈ remarks ++ texts, isBlankText text = true) ∧
    ∀ remarks' texts', firstSeen? (remarks' ++ texts') = firstSeen? (remarks ++ texts) →
      telling.result .release (.error ⟨remarks',.texts texts'⟩ : Except Raised α) = .error told := by
  have shown : (telling.failure .release ⟨remarks,.texts texts⟩).causes =
      (firstSeen? (remarks ++ texts)).toList.map shownCause := by
    rw [causes_telling,ofRaised_release]
  refine ⟨telling.failure .release ⟨remarks,.texts texts⟩,rfl,?_,?_,?_,?_⟩
  · rw [shown,List.length_map]
    exact Option.length_toList_le
  · intro cause member
    rw [shown] at member
    obtain ⟨text,-,rfl⟩ := List.mem_map.mp member
    exact discreet_shownCause text
  · rw [shown,List.map_eq_nil_iff,Option.toList_eq_nil_iff]
    exact firstSeen?_eq_none_iff _
  · intro remarks' texts' same
    have alike : ofRaised .release ⟨remarks',.texts texts'⟩ = ofRaised .release ⟨remarks,.texts texts⟩ := by
      rw [ofRaised_release,ofRaised_release,same]
    cases telling <;> simp only [Telling.result,Except.mapError,Telling.failure,alike]

/-- A helper that ended, with two stories behind it of which neither is told. -/
theorem release_hides_behind :
    firstSeen? (["","pipe\nclosed "] ++ ["no token in /data/app"]) = firstSeen? (["pipe\nclosed "] ++ ["exit status: 1"]) ∧
    ∃ told, (Telling.withCode "remote_call_failed" "no answer").result .release
        (.error ⟨["","pipe\nclosed "],.texts ["no token in /data/app"]⟩ : Except Raised Unit) = .error told ∧
      (Telling.withCode "remote_call_failed" "no answer").result .release
        (.error ⟨["pipe\nclosed "],.texts ["exit status: 1"]⟩ : Except Raised Unit) = .error told ∧
      "pipe closed" ∈ told.causes ∧ Discreet "pipe closed" := by
  have same : firstSeen? (["","pipe\nclosed "] ++ ["no token in /data/app"]) =
      firstSeen? (["pipe\nclosed "] ++ ["exit status: 1"]) := by decide
  obtain ⟨told,tells,-,discreet,-,alike⟩ := @release_hides Unit (.withCode "remote_call_failed" "no answer")
    ["pipe\nclosed "] ["exit status: 1"]
  have shown : "pipe closed" ∈ told.causes := by
    rw [← Except.error.inj tells]
    decide
  exact ⟨same,told,alike _ _ same,tells,shown,discreet _ shown⟩

end AppGrants.Failure
