import AppGrants.Text.Lowercase
import Mathlib.Data.List.Basic

/-! Lower case of a text within another. All characters but the capital sigma are lowered on their own, and a sigma by whether a
word ends with it; so a text has its own lower case within another where its sigmas end words as they do when it stands alone. -/
namespace AppGrants.Text

/-- A capital sigma between the two is the last letter of a word; `before` has the nearest character first. -/
def endsWord (before after : List Char) : Bool := leadsToCased before && !leadsToCased after

/-- Lower case of the text between `before`, nearest character first, and `after`. -/
def lowercaseBetween : List Char → List Char → List Char → List Char
  | _, [], _ => []
  | before, c :: rest, after =>
    (if c = capitalSigma && endsWord before (rest ++ after) then [finalSigma] else lowerChar c) ++
      lowercaseBetween (c :: before) rest after

theorem lowercaseAfter_eq (before text : List Char) : lowercaseAfter before text = lowercaseBetween before text [] := by
  induction text generalizing before with
  | nil => rfl
  | cons c rest ih => simp [lowercaseAfter,lowercaseBetween,endsWord,ih,Bool.and_assoc]

theorem lowerChar_ne_nil (c : Char) : lowerChar c ≠ [] := by
  have whole : ∀ entry ∈ lowerSequences, entry.2 ≠ [] := by decide
  unfold lowerChar
  split
  · simp
  · split
    next sequence found =>
      obtain ⟨earlier,later,split,-⟩ := List.lookup_eq_some_iff.mp found
      have entry : (c.toNat,sequence) ∈ lowerSequences := by simp [split]
      simpa using whole _ entry
    next => simp

theorem lowercase_ne_nil {text : List Char} (written : text ≠ []) : lowercase text ≠ [] := by
  cases text with
  | nil => exact absurd rfl written
  | cons c rest =>
    rw [lowercase,lowercaseAfter]
    split <;> simp [lowerChar_ne_nil]

/-- Each capital sigma of the text ends a word there just as it does where the text stands alone. -/
def KeepsSigmas (front text back : List Char) : Prop :=
  ∀ before after, text = before ++ capitalSigma :: after →
    endsWord (before.reverse ++ front.reverse) (after ++ back) = endsWord before.reverse after

theorem lowerChar_capitalSigma : lowerChar capitalSigma = [Char.ofNat 0x3C3] := by decide +kernel

/-- How a capital sigma is lowered tells whether a word ends with it. -/
theorem sigma_inj {last last' : Bool} : (if last then [finalSigma] else lowerChar capitalSigma) =
    (if last' then [finalSigma] else lowerChar capitalSigma) ↔ last = last' := by
  rw [lowerChar_capitalSigma]
  cases last <;> cases last' <;> decide

private theorem forall_split_cons {α : Type} {c x : α} {rest : List α} {claim : List α → List α → Prop} :
    (∀ before after, c :: rest = before ++ x :: after → claim before after) ↔
      (c = x → claim [] rest) ∧ ∀ before after, rest = before ++ x :: after → claim (c :: before) after := by
  constructor
  · intro all
    exact ⟨fun same => all [] rest (by simp [same]),fun before after split => all (c :: before) after (by simp [split])⟩
  · rintro ⟨first,later⟩ before after split
    cases before with
    | nil =>
      obtain ⟨same,tail⟩ := List.cons_eq_cons.mp split
      exact tail ▸ first same
    | cons d before =>
      obtain ⟨same,tail⟩ := List.cons_eq_cons.mp split
      exact same ▸ later before after tail

/-- What has been passed of the text stands before the rest of it, nearest first, and what is around the text is behind that. -/
private theorem lowercaseBetween_eq_iff (passed front text back : List Char) :
    lowercaseBetween (passed ++ front) text back = lowercaseBetween passed text [] ↔
      ∀ before after, text = before ++ capitalSigma :: after →
        endsWord (before.reverse ++ (passed ++ front)) (after ++ back) = endsWord (before.reverse ++ passed) after := by
  induction text generalizing passed with
  | nil => simp [lowercaseBetween]
  | cons c rest ih =>
    have later := ih (c :: passed)
    rw [List.cons_append] at later
    rw [lowercaseBetween,lowercaseBetween,List.append_nil,forall_split_cons]
    simp only [List.reverse_cons,List.append_assoc,List.cons_append,List.nil_append,List.reverse_nil]
    rw [← later]
    by_cases sigma : c = capitalSigma
    · -- one character stands for the sigma in both
      subst sigma
      simp only [decide_true,Bool.true_and,true_imp_iff]
      refine Iff.trans ⟨fun same => List.append_inj same ?_,fun same => by rw [same.1,same.2]⟩ (and_congr_left' sigma_inj)
      rw [lowerChar_capitalSigma]
      split <;> split <;> rfl
    · simp [sigma]

theorem lowercaseBetween_eq_lowercase_iff (front text back : List Char) :
    lowercaseBetween front.reverse text back = lowercase text ↔ KeepsSigmas front text back := by
  rw [lowercase,lowercaseAfter_eq]
  have there := lowercaseBetween_eq_iff [] front.reverse text back
  simpa [KeepsSigmas] using there

theorem lowercaseBetween_append (before text more after : List Char) : lowercaseBetween before (text ++ more) after =
    lowercaseBetween before text (more ++ after) ++ lowercaseBetween (text.reverse ++ before) more after := by
  induction text generalizing before with
  | nil => rfl
  | cons c rest ih => simp [lowercaseBetween,ih]

/-- A text that keeps its sigmas within another is within it in lower case. -/
theorem KeepsSigmas.lowercase_infix {front text back : List Char} (keeps : KeepsSigmas front text back) :
    lowercase text <:+: lowercase (front ++ text ++ back) := by
  rw [← (lowercaseBetween_eq_lowercase_iff front text back).mpr keeps,lowercase,lowercaseAfter_eq]
  simp only [lowercaseBetween_append,List.append_nil]
  exact List.infix_append ..

theorem leadsToCased_append {text : List Char} (seen : ∃ c ∈ text, isCaseIgnorable c = false) (rest : List Char) :
    leadsToCased (text ++ rest) = leadsToCased text := by
  induction text with
  | nil => simp at seen
  | cons c others ih =>
    cases ignored : isCaseIgnorable c with
    | false => simp [leadsToCased,ignored]
    | true =>
      have later : ∃ c ∈ others, isCaseIgnorable c = false := by simpa [ignored] using seen
      simpa [leadsToCased,ignored] using ih later

theorem inRanges_eq_any (ranges : Array (Nat × Nat)) (n : Nat) :
    inRanges ranges n = ranges.toList.any fun range => range.1 ≤ n && n ≤ range.2 := Array.any_toList.symm

/-- From alpha to rho. -/
theorem leadsToCased_greek {c : Char} (greek : 0x391 ≤ c.toNat ∧ c.toNat ≤ 0x3A1) (rest : List Char) :
    leadsToCased (c :: rest) = true := by
  have all : ∀ n < 0x3A2, 0x391 ≤ n → inRanges casedRanges n = true ∧ inRanges caseIgnorableRanges n = false := by
    simp only [inRanges_eq_any]
    decide +kernel
  obtain ⟨cased,seen⟩ := all c.toNat (by omega) greek.1
  simpa [leadsToCased,isCaseIgnorable,isCased,seen] using cased

/-- On both sides of each capital sigma the text goes on with more than case-ignorable characters. -/
def SigmasInside (text : List Char) : Prop :=
  ∀ before after, text = before ++ capitalSigma :: after →
    (∃ c ∈ before, isCaseIgnorable c = false) ∧ ∃ c ∈ after, isCaseIgnorable c = false

theorem SigmasInside.keeps {text : List Char} (inside : SigmasInside text) (front back : List Char) :
    KeepsSigmas front text back := by
  intro before after split
  obtain ⟨left,right⟩ := inside before after split
  have left : ∃ c ∈ before.reverse, isCaseIgnorable c = false := by simpa using left
  rw [endsWord,endsWord,leadsToCased_append left,leadsToCased_append right]

end AppGrants.Text
