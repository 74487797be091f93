import AppGrants.Proofs.Failure.Building
import Mathlib.Data.List.Destutter

/-! Which causes an error has. Going over all of its texts and following it from one error to the one behind it find the same ones, so
it does not matter whether an error is told as a failure or made the source of one. -/
namespace AppGrants.Failure
open Text (isBlankText)

/-- The texts that are not blank, in their order, with neighbours that are alike merged into one. -/
def merged (texts : List String) : List String := (texts.filter (!isBlankText ·)).destutter (· ≠ ·)

/-- Of what has been gathered only the last cause counts for the texts that are still to come. -/
theorem gather_concat (causes texts : List String) (last : String) :
    gather (causes ++ [last]) texts = causes ++ (texts.filter (!isBlankText ·)).destutter' (· ≠ ·) last := by
  induction texts generalizing causes last with
  | nil => rfl
  | cons text behind ih =>
    cases blank : isBlankText text with
    | true => rw [gather_blank behind blank,ih,List.filter_cons_of_neg (by simp [blank])]
    | false =>
      rw [List.filter_cons_of_pos (by simp [blank])]
      by_cases repeated : last = text
      · rw [gather_repeated behind (by simp [repeated]),ih,List.destutter'_cons_neg _ (not_not.mpr repeated)]
      · rw [gather_new behind blank (by simp [repeated]),ih,List.destutter'_cons_pos _ repeated,List.append_assoc,
          List.singleton_append]

theorem gather_nil (texts : List String) : gather [] texts = merged texts := by
  unfold merged
  induction texts with
  | nil => rfl
  | cons text behind ih =>
    cases blank : isBlankText text with
    | true => rw [gather_blank behind blank,ih,List.filter_cons_of_neg (by simp [blank])]
    | false =>
      -- Nothing has been gathered that this text could repeat; from now on there is a last cause.
      rw [gather_new behind blank (by simp),gather_concat,List.filter_cons_of_pos (by simp [blank])]
      rfl

/-- Both ways of collecting find the same causes of an error, whatever has been remarked on it: its texts that are not blank, neighbours
that are alike merged, so that none is blank and none repeats the one before it. A new failure with the error as its source has them just
as the failure has that the error is told as in a debug build, and the depth of the source is their number wherever there is one. -/
theorem collectors_agree (remarks texts : List String) (code message typeName : String) :
    let raised : Raised := ⟨remarks,.texts texts⟩
    let causes := merged raised.texts
    let sourced := (new code message).withSource typeName raised.texts
    collect raised.texts = causes ∧ gather [] raised.texts = causes ∧
    (∀ cause ∈ causes, isBlankText cause = false) ∧ causes.IsChain (· ≠ ·) ∧
    (ofRaised .debug raised).causes = causes ∧ sourced.causes = causes ∧
    sourced.contextValue "sourceChainDepth" = if causes = [] then none else some (toString causes.length) := by
  intro raised causes sourced
  have collected : collect raised.texts = causes := (collect_eq_gather _).trans (gather_nil _)
  have built : sourced = ⟨code,message,(new code message).sourceItems typeName raised.texts,causes⟩ := by
    rw [← collected]
    exact withSource_eq ..
  refine ⟨collected,gather_nil _,?_,List.isChain_destutter _ _,collected,congrArg Failure.causes built,?_⟩
  · intro cause member
    rw [← collected] at member
    exact seen_of_mem_collect member
  · rw [built,contextValue,sourceItems,collected]
    split <;> rfl

/-- A closed pipe that is told twice with a blank between, under a remark that comes back at the end. -/
theorem collectors_agree_told_twice : let raised : Raised :=
      ⟨["while binding","\t"],.texts ["while binding","pipe closed"," ","pipe closed","while binding"]⟩
    let sourced := (new "service_unavailable" "no service").withSource "Chain" raised.texts
    "pipe closed" ∈ merged raised.texts ∧ isBlankText "pipe closed" = false ∧
      collect raised.texts = ["while binding","pipe closed","while binding"] ∧
      sourced.causes = (ofRaised .debug raised).causes ∧ sourced.contextValue "sourceChainDepth" = some "3" := by
  intro raised sourced
  have found : merged raised.texts = ["while binding","pipe closed","while binding"] := by decide
  have inside : "pipe closed" ∈ merged raised.texts := by
    rw [found]
    decide
  obtain ⟨collected,-,seen,-,told,given,depth⟩ := collectors_agree ["while binding","\t"]
    ["while binding","pipe closed"," ","pipe closed","while binding"] "service_unavailable" "no service" "Chain"
  refine ⟨inside,seen _ inside,collected.trans found,given.trans told.symm,depth.trans ?_⟩
  rw [found]
  rfl

end AppGrants.Failure
