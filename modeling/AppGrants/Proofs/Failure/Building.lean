import AppGrants.Failure
import Mathlib.Data.List.Induction

/-! What each operation on a failure makes of it. Every one adds to the causes, to the context or to neither, and only a new code
takes the place of the old one. -/
namespace AppGrants.Failure
open Text (isBlankText)

theorem hasInfix_iff (part text : List Char) : hasInfix part text = true ↔ part <:+: text := by
  induction text with
  | nil => simp [hasInfix]
  | cons c rest ih => simp [hasInfix,List.infix_cons_iff,ih]

theorem collect_concat (texts : List String) (text : String) : collect (texts ++ [text]) =
    if isBlankText text || (collect texts).getLast? = some text then collect texts else collect texts ++ [text] :=
  List.foldl_append ..

section
variable {causes : List String} {text : String} (behind : List String)

theorem gather_blank (blank : isBlankText text = true) : gather causes (text :: behind) = gather causes behind := by
  simp [gather,blank]

theorem gather_repeated (repeated : causes.getLast? = some text) : gather causes (text :: behind) = gather causes behind := by
  simp [gather,repeated]

theorem gather_new (seen : isBlankText text = false) (unlike : causes.getLast? ≠ some text) :
    gather causes (text :: behind) = gather (causes ++ [text]) behind := by
  have apart : causes.getLast?.all (· ≠ text) = true :=
    (Option.all_eq_true ..).mpr fun last found => decide_eq_true fun same => unlike (same ▸ found)
  rw [gather,seen,apart]
  rfl

end

/-- Going over the texts of an error and following it find the same causes, whatever has been found before. -/
theorem foldl_eq_gather (causes texts : List String) : texts.foldl (fun causes text =>
    if isBlankText text || causes.getLast? = some text then causes else causes ++ [text]) causes = gather causes texts := by
  induction texts generalizing causes with
  | nil => rfl
  | cons text behind ih =>
    rw [List.foldl_cons,ih]
    split
    next left_out =>
      rcases Bool.or_eq_true .. |>.mp left_out with blank | repeated
      · exact (gather_blank behind blank).symm
      · exact (gather_repeated behind (of_decide_eq_true repeated)).symm
    next taken =>
      simp only [Bool.or_eq_true,decide_eq_true_eq,not_or,Bool.not_eq_true] at taken
      exact (gather_new behind taken.1 taken.2).symm

theorem collect_eq_gather (texts : List String) : collect texts = gather [] texts := foldl_eq_gather ..

theorem seen_of_mem_collect {texts : List String} {text : String} (member : text ∈ collect texts) : isBlankText text = false := by
  -- On the texts from the last one on, in the order in which they were put behind the others.
  induction texts using List.reverseRecOn with
  | nil => cases member
  | append_singleton texts last ih =>
    rw [collect_concat] at member
    split at member
    · exact ih member
    next added =>
      rcases List.mem_append.mp member with earlier | new
      · exact ih earlier
      · obtain rfl := List.mem_singleton.mp new
        simp only [Bool.or_eq_true,not_or,Bool.not_eq_true] at added
        exact added.1

/-- The causes begin with the first text that is not blank. -/
theorem head?_collect (texts : List String) : (collect texts).head? = texts.find? (!isBlankText ·) := by
  induction texts using List.reverseRecOn with
  | nil => rfl
  | append_singleton texts last ih =>
    rw [collect_concat,List.find?_append,← ih]
    split
    next left_out =>
      rcases Bool.or_eq_true .. |>.mp left_out with blank | repeated
      · simp [blank]
      · obtain ⟨front,whole⟩ := List.getLast?_eq_some_iff.mp (of_decide_eq_true repeated)
        rw [whole]
        cases front <;> rfl
    next added =>
      simp only [Bool.or_eq_true,not_or,Bool.not_eq_true] at added
      rw [List.head?_append,List.find?_singleton,added.1]
      rfl

section
variable (failure : Failure)

theorem withCause_eq (cause : String) : failure.withCause cause =
    { failure with causes := failure.causes ++ [cause].filter (!isBlankText ·) } := by
  unfold withCause
  split
  next blank => simp [blank]
  next seen => simp [seen]

theorem withCauses_eq (causes : List String) : failure.withCauses causes =
    { failure with causes := failure.causes ++ causes.filter (!isBlankText ·) } := by
  induction causes generalizing failure with
  | nil => simp [withCauses]
  | cons first rest ih =>
    have onward : failure.withCauses (first :: rest) = (failure.withCause first).withCauses rest := rfl
    rw [onward,ih,withCause_eq,List.append_assoc,← List.filter_append,List.singleton_append]

/-- What is put behind the context: nothing where there is a value for the key. -/
def itemIfNew (key value : String) : List (String × String) := if (failure.contextValue key).isSome then [] else [(key,value)]

theorem withContextIfNew_eq (key value : String) : failure.withContextIfNew key value =
    { failure with context := failure.context ++ failure.itemIfNew key value } := by
  unfold withContextIfNew itemIfNew
  split
  · rw [List.append_nil]
  · rfl

theorem itemIfNew_withContextIfNew {key other : String} (apart : key ≠ other) (value given : String) :
    (failure.withContextIfNew other given).itemIfNew key value = failure.itemIfNew key value := by
  have kept : (failure.withContextIfNew other given).contextValue key = failure.contextValue key := by
    rw [withContextIfNew_eq,contextValue,List.lookup_append,itemIfNew]
    split
    · exact Option.or_none
    · rw [List.lookup_cons,beq_false_of_ne apart]
      exact Option.or_none
  rw [itemIfNew,kept]
  rfl

/-- The type of a source and the number of its texts, each unless it has been given before. -/
def sourceItems (typeName : String) (texts : List String) : List (String × String) :=
  failure.itemIfNew "sourceType" typeName ++
    if collect texts = [] then [] else failure.itemIfNew "sourceChainDepth" (toString (collect texts).length)

theorem withSource_eq (typeName : String) (texts : List String) : failure.withSource typeName texts = { failure with
    context := failure.context ++ failure.sourceItems typeName texts
    causes := failure.causes ++ collect texts } := by
  have seen : (collect texts).filter (!isBlankText ·) = collect texts :=
    List.filter_eq_self.mpr fun text member => by rw [seen_of_mem_collect member]; rfl
  unfold withSource sourceItems
  dsimp only
  rw [← collect_eq_gather,withCauses_eq,seen]
  by_cases silent : collect texts = []
  · simp [silent,withContextIfNew_eq]
  · have apart : "sourceChainDepth" ≠ "sourceType" := by decide
    simp only [silent,List.isEmpty_iff,if_false,withContextIfNew_eq (failure.withContextIfNew ..),
      itemIfNew_withContextIfNew failure apart]
    rw [withContextIfNew_eq,List.append_assoc]

end
end AppGrants.Failure
