import AppGrants.Proofs.Failure.Discretion

/-! Failures only grow. Whatever is done to one on its way to the caller, what it said before stays in front of what is added, none of
its causes is blank, and of the codes that were set the last one alone decides its kind. -/
namespace AppGrants.Failure
open Text (isBlankText)

/-- Where a failure comes from: it is made, or an error of the system, of reading JSON or of any other kind is told as one. -/
inductive Beginning where
  | new (code message : String)
  | io (texts : List String)
  | json (fault : Json.Fault)
  | foreign (remarks texts : List String) (telling : Telling)

namespace Beginning

def failure (build : Build) : Beginning → Failure
  | new code message => .new code message
  | io texts => ofIoChain texts
  | json fault => ofJson fault
  | foreign remarks texts telling => telling.failure build ⟨remarks,.texts texts⟩

def code : Beginning → String
  | new code _ | foreign _ _ (.withCode code _) => code
  | io _ => "io_error"
  | json _ => "json_error"
  | foreign _ _ _ => "internal_error"

end Beginning

/-- What is done to a failure. It may also go on as an error under way, be remarked on, and be told again. -/
inductive Step where
  | withCode (code message : String)
  | withContext (key value : String)
  | withCause (cause : String)
  | withCauses (causes : List String)
  | withSource (typeName : String) (texts : List String)
  | told (remarks : List String) (telling : Telling)

namespace Step

def take (build : Build) (failure : Failure) : Step → Failure
  | withCode code message => failure.withCode code message
  | withContext key value => failure.withContext key value
  | withCause cause => failure.withCause cause
  | withCauses causes => failure.withCauses causes
  | withSource typeName texts => failure.withSource typeName texts
  | told remarks telling => telling.failure build ⟨remarks,.failure failure⟩

/-- The code that the step sets. -/
def code? : Step → Option String
  | withCode code _ | told _ (.withCode code _) => some code
  | _ => none

/-- The context that the step puts behind that of the failure. -/
def items (failure : Failure) : Step → List (String × String)
  | withContext key value | told _ (.withContext key value) => [(key,value)]
  | withSource typeName texts => failure.sourceItems typeName texts
  | _ => []

def causes : Step → List String
  | withCause cause => [cause].filter (!isBlankText ·)
  | withCauses causes => causes.filter (!isBlankText ·)
  | withSource _ texts => collect texts
  | _ => []

section
variable (build : Build) (failure : Failure) (step : Step)

/-- All that a step can do. -/
theorem take_eq : ∃ message, step.take build failure =
    ⟨step.code?.getD failure.code,message,failure.context ++ step.items failure,failure.causes ++ step.causes⟩ := by
  cases step with
  | withCode code message => exact ⟨message,by simp only [take,Failure.withCode,items,causes,List.append_nil]; rfl⟩
  | withContext key value => exact ⟨failure.message,by simp only [take,Failure.withContext,items,causes,List.append_nil]; rfl⟩
  | withCause cause => exact ⟨failure.message,by simp only [take,withCause_eq,items,causes,List.append_nil]; rfl⟩
  | withCauses causes => exact ⟨failure.message,by simp only [take,withCauses_eq,items,Step.causes,List.append_nil]; rfl⟩
  | withSource typeName texts => exact ⟨failure.message,by simp only [take,withSource_eq,items,causes]; rfl⟩
  | told remarks telling =>
    -- The remarks are not looked at: the error under way began as a failure.
    cases telling with
    | plain => exact ⟨failure.message,by simp only [items,causes,List.append_nil]; rfl⟩
    | withCode code message => exact ⟨message,by simp only [items,causes,List.append_nil]; rfl⟩
    | withContext key value => exact ⟨failure.message,by simp only [items,causes,List.append_nil]; rfl⟩

theorem seen_of_mem_causes {cause : String} (member : cause ∈ step.causes) : isBlankText cause = false := by
  cases step with
  | withCode | withContext | told => cases member
  | withCause | withCauses => simpa using (List.mem_filter.mp member).2
  | withSource => exact seen_of_mem_collect member

end
end Step

def lastCode? (steps : List Step) : Option String := (steps.filterMap Step.code?).getLast?

def run (build : Build) (beginning : Beginning) (steps : List Step) : Failure :=
  steps.foldl (Step.take build) (beginning.failure build)

/-- All that steps do to a failure, of which the last code that they set is given. -/
structure Adds (code? : Option String) (before after : Failure) : Prop where
  code : after.code = code?.getD before.code
  context : before.context <+: after.context
  causes : ∃ added, after.causes = before.causes ++ added ∧ ∀ cause ∈ added, isBlankText cause = false

namespace Adds
variable {code? : Option String} {before after : Failure}

theorem refl (failure : Failure) : Adds none failure failure where
  code := rfl
  context := List.prefix_rfl
  causes := ⟨[],(List.append_nil _).symm,by simp⟩

theorem trans {later? : Option String} {last : Failure} (first : Adds code? before after) (rest : Adds later? after last) :
    Adds (later?.or code?) before last where
  code := by
    rw [rest.code,first.code]
    cases later? <;> rfl
  context := first.context.trans rest.context
  causes := by
    obtain ⟨added,grown,seen⟩ := first.causes
    obtain ⟨more,grown',seen'⟩ := rest.causes
    refine ⟨added ++ more,by rw [grown',grown,List.append_assoc],?_⟩
    intro cause member
    rcases List.mem_append.mp member with early | late
    · exact seen cause early
    · exact seen' cause late

/-- A value that was given stays. -/
theorem contextValue (adds : Adds code? before after) {key value : String} (given : before.contextValue key = some value) :
    after.contextValue key = some value := by
  obtain ⟨items,whole⟩ := adds.context
  rw [Failure.contextValue,← whole,List.lookup_append]
  unfold Failure.contextValue at given
  rw [given]
  rfl

end Adds

theorem Step.adds (build : Build) (step : Step) (failure : Failure) : Adds step.code? failure (step.take build failure) := by
  obtain ⟨message,taken⟩ := step.take_eq build failure
  rw [taken]
  exact ⟨rfl,List.prefix_append ..,step.causes,rfl,fun _ => step.seen_of_mem_causes⟩

theorem adds_of_steps (build : Build) (steps : List Step) (failure : Failure) :
    Adds (lastCode? steps) failure (steps.foldl (Step.take build) failure) := by
  induction steps generalizing failure with
  | nil => exact .refl _
  | cons step rest ih =>
    have last : lastCode? (step :: rest) = (lastCode? rest).or step.code? := by
      unfold lastCode?
      rw [List.filterMap_cons]
      cases step.code? with
      | none => exact Option.or_none.symm
      | some code =>
        rw [List.getLast?_cons]
        cases (rest.filterMap Step.code?).getLast? <;> rfl
    rw [last]
    exact (step.adds build failure).trans (ih _)

/-- No cause is blank. -/
def Worded (failure : Failure) : Prop := ∀ cause ∈ failure.causes, isBlankText cause = false

theorem worded_new (code message : String) : (new code message).Worded := by
  intro cause member
  cases member

theorem Adds.worded {code? : Option String} {before after : Failure} (adds : Adds code? before after) (worded : before.Worded) :
    after.Worded := by
  obtain ⟨added,grown,seen⟩ := adds.causes
  intro cause member
  rw [grown] at member
  rcases List.mem_append.mp member with early | late
  · exact worded cause early
  · exact seen cause late

theorem worded_of_foreign (build : Build) (remarks texts : List String) : (ofRaised build ⟨remarks,.texts texts⟩).Worded := by
  cases build with
  | debug => exact fun _ member => seen_of_mem_collect member
  | release =>
    intro cause member
    obtain ⟨text,-,rfl⟩ := List.mem_map.mp member
    exact (discreet_shownCause text).seen

theorem Beginning.worded (build : Build) (beginning : Beginning) : (beginning.failure build).Worded := by
  cases beginning with
  | new code message => exact worded_new code message
  | io texts => exact (Step.adds build (.withSource ioTypeName texts) (.new ..)).worded (worded_new _ _)
  | json fault => exact (Step.adds build (.withSource jsonTypeName [fault.message]) (.new ..)).worded (worded_new _ _)
  | foreign remarks texts telling =>
    intro cause member
    rw [failure,causes_telling] at member
    exact worded_of_foreign build remarks texts cause member

theorem Beginning.code_failure (build : Build) (beginning : Beginning) : (beginning.failure build).code = beginning.code := by
  cases beginning with
  | new code message => rfl
  | io texts => exact (Step.adds build (.withSource ioTypeName texts) (.new ..)).code
  | json fault => exact (Step.adds build (.withSource jsonTypeName [fault.message]) (.new ..)).code
  | foreign remarks texts telling => cases telling <;> rfl

/-- Wherever a failure comes from and whatever is done to it, no cause is blank; the code that was set last decides its kind; later
steps leave causes, context and the values for its keys as they are; every step adds what it has to say behind them, a source its type
and its number of texts only where there are none; and an error under way that began as a failure is told as that failure. -/
theorem run_grows (build : Build) (beginning : Beginning) (steps : List Step) : let failure := run build beginning steps
    failure.Worded ∧ failure.kind = .ofCode ((lastCode? steps).getD beginning.code) ∧
    (∀ later, let after := run build beginning (steps ++ later)
      failure.causes <+: after.causes ∧ failure.context <+: after.context ∧
      ∀ key value, failure.contextValue key = some value → after.contextValue key = some value) ∧
    (∀ step : Step, let next := run build beginning (steps ++ [step])
      next.causes = failure.causes ++ step.causes ∧ next.context = failure.context ++ step.items failure) ∧
    ∀ remarks, ofRaised build ⟨remarks,.failure failure⟩ = failure := by
  have begun := adds_of_steps build steps (beginning.failure build)
  refine ⟨begun.worded (beginning.worded build),?_,fun later => ?_,fun step => ?_,fun remarks => rfl⟩
  · rw [kind,run,begun.code,beginning.code_failure]
  · have adds : Adds (lastCode? later) (run build beginning steps) (run build beginning (steps ++ later)) := by
      unfold run
      rw [List.foldl_append]
      exact adds_of_steps build later _
    obtain ⟨added,grown,-⟩ := adds.causes
    exact ⟨⟨added,grown.symm⟩,adds.context,fun key value => adds.contextValue⟩
  · have taken : run build beginning (steps ++ [step]) = step.take build (run build beginning steps) := List.foldl_append ..
    obtain ⟨_,whole⟩ := step.take_eq build (run build beginning steps)
    exact ⟨congrArg Failure.causes (taken.trans whole),congrArg Failure.context (taken.trans whole)⟩

/-- A broken pipe that is remarked on and told twice, with a second source that comes too late to be named. -/
theorem run_grows_twice_told : let told : Telling := .withCode "service_unavailable" "no service"
    let failure := run .release (.io ["broken pipe"]) [.told ["while binding"] told]
    let after := run .release (.io ["broken pipe"]) ([.told ["while binding"] told] ++
      [.withCauses [" ","second"],.withSource "Other" ["third"],.told [] (.withContext "command" "su")])
    "broken pipe" ∈ failure.causes ∧ isBlankText "broken pipe" = false ∧
      failure.contextValue "sourceType" = some "core::io::error::Error" ∧
      after.contextValue "sourceType" = some "core::io::error::Error" ∧ failure.causes <+: after.causes := by
  intro told failure after
  have inside : "broken pipe" ∈ failure.causes := by decide
  have given : failure.contextValue "sourceType" = some "core::io::error::Error" := by decide
  obtain ⟨worded,-,grows,-,-⟩ := run_grows .release (.io ["broken pipe"]) [.told ["while binding"] told]
  obtain ⟨causes,-,values⟩ := grows [.withCauses [" ","second"],.withSource "Other" ["third"],.told [] (.withContext "command" "su")]
  exact ⟨inside,worded _ inside,given,values _ _ given,causes⟩

end AppGrants.Failure
