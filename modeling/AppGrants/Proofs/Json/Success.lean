import AppGrants.Json.Read

/-! What is known of a text that was read without a fault. -/
namespace AppGrants.Json
variable {α β σ : Type}

theorem exists_of_bind {ε : Type} {step : Except ε α} {next : α → Except ε β} {value : β} (reads : step.bind next = .ok value) :
    ∃ first, step = .ok first ∧ next first = .ok value := by
  cases step with
  | ok first => exact ⟨first,rfl,reads⟩
  | error fault => cases reads

theorem exists_of_map {ε : Type} {step : Except ε α} {f : α → β} {value : β} (reads : step.map f = .ok value) :
    ∃ first, step = .ok first ∧ f first = value := by
  cases step with
  | ok first => exact ⟨first,rfl,Except.ok.inj reads⟩
  | error fault => cases reads

theorem eq_of_fitting {left : List Char} {fits : Except Mismatch α} {value : α} (reads : fitting left fits = .ok value) :
    fits = .ok value := by
  cases fits with
  | ok found => exact congrArg Except.ok (Except.ok.inj reads)
  | error what => cases reads

/-- What holds of all that may be held holds of what an object is read as. -/
theorem readMembers_keeps {member : σ → String → Except Mismatch (Reader σ)} {keeps : σ → Prop}
    (step : ∀ {held name reader cs next rest}, keeps held → member held name = .ok reader → reader cs = .ok (next,rest) →
      keeps next)
    {fuel : Nat} {first : Bool} {held last : σ} {cs rest : List Char} (kept : keeps held)
    (reads : readMembers member fuel first held cs = .ok (last,rest)) : keeps last := by
  induction fuel generalizing first held cs with
  | zero => simp [readMembers,cut] at reads
  | succ fuel ih =>
    -- An entry begins an object, or follows a comma.
    have entry {cs : List Char} (reads : readMembers.entry member held cs fuel = .ok (last,rest)) : keeps last := by
      unfold readMembers.entry at reads
      obtain ⟨⟨name,after⟩,-,reads⟩ := exists_of_bind reads
      obtain ⟨reader,taken,reads⟩ := exists_of_bind reads
      obtain ⟨start,-,reads⟩ := exists_of_bind reads
      obtain ⟨⟨next,left⟩,value,reads⟩ := exists_of_bind reads
      exact ih (step kept (eq_of_fitting taken) value) reads
    rw [readMembers] at reads
    split at reads
    · cases reads
    next closed =>
      obtain ⟨rfl,rfl⟩ := Prod.mk.inj (Except.ok.inj reads)
      exact kept
    · split at reads
      · exact entry reads
      · cases reads
    · split at reads
      · cases reads
      split at reads
      · exact entry reads
      all_goals cases reads
    · cases reads

theorem holds_of_read {depth : Nat} {width : Width} {cs rest : List Char} {doc : Doc}
    (reads : read depth (.whole width) cs = .ok (doc,rest)) : ∃ n, doc = .whole n ∧ width.holds n = true := by
  cases begins : skipGaps cs with
  | nil =>
    rw [read.eq_def] at reads
    simp [begins,cut] at reads
  | cons c left =>
    rw [read.eq_def] at reads
    simp only [begins] at reads
    split at reads
    · obtain ⟨⟨number,after⟩,-,reads⟩ := exists_of_bind reads
      dsimp only at reads
      split at reads
      · split at reads
        next holds =>
          obtain ⟨rfl,-⟩ := Prod.mk.inj (Except.ok.inj reads)
          exact ⟨_,rfl,holds⟩
        · cases reads
      · cases reads
    · cases reads

theorem exists_of_readAll {reader : Reader α} {text : String} {value : α} (reads : readAll reader text = .ok value) :
    ∃ rest, reader text.toList = .ok (value,rest) := by
  rw [readAll] at reads
  split at reads
  next found =>
    obtain ⟨⟨first,rest⟩,begun,finished⟩ := exists_of_bind found
    change finish first rest = _ at finished
    rw [finish] at finished
    split at finished
    · obtain rfl := Except.ok.inj finished
      obtain rfl := Except.ok.inj reads
      exact ⟨rest,begun⟩
    · cases finished
  · cases reads

end AppGrants.Json
