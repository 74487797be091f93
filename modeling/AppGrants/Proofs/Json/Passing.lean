import AppGrants.Proofs.Json.Skipping
import AppGrants.Proofs.Json.Success

/-! A value that is read ends where it would end if it were passed over. So what a reader leaves of a text does not depend on what
it expects there. -/
namespace AppGrants.Json
variable {α β σ : Type} {cs rest left : List Char}

theorem left_of_map {step : Except Stop (α × List Char)} {f : α × List Char → β × List Char} {value : β}
    (reads : step.map f = .ok (value,left)) (keeps : ∀ first, (f first).2 = first.2) : ∃ first, step = .ok (first,left) := by
  obtain ⟨⟨first,after⟩,begun,same⟩ := exists_of_map reads
  have kept := keeps (first,after)
  rw [same] at kept
  obtain rfl : left = after := kept
  exact ⟨first,begun⟩

theorem left_of_word {step : Except Stop (List Char)} {held value : β}
    (reads : (step.map fun rest => (held,rest)) = .ok (value,left)) : step = .ok left := by
  obtain ⟨after,begun,same⟩ := exists_of_map reads
  obtain ⟨-,rfl⟩ := Prod.mk.inj same
  exact begun

def TextState.skipping : TextState → SkipState
  | .plain | .paired => .plain
  | .escape | .pairedEscape => .escape
  | .digits count _ | .pairedDigits count _ _ => .digits count

/-- What is left of a string where it is read is left of it where it is passed over. -/
def Alike (cs left : List Char) : Prop := ∀ {state leading chars}, readChars state leading cs = .ok (chars,left) →
  skipChars state.skipping cs = .ok left

namespace Alike
variable {c : Char} {leading : Nat} {chars : List Char}

theorem meant (alike : Alike cs left) {state : TextState} {first : Char}
    (reads : ((readChars state leading cs).map fun read => (first :: read.1,read.2)) = .ok (chars,left)) :
    skipChars state.skipping cs = .ok left := by
  obtain ⟨others,begun⟩ := left_of_map reads fun _ => rfl
  exact alike begun

theorem plain (alike : Alike cs left) (reads : readChars .plain leading (c :: cs) = .ok (chars,left)) :
    skipChars .plain (c :: cs) = .ok left := by
  simp only [readChars] at reads
  rw [skipChars]
  split at reads
  next quote =>
    obtain ⟨-,rfl⟩ := Prod.mk.inj (Except.ok.inj reads)
    rw [if_pos quote]
  next unquoted =>
    rw [if_neg unquoted]
    split at reads
    next escape =>
      rw [if_pos escape]
      exact alike reads
    next unescaped =>
      rw [if_neg unescaped]
      split at reads
      · cases reads
      next printable =>
        rw [if_neg printable]
        exact alike.meant reads

theorem escape (alike : Alike cs left) (reads : readChars .escape leading (c :: cs) = .ok (chars,left)) :
    skipChars .escape (c :: cs) = .ok left := by
  simp only [readChars] at reads
  rw [skipChars]
  split at reads
  next means =>
    rw [if_pos (by simp [isSimpleEscape,means])]
    exact alike.meant reads
  next means =>
    split at reads
    next word =>
      obtain ⟨unit,hex,reads⟩ := exists_of_bind reads
      rw [if_neg (by simp [isSimpleEscape,means]),if_pos word,hex]
      split at reads
      · cases reads
      · exact alike reads
    · cases reads

theorem pairedEscape (alike : Alike cs left) (reads : readChars .pairedEscape leading (c :: cs) = .ok (chars,left)) :
    skipChars .escape (c :: cs) = .ok left := by
  simp only [readChars] at reads
  split at reads
  next word =>
    subst word
    obtain ⟨unit,hex,reads⟩ := exists_of_bind reads
    split at reads
    · simp only [skipChars,isSimpleEscape,simpleEscape?,hex]
      exact alike reads
    · cases reads
  · cases reads

end Alike

theorem skipChars_of_readChars : Alike cs left := by
  induction cs with
  | nil =>
    intro state leading chars reads
    simp [readChars,cut] at reads
  | cons c cs ih =>
    intro state leading chars reads
    cases state with
    | plain => exact ih.plain reads
    | escape => exact ih.escape reads
    | digits count unit =>
      cases count with
      | zero =>
        simp only [readChars] at reads
        split at reads
        · exact ih reads
        · exact ih.meant reads
      | succ count => exact ih reads
    | paired =>
      simp only [readChars] at reads
      split at reads
      next escape =>
        subst escape
        exact ih reads
      · cases reads
    | pairedEscape => exact ih.pairedEscape reads
    | pairedDigits count first second =>
      cases count with
      | zero => exact ih.meant reads
      | succ count => exact ih reads

theorem skipChars_of_readText {text : String} (reads : readText cs = .ok (text,left)) : skipChars .plain cs = .ok left := by
  obtain ⟨chars,begun⟩ := left_of_map reads fun _ => rfl
  exact skipChars_of_readChars begun

theorem left_of_finishReal {positive : Bool} {significand : Nat} {exponent : Int} {number : Number}
    (reads : finishReal positive significand exponent cs = .ok (number,left)) : cs = left := by
  unfold finishReal at reads
  split at reads
  · exact (Prod.mk.inj (Except.ok.inj reads)).2
  · cases reads

/-- The digits of an exponent, after its sign. -/
def skipUnsigned (cs : List Char) : Except Stop (List Char) :=
  match cs with
  | c :: _ => if c.isDigit then .ok (cs.dropWhile Char.isDigit) else malformed .invalidNumber cs
  | [] => malformed .invalidNumber []

theorem skipExponent_unsigned {up : Bool} (signed : (match cs with
    | '+' :: rest => (true,rest)
    | '-' :: rest => (false,rest)
    | rest => (true,rest)) = (up,rest)) : skipExponent cs = skipUnsigned rest := by
  split at signed
  · obtain ⟨-,rfl⟩ := Prod.mk.inj signed
    rfl
  · obtain ⟨-,rfl⟩ := Prod.mk.inj signed
    rfl
  next no_plus no_minus =>
    obtain ⟨-,rfl⟩ := Prod.mk.inj signed
    unfold skipExponent
    split
    · exact absurd rfl (no_plus _)
    · exact absurd rfl (no_minus _)
    · rfl

section
variable {positive : Bool} {significand : Nat} {exponent : Int} {number : Number}

theorem skipExponent_of_readExponent (reads : readExponent positive significand exponent cs = .ok (number,left)) :
    skipExponent cs = .ok left := by
  unfold readExponent at reads
  split at reads
  next signed =>
    rw [skipExponent_unsigned signed]
    split at reads
    · cases reads
    · split at reads
      · cases reads
      next digit =>
        rw [skipUnsigned,if_pos (by simpa using digit)]
        dsimp only at reads
        split at reads
        · split at reads
          · cases reads
          · exact congrArg Except.ok (Prod.mk.inj (Except.ok.inj reads)).2
        · exact congrArg Except.ok (left_of_finishReal reads)

theorem skipAfterDigits_of_afterDigits (reads : afterDigits positive significand exponent cs = .ok (number,left)) :
    skipAfterDigits cs = .ok left := by
  unfold afterDigits at reads
  split at reads
  · exact skipExponent_of_readExponent reads
  · exact skipExponent_of_readExponent reads
  next small large =>
    rw [← left_of_finishReal reads]
    unfold skipAfterDigits
    split
    · exact absurd rfl (small _)
    · exact absurd rfl (large _)
    · rfl

theorem skipFraction_of_readFraction (reads : readFraction positive significand exponent cs = .ok (number,left)) :
    skipFraction cs = .ok left := by
  unfold readFraction at reads
  cases cs with
  | nil => cases reads
  | cons c cs =>
    cases digit : c.isDigit with
    | true =>
      simp only [List.takeWhile_cons_of_pos digit] at reads
      rw [skipFraction,if_pos digit]
      exact skipAfterDigits_of_afterDigits reads
    | false =>
      have no_digit : ¬c.isDigit = true := by simp [digit]
      simp only [List.takeWhile_cons_of_neg no_digit,List.dropWhile_cons_of_neg no_digit] at reads
      cases reads

theorem skipAfterWhole_of_readWhole {digits : List Char} (reads : readWhole positive digits cs = .ok (number,left)) :
    skipAfterWhole cs = .ok left := by
  unfold readWhole at reads
  dsimp only at reads
  split at reads
  · exact skipFraction_of_readFraction reads
  · exact skipExponent_of_readExponent reads
  · exact skipExponent_of_readExponent reads
  next point small large =>
    have ends : cs = left := by
      split at reads
      · exact left_of_finishReal reads
      split at reads
      · exact (Prod.mk.inj (Except.ok.inj reads)).2
      split at reads
      · exact (Prod.mk.inj (Except.ok.inj reads)).2
      · exact (Prod.mk.inj (Except.ok.inj reads)).2
    rw [← ends]
    unfold skipAfterWhole
    split
    · exact absurd rfl (point _)
    · unfold skipAfterDigits
      split
      · exact absurd rfl (small _)
      · exact absurd rfl (large _)
      · rfl

theorem skipMagnitude_of_readMagnitude (reads : readMagnitude positive cs = .ok (number,left)) : skipMagnitude cs = .ok left := by
  unfold readMagnitude at reads
  split at reads
  · cases reads
  · split at reads
    · split at reads
      · cases reads
      next digit =>
        simp only [skipMagnitude,if_neg digit]
        exact skipAfterWhole_of_readWhole reads
    · exact skipAfterWhole_of_readWhole reads
  next c cs zero =>
    split at reads
    next digit =>
      unfold skipMagnitude
      split
      next same => exact (zero (List.cons.inj same).1).elim
      next same =>
        obtain ⟨rfl,rfl⟩ := List.cons.inj same
        rw [if_pos digit]
        exact skipAfterWhole_of_readWhole reads
      next nothing => cases nothing
    · cases reads

end

/-- With fuel enough, `left` is what passing over a value leaves. -/
def Passes (cs left : List Char) : Prop := ∃ fuel, ∀ more, fuel ≤ more → skipValue more cs = .ok left

def PassesItems (cs left : List Char) : Prop := ∃ fuel, ∀ more, fuel ≤ more → skipItems more cs = .ok left

def PassesFields (cs left : List Char) : Prop := ∃ fuel, ∀ more, fuel ≤ more → skipFields more cs = .ok left

/-- What follows an item: the end of the list, or further items. -/
inductive EndsItems (cs left : List Char) : Prop where
  | last (closed : skipGaps cs = ']' :: left) : EndsItems cs left
  | more {rest : List Char} (comma : skipGaps cs = ',' :: rest) (passes : PassesItems rest left) : EndsItems cs left

inductive EndsFields (cs left : List Char) : Prop where
  | last (closed : skipGaps cs = '\x7d' :: left) : EndsFields cs left
  | more {rest : List Char} (comma : skipGaps cs = ',' :: rest) (passes : PassesFields rest left) : EndsFields cs left

/-- One more unit of fuel changes nothing. -/
structure Steady (fuel : Nat) : Prop where
  value : ∀ {cs left}, skipValue fuel cs = .ok left → skipValue (fuel + 1) cs = .ok left
  items : ∀ {cs left}, skipItems fuel cs = .ok left → skipItems (fuel + 1) cs = .ok left
  fields : ∀ {cs left}, skipFields fuel cs = .ok left → skipFields (fuel + 1) cs = .ok left

namespace Steady
variable {fuel : Nat}

theorem next_value (steady : Steady fuel) (skips : skipValue (fuel + 1) cs = .ok left) : skipValue (fuel + 2) cs = .ok left := by
  rw [← skipValue_skipGaps]
  rw [skipValue] at skips
  split at skips
  · cases skips
  next begins => rwa [begins,skipValue,skipGaps_cons (by decide)]
  next begins => rwa [begins,skipValue,skipGaps_cons (by decide)]
  next begins => rwa [begins,skipValue,skipGaps_cons (by decide)]
  next begins => rwa [begins,skipValue,skipGaps_cons (by decide)]
  next begins => rwa [begins,skipValue,skipGaps_cons (by decide)]
  next begins =>
    split at skips
    next closed => rwa [begins,skipValue_list,closed]
    · cases skips
    next some_char no_end =>
      rw [begins,skipValue_list]
      split
      next closed => exact absurd closed (some_char _)
      next nothing => exact absurd nothing no_end
      · exact steady.items skips
  next begins =>
    split at skips
    next closed => rwa [begins,skipValue_object,closed]
    · cases skips
    next some_char no_end =>
      rw [begins,skipValue_object]
      split
      next closed => exact absurd closed (some_char _)
      next nothing => exact absurd nothing no_end
      · exact steady.fields skips
  next begins =>
    split at skips
    next digit => rwa [begins,skipValue_digit digit]
    · cases skips

theorem next_items (steady : Steady fuel) (skips : skipItems (fuel + 1) cs = .ok left) : skipItems (fuel + 2) cs = .ok left := by
  rw [skipItems] at skips ⊢
  split at skips
  · cases skips
  next passed =>
    rw [steady.value passed]
    dsimp only
    split at skips
    · cases skips
    · exact skips
    · exact steady.items skips
    · cases skips

theorem next_fields (steady : Steady fuel) (skips : skipFields (fuel + 1) cs = .ok left) :
    skipFields (fuel + 2) cs = .ok left := by
  rw [skipFields] at skips ⊢
  split at skips
  · cases skips
  · split at skips
    · cases skips
    split at skips
    · cases skips
    · split at skips
      · cases skips
      next passed =>
        rw [steady.value passed]
        dsimp only
        split at skips
        · cases skips
        · exact skips
        · exact steady.fields skips
        · cases skips
    · cases skips
  · cases skips

end Steady

theorem steady (fuel : Nat) : Steady fuel := by
  induction fuel with
  | zero => exact ⟨nofun,nofun,nofun⟩
  | succ fuel ih => exact ⟨ih.next_value,ih.next_items,ih.next_fields⟩

theorem passes_of_skip (skips : skip cs = .ok left) : Passes cs left := by
  refine ⟨2 * cs.length + 2,fun more enough => ?_⟩
  induction enough with
  | refl => exact skips
  | step _ ih => exact (steady _).value ih

theorem passes_of_succ (skips : ∀ fuel, skipValue (fuel + 1) cs = .ok left) : Passes cs left := by
  refine ⟨1,fun more enough => ?_⟩
  obtain ⟨more,rfl⟩ := Nat.exists_eq_add_one_of_ne_zero (Nat.ne_of_gt enough)
  exact skips more

theorem Passes.of_skipGaps (passes : Passes (skipGaps cs) left) : Passes cs left := by
  obtain ⟨fuel,passes⟩ := passes
  exact ⟨fuel,fun more enough => (skipValue_skipGaps more).symm.trans (passes more enough)⟩

theorem PassesItems.of_skipGaps (passes : PassesItems (skipGaps cs) left) : PassesItems cs left := by
  obtain ⟨fuel,passes⟩ := passes
  exact ⟨fuel,fun more enough => (skipItems_skipGaps more).symm.trans (passes more enough)⟩

theorem Passes.null (reads : readWord ['u','l','l'] cs = .ok left) : Passes ('n' :: cs) left := by
  refine passes_of_succ fun fuel => ?_
  rw [skipValue,skipGaps_cons (by decide)]
  exact reads

theorem Passes.true (reads : readWord ['r','u','e'] cs = .ok left) : Passes ('t' :: cs) left := by
  refine passes_of_succ fun fuel => ?_
  rw [skipValue,skipGaps_cons (by decide)]
  exact reads

theorem Passes.false (reads : readWord ['a','l','s','e'] cs = .ok left) : Passes ('f' :: cs) left := by
  refine passes_of_succ fun fuel => ?_
  rw [skipValue,skipGaps_cons (by decide)]
  exact reads

theorem Passes.text {text : String} (reads : readText cs = .ok (text,left)) : Passes ('"' :: cs) left := by
  refine passes_of_succ fun fuel => ?_
  rw [skipValue,skipGaps_cons (by decide)]
  exact skipChars_of_readText reads

theorem Passes.number {number : Number} {c : Char} (starts : startsNumber c = Bool.true)
    (reads : readNumber (c :: cs) = .ok (number,left)) : Passes (c :: cs) left := by
  refine passes_of_succ fun fuel => ?_
  unfold readNumber at reads
  split at reads
  next minus =>
    obtain ⟨rfl,rfl⟩ := List.cons.inj minus
    rw [skipValue,skipGaps_cons (by decide)]
    exact skipMagnitude_of_readMagnitude reads
  next positive =>
    have digit : c.isDigit = Bool.true := by
      have kind : c = '-' ∨ c.isDigit = Bool.true := by simpa [startsNumber] using starts
      exact kind.resolve_left fun minus => positive cs (by rw [minus])
    rw [skipValue_digit digit]
    exact skipMagnitude_of_readMagnitude reads

theorem opens_of_skipItems {fuel : Nat} (skips : skipItems (fuel + 2) cs = .ok left) :
    skipGaps cs ≠ [] ∧ ∀ rest, skipGaps cs ≠ ']' :: rest := by
  constructor
  · intro nothing
    simp [skipItems,skipValue,nothing,cut] at skips
  · intro rest closed
    simp [skipItems,skipValue,closed,malformed,malformedAfter] at skips

theorem Passes.list (ends : skipGaps cs = ']' :: left ∨ PassesItems cs left) : Passes ('[' :: cs) left := by
  rcases ends with closed | ⟨fuel,passes⟩
  · refine passes_of_succ fun fuel => ?_
    rw [skipValue_list,closed]
    rfl
  · refine ⟨fuel + 3,fun more enough => ?_⟩
    obtain ⟨more,rfl⟩ : ∃ few, more = few + 3 := ⟨more - 3,by omega⟩
    have skips := passes (more + 2) (by omega)
    obtain ⟨some_char,no_end⟩ := opens_of_skipItems skips
    rw [skipValue_list]
    split
    next closed => exact absurd closed (no_end _)
    next nothing => exact absurd nothing some_char
    · rwa [skipItems_skipGaps]

theorem Passes.object (ends : skipGaps cs = '\x7d' :: left ∨ PassesFields cs left) : Passes ('\x7b' :: cs) left := by
  rcases ends with closed | ⟨fuel,passes⟩
  · refine passes_of_succ fun fuel => ?_
    rw [skipValue_object,closed]
    rfl
  · refine ⟨fuel + 2,fun more enough => ?_⟩
    obtain ⟨more,rfl⟩ : ∃ few, more = few + 2 := ⟨more - 2,by omega⟩
    have skips := passes (more + 1) (by omega)
    rw [skipValue_object]
    split
    next closed => simp [skipFields,closed,malformed,malformedAfter] at skips
    next nothing => simp [skipFields,nothing,cut] at skips
    · rwa [skipFields_skipGaps]

theorem PassesItems.item (passes : Passes cs rest) (ends : EndsItems rest left) : PassesItems cs left := by
  obtain ⟨fuel,passes⟩ := passes
  cases ends with
  | last closed =>
    refine ⟨fuel + 1,fun more enough => ?_⟩
    obtain ⟨more,rfl⟩ : ∃ few, more = few + 1 := ⟨more - 1,by omega⟩
    simp only [skipItems,passes more (Nat.le_of_succ_le_succ enough),closed]
  | more comma others =>
    obtain ⟨further,others⟩ := others
    refine ⟨fuel + further + 1,fun more enough => ?_⟩
    obtain ⟨more,rfl⟩ : ∃ few, more = few + 1 := ⟨more - 1,by omega⟩
    simp only [skipItems,passes more (by omega),comma,others more (by omega)]

theorem PassesFields.field {text : String} {name colon after : List Char} (named : skipGaps cs = '"' :: name)
    (reads : readText name = .ok (text,colon)) (follows : readColon colon = .ok rest) (passes : Passes rest after)
    (ends : EndsFields after left) : PassesFields cs left := by
  have skips := skipChars_of_readText reads
  have begins : skipGaps colon = ':' :: rest := by
    unfold readColon at follows
    split at follows
    next begins => exact begins.trans (congrArg _ (Except.ok.inj follows))
    · cases follows
    · cases follows
  obtain ⟨fuel,passes⟩ := passes
  cases ends with
  | last closed =>
    refine ⟨fuel + 1,fun more enough => ?_⟩
    obtain ⟨more,rfl⟩ : ∃ few, more = few + 1 := ⟨more - 1,by omega⟩
    simp only [skipFields,named,skips,begins,passes more (Nat.le_of_succ_le_succ enough),closed]
  | more comma others =>
    obtain ⟨further,others⟩ := others
    refine ⟨fuel + further + 1,fun more enough => ?_⟩
    obtain ⟨more,rfl⟩ : ∃ few, more = few + 1 := ⟨more - 1,by omega⟩
    simp only [skipFields,named,skips,begins,passes more (by omega),comma,others more (by omega)]

/-- The reader leaves what is left by passing over a value. -/
def Ended (reader : Reader α) : Prop := ∀ {cs value left}, reader cs = .ok (value,left) → Passes cs left

theorem ended_nullable {rule : FieldRule} {reader : Reader Doc} (ended : Ended reader) : Ended (readNullable rule reader) := by
  intro cs value left reads
  unfold readNullable at reads
  split at reads
  · split at reads
    next null => exact .of_skipGaps (null ▸ .null (left_of_word reads))
    · exact .of_skipGaps (ended reads)
  · exact ended reads

section
variable {item : Reader α} (ended : Ended item)
include ended

theorem ends_of_readItems {fuel : Nat} {first : Bool} {values : List α}
    (reads : readItems item fuel first cs = .ok (values,left)) :
    if first then skipGaps cs = ']' :: left ∨ PassesItems cs left else EndsItems cs left := by
  induction fuel generalizing first cs values with
  | zero => simp [readItems,cut] at reads
  | succ fuel ih =>
    have more {cs : List Char} (reads : ((item cs).bind fun begun => readItems.more item begun.1 begun.2 fuel) = .ok (values,left)) :
        PassesItems cs left := by
      obtain ⟨⟨value,rest⟩,begun,reads⟩ := exists_of_bind reads
      rw [readItems.more] at reads
      obtain ⟨others,further⟩ := left_of_map reads fun _ => rfl
      exact .item (ended begun) (ih further)
    rw [readItems] at reads
    cases first with
    | true =>
      rw [if_pos rfl]
      split at reads
      · cases reads
      next closed =>
        obtain ⟨-,rfl⟩ := Prod.mk.inj (Except.ok.inj reads)
        exact .inl closed
      next comma => exact .inr (.of_skipGaps (comma ▸ more reads))
      · exact .inr (.of_skipGaps (more reads))
    | false =>
      rw [if_neg Bool.false_ne_true]
      split at reads
      · cases reads
      next closed =>
        obtain ⟨-,rfl⟩ := Prod.mk.inj (Except.ok.inj reads)
        exact .last closed
      next comma =>
        rw [if_neg Bool.false_ne_true] at reads
        split at reads
        · cases reads
        · cases reads
        · exact .more comma (.of_skipGaps (more reads))
      · cases reads

end

theorem closed_of_closeList (reads : closeList cs = .ok left) : skipGaps cs = ']' :: left := by
  unfold closeList at reads
  split at reads
  next closed => exact closed.trans (congrArg _ (Except.ok.inj reads))
  · split at reads <;> cases reads
  · cases reads
  · cases reads

/-- Where an item is to come, a list goes on or begins. -/
theorem ends_of_nextItem {first : Bool} {start : List Char} (next : nextItem first cs = .ok (some start))
    (passes : PassesItems start left) : if first then skipGaps cs = ']' :: left ∨ PassesItems cs left else EndsItems cs left := by
  unfold nextItem at next
  split at next
  · cases next
  · cases next
  next comma =>
    split at next
    next is_first =>
      rw [if_pos is_first]
      obtain rfl := Option.some.inj (Except.ok.inj next)
      exact .inr (.of_skipGaps (comma ▸ passes))
    next later =>
      rw [if_neg later]
      split at next
      · cases next
      · cases next
      · obtain rfl := Option.some.inj (Except.ok.inj next)
        exact .more comma (.of_skipGaps passes)
  · split at next
    next is_first =>
      rw [if_pos is_first]
      obtain rfl := Option.some.inj (Except.ok.inj next)
      exact .inr (.of_skipGaps passes)
    · cases next

theorem closed_of_nextItem {first : Bool} (next : nextItem first cs = .ok none) : ∃ after, skipGaps cs = ']' :: after := by
  unfold nextItem at next
  split at next
  · cases next
  next closed => exact ⟨_,closed⟩
  · split at next
    · cases next
    split at next <;> cases next
  · split at next <;> cases next

theorem ends_of_readPositions {read : Shape → Reader Doc} (ended : ∀ shape, Ended (read shape)) {whole : String} {index : Nat}
    {rules : List (FieldRule × Shape)} {values : List (String × Doc)}
    (reads : readPositions read whole index rules cs = .ok (values,rest)) (closes : closeList rest = .ok left) :
    if index == 0 then skipGaps cs = ']' :: left ∨ PassesItems cs left else EndsItems cs left := by
  induction rules generalizing index cs values with
  | nil =>
    obtain ⟨-,rfl⟩ := Prod.mk.inj (Except.ok.inj reads)
    have closed := closed_of_closeList closes
    split
    · exact .inl closed
    · exact .last closed
  | cons first rules ih =>
    obtain ⟨rule,shape⟩ := first
    rw [readPositions] at reads
    split at reads
    · cases reads
    next next =>
      obtain ⟨⟨value,after⟩,begun,reads⟩ := exists_of_bind reads
      obtain ⟨others,further⟩ := left_of_map reads fun _ => rfl
      exact ends_of_nextItem next (.item (ended_nullable (ended shape) begun) (ih further))
    next next =>
      -- The list is at its end: what is still to come can only have defaults, and is read from the same place.
      obtain ⟨after,bracket⟩ := closed_of_nextItem next
      split at reads
      next =>
        cases ih reads with
        | last closed =>
          split
          · exact .inl closed
          · exact .last closed
        | more comma _ => exact absurd (comma.symm.trans bracket) (by simp)
      · cases reads

section
variable {member : σ → String → Except Mismatch (Reader σ)}
  (ended : ∀ {held name reader}, member held name = .ok reader → Ended reader)
include ended

theorem ends_of_readMembers {fuel : Nat} {first : Bool} {held last : σ}
    (reads : readMembers member fuel first held cs = .ok (last,left)) :
    if first then skipGaps cs = '\x7d' :: left ∨ PassesFields cs left else EndsFields cs left := by
  induction fuel generalizing first cs held with
  | zero => simp [readMembers,cut] at reads
  | succ fuel ih =>
    have entry {start cs : List Char} (begins : skipGaps start = '"' :: cs)
        (reads : readMembers.entry member held cs fuel = .ok (last,left)) : PassesFields start left := by
      unfold readMembers.entry at reads
      obtain ⟨⟨name,colon⟩,named,reads⟩ := exists_of_bind reads
      obtain ⟨reader,taken,reads⟩ := exists_of_bind reads
      obtain ⟨start,follows,reads⟩ := exists_of_bind reads
      obtain ⟨⟨next,after⟩,value,reads⟩ := exists_of_bind reads
      exact .field begins named follows (ended (eq_of_fitting taken) value) (ih reads)
    rw [readMembers] at reads
    split at reads
    · cases reads
    next closed =>
      obtain ⟨-,rfl⟩ := Prod.mk.inj (Except.ok.inj reads)
      split
      · exact .inl closed
      · exact .last closed
    next begins =>
      split at reads
      next is_first =>
        rw [if_pos is_first]
        exact .inr (entry begins reads)
      · cases reads
    next comma =>
      split at reads
      · cases reads
      next not_first =>
        rw [if_neg not_first]
        split at reads
        next begins => exact .more comma (entry begins reads)
        all_goals cases reads
    · cases reads

end

theorem ended_recordMember {read : Shape → Reader Doc} (ended : ∀ shape, Ended (read shape)) {rules : List (FieldRule × Shape)}
    {held : List (String × Doc)} {name : String} {reader : Reader (List (String × Doc))}
    (takes : recordMember read rules held name = .ok reader) : Ended reader := by
  unfold recordMember at takes
  split at takes
  · obtain rfl := Except.ok.inj takes
    intro cs value left reads
    exact passes_of_skip (left_of_word reads)
  · split at takes
    · cases takes
    · obtain rfl := Except.ok.inj takes
      intro cs value left reads
      dsimp only at reads
      obtain ⟨doc,begun⟩ := left_of_map reads fun _ => rfl
      exact ended_nullable (ended _) begun

theorem readText_of_readVariant {variants : List String} {name : String} (reads : readVariant variants cs = .ok (name,left)) :
    readText cs = .ok (name,left) := by
  obtain ⟨⟨text,after⟩,begun,reads⟩ := exists_of_bind reads
  change (if variants.contains text then _ else _) = _ at reads
  split at reads
  · exact begun.trans reads
  · cases reads

theorem passes_of_readWrappedVariant {variants : List String} {doc : Doc}
    (reads : readWrappedVariant variants cs = .ok (doc,left)) : PassesFields cs left := by
  unfold readWrappedVariant at reads
  split at reads
  next begins =>
    obtain ⟨⟨name,colon⟩,named,reads⟩ := exists_of_bind reads
    obtain ⟨start,follows,reads⟩ := exists_of_bind reads
    split at reads
    next null =>
      obtain ⟨after,word,reads⟩ := exists_of_bind reads
      split at reads
      next closed =>
        obtain ⟨-,rfl⟩ := Prod.mk.inj (Except.ok.inj reads)
        exact .field begins (readText_of_readVariant named) follows (.of_skipGaps (null ▸ .null word)) (.last closed)
      · cases reads
      · cases reads
    · cases reads
  all_goals cases reads

/-- Whatever is expected, a value that is read ends where it would end if it were passed over. -/
theorem ended_read (depth : Nat) (shape : Shape) : Ended (read depth shape) := by
  induction depth using Nat.strongRecOn generalizing shape with
  | ind depth ih =>
    intro cs doc left reads
    rw [read.eq_def] at reads
    refine .of_skipGaps ?_
    dsimp only at reads
    split at reads
    · cases reads
    next begins => exact begins ▸ .true (left_of_word reads)
    next begins => exact begins ▸ .false (left_of_word reads)
    next begins => exact begins ▸ .null (left_of_word reads)
    next begins =>
      rw [begins]
      split at reads
      next starts =>
        obtain ⟨⟨number,after⟩,numbered,reads⟩ := exists_of_bind reads
        dsimp only at reads
        split at reads
        · split at reads
          · obtain ⟨-,rfl⟩ := Prod.mk.inj (Except.ok.inj reads)
            exact .number starts numbered
          · cases reads
        · cases reads
      · cases reads
    next begins =>
      obtain ⟨text,quoted⟩ := left_of_map reads fun _ => rfl
      exact begins ▸ .text quoted
    next begins =>
      obtain ⟨text,quoted⟩ := left_of_map reads fun _ => rfl
      exact begins ▸ .text quoted
    next begins =>
      obtain ⟨name,quoted⟩ := left_of_map reads fun _ => rfl
      exact begins ▸ .text (readText_of_readVariant quoted)
    next begins =>
      split at reads
      · cases reads
      · exact begins ▸ .object (.inr (passes_of_readWrappedVariant reads))
    · cases reads
    next begins =>
      split at reads
      · cases reads
      · obtain ⟨items,listed⟩ := left_of_map reads fun _ => rfl
        exact begins ▸ .list (ends_of_readItems (ih _ (Nat.lt_succ_self _) _) listed)
    next begins =>
      split at reads
      · cases reads
      · obtain ⟨⟨values,after⟩,placed,reads⟩ := exists_of_bind reads
        obtain ⟨last,closes,reads⟩ := exists_of_bind reads
        obtain ⟨-,rfl⟩ := Prod.mk.inj (Except.ok.inj reads)
        exact begins ▸ .list (ends_of_readPositions (ih _ (Nat.lt_succ_self _)) placed closes)
    next begins =>
      split at reads
      · cases reads
      · obtain ⟨⟨held,after⟩,members,reads⟩ := exists_of_bind reads
        obtain ⟨values,fits,reads⟩ := exists_of_bind reads
        obtain ⟨-,rfl⟩ := Prod.mk.inj (Except.ok.inj reads)
        exact begins ▸ .object (ends_of_readMembers (ended_recordMember (ih _ (Nat.lt_succ_self _))) members)
    next begins => exact begins ▸ .null (left_of_word reads)
    next begins => exact begins ▸ .true (left_of_word reads)
    next begins => exact begins ▸ .false (left_of_word reads)
    next begins =>
      obtain ⟨text,quoted⟩ := left_of_map reads fun _ => rfl
      exact begins ▸ .text quoted
    next begins =>
      split at reads
      · cases reads
      · obtain ⟨items,listed⟩ := left_of_map reads fun _ => rfl
        exact begins ▸ .list (ends_of_readItems (ih _ (Nat.lt_succ_self _) _) listed)
    next begins =>
      split at reads
      · cases reads
      · obtain ⟨fields,members⟩ := left_of_map reads fun _ => rfl
        refine begins ▸ .object (ends_of_readMembers (fun takes => ?_) members)
        obtain rfl := Except.ok.inj takes
        intro cs value left reads
        dsimp only at reads
        obtain ⟨held,begun⟩ := left_of_map reads fun _ => rfl
        exact ih _ (Nat.lt_succ_self _) _ begun
    next begins =>
      rw [begins]
      split at reads
      next starts =>
        obtain ⟨number,numbered⟩ := left_of_map reads fun _ => rfl
        exact .number starts numbered
      · cases reads
    · cases reads

end AppGrants.Json
