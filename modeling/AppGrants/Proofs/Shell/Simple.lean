import AppGrants.Proofs.Shell.Reading

/-! A line of nothing but words is one simple command with these words. -/
namespace AppGrants.Shell

namespace Token

/-- All the tokens up to the end of the script. -/
def all (commands : Commands) : Nat → Reader (List Token)
  | 0 => pure []
  | fuel + 1 => do
    match ← scan commands fuel with
    | .endOfScript => return [.endOfScript]
    | token => return token :: (← all commands fuel)

end Token

/-- From here on there are these words, and then the script is at its end. -/
inductive Line (enough : Nat) : Cursor → List Word → Cursor → Prop where
  | nil {cursor : Cursor} (free : cursor.held = none)
      (read : ∀ commands fuel, Token.scan commands fuel cursor = .ok (.endOfScript,cursor)) : Line enough cursor [] cursor
  | cons {cursor after last : Cursor} {word : Word} {words : List Word} (free : cursor.held = none)
      (read : ∀ commands fuel, enough ≤ fuel → Token.scan commands fuel cursor = .ok (.word word,after))
      (later : Line enough after words last) : Line enough cursor (word :: words) last

variable {enough : Nat} {cursor last : Cursor} {words : List Word}

/-- One more word in front, after blanks. -/
theorem Line.word {c : Char} {more blank rest : List Char} {word : Word} {meant : List Char} (free : cursor.held = none)
    (begins : Token.BeginsWord c (more ++ rest)) (writes : Token.Writes (c :: more) word meant)
    (few : (c :: more).length < enough)
    (white : ∀ b ∈ blank, b = ' ' ∨ b = '\t') (ends : rest.head?.all Token.endsWord = true)
    (later : Line enough (cursor.past (blank ++ c :: more) rest) words last) :
    Line enough (cursor.facing (blank ++ (c :: more ++ rest))) (word :: words) last := by
  obtain ⟨steps,bound,read⟩ := writes.read
  exact .cons free (fun commands fuel within => begins.scan_eq read (by omega) white ends commands cursor) later

theorem Line.free (line : Line enough cursor words last) : cursor.held = none := by
  cases line with
  | nil free | cons free => exact free

theorem Line.last_free (line : Line enough cursor words last) : last.held = none := by
  induction line with
  | nil free => exact free
  | cons _ _ _ ih => exact ih

theorem Line.all_eq (line : Line enough cursor words last) (commands : Token.Commands) {fuel : Nat}
    (more : enough + words.length < fuel) :
    Token.all commands fuel cursor = .ok (words.map .word ++ [.endOfScript],last) := by
  induction line generalizing fuel with
  | nil free read =>
    obtain ⟨fuel,rfl⟩ := Nat.exists_eq_add_one_of_ne_zero (Nat.ne_of_gt (Nat.lt_of_le_of_lt (Nat.zero_le _) more))
    rw [Token.all,Reader.bind_ok (read commands fuel)]
    rfl
  | cons free read later ih =>
    obtain ⟨fuel,rfl⟩ := Nat.exists_eq_add_one_of_ne_zero (Nat.ne_of_gt (Nat.lt_of_le_of_lt (Nat.zero_le _) more))
    rw [List.length_cons] at more
    rw [Token.all,Reader.bind_ok (read commands fuel (by omega))]
    exact Reader.bind_ok (ih (by omega))

namespace Grammar
open Reader Token

/-- The same place with a token that has been looked at. -/
def holding (cursor : Cursor) (token : Token) : Cursor := { cursor with held := some token }

section
variable {token : Token} {fuel : Nat} {asKeyword : Bool}

theorem hold_eq : hold token cursor = .ok ((),holding cursor token) := rfl

theorem next_held (free : cursor.held = none) :
    next (fuel + 2) false asKeyword (holding cursor token) = .ok (if asKeyword then known token else token,cursor) := by
  obtain ⟨rest,line,taken,held⟩ := cursor
  obtain rfl : held = none := free
  rw [next,Token.next]
  cases token
  all_goals cases asKeyword
  all_goals rfl

theorem next_scan {after : Cursor} (free : cursor.held = none)
    (read : ∀ commands, scan commands fuel cursor = .ok (token,after)) :
    next (fuel + 2) false asKeyword cursor = .ok (if asKeyword then known token else token,after) := by
  obtain ⟨rest,line,taken,held⟩ := cursor
  obtain rfl : held = none := free
  rw [next,Token.next]
  refine (bind_get _).trans ((bind_ok (read _)).trans ?_)
  cases token
  all_goals cases asKeyword
  all_goals rfl

end

theorem Parts.add_word {assignments : List Assignment} {found : List Word} {word : Word}
    (plain : found ≠ [] ∨ word.assignment? = none) : Parts.add ⟨assignments,found,[]⟩ word = ⟨assignments,word :: found,[]⟩ := by
  unfold Parts.add
  split
  next assignment empty assigns =>
    rcases plain with filled | no_assignment
    · exact absurd empty filled
    · cases no_assignment.symm.trans assigns
  · rfl

theorem simple_words (all : Line enough cursor words last) {found : List Word} (filled : found ≠ []) (line : Nat) {fuel : Nat}
    (more : enough + words.length + 2 < fuel) :
    simple fuel line ⟨[],found,[]⟩ cursor = .ok (.simple line [] (found.reverse ++ words) [],holding last .endOfScript) := by
  -- On the words that are left; those before them have been found.
  induction all generalizing found fuel with
  | nil free read =>
    obtain ⟨fuel,rfl⟩ : ∃ left, fuel = left + 3 := ⟨fuel - 3,by omega⟩
    rw [simple,bind_ok (next_scan free fun commands => read commands _),List.append_nil]
    rfl
  | @cons cursor after last word words free read later ih =>
    obtain ⟨fuel,rfl⟩ : ∃ left, fuel = left + 3 := ⟨fuel - 3,by omega⟩
    rw [List.length_cons] at more
    have others := ih (List.cons_ne_nil word found) (show enough + words.length + 2 < fuel + 2 by omega)
    rw [List.reverse_cons,List.append_assoc] at others
    rw [simple,bind_ok (next_scan free fun commands => read commands _ (by omega)),← List.singleton_append,← others,
      ← Parts.add_word (.inl filled)]
    rfl

/-- A word with which a simple command begins. -/
structure Names (word : Word) : Prop where
  no_keyword : known (.word word) = .word word
  no_assignment : word.assignment? = none

section
variable {name : Word} {fuel : Nat} (names : Names name) (all : Line enough cursor words last)
include names all

theorem simple_eq (line : Nat) (more : enough + words.length + 3 < fuel) : simple fuel line {} (holding cursor (.word name)) =
    .ok (.simple line [] (name :: words) [],holding last .endOfScript) := by
  obtain ⟨fuel,rfl⟩ : ∃ left, fuel = left + 3 := ⟨fuel - 3,by omega⟩
  have others := simple_words all (List.cons_ne_nil name []) line (show enough + words.length + 2 < fuel + 2 by omega)
  rw [List.reverse_singleton,List.singleton_append] at others
  rw [simple,bind_ok (next_held all.free),← others,← Parts.add_word (.inr names.no_assignment)]
  rfl

theorem command_eq (more : enough + words.length + 4 < fuel) : command fuel (holding cursor (.word name)) =
    .ok (.simple cursor.line [] (name :: words) [],holding last .endOfScript) := by
  obtain ⟨fuel,rfl⟩ : ∃ left, fuel = left + 3 := ⟨fuel - 3,by omega⟩
  rw [command,bind_get,bind_ok (next_held all.free)]
  exact simple_eq names all cursor.line (by omega)

theorem pipe_eq (more : enough + words.length + 5 < fuel) : pipe fuel (holding cursor (.word name)) =
    .ok (.simple cursor.line [] (name :: words) [],holding last .endOfScript) := by
  obtain ⟨fuel,rfl⟩ : ∃ left, fuel = left + 3 := ⟨fuel - 3,by omega⟩
  rw [pipe,bind_ok (command_eq names all (by omega)),bind_ok (next_held all.last_free)]
  rfl

theorem pipeline_eq (more : enough + words.length + 6 < fuel) : pipeline fuel (holding cursor (.word name)) =
    .ok (.simple cursor.line [] (name :: words) [],holding last .endOfScript) := by
  obtain ⟨fuel,rfl⟩ : ∃ left, fuel = left + 3 := ⟨fuel - 3,by omega⟩
  rw [pipeline,bind_ok (next_held all.free)]
  exact pipe_eq names all (by omega)

theorem andOr_eq (more : enough + words.length + 7 < fuel) : andOr fuel (holding cursor (.word name)) =
    .ok (.simple cursor.line [] (name :: words) [],holding last .endOfScript) := by
  obtain ⟨fuel,rfl⟩ : ∃ left, fuel = left + 4 := ⟨fuel - 4,by omega⟩
  rw [andOr,bind_ok (pipeline_eq names all (by omega)),andOrAfter,bind_ok (next_held all.last_free)]
  rfl

theorem list_eq (more : enough + words.length + 9 < fuel) : list fuel .line (holding cursor (.word name)) =
    .ok (.simple cursor.line [] (name :: words) [],holding last .endOfScript) := by
  obtain ⟨fuel,rfl⟩ : ∃ left, fuel = left + 4 := ⟨fuel - 4,by omega⟩
  have first : next (fuel + 2) false true (holding cursor (.word name)) = .ok (.word name,cursor) := by
    rw [next_held all.free,if_pos rfl,names.no_keyword]
  have body := andOr_eq names all (show enough + words.length + 7 < fuel + 2 by omega)
  rw [list,listAfter]
  refine (bind_ok first).trans ((bind_ok hold_eq).trans ?_)
  rw [if_neg (by simp)]
  refine (bind_ok body).trans ((bind_ok (next_held all.last_free)).trans ?_)
  rfl

end
end Grammar

/-- There is one simple command, with nothing before it, behind it or beside it. -/
theorem Line.command?_eq {name : Word} (all : Line enough cursor (name :: words) last) (names : Grammar.Names name)
    (more : enough + words.length + 9 < Grammar.fuelFor cursor.rest) :
    ∃ line, cursor.command?.map Prod.fst = .ok (some (.simple line [] (name :: words) [])) := by
  cases all with
  | @cons _ after _ _ _ free read later =>
    have first : Grammar.next (Grammar.fuelFor cursor.rest) false true cursor = .ok (.word name,after) := by
      obtain ⟨fuel,same⟩ : ∃ fuel, Grammar.fuelFor cursor.rest = fuel + 2 := ⟨Grammar.fuelFor cursor.rest - 2,by omega⟩
      rw [same,Grammar.next_scan free fun commands => read commands _ (by omega),if_pos rfl,names.no_keyword]
    refine ⟨after.line,?_⟩
    unfold Cursor.command?
    dsimp only
    rw [Reader.bind_ok first]
    dsimp only
    rw [Reader.bind_ok Grammar.hold_eq,Reader.bind_ok (Grammar.list_eq names later more)]
    rfl

end AppGrants.Shell
