import AppGrants.Proofs.Shell.Inert

/-! How a shell reads words: piece by piece up to a sign that ends them, and one after another up to the end of the line. -/
namespace AppGrants.Shell

namespace Cursor

/-- The same place with another text ahead. -/
def facing (cursor : Cursor) (rest : List Char) : Cursor := { cursor with rest }

/-- The place behind a text. -/
def past (cursor : Cursor) (text rest : List Char) : Cursor :=
  { cursor with rest, line := cursor.line + text.count '\n' }

theorem past_past (cursor : Cursor) (text more rest rest' : List Char) :
    (cursor.past text rest').past more rest = cursor.past (text ++ more) rest := by
  rw [past,past,past,List.count_append,Nat.add_assoc]

end Cursor

namespace Reader
variable {α β : Type} {cursor after : Cursor}

theorem bind_get (next : Cursor → Reader α) : (get >>= next) cursor = next cursor cursor := rfl

theorem bind_ok {reader : Reader α} {next : α → Reader β} {value : α} (read : reader cursor = .ok (value,after)) :
    (reader >>= next) cursor = next value after := by
  change (reader cursor >>= fun result => next result.1 result.2) = _
  rw [read]
  rfl

theorem skip_append (text rest : List Char) :
    skip text.length (cursor.facing (text ++ rest)) = .ok ((),cursor.past text rest) := by
  change Except.ok ((),cursor.past ((text ++ rest).take text.length) ((text ++ rest).drop text.length)) = _
  rw [List.drop_left,List.take_left]

theorem skip_zero : skip 0 cursor = .ok ((),cursor) := rfl

theorem takeWhile_append {p : Char → Bool} {text rest : List Char} {c : Char} (all : ∀ c ∈ text, p c = true)
    (ends : p c = false) :
    takeWhile p (cursor.facing (text ++ c :: rest)) = .ok (text,cursor.past text (c :: rest)) := by
  have inside : (text ++ c :: rest).takeWhile p = text := by
    simp [List.takeWhile_append_of_pos all,ends]
  rw [takeWhile,bind_get]
  dsimp only [Cursor.facing]
  rw [inside]
  exact bind_ok (skip_append text (c :: rest))

end Reader

namespace Token
open Reader

theorem singleQuoted_eq {text : List Char} (clean : '\'' ∉ text) (rest : List Char) (cursor : Cursor) :
    singleQuoted (cursor.facing (text ++ '\'' :: rest)) = .ok (text,cursor.past (text ++ ['\'']) rest) := by
  have all : ∀ c ∈ text, (c != '\'') = true := by
    intro c member
    simpa using ne_of_mem_of_not_mem member clean
  refine (bind_ok (takeWhile_append all (by decide))).trans ?_
  change (do
    skip 1
    return text : Reader (List Char)) _ = _
  refine (bind_ok (@skip_append (cursor.past text []) ['\''] rest)).trans ?_
  rw [Cursor.past_past]
  rfl

/-- The text is read as these pieces in so many steps, wherever it stands in a word. -/
def Reads (text : List Char) (word : Word) (steps : Nat) : Prop :=
  ∀ (commands : Commands) (fuel : Nat) (before : Word) (cursor : Cursor) (rest : List Char),
    pieces commands (fuel + steps) .word before (cursor.facing (text ++ rest)) =
      pieces commands fuel .word (word.reverse ++ before) (cursor.past text rest)

section
variable {text : List Char} {word : Word} {steps : Nat}

theorem Reads.append (first : Reads text word steps) {more : List Char} {others : Word} {later : Nat}
    (second : Reads more others later) : Reads (text ++ more) (word ++ others) (steps + later) := by
  intro commands fuel before cursor rest
  rw [List.append_assoc,Nat.add_comm steps,← Nat.add_assoc,first]
  refine (second commands fuel _ (cursor.past text rest) rest).trans ?_
  rw [List.reverse_append,List.append_assoc,Cursor.past_past]

theorem reads_quote : Reads ['\\','\''] [.kept '\''] 1 := by
  intro commands fuel before cursor rest
  rw [pieces]
  change (do
    skip 2
    pieces commands fuel .word ([.kept '\''] ++ before) : Reader Word) _ = _
  exact bind_ok (skip_append ['\\','\''] rest)

theorem reads_quoted (clean : '\'' ∉ text) : Reads ('\'' :: text ++ ['\'']) (.emptyQuotes :: text.map .kept) 1 := by
  intro commands fuel before cursor rest
  rw [pieces,List.append_assoc]
  change (do
    skip 1
    let inside ← singleQuoted
    skip 0
    pieces commands fuel .word ((.emptyQuotes :: inside.map .kept).reverse ++ before) : Reader Word) _ = _
  refine (bind_ok (skip_append ['\''] (text ++ '\'' :: rest))).trans ?_
  refine (bind_ok (singleQuoted_eq clean rest (cursor.past ['\''] []))).trans ?_
  rw [bind_ok skip_zero,Cursor.past_past]
  rfl

theorem endsWord_eq_false {c : Char} (plain : c ∉ activeMarks) : endsWord c = false := by
  have marks : ∀ mark ∈ " \t\n;&|<>()".toList, mark ∈ activeMarks := List.all_iff_forall_prop.mp (by decide)
  rw [← Bool.not_eq_true,endsWord,List.contains_iff_mem]
  exact fun member => plain (marks c member)

theorem reads_bare {c : Char} (plain : c ∉ activeMarks) : Reads [c] [.bare c] 1 := by
  have backslash : c ≠ '\\' := by rintro rfl; exact plain (by decide)
  have dollar : c ≠ '$' := by rintro rfl; exact plain (by decide)
  have backquote : c ≠ '\x60' := by rintro rfl; exact plain (by decide)
  have quotes : c ≠ '"' := by rintro rfl; exact plain (by decide)
  have quote : c ≠ '\'' := by rintro rfl; exact plain (by decide)
  have within := endsWord_eq_false plain
  intro commands fuel before cursor rest
  have next : (do
      skip 1
      pieces commands fuel .word ([.bare c] ++ before) : Reader Word) (cursor.facing ([c] ++ rest)) =
      pieces commands fuel .word ([.bare c] ++ before) (cursor.past [c] rest) := bind_ok (skip_append [c] rest)
  rw [pieces,bind_get]
  refine (congrFun ?_ _).trans next
  simp [Cursor.facing,backslash,quotes,quote,within,Mode.isQuoted]

theorem pieces_end {commands : Commands} {fuel : Nat} {before : Word} {cursor : Cursor}
    (ends : cursor.rest.head?.all endsWord = true) :
    pieces commands (fuel + 1) .word before cursor = .ok (before.reverse,cursor) := by
  obtain ⟨rest,line,taken,held⟩ := cursor
  cases rest with
  | nil =>
    rw [pieces]
    rfl
  | cons c rest =>
    have ends : endsWord c = true := ends
    have backslash : c ≠ '\\' := by rintro rfl; cases ends
    have dollar : c ≠ '$' := by rintro rfl; cases ends
    have backquote : c ≠ '\x60' := by rintro rfl; cases ends
    have quotes : c ≠ '"' := by rintro rfl; cases ends
    have quote : c ≠ '\'' := by rintro rfl; cases ends
    have done : (pure before.reverse : Reader Word) ⟨c :: rest,line,taken,held⟩ =
        .ok (before.reverse,⟨c :: rest,line,taken,held⟩) := rfl
    rw [pieces,bind_get]
    refine (congrFun ?_ _).trans done
    simp [backslash,quotes,quote,ends]

theorem Reads.pieces_eq (read : Reads text word steps) {fuel : Nat} (enough : steps < fuel) {rest : List Char}
    (ends : rest.head?.all endsWord = true) (commands : Commands) (cursor : Cursor) :
    pieces commands fuel .word [] (cursor.facing (text ++ rest)) = .ok (word,cursor.past text rest) := by
  obtain ⟨more,rfl⟩ := Nat.exists_eq_add_of_lt enough
  have split : steps + more + 1 = more + 1 + steps := by omega
  rw [split,read,List.append_nil,pieces_end ends,List.reverse_reverse]

end

/-- A text that is read as an inert word. -/
structure Writes (text : List Char) (word : Word) (meant : List Char) : Prop where
  read : ∃ steps ≤ text.length, Reads text word steps
  inert : word.Inert
  plain : word.plainText = meant

section
variable {text meant : List Char} {word : Word}

theorem Writes.append (first : Writes text word meant) {more meant' : List Char} {others : Word}
    (second : Writes more others meant') :
    Writes (text ++ more) (word ++ others) (meant ++ meant') := by
  obtain ⟨steps,few,read⟩ := first.read
  obtain ⟨later,few',read'⟩ := second.read
  refine ⟨⟨steps + later,?_,read.append read'⟩,List.forall_mem_append.mpr ⟨first.inert,second.inert⟩,?_⟩
  · rw [List.length_append]
    exact Nat.add_le_add few few'
  · have plain := first.plain
    have plain' := second.plain
    rw [Word.plainText] at plain plain' ⊢
    rw [List.filterMap_append,plain,plain']

theorem writes_quote : Writes ['\\','\''] [.kept '\''] ['\''] :=
  ⟨⟨1,by decide,reads_quote⟩,List.forall_mem_singleton.mpr (.kept _),rfl⟩

theorem writes_quoted (clean : '\'' ∉ text) : Writes ('\'' :: text ++ ['\'']) (.emptyQuotes :: text.map .kept) text := by
  refine ⟨⟨1,by simp,reads_quoted clean⟩,List.forall_mem_cons.mpr ⟨.emptyQuotes,?_⟩,?_⟩
  · intro piece member
    obtain ⟨c,-,rfl⟩ := List.mem_map.mp member
    exact .kept c
  · change (text.map Piece.kept).filterMap _ = text
    rw [List.filterMap_map]
    exact List.filterMap_some

theorem writes_bare (plain : ∀ c ∈ text, c ∉ activeMarks) : Writes text (text.map .bare) text := by
  induction text with
  | nil => exact ⟨⟨0,Nat.le_refl _,fun _ _ _ _ _ => rfl⟩,List.forall_mem_nil _,rfl⟩
  | cons c text ih =>
    obtain ⟨first,others⟩ := List.forall_mem_cons.mp plain
    have one : Writes [c] [.bare c] [c] := ⟨⟨1,Nat.le_refl _,reads_bare first⟩,List.forall_mem_singleton.mpr (.bare c first),rfl⟩
    exact one.append (ih others)

end

theorem startsWith?_eq_none {symbols : List String} {text : List Char} (marks : List Char)
    (marked : ∀ symbol ∈ symbols, symbol.toList.head?.any (marks.contains ·) = true) (other : ∀ c ∈ text.head?, c ∉ marks) :
    startsWith? symbols text = none := by
  refine List.find?_eq_none.mpr fun symbol member front => ?_
  obtain ⟨mark,first,known⟩ := (Option.any_eq_true ..).mp (marked symbol member)
  obtain ⟨rest,rfl⟩ := List.isPrefixOf_iff_prefix.mp front
  refine other mark ?_ (List.contains_iff_mem.mp known)
  rw [List.head?_append,first]
  rfl

theorem redirections_none {text : List Char} (other : ∀ c ∈ text.head?, c ∉ ['<','>']) : startsWith? redirections text = none :=
  startsWith?_eq_none ['<','>'] (by decide) other

/-- Nothing but a word begins here. A number could be the descriptor of a redirection. -/
structure BeginsWord (c : Char) (rest : List Char) : Prop where
  within : endsWord c = false
  comment : c ≠ '#'
  backslash : c ≠ '\\'
  number : c.isDigit = true → ∀ next ∈ rest.head?, next ∉ ['<','>']

namespace BeginsWord
variable {c : Char} {rest : List Char}

theorem blanks_append (begins : BeginsWord c rest) {blank : List Char} (white : ∀ b ∈ blank, b = ' ' ∨ b = '\t') :
    blanks (blank ++ c :: rest) = (c :: rest,blank.length) := by
  induction blank with
  | nil =>
    have space : c ≠ ' ' := by rintro rfl; cases begins.within
    have tab : c ≠ '\t' := by rintro rfl; cases begins.within
    have backslash := begins.backslash
    rw [List.nil_append]
    unfold blanks
    split
    all_goals simp_all
  | cons b blank ih =>
    obtain ⟨first,others⟩ := List.forall_mem_cons.mp white
    rcases first with rfl | rfl
    all_goals
      rw [List.cons_append,blanks,ih others]
      rfl

theorem operators_none (begins : BeginsWord c rest) : startsWith? operators (c :: rest) = none := by
  refine startsWith?_eq_none ['&',';','|','(',')'] (by decide) fun c' same member => ?_
  obtain rfl := Option.some.inj same
  have all : ∀ mark ∈ ['&',';','|','(',')'], endsWord mark = true := List.all_iff_forall_prop.mp (by decide)
  have within := begins.within
  rw [all c member] at within
  cases within

theorem redirections_none (begins : BeginsWord c rest) : startsWith? redirections (c :: rest) = none := by
  refine Token.redirections_none fun c' same member => ?_
  obtain rfl := Option.some.inj same
  have all : ∀ mark ∈ ['<','>'], endsWord mark = true := List.all_iff_forall_prop.mp (by decide)
  have within := begins.within
  rw [all c member] at within
  cases within

/-- The next token is the word that begins after the blanks. -/
theorem scan_eq {more : List Char} (begins : BeginsWord c (more ++ rest)) {word : Word} {steps fuel : Nat}
    (read : Reads (c :: more) word steps) (enough : steps < fuel) {blank : List Char} (white : ∀ b ∈ blank, b = ' ' ∨ b = '\t')
    (ends : rest.head?.all endsWord = true) (commands : Commands) (cursor : Cursor) :
    scan commands fuel (cursor.facing (blank ++ (c :: more ++ rest))) =
      .ok (.word word,cursor.past (blank ++ c :: more) rest) := by
  have skipped := @skip_append cursor blank (c :: more ++ rest)
  have last : (do return .word (← pieces commands fuel .word []) : Reader Token) (cursor.past blank (c :: more ++ rest)) =
      .ok (.word word,cursor.past (blank ++ c :: more) rest) := by
    refine (bind_ok (read.pieces_eq enough ends commands (cursor.past blank []))).trans ?_
    rw [Cursor.past_past]
    rfl
  have feed : c ≠ '\n' := by rintro rfl; cases begins.within
  have first : peek? (cursor.past blank (c :: (more ++ rest))) = .ok (some c,cursor.past blank (c :: (more ++ rest))) := rfl
  rw [scan,bind_get]
  dsimp only [Cursor.facing,List.cons_append] at skipped ⊢
  rw [begins.blanks_append white]
  refine (bind_ok skipped).trans ((bind_ok first).trans ?_)
  simp only [Option.some.injEq,begins.comment]
  rw [if_neg not_false,bind_get]
  refine (congrFun ?_ _).trans last
  -- No sign is found, and a digit is no descriptor as none follows it either.
  have operator := begins.operators_none
  have redirection := begins.redirections_none
  cases number : c.isDigit with
  | false => simp [Cursor.past,operator,redirection,number]
  | true => simp [Cursor.past,operator,redirection,Token.redirections_none (begins.number number)]

end BeginsWord

theorem scan_nil (commands : Commands) (fuel : Nat) (cursor : Cursor) :
    scan commands fuel (cursor.facing []) = .ok (.endOfScript,cursor.facing []) := rfl

end Token
end AppGrants.Shell
