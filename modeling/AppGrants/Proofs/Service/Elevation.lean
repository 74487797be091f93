import AppGrants.Proofs.Shell.Simple
import AppGrants.Proofs.Text.Utf8
import AppGrants.Service.Elevation
import Mathlib.Data.Bool.AllAny
import Mathlib.Data.List.Basic

/-! The line that starts the helper. Whatever the path is, a shell reads it as one word, which stands for the path and in which
there is nothing to do; the argument is another one, and there is no more. -/
namespace AppGrants

namespace Service
open Shell Shell.Token Text
variable {c : Char}

theorem not_mem_of_isShellPlain (plain : isShellPlain c = true) {marks : List Char} (active : marks.any isShellPlain = false) :
    c ∉ marks :=
  fun member => List.any_eq_false.mp active c member plain

theorem ascii_of_isShellPlain (plain : isShellPlain c = true) : c.toNat < 128 := by
  have small {greatest : Char} (within : c.val ≤ greatest.val) (ascii : greatest.toNat < 128) : c.toNat < 128 :=
    Nat.lt_of_le_of_lt (UInt32.le_iff_toNat_le.mp within) ascii
  rcases Bool.or_eq_true_iff.mp plain with letter | mark
  · rcases Bool.or_eq_true_iff.mp letter with letter | digit
    · rcases Bool.or_eq_true_iff.mp letter with capital | letter
      · exact @small 'Z' (of_decide_eq_true capital).2 (by decide)
      · exact @small 'z' (of_decide_eq_true (Bool.and_eq_true_iff.mp letter).2) (by decide)
    · exact @small '9' (of_decide_eq_true (Bool.and_eq_true_iff.mp digit).2) (by decide)
  · have all : ∀ mark ∈ "/._-+:@%,=".toList, mark.toNat < 128 := List.all_iff_forall_prop.mp (by decide)
    exact all c (List.contains_iff_mem.mp mark)

theorem inactive_of_isShellPlain (plain : isShellPlain c = true) : c ∉ activeMarks := not_mem_of_isShellPlain plain (by decide)

/-- What stands for a character where a text is quoted. -/
def betweenQuotes (c : Char) : List Char := if c = '\'' then ['\'','\\','\'','\''] else [c]

theorem quoteForShell_eq (cs : List Char) : quoteForShell cs =
    if !cs.isEmpty && cs.all isShellPlain then cs else '\'' :: cs.flatMap betweenQuotes ++ ['\''] := rfl

theorem all_octetsOfChar (c : Char) : (octetsOfChar c).all isShellPlain = isShellPlain c := by
  by_cases ascii : c.toNat < 128
  · simp [octetsOfChar_of_ascii ascii]
  · have not_plain : isShellPlain c = false := by
      rw [← Bool.not_eq_true]
      exact fun plain => ascii (ascii_of_isShellPlain plain)
    obtain ⟨octet,rest,same⟩ := List.exists_cons_of_ne_nil (octetsOfChar_ne_nil c)
    have member : octet ∈ octetsOfChar c := same ▸ .head rest
    rw [not_plain,List.all_eq_false]
    refine ⟨octet,member,fun plain => ascii ?_⟩
    have small := ascii_of_isShellPlain plain
    rwa [eq_of_mem_octetsOfChar small member] at small

theorem betweenQuotes_octets (c : Char) : (octetsOfChar c).flatMap betweenQuotes = (betweenQuotes c).flatMap octetsOfChar := by
  by_cases quote : c = '\''
  · subst quote
    decide
  · have clean : ∀ octet ∈ octetsOfChar c, betweenQuotes octet = [octet] := by
      intro octet member
      refine if_neg ?_
      rintro rfl
      exact quote (eq_of_mem_octetsOfChar (by decide) member).symm
    rw [List.flatMap_congr clean,betweenQuotes,if_neg quote]
    simp

theorem all_octets (text : String) : (octets text).all isShellPlain = text.toList.all isShellPlain := by
  rw [octets_eq,List.all_flatMap]
  exact congrArg (text.toList.all ·) (funext all_octetsOfChar)

/-- It is the same whether a text is quoted or its octets are. -/
theorem octets_quoteForShell (text : String) :
    octets (String.ofList (quoteForShell text.toList)) = quoteForShell (octets text) := by
  have empty : (octets text).isEmpty = text.toList.isEmpty := by
    rw [octets_eq]
    cases text.toList with
    | nil => rfl
    | cons c cs => simp [octetsOfChar_ne_nil]
  rw [octets_eq,String.toList_ofList,quoteForShell_eq,quoteForShell_eq,empty,all_octets]
  split
  · rw [octets_eq]
  · have mark : octetsOfChar '\'' = ['\''] := by decide
    simp [octets_eq,List.flatMap_assoc,betweenQuotes_octets,mark]

theorem writes_betweenQuotes {before : List Char} (clean : '\'' ∉ before) (cs : List Char) :
    ∃ word, Writes ('\'' :: before ++ cs.flatMap betweenQuotes ++ ['\'']) (.emptyQuotes :: word) (before ++ cs) := by
  -- On the text that is still to be quoted, with any part before it that has no quote.
  induction cs generalizing before with
  | nil =>
    rw [List.flatMap_nil,List.append_nil,List.append_nil]
    exact ⟨_,writes_quoted clean⟩
  | cons c cs ih =>
    rw [List.flatMap_cons,betweenQuotes]
    split
    next quote =>
      subst quote
      obtain ⟨word,later⟩ := @ih [] (by simp)
      have whole := (writes_quoted clean).append (writes_quote.append later)
      exact ⟨_,by simpa using whole⟩
    next other =>
      obtain ⟨word,whole⟩ := @ih (before ++ [c]) (by simp [clean,Ne.symm other])
      exact ⟨word,by simpa using whole⟩

theorem writes_quoteForShell (cs : List Char) :
    ∃ word, Writes (quoteForShell cs) word cs ∧ word ≠ [] ∧ (word = cs.map .bare ∨ word.head? = some .emptyQuotes) := by
  rw [quoteForShell_eq]
  split
  next plain =>
    obtain ⟨filled,plain⟩ := Bool.and_eq_true_iff.mp plain
    refine ⟨_,writes_bare fun c member => inactive_of_isShellPlain (List.all_eq_true.mp plain c member),?_,.inl rfl⟩
    simpa using filled
  · obtain ⟨word,whole⟩ := writes_betweenQuotes (by simp : '\'' ∉ []) cs
    exact ⟨_,whole,List.cons_ne_nil _ _,.inr rfl⟩

theorem begins_plain {more rest : List Char} (plain : ∀ c' ∈ c :: more, isShellPlain c' = true)
    (ends : rest.head?.all (· == ' ') = true) : BeginsWord c (more ++ rest) := by
  have active := inactive_of_isShellPlain (plain c (.head _))
  refine ⟨endsWord_eq_false active,?_,?_,fun _ next ahead => ?_⟩
  · rintro rfl
    exact active (by decide)
  · rintro rfl
    exact active (by decide)
  · cases more with
    | nil =>
      rw [List.nil_append] at ahead
      rw [Option.mem_def.mp ahead] at ends
      obtain rfl : next = ' ' := by simpa using ends
      decide
    | cons c' more =>
      obtain rfl := Option.some.inj ahead
      exact not_mem_of_isShellPlain (plain _ (.tail _ (.head _))) (by decide)

theorem begins_quoteForShell (cs rest : List Char) :
    ∃ c more, quoteForShell cs = c :: more ∧ BeginsWord c (more ++ ' ' :: rest) := by
  rw [quoteForShell_eq]
  split
  next plain =>
    obtain ⟨filled,plain⟩ := Bool.and_eq_true_iff.mp plain
    cases cs with
    | nil => cases filled
    | cons c more => exact ⟨c,more,rfl,begins_plain (List.all_eq_true.mp plain) rfl⟩
  · exact ⟨'\'',_,rfl,by decide,by decide,by decide,nofun⟩

/-- The line that the shell is given. -/
def elevatedLine (executable : String) : String := String.ofList (quoteForShell executable.toList) ++ " " ++ serveArgument

theorem octets_elevatedLine (executable : String) :
    octets (elevatedLine executable) = quoteForShell (octets executable) ++ ' ' :: octets serveArgument := by
  have blank : octets " " = [' '] := octets_of_ascii (List.all_iff_forall_prop.mp (by decide))
  rw [elevatedLine,octets_append,octets_append,octets_quoteForShell,blank,List.append_assoc,List.singleton_append]

theorem line_of_quoted (cs : List Char) {word : Word} (writes : Writes (quoteForShell cs) word cs) {c : Char} {others : List Char}
    (plain : ∀ c' ∈ c :: others, isShellPlain c' = true) : ∃ last,
      Line ((quoteForShell cs).length + others.length + 3) { rest := quoteForShell cs ++ ' ' :: c :: others }
        [word,(c :: others).map .bare] last := by
  obtain ⟨mark,more,quoted,begins⟩ := begins_quoteForShell cs (c :: others)
  rw [quoted] at writes ⊢
  have argument := writes_bare fun c' member => inactive_of_isShellPlain (plain c' member)
  have next : BeginsWord c (others ++ []) := begins_plain plain rfl
  let start : Cursor := { rest := [] }
  let enough := (mark :: more).length + others.length + 3
  let last := (start.past (mark :: more) []).past ([' '] ++ c :: others) []
  have ended : Line enough last [] last := .nil rfl fun commands fuel => scan_nil commands fuel last
  have second : Line enough ((start.past (mark :: more) []).facing ([' '] ++ (c :: others ++ []))) [_] last :=
    .word rfl next argument (by simp [enough]; omega) (by simp) rfl ended
  rw [List.append_nil] at second
  exact ⟨last,.word rfl begins writes (by simp [enough]; omega) (List.forall_mem_nil _) rfl second⟩

theorem octets_absolute {path : String} (absolute : path.toList.head? = some '/') : (octets path).head? = some '/' := by
  obtain ⟨rest,same⟩ := List.head?_eq_some_iff.mp absolute
  rw [octets_eq,same,List.flatMap_cons,octetsOfChar_of_ascii (by decide)]
  rfl

theorem bareText?_map_bare (cs : List Char) : Word.bareText? (cs.map .bare) = some cs := by
  induction cs with
  | nil => rfl
  | cons c cs ih => rw [List.map_cons,Word.bareText?,ih,Option.map_some]

theorem names_of_absolute {cs : List Char} {word : Word} (absolute : cs.head? = some '/')
    (shape : word = cs.map .bare ∨ word.head? = some .emptyQuotes) : Grammar.Names word := by
  rcases shape with rfl | quoted
  · obtain ⟨rest,rfl⟩ := List.head?_eq_some_iff.mp absolute
    constructor
    · have none_slashed : ∀ keyword ∈ keywords, keyword.toList.head? ≠ some '/' := by decide
      have other : keywords.contains (String.ofList ('/' :: rest)) = false := by
        rw [← Bool.not_eq_true,List.contains_iff_mem]
        intro member
        refine none_slashed _ member ?_
        rw [String.toList_ofList]
        rfl
      rw [known,bareText?_map_bare,Option.map_some]
      change (if keywords.contains (String.ofList ('/' :: rest)) = true then _ else _) = _
      rw [other]
      rfl
    · rfl
  · obtain ⟨rest,rfl⟩ := List.head?_eq_some_iff.mp quoted
    exact ⟨rfl,rfl⟩

/-- A word that stands for a text: it has no other characters, a shell finds nothing in it to act on, and whatever the variables,
the files and the switches are, it is one field with this text. -/
structure StandsFor (word : Word) (text : List Char) : Prop where
  plain : word.plainText = text
  inert : word.Inert
  fields : ∀ capture fuel, Expansion.fields capture (fuel + 2) word = pure [text]

theorem standsFor_of_writes {text meant : List Char} {word : Word} (writes : Writes text word meant) (filled : word ≠ []) :
    StandsFor word meant :=
  ⟨writes.plain,writes.inert,fun capture fuel => by rw [Word.fields_inert writes.inert filled,writes.plain]⟩

/-- Whatever the path is, the line has two words, of which one stands for the path and one for the argument. If the path is
absolute, a shell has nothing else to run but the command with these words. -/
theorem elevatedCommand_read (executable : String) : ∃ line first second,
    elevatedCommand executable = ["su","-c",line] ∧
    (∀ commands, (Token.all commands (Grammar.fuelFor (octets line))).run' { rest := octets line } =
      .ok [.word first,.word second,.endOfScript]) ∧
    StandsFor first (octets executable) ∧ StandsFor second (octets serveArgument) ∧
    (executable.toList.head? = some '/' →
      ∃ number, ({ rest := octets line } : Cursor).command?.map Prod.fst = .ok (some (.simple number [] [first,second] []))) := by
  have serve : octets serveArgument = 's' :: ['e','r','v','e'] := octets_of_ascii (List.all_iff_forall_prop.mp (by decide))
  have plain : ∀ c ∈ 's' :: ['e','r','v','e'], isShellPlain c = true := List.all_iff_forall_prop.mp (by decide)
  have argument := writes_bare fun c member => inactive_of_isShellPlain (plain c member)
  obtain ⟨first,writes,filled,shape⟩ := writes_quoteForShell (octets executable)
  obtain ⟨last,line⟩ := line_of_quoted _ writes plain
  have more : (quoteForShell (octets executable)).length + ['e','r','v','e'].length + 3 + 10 <
      Grammar.fuelFor (quoteForShell (octets executable) ++ ' ' :: 's' :: ['e','r','v','e']) := by
    simp [Grammar.fuelFor]
    omega
  refine ⟨elevatedLine executable,first,_,rfl,fun commands => ?_,standsFor_of_writes writes filled,
    serve ▸ standsFor_of_writes argument (List.cons_ne_nil _ _),fun absolute => ?_⟩
  all_goals rw [octets_elevatedLine,serve]
  · have read := line.all_eq commands (Nat.lt_of_le_of_lt (Nat.le_add_right _ 8) more)
    change Except.map Prod.fst (Token.all commands _ _) = _
    rw [read]
    rfl
  · exact line.command?_eq (names_of_absolute (octets_absolute absolute) shape) more

theorem elevatedCommand_read_apostrophe : "/it's".toList.head? = some '/' ∧ ∃ first second number,
    StandsFor first (octets "/it's") ∧ StandsFor second (octets serveArgument) ∧
    ({ rest := octets "'/it'\\''s' serve" } : Cursor).command?.map Prod.fst =
      .ok (some (.simple number [] [first,second] [])) := by
  obtain ⟨line,first,second,same,-,path,argument,command⟩ := elevatedCommand_read "/it's"
  obtain ⟨number,command⟩ := command (by decide)
  obtain rfl : line = "'/it'\\''s' serve" := by
    have whole : elevatedCommand "/it's" = ["su","-c","'/it'\\''s' serve"] := by decide
    simpa [whole] using same.symm
  exact ⟨by decide,first,second,number,path,argument,command⟩

end Service
end AppGrants
