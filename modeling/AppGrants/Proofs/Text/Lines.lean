import AppGrants.Proofs.Text.Utf8
import Mathlib.Data.List.Basic
import Mathlib.Data.List.TakeWhile

/-! Lines: a line that has its feed is not touched by what follows it. -/
namespace AppGrants.Text
variable {α : Type}

section
variable {separates : α → Bool}

theorem parts_ne_nil (items : List α) : parts separates items ≠ [] := by
  cases items with
  | nil => simp [parts]
  | cons item rest =>
    rw [parts]
    split
    · simp
    · split <;> simp

theorem parts_append {separator : α} (separated : separates separator = true) (front rest : List α) :
    parts separates (front ++ separator :: rest) = parts separates front ++ parts separates rest := by
  induction front with
  | nil => simp [parts,separated]
  | cons item front ih =>
    rw [List.cons_append,parts,ih,parts]
    split
    · rfl
    · cases split : parts separates front with
      | nil => exact absurd split (parts_ne_nil front)
      | cons first others => rfl

theorem parts_of_none {items : List α} (none_separates : ∀ item ∈ items, separates item = false) :
    parts separates items = [items] := by
  induction items with
  | nil => rfl
  | cons item rest ih =>
    have plain := none_separates item (.head _)
    rw [parts,ih fun other member => none_separates other (.tail _ member)]
    simp [plain]

/-- Parts that are each followed by a separator are found again, with nothing after the last one. -/
theorem parts_flatMap {separator : α} (separated : separates separator = true) {pieces : List (List α)}
    (whole : ∀ piece ∈ pieces, ∀ item ∈ piece, separates item = false) :
    parts separates (pieces.flatMap (· ++ [separator])) = pieces ++ [[]] := by
  induction pieces with
  | nil => rfl
  | cons piece rest ih =>
    rw [List.flatMap_cons,List.append_assoc,List.singleton_append,parts_append separated,parts_of_none (whole piece (.head _)),
      ih fun other member => whole other (.tail _ member)]
    rfl

end

section
variable [BEq α] [LawfulBEq α] {feed carriageReturn : α}

theorem parts_feed (front rest : List α) :
    parts (· == feed) (front ++ feed :: rest) = parts (· == feed) front ++ parts (· == feed) rest :=
  parts_append (by simp) front rest

theorem parts_of_absent {items : List α} (absent : feed ∉ items) : parts (· == feed) items = [items] :=
  parts_of_none fun item member => by
    rw [beq_eq_false_iff_ne]
    rintro rfl
    exact absent member

theorem linesBy_append (front rest : List α) :
    linesBy feed carriageReturn (front ++ feed :: rest) =
      linesBy feed carriageReturn (front ++ [feed]) ++ linesBy feed carriageReturn rest := by
  have more : parts (· == feed) rest ≠ [] := parts_ne_nil rest
  obtain ⟨last,same⟩ := Option.ne_none_iff_exists'.mp (mt List.getLast?_eq_none_iff.mp more)
  rw [linesBy,linesBy,linesBy,parts_feed,parts_feed]
  simp [List.dropLast_append_of_ne_nil more,same,List.getLast?_append,parts]

theorem linesBy_feed {line : List α} (unfed : feed ∉ line) :
    linesBy feed carriageReturn (line ++ [feed]) = [withoutLast carriageReturn line] := by
  rw [linesBy,parts_feed,parts_of_absent unfed]
  simp [parts]

theorem linesBy_line {line : List α} (unfed : feed ∉ line) (uncut : line.getLast? ≠ some carriageReturn) :
    linesBy feed carriageReturn (line ++ [feed]) = [line] := by
  rw [linesBy_feed unfed]
  simp [withoutLast,uncut]

/-- What follows the last line feed is taken as it is. -/
theorem linesBy_rest {line : List α} (unfed : feed ∉ line) :
    linesBy feed carriageReturn line = if line.isEmpty then [] else [line] := by
  rw [linesBy,parts_of_absent unfed]
  cases line <;> rfl

end

theorem byteLines_append (front rest : Bytes) :
    byteLines (front ++ 0x0A :: rest) = byteLines (front ++ [0x0A]) ++ byteLines rest := linesBy_append front rest

section
variable {text : List Char}

theorem trim_append_blank {blanks : List Char} (blank : ∀ c ∈ blanks, isBlank c = true) (text : List Char) :
    trim (text ++ blanks) = trim text := by
  have ended (front : List Char) : trimEnd (front ++ blanks) = trimEnd front := by
    rw [trimEnd,trimEnd,List.reverse_append,List.dropWhile_append_of_pos fun c member => blank c (List.mem_reverse.mp member)]
  rw [trim,trim,trimStart,trimStart,List.dropWhile_append]
  split
  next empty =>
    rw [List.isEmpty_iff.mp empty,List.dropWhile_eq_nil_iff.mpr blank]
  · exact ended _

theorem trim_withoutLast {c : Char} (blank : isBlank c = true) (text : List Char) : trim (withoutLast c text) = trim text := by
  unfold withoutLast
  split
  next last =>
    have whole : text.dropLast ++ [c] = text := List.dropLast_append_getLast? c (by simpa using last)
    conv_rhs => rw [← whole]
    exact (trim_append_blank (by simpa using blank) _).symm
  · rfl

theorem trim_of_solid {first last : Char} {front rest : List Char} (begins : text = first :: rest) (ends : text = front ++ [last])
    (first_seen : isBlank first = false) (last_seen : isBlank last = false) : trim text = text := by
  have started : trimStart text = text := by
    rw [begins,trimStart,List.dropWhile_cons_of_neg (by simp [first_seen])]
  rw [trim,started,ends,trimEnd]
  simp [last_seen]

end

/-- A text that fills a line: no line feed is in it, and no white space at its end. -/
structure FillsLine (text : String) : Prop where
  unfed : '\n' ∉ text.toList
  closed : ∃ front last, text.toList = front ++ [last] ∧ isBlank last = false

theorem utf8_line (text : String) : utf8 (text ++ "\n") = utf8 text ++ [0x0A] := by
  rw [utf8_append,utf8_eq "\n"]
  rfl

namespace FillsLine
variable {text : String}

theorem feed_not_mem_utf8 (fills : FillsLine text) : 0x0A ∉ utf8 text := fun feed => fills.unfed (feed_mem_utf8 feed)

theorem not_blank (fills : FillsLine text) : isBlankText text = false := by
  obtain ⟨front,last,same,seen⟩ := fills.closed
  simp [isBlankText,same,seen]

theorem trimEnd_line (fills : FillsLine text) : trimEnd (text ++ "\n").toList = text.toList := by
  obtain ⟨front,last,same,seen⟩ := fills.closed
  have feed : isBlank '\n' = true := by decide
  rw [String.toList_append,same]
  simp [trimEnd,feed,seen]

theorem utf8_uncut (fills : FillsLine text) : (utf8 text).getLast? ≠ some 0x0D := by
  obtain ⟨front,last,same,seen⟩ := fills.closed
  intro cut
  have member : 0x0D ∈ String.utf8EncodeChar last := by
    rw [utf8_eq,same,List.flatMap_append,List.flatMap_singleton,
      List.getLast?_append_of_ne_nil _ String.utf8EncodeChar_ne_nil] at cut
    exact List.mem_of_getLast? cut
  rw [ascii_mem_encoded (by decide) member] at seen
  exact absurd seen (by decide)

theorem byteLines_flatMap {texts : List String} (fill : ∀ text ∈ texts, FillsLine text) :
    byteLines (texts.flatMap fun text => utf8 (text ++ "\n")) = texts.map utf8 := by
  induction texts with
  | nil => rfl
  | cons text rest ih =>
    have fills := fill text (.head _)
    have line : byteLines (utf8 text ++ [0x0A]) = [utf8 text] := linesBy_line fills.feed_not_mem_utf8 fills.utf8_uncut
    rw [List.flatMap_cons,utf8_line,List.append_assoc,List.singleton_append,byteLines_append,line,
      ih fun other member => fill other (.tail _ member)]
    rfl

end FillsLine
end AppGrants.Text
