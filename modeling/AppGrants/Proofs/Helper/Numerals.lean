import AppGrants.Helper.Backend
import Mathlib.Data.List.Basic
import Mathlib.Data.List.TakeWhile

/-! Numbers and words as commands print them, found again in what is printed around them. -/
namespace AppGrants.Helper
open Text

section
variable {α : Type} {passes : α → Bool} {stop : α}

theorem takeWhile_stop (stops : passes stop = false) (front rest : List α) :
    (front ++ stop :: rest).takeWhile passes = front.takeWhile passes := by
  induction front with
  | nil => simp [stops]
  | cons item front ih => simp [List.takeWhile_cons,ih]

theorem dropWhile_stop (stops : passes stop = false) (front rest : List α) :
    (front ++ stop :: rest).dropWhile passes = front.dropWhile passes ++ stop :: rest := by
  induction front with
  | nil => simp [stops]
  | cons item front ih =>
    rw [List.cons_append,List.dropWhile_cons,ih,List.dropWhile_cons]
    split <;> rfl

theorem isPrefixOf?_stop [BEq α] [LawfulBEq α] {word : List α} (absent : stop ∉ word) (front rest : List α) :
    word.isPrefixOf? (front ++ stop :: rest) = (word.isPrefixOf? front).map (· ++ stop :: rest) := by
  induction word generalizing front with
  | nil => rfl
  | cons c word ih =>
    obtain ⟨other,absent⟩ := not_or.mp (List.mem_cons.not.mp absent)
    cases front with
    | nil => simp [List.isPrefixOf?,Ne.symm other]
    | cons d front =>
      rw [List.cons_append,List.isPrefixOf?,List.isPrefixOf?,ih absent]
      split <;> rfl

end

section
variable {word cs rest : List Char}

theorem wordAfterBlanks?_stop {stop : Char} (solid : isBlank stop = false) (absent : stop ∉ word) (front rest : List Char) :
    wordAfterBlanks? word (front ++ stop :: rest) = (wordAfterBlanks? word front).map (· ++ stop :: rest) := by
  cases front with
  | nil => simp [wordAfterBlanks?,solid]
  | cons c front =>
    rw [List.cons_append,wordAfterBlanks?,wordAfterBlanks?,trimStart,dropWhile_stop solid,isPrefixOf?_stop absent]
    split <;> rfl

theorem exists_blanks_of_wordAfterBlanks? (found : wordAfterBlanks? word cs = some rest) :
    ∃ blanks, (∀ c ∈ blanks, isBlank c = true) ∧ cs = blanks ++ word ++ rest := by
  cases cs with
  | nil => cases found
  | cons c cs =>
    rw [wordAfterBlanks?] at found
    split at found
    next blank =>
      have whole : cs = cs.takeWhile isBlank ++ (word ++ rest) := by
        rw [List.isPrefixOf?_eq_some_iff_append_eq.mp found,trimStart,List.takeWhile_append_dropWhile]
      refine ⟨c :: cs.takeWhile isBlank,List.forall_mem_cons.mpr ⟨blank,fun d => List.mem_takeWhile_imp⟩,?_⟩
      rw [List.append_assoc,List.cons_append,← whole]
    · cases found

theorem wordAfterBlanks?_blank {letter : Char} (blank : ∀ c ∈ cs, isBlank c = true) :
    wordAfterBlanks? (letter :: word) cs = none := by
  cases cs with
  | nil => rfl
  | cons c rest =>
    have trimmed : trimStart rest = [] := List.dropWhile_eq_nil_iff.mpr (List.forall_mem_cons.mp blank).2
    rw [wordAfterBlanks?,trimmed]
    split <;> rfl

end

theorem natOfDigits_eq (digits : List Char) : natOfDigits digits = Nat.ofDigitChars 10 digits 0 := by
  simp only [natOfDigits,Nat.ofDigitChars,Nat.mul_comm]

/-- A number as it is printed. -/
def numeral (n : Int32) : List Char := (Backend.userArgument n).toList

section
variable {n : Int32}

theorem numeral_eq (proper : 0 ≤ n.toInt) : numeral n = Nat.toDigits 10 n.toInt.toNat := by
  obtain ⟨value,same⟩ := Int.eq_ofNat_of_zero_le proper
  rw [numeral,Backend.userArgument,same]
  exact Nat.toList_repr

theorem isDigit_numeral (proper : 0 ≤ n.toInt) : ∀ c ∈ numeral n, c.isDigit = true := by
  rw [numeral_eq proper]
  exact fun _ member => Nat.isDigit_of_mem_toDigits (by decide) (by decide) member

theorem numeral_ne_nil (proper : 0 ≤ n.toInt) : numeral n ≠ [] := by
  rw [numeral_eq proper]
  exact Nat.toDigits_ne_nil

section
variable {c : Char}

theorem toNat_of_isDigit (digit : c.isDigit = true) : 48 ≤ c.toNat ∧ c.toNat ≤ 57 := by
  simp only [Char.isDigit,Bool.and_eq_true,decide_eq_true_eq,UInt32.le_iff_toNat_le] at digit
  exact digit

theorem isDigit_of_ascii (digit : c.isDigit = true) : Text.isDigit c = true := by
  have small : c.toNat < 0x80 := Nat.lt_of_le_of_lt (toNat_of_isDigit digit).2 (by decide)
  rw [Text.isDigit,if_pos small,digit]

theorem solid_of_isDigit (digit : c.isDigit = true) : isBlank c = false := by
  obtain ⟨least,greatest⟩ := toNat_of_isDigit digit
  simp only [isBlank,Bool.or_eq_false_iff,Bool.and_eq_false_iff,decide_eq_false_iff_not,beq_eq_false_iff_ne]
  omega

end

/-- The digits end where something else follows, and they tell the number. -/
theorem digits?_numeral (proper : 0 ≤ n.toInt) {rest : List Char} (ends : ∀ c ∈ rest.head?, Text.isDigit c = false) :
    digits? (numeral n ++ rest) = some (numeral n,rest) := by
  have all : ∀ c ∈ numeral n, Text.isDigit c = true := fun c member => isDigit_of_ascii (isDigit_numeral proper c member)
  have taken : (numeral n ++ rest).takeWhile Text.isDigit = numeral n ∧ (numeral n ++ rest).dropWhile Text.isDigit = rest := by
    rw [List.takeWhile_append_of_pos all,List.dropWhile_append_of_pos all]
    cases rest with
    | nil => simp
    | cons c rest => simp [ends c rfl]
  simp [digits?,taken,numeral_ne_nil proper]

theorem number?_numeral (proper : 0 ≤ n.toInt) : number? (numeral n) = some n := by
  have all : (numeral n).all Char.isDigit = true := List.all_eq_true.mpr (isDigit_numeral proper)
  have value : natOfDigits? (numeral n) = some n.toInt.toNat := by
    have filled : (numeral n).isEmpty = false := List.isEmpty_eq_false_iff.mpr (numeral_ne_nil proper)
    rw [natOfDigits?,all,filled,natOfDigits_eq,numeral_eq proper,Nat.ofDigitChars_ten_toDigits]
    rfl
  have small : n.toInt.toNat < 2147483648 := by
    have greatest := n.toInt_lt
    omega
  have same : Int32.ofNat n.toInt.toNat = n := by
    apply Int32.toInt_inj.mp
    rw [Int32.toInt_ofNat_of_lt small]
    exact Int.toNat_of_nonneg proper
  rw [number?,value,Option.bind_some,if_pos small,same]

end
end AppGrants.Helper
