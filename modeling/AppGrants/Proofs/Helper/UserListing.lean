import AppGrants.Proofs.Helper.Numerals
import AppGrants.Proofs.Text.Lines
import AppGrants.Text.Numeral
import Mathlib.Data.Bool.AllAny

/-! The list of users, read back from what is printed of it. A closing brace ends the entry that is open, and the next piece of
the text tells whether it is running; so every line is read alone, and as it was meant unless the user's name has a closing
brace in it. -/
namespace AppGrants.Helper
open Text
namespace UserEntry

/-- How every entry begins. -/
def opener : List Char := "UserInfo\x7b".toList

/-- What tells that a user is running. -/
def mark : List Char := "running".toList

section
variable {front more : List Char}

/-- Whether an entry begins here, with its digits, as far as it can be told without its end. -/
def opening? (cs : List Char) : Option (List Char) := do
  let rest ← opener.isPrefixOf? cs
  let (digits, rest) ← digits? rest
  if rest.head? = some ':' then some digits else none

/-- The entry that is open at the end of a text without a closing brace. -/
def opened? : List Char → Option (List Char)
  | [] => none
  | c :: rest => (opening? (c :: rest)).or (opened? rest)

theorem digits?_stop {stop : Char} (stops : Text.isDigit stop = false) (front more : List Char) :
    digits? (front ++ stop :: more) = (digits? front).map fun (digits,rest) => (digits,rest ++ stop :: more) := by
  simp only [digits?,takeWhile_stop stops,dropWhile_stop stops]
  split <;> rfl

theorem mem_of_isPrefixOf? {word rest : List Char} (begins : word.isPrefixOf? front = some rest) : ∀ c ∈ rest, c ∈ front := by
  rw [← List.isPrefixOf?_eq_some_iff_append_eq.mp begins]
  exact fun c => List.mem_append_right word

theorem mem_of_digits? {digits rest : List Char} (read : digits? front = some (digits,rest)) : ∀ c ∈ rest, c ∈ front := by
  simp only [digits?] at read
  split at read
  · cases read
  · obtain ⟨-,rfl⟩ := Prod.mk.inj (Option.some.inj read)
    exact fun c member => (List.dropWhile_sublist _).subset member

theorem dropWhile_open (unclosed : '\x7d' ∉ front) : front.dropWhile (· != '\x7d') = [] := by
  refine List.dropWhile_eq_nil_iff.mpr fun c member => bne_iff_ne.mpr ?_
  rintro rfl
  exact unclosed member

theorem tail?_closed (unclosed : '\x7d' ∉ front) (more : List Char) :
    tail? (front ++ '\x7d' :: more) = if front.head? = some ':' then some (runningAfter more) else none := by
  cases front with
  | nil => rfl
  | cons c rest =>
    by_cases colon : c = ':'
    · subst colon
      rw [List.cons_append,tail?,dropWhile_stop (by simp),dropWhile_open (List.not_mem_of_not_mem_cons unclosed)]
      rfl
    · simp [tail?,colon]

theorem tail?_open (unclosed : '\x7d' ∉ front) : tail? front = none := by
  rw [tail?.eq_def]
  split
  · rw [dropWhile_open (List.not_mem_of_not_mem_cons unclosed)]
  · rfl

theorem first?_eq (cs : List Char) : first? cs = (opener.isPrefixOf? cs).bind fun rest =>
    (digits? rest).bind fun (digits,rest) => (tail? rest).bind fun (running,rest) => some ((digits,running),rest) := rfl

theorem first?_closed (unclosed : '\x7d' ∉ front) (more : List Char) : first? (front ++ '\x7d' :: more) =
    (opening? front).map fun digits => ((digits,(runningAfter more).1),(runningAfter more).2) := by
  rw [first?_eq,opening?,isPrefixOf?_stop (by decide)]
  cases begins : opener.isPrefixOf? front with
  | none => rfl
  | some rest =>
    simp only [Option.map_some,Option.bind_eq_bind,Option.bind_some,digits?_stop (by decide : Text.isDigit '\x7d' = false)]
    cases read : digits? rest with
    | none => rfl
    | some found =>
      have later : '\x7d' ∉ found.2 := fun member => unclosed (mem_of_isPrefixOf? begins _ (mem_of_digits? read _ member))
      simp only [Option.map_some,Option.bind_some,tail?_closed later]
      split <;> rfl

theorem first?_open (unclosed : '\x7d' ∉ front) : first? front = none := by
  rw [first?_eq]
  cases begins : opener.isPrefixOf? front with
  | none => rfl
  | some rest =>
    cases read : digits? rest with
    | none => simp only [Option.bind_some,read,Option.bind_none]
    | some found =>
      have later : '\x7d' ∉ found.2 := fun member => unclosed (mem_of_isPrefixOf? begins _ (mem_of_digits? read _ member))
      simp only [Option.bind_some,read,tail?_open later,Option.bind_none]

theorem scan_skip (skip : Nat) (cs : List Char) : scan skip cs = scan 0 (cs.drop skip) := by
  induction skip generalizing cs with
  | zero => rfl
  | succ skip ih =>
    cases cs with
    | nil => rfl
    | cons c rest => exact ih rest

/-- Entries begin with a capital letter, and nowhere else. -/
theorem scan_calm {passed : List Char} (calm : 'U' ∉ passed) (rest : List Char) : scan 0 (passed ++ rest) = scan 0 rest := by
  induction passed with
  | nil => rfl
  | cons c passed ih =>
    obtain ⟨other,calm⟩ := not_or.mp (List.mem_cons.not.mp calm)
    have nothing : first? (c :: (passed ++ rest)) = none := by
      have mismatch : opener.isPrefixOf? (c :: (passed ++ rest)) = none := by
        rw [(by decide : opener = 'U' :: "serInfo\x7b".toList)]
        exact if_neg (by simpa using other)
      rw [first?_eq,mismatch,Option.bind_none]
    rw [List.cons_append,scan,nothing]
    exact ih calm

theorem runningAfter_eq (cs : List Char) : runningAfter cs = match wordAfterBlanks? mark cs with
    | some rest => (true,rest)
    | none => (false,cs) := rfl

/-- What is read of a running user is no beginning of an entry. -/
theorem runningAfter_split (more : List Char) : ∃ passed, more = passed ++ (runningAfter more).2 ∧ 'U' ∉ passed := by
  rw [runningAfter_eq]
  cases found : wordAfterBlanks? mark more with
  | none => exact ⟨[],rfl,List.not_mem_nil⟩
  | some rest =>
    obtain ⟨blanks,blank,whole⟩ := exists_blanks_of_wordAfterBlanks? found
    refine ⟨blanks ++ mark,whole,fun member => ?_⟩
    rcases List.mem_append.mp member with member | member
    · exact absurd (blank _ member) (by decide)
    · exact absurd member (by decide)

/-- Up to a closing brace there is one entry at most; what comes after the brace is scanned anew. -/
theorem scan_piece (unclosed : '\x7d' ∉ front) (more : List Char) : scan 0 (front ++ '\x7d' :: more) =
    (opened? front).toList.map (·,(runningAfter more).1) ++ scan 0 more := by
  induction front with
  | nil => exact @scan_calm ['\x7d'] (by decide) more
  | cons c front ih =>
    have found := first?_closed unclosed more
    rw [List.cons_append] at found
    rw [List.cons_append,scan,found,opened?]
    cases opening? (c :: front) with
    | none => exact ih fun member => unclosed (.tail _ member)
    | some digits =>
      obtain ⟨passed,whole,calm⟩ := runningAfter_split more
      have left : (front ++ '\x7d' :: more).drop ((front ++ '\x7d' :: more).length - (runningAfter more).2.length) =
          (runningAfter more).2 := by
        have same : front ++ '\x7d' :: more = (front ++ '\x7d' :: passed) ++ (runningAfter more).2 := by
          rw [List.append_assoc,List.cons_append,← whole]
        generalize front ++ '\x7d' :: more = text at same ⊢
        rw [same,List.length_append,Nat.add_sub_cancel]
        exact List.drop_left
      have later : scan 0 (runningAfter more).2 = scan 0 more := by
        conv_rhs => rw [whole]
        exact (scan_calm calm _).symm
      dsimp only [Option.map_some]
      rw [scan_skip,left,later]
      rfl

theorem scan_open (unclosed : '\x7d' ∉ front) : scan 0 front = [] := by
  induction front with
  | nil => rfl
  | cons c front ih =>
    rw [scan,first?_open unclosed]
    exact ih fun member => unclosed (.tail _ member)

end

/-- The digits and the state of each entry that ends at one of the braces between the pieces. -/
def told : List (List Char) → List (List Char × Bool)
  | front :: piece :: rest => (opened? front).toList.map (·,(runningAfter piece).1) ++ told (piece :: rest)
  | _ => []

theorem told_append (pieces : List (List Char)) (piece : List Char) (rest : List (List Char)) :
    told (pieces ++ piece :: rest) = told (pieces ++ [piece]) ++ told (piece :: rest) := by
  induction pieces with
  | nil => rfl
  | cons front pieces ih =>
    cases pieces with
    | nil => simp [told]
    | cons second pieces =>
      simp only [List.cons_append] at ih ⊢
      rw [told,told,ih,List.append_assoc]

/-- Of the last piece only its beginning matters. -/
theorem told_last {piece other : List Char} (same : (runningAfter piece).1 = (runningAfter other).1)
    (pieces : List (List Char)) : told (pieces ++ [piece]) = told (pieces ++ [other]) := by
  induction pieces with
  | nil => rfl
  | cons front pieces ih =>
    cases pieces with
    | nil => simp [told,same]
    | cons second pieces =>
      simp only [List.cons_append] at ih ⊢
      rw [told,told,ih]

theorem runningAfter_closed (front more : List Char) : (runningAfter (front ++ '\x7d' :: more)).1 = (runningAfter front).1 := by
  rw [runningAfter_eq,runningAfter_eq,wordAfterBlanks?_stop (by decide) (by decide)]
  cases wordAfterBlanks? mark front <;> rfl

theorem runningAfter_parts {cs piece : List Char} {rest : List (List Char)} (split : parts (· == '\x7d') cs = piece :: rest) :
    (runningAfter cs).1 = (runningAfter piece).1 := by
  by_cases closed : '\x7d' ∈ cs
  · obtain ⟨front,more,rfl,unclosed⟩ := List.eq_append_cons_of_mem closed
    rw [parts_feed,parts_of_absent unclosed] at split
    obtain ⟨rfl,-⟩ := List.cons.inj split
    exact runningAfter_closed front more
  · rw [parts_of_absent closed] at split
    obtain ⟨rfl,-⟩ := List.cons.inj split
    rfl

/-- Scanning looks at the pieces between closing braces, of which no two depend on each other but neighbours. -/
theorem scan_eq (cs : List Char) : scan 0 cs = told (parts (· == '\x7d') cs) := by
  -- On the length: a closing brace parts the text into a piece and a shorter text.
  induction size : cs.length using Nat.strong_induction_on generalizing cs with
  | h n ih =>
    by_cases closed : '\x7d' ∈ cs
    · obtain ⟨front,more,rfl,unclosed⟩ := List.eq_append_cons_of_mem closed
      have later := ih more.length (by simp at size; omega) more rfl
      rw [scan_piece unclosed,parts_feed,parts_of_absent unclosed]
      cases split : parts (· == '\x7d') more with
      | nil => exact absurd split (parts_ne_nil more)
      | cons piece rest =>
        rw [later,runningAfter_parts split,split]
        rfl
    · rw [scan_open closed,parts_of_absent closed]
      rfl

/-- What follows an entry and its state does not change what is read of it. -/
theorem scan_append {tail : List Char} (unclosed : '\x7d' ∉ tail) (calm : 'U' ∉ tail) {more : List Char}
    (same : (runningAfter (tail ++ more)).1 = (runningAfter tail).1) (front : List Char) :
    scan 0 (front ++ '\x7d' :: (tail ++ more)) = scan 0 (front ++ '\x7d' :: tail) ++ scan 0 more := by
  rw [← scan_calm calm more,scan_eq,scan_eq (front ++ _),scan_eq (tail ++ more),parts_feed,parts_feed,parts_of_absent unclosed]
  cases split : parts (· == '\x7d') (tail ++ more) with
  | nil => exact absurd split (parts_ne_nil _)
  | cons piece rest =>
    rw [told_append,told_last ((runningAfter_parts split).symm.trans same)]

end UserEntry

/-- A user as the package manager prints it, with a name and flags in hexadecimal digits. -/
structure PrintedUser extends UserEntry where
  name : List Char
  flags : List Char
  proper : 0 ≤ id.toInt
  hexadecimal : ∀ c ∈ flags, Numeral.isHexDigit c = true

namespace PrintedUser
open UserEntry (opener mark)

def front (user : PrintedUser) : List Char :=
  opener ++ (numeral user.id ++ ':' :: (user.name ++ ':' :: user.flags))

def tail (user : PrintedUser) : List Char := if user.running then ' ' :: mark else []

def text (user : PrintedUser) : List Char := user.front ++ '\x7d' :: user.tail

def title : List Char := "Users:".toList

/-- The title, a line for every user, and white space at the end. -/
def listing (users : List PrintedUser) (ending : List Char) : List Char :=
  title ++ users.foldr (fun user rest => '\n' :: '\t' :: (user.text ++ rest)) ending

variable (user : PrintedUser)

theorem tail_unclosed : '\x7d' ∉ user.tail := by
  unfold tail
  split <;> decide

theorem tail_calm : 'U' ∉ user.tail := by
  unfold tail
  split <;> decide

theorem runningAfter_tail : (UserEntry.runningAfter user.tail).1 = user.running := by
  unfold tail
  cases user.running <;> decide

variable {user} {more ending : List Char}

theorem runningAfter_tail_append (quiet : (UserEntry.runningAfter more).1 = false) :
    (UserEntry.runningAfter (user.tail ++ more)).1 = (UserEntry.runningAfter user.tail).1 := by
  rw [runningAfter_tail,tail]
  cases user.running with
  | true => rfl
  | false => exact quiet

theorem runningAfter_blank (blank : ∀ c ∈ ending, isBlank c = true) : (UserEntry.runningAfter ending).1 = false := by
  have nothing : wordAfterBlanks? mark ending = none := wordAfterBlanks?_blank blank
  rw [UserEntry.runningAfter_eq,nothing]

theorem scan_text (quiet : (UserEntry.runningAfter more).1 = false) :
    UserEntry.scan 0 (user.text ++ more) = UserEntry.scan 0 user.text ++ UserEntry.scan 0 more := by
  rw [text,List.append_assoc,List.cons_append]
  exact UserEntry.scan_append user.tail_unclosed user.tail_calm (runningAfter_tail_append quiet) user.front

/-- Each line is scanned alone. -/
theorem scan_listing (users : List PrintedUser) (blank : ∀ c ∈ ending, isBlank c = true) :
    UserEntry.scan 0 (listing users ending) = users.flatMap fun user => UserEntry.scan 0 user.text := by
  have untitled (rest : List Char) : UserEntry.scan 0 (title ++ rest) = UserEntry.scan 0 rest := rfl
  rw [listing,untitled]
  induction users with
  | nil =>
    have calm : 'U' ∉ ending := fun member => absurd (blank _ member) (by decide)
    have nothing := UserEntry.scan_calm calm []
    rwa [List.append_nil] at nothing
  | cons user rest ih =>
    have quiet : (UserEntry.runningAfter
        (rest.foldr (fun user rest => '\n' :: '\t' :: (user.text ++ rest)) ending)).1 = false := by
      cases rest with
      | nil => exact runningAfter_blank blank
      | cons next others => rfl
    rw [List.foldr_cons,List.flatMap_cons,← ih]
    exact (@UserEntry.scan_calm ['\n','\t'] (by decide) _).trans (scan_text quiet)

theorem opened?_front {name : List Char} : UserEntry.opened? (opener ++ (numeral user.id ++ ':' :: name)) =
    some (numeral user.id) := by
  have begins : UserEntry.opening? (opener ++ (numeral user.id ++ ':' :: name)) = some (numeral user.id) := by
    have rest := List.isPrefixOf?_eq_some_iff_append_eq.mpr
      (rfl : opener ++ (numeral user.id ++ ':' :: name) = _)
    rw [UserEntry.opening?,rest,Option.bind_eq_bind,Option.bind_some,digits?_numeral user.proper (by simp; decide)]
    rfl
  have filled : ∃ c rest, opener ++ (numeral user.id ++ ':' :: name) = c :: rest := ⟨_,_,rfl⟩
  obtain ⟨c,rest,same⟩ := filled
  rw [same] at begins ⊢
  rw [UserEntry.opened?,begins]
  rfl

theorem opening_unclosed {name : List Char} (unclosed : '\x7d' ∉ name) :
    '\x7d' ∉ opener ++ (numeral user.id ++ ':' :: name) := by
  simp only [List.mem_append,List.mem_cons,not_or]
  refine ⟨by decide,fun member => ?_,by decide,unclosed⟩
  exact absurd (isDigit_numeral user.proper _ member) (by decide)

/-- The state that is told is the one after the first closing brace, which may be one of the name. -/
theorem scan_opening {name : List Char} (unclosed : '\x7d' ∉ name) (more : List Char) :
    UserEntry.scan 0 (opener ++ (numeral user.id ++ ':' :: name) ++ '\x7d' :: more) =
      (numeral user.id,(UserEntry.runningAfter more).1) :: UserEntry.scan 0 more := by
  rw [UserEntry.scan_piece (opening_unclosed unclosed),opened?_front]
  rfl

variable (user)

/-- What is read of the user's line alone. -/
def told : List UserEntry := UserEntry.parseAll (String.ofList user.text)

theorem told_eq : user.told =
    (UserEntry.scan 0 user.text).filterMap fun (digits,running) => (number? digits).map (⟨·,running⟩) := by
  rw [told,UserEntry.parseAll,String.toList_ofList]

theorem told_first : ∃ running others, user.told = ⟨user.id,running⟩ :: others := by
  have closed : '\x7d' ∈ user.name ++ ':' :: (user.flags ++ '\x7d' :: user.tail) := by simp
  obtain ⟨name,more,split,unclosed⟩ := List.eq_append_cons_of_mem closed
  have whole : user.text = opener ++ (numeral user.id ++ ':' :: name) ++ '\x7d' :: more := by
    simp only [text,front,List.append_assoc,List.cons_append,← split]
  rw [told_eq,whole,scan_opening unclosed]
  simp only [List.filterMap_cons,number?_numeral user.proper,Option.map_some]
  exact ⟨_,_,rfl⟩

theorem told_unclosed (unclosed : '\x7d' ∉ user.name) : user.told = [user.toUserEntry] := by
  have hexadecimal : '\x7d' ∉ user.flags := fun member => by
    have digit := user.hexadecimal _ member
    contradiction
  have inside : '\x7d' ∉ user.name ++ ':' :: user.flags := by simp [unclosed,hexadecimal]
  have quiet : UserEntry.scan 0 user.tail = [] := UserEntry.scan_open user.tail_unclosed
  rw [told_eq,text,front,scan_opening inside,quiet,runningAfter_tail]
  simp only [List.filterMap_cons,number?_numeral user.proper,Option.map_some,List.filterMap_nil]

end PrintedUser

/-- Every line is read alone, and tells of its user first. It tells the truth and nothing else if the user's name has no closing
brace in it. -/
theorem users_of_listing (users : List PrintedUser) {ending : List Char} (blank : ∀ c ∈ ending, isBlank c = true) :
    UserEntry.parseAll (String.ofList (PrintedUser.listing users ending)) = users.flatMap PrintedUser.told ∧
    (∀ user ∈ users, ∃ running others, user.told = ⟨user.id,running⟩ :: others) ∧
    ((∀ user ∈ users, '\x7d' ∉ user.name) →
      UserEntry.parseAll (String.ofList (PrintedUser.listing users ending)) = users.map PrintedUser.toUserEntry) := by
  have each : UserEntry.parseAll (String.ofList (PrintedUser.listing users ending)) = users.flatMap PrintedUser.told := by
    rw [UserEntry.parseAll,String.toList_ofList,PrintedUser.scan_listing users blank,List.filterMap_flatMap]
    exact List.flatMap_congr fun user _ => user.told_eq.symm
  refine ⟨each,fun user _ => user.told_first,fun unclosed => ?_⟩
  rw [each,← List.flatMap_singleton' (users.map _),List.flatMap_map]
  exact List.flatMap_congr fun user member => user.told_unclosed (unclosed user member)

def owner : PrintedUser where
  id := 0
  running := true
  name := "Owner of it: all\x7b".toList
  flags := "c13".toList
  proper := by decide
  hexadecimal := List.all_iff_forall_prop.mp (by decide)

def guest : PrintedUser where
  id := 11
  running := false
  name := "\tUserInfo\x7b7:running".toList
  flags := "814".toList
  proper := by decide
  hexadecimal := List.all_iff_forall_prop.mp (by decide)

theorem users_of_listing_named : (∀ c ∈ ['\n'], isBlank c = true) ∧ (∀ user ∈ [owner,guest], '\x7d' ∉ user.name) ∧
    UserEntry.parseAll (String.ofList (PrintedUser.listing [owner,guest] ['\n'])) = [⟨0,true⟩,⟨11,false⟩] := by
  have blank : ∀ c ∈ ['\n'], isBlank c = true := List.all_iff_forall_prop.mp (by decide)
  have unclosed : ∀ user ∈ [owner,guest], '\x7d' ∉ user.name := by decide
  exact ⟨blank,unclosed,(users_of_listing [owner,guest] blank).2.2 unclosed⟩

/-- A running user whose name looks like the end of an entry, and like the beginning of another. -/
def disguised : PrintedUser where
  id := 10
  running := true
  name := "x\x7dUserInfo\x7b7:".toList
  flags := "1030".toList
  proper := by decide
  hexadecimal := List.all_iff_forall_prop.mp (by decide)

theorem told_disguised : UserEntry.parseAll (String.ofList (PrintedUser.listing [disguised] ['\n'])) = [⟨10,false⟩,⟨7,true⟩] := by
  decide +kernel

theorem not_always_as_listed :
    ¬∀ users, UserEntry.parseAll (String.ofList (PrintedUser.listing users ['\n'])) = users.map PrintedUser.toUserEntry := by
  intro truthful
  have same := told_disguised.symm.trans (truthful [disguised])
  exact absurd same (by decide)

end AppGrants.Helper
