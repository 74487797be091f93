import AppGrants.Proofs.Helper.Numerals
import AppGrants.Proofs.Helper.Uids
import AppGrants.Proofs.Text.Lines
import Mathlib.Data.Bool.AllAny

/-! The packages of a user, read back from the lines that are printed of them. A path may hold anything but a line feed, and even
what looks like the rest of a line: it goes up to the last equals sign, as no name and no number has one. -/
namespace AppGrants.Helper
open Text

/-- A package as the package manager prints it: where it is installed, its name, and its uid or app id. -/
structure PrintedPackage where
  path : List Char
  name : List Char
  uid : Int32
  path_filled : path ≠ []
  path_unbroken : '\n' ∉ path
  name_filled : name ≠ []
  name_plain : ∀ c ∈ name, PackageLine.isNameChar c = true
  proper : 0 ≤ uid.toInt

namespace PackageLine

/-- How the line of a package begins. -/
def opener : List Char := "package:".toList

/-- What stands before the number. -/
def mark : List Char := "uid:".toList

theorem ofLine?_eq (line : List Char) : ofLine? line = match opener.isPrefixOf? (trim line) with
    | some (c :: rest) => (split? rest).map fun line => { line with path := c :: line.path }
    | _ => none := rfl

theorem tail?_eq (cs : List Char) : tail? cs = if (cs.takeWhile isNameChar).isEmpty then none
    else (wordAfterBlanks? mark (cs.dropWhile isNameChar)).bind fun rest =>
      (digits? rest).bind fun (digits,_) => some (cs.takeWhile isNameChar,digits) := rfl

theorem split?_eq_none {cs : List Char} (absent : '=' ∉ cs) : split? cs = none := by
  induction cs with
  | nil => rfl
  | cons c rest ih =>
    obtain ⟨other,absent⟩ := not_or.mp (List.mem_cons.not.mp absent)
    rw [split?,ih absent]
    exact if_neg (Ne.symm other)

/-- The path ends at the last equals sign if what follows is the rest of a line. -/
theorem split?_append {rest name digits : List Char} (absent : '=' ∉ rest) (read : tail? rest = some (name,digits))
    (path : List Char) : split? (path ++ '=' :: rest) = some ⟨path,name,digits⟩ := by
  induction path with
  | nil =>
    rw [List.nil_append,split?,split?_eq_none absent]
    simp [read]
  | cons c path ih => rw [List.cons_append,split?,ih]

/-- White space at the end of a line does not count. -/
theorem ofLine?_of_trim {line other : List Char} (same : trim line = trim other) : ofLine? line = ofLine? other := by
  rw [ofLine?_eq,ofLine?_eq,same]

end PackageLine

namespace PrintedPackage
open PackageLine (opener mark)
variable (printed : PrintedPackage)

/-- What stands behind the path and its equals sign. -/
def ending : List Char := printed.name ++ ' ' :: (mark ++ numeral printed.uid)

def text : List Char := opener ++ (printed.path ++ '=' :: printed.ending)

/-- What is understood of the line. -/
def line : PackageLine := ⟨printed.path,printed.name,numeral printed.uid⟩

theorem tail?_ending : PackageLine.tail? printed.ending = some (printed.name,numeral printed.uid) := by
  have space : PackageLine.isNameChar ' ' = false := by decide
  have taken : printed.ending.takeWhile PackageLine.isNameChar = printed.name := by
    rw [ending,takeWhile_stop space,List.takeWhile_eq_self_iff.mpr printed.name_plain]
  have left : printed.ending.dropWhile PackageLine.isNameChar = ' ' :: (mark ++ numeral printed.uid) := by
    rw [ending,dropWhile_stop space,List.dropWhile_eq_nil_iff.mpr printed.name_plain,List.nil_append]
  have word : wordAfterBlanks? mark (' ' :: (mark ++ numeral printed.uid)) = some (numeral printed.uid) := rfl
  have read : digits? (numeral printed.uid) = some (numeral printed.uid,[]) := by
    have read := @digits?_numeral _ printed.proper [] (by simp)
    rwa [List.append_nil] at read
  rw [PackageLine.tail?_eq,taken,left,word,Option.bind_some,read]
  simp [printed.name_filled]

theorem equals_not_mem_ending : '=' ∉ printed.ending := by
  simp only [ending,List.mem_append,List.mem_cons,not_or]
  refine ⟨fun member => ?_,by decide,by decide,fun member => ?_⟩
  · exact absurd (printed.name_plain _ member) (by decide)
  · exact absurd (isDigit_numeral printed.proper _ member) (by decide)

theorem feed_not_mem_text : '\n' ∉ printed.text := by
  simp only [text,ending,List.mem_append,List.mem_cons,not_or]
  refine ⟨by decide,printed.path_unbroken,by decide,fun member => ?_,by decide,by decide,fun member => ?_⟩
  · exact absurd (printed.name_plain _ member) (by decide)
  · exact absurd (isDigit_numeral printed.proper _ member) (by decide)

theorem trim_text : trim printed.text = printed.text := by
  obtain ⟨digits,last,same⟩ := (numeral printed.uid).eq_nil_or_concat.resolve_left (numeral_ne_nil printed.proper)
  have seen : isBlank last = false := solid_of_isDigit (isDigit_numeral printed.proper last (by rw [same]; simp))
  have begins : printed.text = 'p' :: (opener.tail ++ (printed.path ++ '=' :: printed.ending)) := rfl
  have ends : printed.text = opener ++ printed.path ++ '=' :: printed.name ++ ' ' :: mark ++ digits ++ [last] := by
    simp [text,ending,same]
  exact trim_of_solid begins ends (by decide) seen

theorem ofLine?_text : PackageLine.ofLine? printed.text = some printed.line := by
  obtain ⟨c,path,same⟩ := List.exists_cons_of_ne_nil printed.path_filled
  have begins : opener.isPrefixOf? printed.text = some (c :: (path ++ '=' :: printed.ending)) := by
    rw [List.isPrefixOf?_eq_some_iff_append_eq,text,same,List.cons_append]
  rw [PackageLine.ofLine?_eq,printed.trim_text,begins]
  simp only [PackageLine.split?_append printed.equals_not_mem_ending printed.tail?_ending,Option.map_some,line,same]

/-- The package that it is to become. -/
def package (user : Int32) : PackageMeta where
  packageName := String.ofList printed.name
  uid := Int32.ofInt (user.toInt * 100000 + printed.uid.toInt % 100000)
  sourceDir := some (String.ofList printed.path)
  flags := if isSystemPath printed.path then .system else {}

end PrintedPackage

/-- A line of the output: about a package, or about anything else. -/
inductive Row where
  | package (printed : PrintedPackage)
  | other (text : List Char) (unbroken : '\n' ∉ text) (apart : ¬PackageLine.opener <+: trim text)

namespace Row

def text : Row → List Char
  | package printed => printed.text
  | other text _ _ => text

def package? : Row → Option PrintedPackage
  | package printed => some printed
  | other .. => none

/-- Rows that are each ended by a line feed, some with a carriage return before it, and a last one without. -/
def output (rows : List (Row × Bool)) (last : Row) : List Char :=
  rows.foldr (fun (row,returns) rest => row.text ++ (if returns then ['\r'] else []) ++ '\n' :: rest) last.text

theorem unbroken (row : Row) : '\n' ∉ row.text := by
  cases row with
  | package printed => exact printed.feed_not_mem_text
  | other text unbroken apart => exact unbroken

theorem ofLine?_text (row : Row) : PackageLine.ofLine? row.text = row.package?.map (·.line) := by
  cases row with
  | package printed => exact printed.ofLine?_text
  | other text unbroken apart =>
    have nothing : PackageLine.opener.isPrefixOf? (trim text) = none := by
      rw [Option.eq_none_iff_forall_ne_some]
      intro rest begins
      exact apart ⟨rest,List.isPrefixOf?_eq_some_iff_append_eq.mp begins⟩
    rw [Row.text,PackageLine.ofLine?_eq,nothing]
    rfl

/-- What is done with one line at a time sees the rows, whichever way they end. -/
theorem filterMap_lines {α : Type} {read : List Char → Option α} (blank : read [] = none)
    (ends : ∀ {line other : List Char}, trim line = trim other → read line = read other) (rows : List (Row × Bool)) (last : Row) :
    (lines (output rows last)).filterMap read = (rows.map (·.1) ++ [last]).filterMap fun row => read row.text := by
  induction rows with
  | nil =>
    rw [output,List.foldr_nil,lines,linesBy_rest last.unbroken]
    split
    next empty => simp [List.isEmpty_iff.mp empty,blank]
    · rfl
  | cons first rest ih =>
    obtain ⟨row,returns⟩ := first
    have unfed : '\n' ∉ row.text ++ if returns then ['\r'] else [] := by
      have absent := row.unbroken
      cases returns <;> simp [absent]
    have same : trim (withoutLast '\r' (row.text ++ if returns then ['\r'] else [])) = trim row.text := by
      rw [trim_withoutLast (by decide),trim_append_blank]
      cases returns with
      | false => exact List.forall_mem_nil _
      | true => exact List.forall_mem_singleton.mpr (by decide)
    have split : lines (output ((row,returns) :: rest) last) =
        withoutLast '\r' (row.text ++ if returns then ['\r'] else []) :: lines (output rest last) := by
      rw [lines,output,List.foldr_cons,linesBy_append,linesBy_feed unfed]
      rfl
    simp only [split,List.filterMap_cons,ends same,ih,List.map_cons,List.cons_append]

end Row

/-- The package is told as it was printed, under the user, and nothing else is said of it. -/
structure Recounts (user : Int32) (printed : PrintedPackage) (package : PackageMeta) : Prop where
  name : package.packageName = String.ofList printed.name
  path : package.sourceDir = some (String.ofList printed.path)
  uid : package.uid.toInt = user.toInt * 100000 + printed.uid.toInt % 100000
  user : package.uid.userIndex = user
  system : package.isSystem = true ↔ ∃ front ∈ systemPaths, front.toList <+: printed.path
  flags : package.flags = .system ∨ package.flags = {}
  label : package.label = none
  version : package.versionName = none

section
variable {user : Int32}

theorem sightings_output (rows : List (Row × Bool)) (last : Row) : sightings user (String.ofList (Row.output rows last)) =
    ((rows.map (·.1) ++ [last]).filterMap Row.package?).map fun printed => ⟨user,printed.uid,printed.line⟩ := by
  rw [sightings,String.toList_ofList,Row.filterMap_lines,List.map_filterMap]
  · refine List.filterMap_congr fun row _ => ?_
    rw [row.ofLine?_text]
    cases row with
    | package printed => simp [Row.package?,PrintedPackage.line,number?_numeral printed.proper]
    | other => rfl
  · rfl
  · intro line other same
    rw [PackageLine.ofLine?_of_trim same]

theorem number_fits (least : 0 ≤ user.toInt) (greatest : user.toInt ≤ 21473) (printed : Int32) :
    0 ≤ user.toInt * 100000 + printed.toInt % 100000 ∧ user.toInt * 100000 + printed.toInt % 100000 ≤ 2147483647 := by
  omega

theorem toPackage_line (overflow : Overflow) (least : 0 ≤ user.toInt) (greatest : user.toInt ≤ 21473) (printed : PrintedPackage) :
    printed.line.toPackage overflow user printed.uid = .done (printed.package user) := by
  have uid := @uidOf_of_fits overflow _ _ _ least printed.proper rfl (number_fits least greatest printed.uid).2
  rw [PackageLine.toPackage,uid]
  rfl

theorem isSystemPath_iff (path : List Char) : isSystemPath path = true ↔ ∃ front ∈ systemPaths, front.toList <+: path := by
  simp only [isSystemPath,List.any_eq_true,List.isPrefixOf_iff_prefix]

theorem recounts_package (least : 0 ≤ user.toInt) (greatest : user.toInt ≤ 21473) (printed : PrintedPackage) :
    Recounts user printed (printed.package user) := by
  obtain ⟨lower,upper⟩ := number_fits least greatest printed.uid
  have uid : (printed.package user).uid = Int32.ofInt (user.toInt * 100000 + printed.uid.toInt % 100000) := rfl
  have value : (printed.package user).uid.toInt = user.toInt * 100000 + printed.uid.toInt % 100000 := by
    rw [uid]
    exact Int32.toInt_ofInt_of_le (by omega) (by omega)
  have index : (printed.package user).uid.userIndex = user := by
    rw [uid]
    exact @Sighting.userIndex_of_fits ⟨user,printed.uid,printed.line⟩ ⟨least,printed.proper⟩ upper
  have flags : (printed.package user).flags = if isSystemPath printed.path then .system else {} := rfl
  have marked : PackageFlags.system.contains .system = true := by decide
  have unmarked : ({} : PackageFlags).contains .system = false := by decide
  refine ⟨rfl,rfl,value,index,?_,?_,rfl,rfl⟩
  · rw [← isSystemPath_iff,PackageMeta.isSystem,flags]
    split
    next system => simp only [marked,system]
    next other => simp only [unmarked,other]
  · rw [flags]
    split
    · exact .inl rfl
    · exact .inr rfl

end

/-- The lines about packages are read in their order and the others passed over. -/
theorem packages_of_lines (overflow : Overflow) {user : Int32} (least : 0 ≤ user.toInt) (greatest : user.toInt ≤ 21473)
    (rows : List (Row × Bool)) (last : Row) :
    ∃ packages, PackageLine.parseAll overflow (String.ofList (Row.output rows last)) user = .done packages ∧
      List.Forall₂ (Recounts user) ((rows.map (·.1) ++ [last]).filterMap Row.package?) packages := by
  have made : PackageLine.parseAll overflow (String.ofList (Row.output rows last)) user =
      .done (((rows.map (·.1) ++ [last]).filterMap Row.package?).map (·.package user)) := by
    rw [parseAll_eq,sightings_output,Ending.forAll_map]
    exact Ending.forAll_of_done fun printed _ => toPackage_line overflow least greatest printed
  refine ⟨_,made,List.forall₂_map_right_iff.mpr (List.forall₂_same.mpr fun printed _ => ?_)⟩
  exact recounts_package least greatest printed

/-- An app whose path looks like a line of its own up to a name and a uid. -/
def misleading : PrintedPackage where
  path := "/data/app/~~a1b2==/x=com.fake uid:1/base.apk".toList
  name := "com.example_2.mail".toList
  uid := 2147483647
  path_filled := by decide
  path_unbroken := by decide
  name_filled := by decide
  name_plain := List.all_iff_forall_prop.mp (by decide)
  proper := by decide

theorem packages_of_lines_misleading : 0 ≤ (21473 : Int32).toInt ∧ (21473 : Int32).toInt ≤ 21473 ∧
    let output := Row.output [(.package misleading,true)] (.other [] (by decide) (by decide))
    ∃ packages, PackageLine.parseAll .panics (String.ofList output) 21473 = .done packages ∧
      List.Forall₂ (Recounts 21473) [misleading] packages := by
  have least : 0 ≤ (21473 : Int32).toInt := by decide
  have greatest : (21473 : Int32).toInt ≤ 21473 := by decide
  exact ⟨least,greatest,packages_of_lines .panics least greatest _ _⟩

end AppGrants.Helper
