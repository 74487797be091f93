import AppGrants.Shell.Expansion
import Mathlib.Data.Bool.AllAny

/-! Words in which a shell finds nothing to do. Each of them is one field with their own characters, whatever the variables, the
files and the switches are. -/
namespace AppGrants.Shell

/-- Signs that a shell acts on unless they are quoted. -/
def activeMarks : List Char :=
  ['|','&',';','<','>','(',')',' ','\t','\n','$','\x60','\\','"','\'','*','?','[',']','#','~','!','^','\x7b','\x7d']

/-- A piece that only puts its character into the word. -/
inductive Piece.Inert : Piece → Prop where
  | bare (c : Char) (plain : c ∉ activeMarks) : Inert (.bare c)
  | kept (c : Char) : Inert (.kept c)
  | emptyQuotes : Inert .emptyQuotes

def Piece.atom : Piece → Atom
  | .bare c => .char c false false
  | .kept c => .char c true false
  | _ => .anchor

namespace Word
variable {word : Word}

def Inert (word : Word) : Prop := ∀ piece ∈ word, piece.Inert

/-- What is seen of the word once it is expanded. -/
def atoms (word : Word) : List Atom := word.map Piece.atom

theorem pattern_atoms (inert : word.Inert) : (Atom.pattern word.atoms).map (·.c) = word.plainText := by
  induction word with
  | nil => rfl
  | cons piece rest ih =>
    obtain ⟨first,others⟩ := List.forall_mem_cons.mp inert
    cases first with
    | bare c | kept c => exact congrArg (c :: ·) (ih others)
    | emptyQuotes => exact ih others

theorem isPattern_atoms (inert : word.Inert) : Glob.isPattern (Atom.pattern word.atoms) = false := by
  have marks : ∀ c ∈ "*?[".toList, c ∈ activeMarks := List.all_iff_forall_prop.mp (by decide)
  induction word with
  | nil => rfl
  | cons piece rest ih =>
    obtain ⟨first,others⟩ := List.forall_mem_cons.mp inert
    cases first with
    | bare c plain =>
      have no_sign : "*?[".toList.contains c = false := by
        rw [← Bool.not_eq_true,List.contains_iff_mem]
        exact fun member => plain (marks c member)
      change ("*?[".toList.contains c || Glob.isPattern (Atom.pattern (atoms rest))) = false
      rw [no_sign,ih others,Bool.or_self]
    | kept | emptyQuotes => exact ih others

theorem pathsOf_atoms (inert : word.Inert) (tree : Files.Tree) (folder : List String) :
    pathsOf tree folder (Atom.pattern word.atoms) = [word.plainText] := by
  rw [pathsOf,isPattern_atoms inert,← pattern_atoms inert]
  rfl

theorem collect_atoms (separators : List Char) (current : Fields.Open) (word : Word) :
    Fields.collect separators current word.atoms =
      if current.text.isEmpty && !current.isField && word.isEmpty then []
      else [current.text.reverse ++ Atom.pattern word.atoms] := by
  unfold atoms
  induction word generalizing current with
  | nil => simp [Fields.collect,Fields.Open.close,Atom.pattern]
  | cons piece rest ih =>
    rw [List.map_cons]
    cases piece
    all_goals simp [Piece.atom,Fields.collect,ih,Atom.pattern]

theorem fieldsOf_atoms (filled : word ≠ []) (separators : List Char) :
    fieldsOf separators word.atoms = [Atom.pattern word.atoms] := by
  rw [fieldsOf,collect_atoms]
  simp [filled]

theorem withHome_inert (inert : word.Inert) (frame : Frame) (ends : List Char) : Expansion.withHome frame ends word = word := by
  unfold Expansion.withHome
  split
  · cases inert _ (.head _) with
    | bare _ plain => exact absurd (by decide) plain
  · rfl

theorem mapM_piece (inert : word.Inert) (capture : Capture) (fuel : Nat) :
    word.mapM (Expansion.piece capture (fuel + 1)) = pure (word.map fun piece => [piece.atom]) := by
  induction word with
  | nil => rfl
  | cons piece rest ih =>
    obtain ⟨first,others⟩ := List.forall_mem_cons.mp inert
    have made : Expansion.piece capture (fuel + 1) piece = pure [piece.atom] := by
      cases first
      all_goals
        rw [Expansion.piece]
        rfl
    rw [List.mapM_cons,made,pure_bind,ih others,pure_bind,List.map_cons]

theorem word_inert (inert : word.Inert) (capture : Capture) (fuel : Nat) :
    Expansion.word capture (fuel + 2) word = pure word.atoms := by
  rw [Expansion.word,mapM_piece inert,pure_bind,← List.flatMap_def,← List.map_eq_flatMap]
  rfl

/-- There is one field, of the word's own characters, and nothing is done to get it. -/
theorem fields_inert (inert : word.Inert) (filled : word ≠ []) (capture : Capture) (fuel : Nat) :
    Expansion.fields capture (fuel + 2) word = pure [word.plainText] := by
  funext state
  change (do
    let atoms ← Expansion.word capture (fuel + 2) (Expansion.withHome state.frame ['/'] word)
    let state ← get
    let parted := fieldsOf state.frame.separators atoms
    if state.frame.has 'f' then return parted.map (·.map (·.c))
    else return parted.flatMap (pathsOf state.world.tree state.frame.folder) : Run (List (List Char))) state = _
  rw [withHome_inert inert,word_inert inert,pure_bind]
  change (if state.frame.has 'f' then return (fieldsOf state.frame.separators word.atoms).map (·.map (·.c))
    else return (fieldsOf state.frame.separators word.atoms).flatMap (pathsOf state.world.tree state.frame.folder) :
      Run (List (List Char))) state = _
  rw [fieldsOf_atoms filled,List.map_singleton,pattern_atoms inert,List.flatMap_singleton,pathsOf_atoms inert]
  split <;> rfl

end Word
end AppGrants.Shell
