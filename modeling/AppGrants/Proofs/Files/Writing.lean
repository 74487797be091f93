import AppGrants.Files.Tree
import AppGrants.Proofs.Json.Success
import AppGrants.Proofs.Lookup

/-! Files that are written. What is put under the names of a path is found there, no folder goes away by it, and so the path leads
where it did before and its file has the content that was written. -/
namespace AppGrants.Files.Tree
open Json (exists_of_bind)
variable {tree : Tree} {names place : List String} {content : Text.Bytes} {executable : Bool} {modified : Int}

theorem lookup_replaced (entries : List (String × Tree)) (name : String) (value : Tree) (other : String) :
    (entries.filter (·.1 != name) ++ [(name,value)]).lookup other = if other = name then some value else entries.lookup other := by
  rw [List.lookup_append,lookup_filter (· != name)]
  by_cases same : other = name
  · subst same
    rw [if_pos rfl,bne_self_eq_false,if_neg Bool.false_ne_true,List.lookup_cons_self,Option.none_or]
  · rw [if_neg same,if_pos (bne_iff_ne.mpr same),lookup_cons_ne same,List.lookup_nil,Option.or_none]

section
variable {written altered : Tree}

theorem alter_always (written : Tree) (names : List String) (found : Option Tree) :
    ∃ altered, alter (fun _ => some written) names found = some altered ∧ altered.at? names = some written := by
  induction names generalizing found with
  | nil => exact ⟨written,rfl,rfl⟩
  | cons name rest ih =>
    obtain ⟨changed,alters,there⟩ := ih ((found.getD empty).entries.lookup name)
    refine ⟨_,by rw [alter,alters],?_⟩
    rw [at?,entries,lookup_replaced,if_pos rfl]
    exact there

/-- A folder stays where it is, other than the one whose place is taken. -/
theorem folder_of_alter {found : Option Tree} (alters : alter (fun _ => some written) names found = some altered)
    (apart : (found.bind (at? · names)).map node ≠ some .folder) (there : (found.bind (at? · place)).map node = some .folder) :
    altered.node? place = some .folder := by
  -- On the names of what is put in place: a folder is above it, or beside it from some name on, but never at it or under it.
  induction names generalizing found place altered with
  | nil =>
    cases found with
    | none => cases there
    | some tree =>
      cases tree with
      | folder => exact absurd rfl apart
      | file =>
        cases place with
        | nil => exact absurd there apart
        | cons name rest => cases there
  | cons name rest ih =>
    cases found with
    | none => cases there
    | some tree =>
      obtain ⟨changed,inner,-⟩ := alter_always written rest (tree.entries.lookup name)
      rw [alter,Option.getD_some,inner] at alters
      obtain rfl := Option.some.inj alters
      cases place with
      | nil => rfl
      | cons other place =>
        rw [node?,at?,entries,lookup_replaced]
        split
        next same =>
          subst same
          exact ih inner apart there
        · exact there

end
/-- The tree with a file under the names. -/
def withFile (tree : Tree) (names : List String) (content : Text.Bytes) (executable : Bool) (modified : Int) : Tree :=
  tree.insert ⟨names,.file content executable,modified⟩

theorem withFile_eq (tree : Tree) (names : List String) (content : Text.Bytes) (executable : Bool) (modified : Int) :
    alter (fun _ => some (.file content executable modified)) names (some tree) =
      some (tree.withFile names content executable modified) := by
  obtain ⟨altered,alters,-⟩ := alter_always (.file content executable modified) names (some tree)
  exact alters.trans (congrArg some (congrArg (Option.getD · empty) alters).symm)

theorem node?_withFile : (tree.withFile names content executable modified).node? names = some (.file content executable) := by
  obtain ⟨altered,alters,there⟩ := alter_always (.file content executable modified) names (some tree)
  obtain rfl := Option.some.inj ((withFile_eq ..).symm.trans alters)
  rw [node?,there]
  rfl

theorem folder_withFile (apart : tree.node? names ≠ some .folder) (there : tree.node? place = some .folder) :
    (tree.withFile names content executable modified).node? place = some .folder :=
  folder_of_alter (withFile_eq ..) apart there

section
variable {after : Tree} (stays : ∀ names, tree.node? names = some .folder → after.node? names = some .folder)
include stays

/-- All that a path leads through are folders. -/
theorem walk_of_folders {start steps : List String} (walks : tree.walk start steps = .ok place) :
    after.walk start steps = .ok place := by
  induction steps generalizing start with
  | nil => exact walks
  | cons name rest ih =>
    rw [walk] at walks ⊢
    split at walks
    · cases walks
    · cases walks
    next folder =>
      rw [stays _ folder]
      dsimp only
      split at walks
      · cases walks
      next short => exact (if_neg short).trans (ih walks)

theorem resolve_of_folders {folder : List String} {path : String} (resolves : tree.resolve folder path = .ok names)
    (fits : (Path.asksForFolder path && (after.node? names).any Node.isFile) = false) :
    after.resolve folder path = .ok names := by
  unfold resolve at resolves ⊢
  split at resolves
  · cases resolves
  next fine =>
    obtain ⟨place,walks,ends⟩ := exists_of_bind resolves
    split at ends
    · cases ends
    · obtain rfl := Except.ok.inj ends
      rw [walk_of_folders stays walks]
      exact if_neg (by simp [fits])

end

theorem resolve_withFile {folder : List String} {path : String} (resolves : tree.resolve folder path = .ok names)
    (apart : tree.node? names ≠ some .folder) (plain : Path.asksForFolder path = false) :
    (tree.withFile names content executable modified).resolve folder path = .ok names :=
  resolve_of_folders (fun _ => folder_withFile apart) resolves (by rw [plain,Bool.false_and])

/-- What is written to a file is read from it. -/
theorem read_withFile {folder : List String} {path : String} (resolves : tree.resolve folder path = .ok names)
    (apart : tree.node? names ≠ some .folder) (plain : Path.asksForFolder path = false) :
    (tree.withFile names content executable modified).read folder path = .ok content := by
  rw [read,find,resolve_withFile resolves apart plain]
  simp only [bind,Except.bind,node?_withFile]

end AppGrants.Files.Tree
