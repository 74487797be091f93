import AppGrants.Proofs.Files.Writing

/-! Entries that are erased from a folder. The folder keeps its other entries as they are, and everywhere else the tree looks as it did
before. -/
namespace AppGrants.Files.Tree
variable {tree after found changed : Tree} {names place : List String} {modified : Int} {entries : List (String × Tree)}

/-- What is seen at a place: a folder, or a file with its content, and when it was last written. -/
def look (tree : Tree) (names : List String) : Option (Node × Int) := (tree.at? names).map fun found => (found.node,found.modified)

theorem look_cons (tree : Tree) (name : String) (rest : List String) :
    tree.look (name :: rest) = (tree.entries.lookup name).bind (look · rest) := by
  rw [look,at?]
  cases tree.entries.lookup name <;> rfl

theorem at?_append (tree : Tree) (names rest : List String) : tree.at? (names ++ rest) = (tree.at? names).bind (at? · rest) := by
  induction names generalizing tree with
  | nil => rfl
  | cons name names ih =>
    rw [List.cons_append,at?,at?]
    cases tree.entries.lookup name with
    | none => rfl
    | some entry => exact ih entry

theorem alter_append (change : Option Tree → Option Tree) (names rest : List String) (found : Option Tree) :
    alter change (names ++ rest) found = alter (alter change rest) names found := by
  induction names generalizing found with
  | nil => rfl
  | cons name names ih => rw [List.cons_append,alter,alter,ih]

theorem node?_eq_look (tree : Tree) (names : List String) : tree.node? names = (tree.look names).map (·.1) := by
  rw [node?,look,Option.map_map]
  rfl

theorem look_append (there : tree.at? place = some found) (rest : List String) : tree.look (place ++ rest) = found.look rest := by
  rw [look,at?_append,there]
  rfl

/-- What the tree is but for one place. -/
def LooksAlike (place : List String) (tree after : Tree) : Prop := ∀ names, ¬place <+: names → after.look names = tree.look names

/-- Trees that look alike but for one place, and are the same there, look alike. -/
theorem LooksAlike.look_eq {other : Tree} (alike : LooksAlike place tree after) (alike' : LooksAlike place tree other)
    (there : after.at? place = some found) (there' : other.at? place = some found) (names : List String) :
    after.look names = other.look names := by
  by_cases inside : place <+: names
  · obtain ⟨rest,rfl⟩ := inside
    rw [look_append there,look_append there']
  · rw [alike names inside,alike' names inside]

/-- Where a folder keeps the folders in it, all folders stay. -/
theorem LooksAlike.folder_stays {keeps : String × Tree → Bool} (alike : LooksAlike place tree after)
    (there : tree.at? place = some (.folder modified entries))
    (there' : after.at? place = some (.folder modified (entries.filter keeps)))
    (kept : ∀ item, item.2.node = .folder → keeps item = true) (names : List String) (folder : tree.node? names = some .folder) :
    after.node? names = some .folder := by
  by_cases inside : place <+: names
  · obtain ⟨rest,rfl⟩ := inside
    rw [node?_eq_look,look_append there,← node?_eq_look] at folder
    rw [node?_eq_look,look_append there',← node?_eq_look]
    cases rest with
    | nil => rfl
    | cons name rest =>
      obtain ⟨found,inner,node⟩ := Option.map_eq_some_iff.mp folder
      obtain ⟨entry,listed,deeper⟩ := Option.bind_eq_some_iff.mp inner
      have listed : entries.lookup name = some entry := listed
      have entry_folder : entry.node = .folder := by
        cases entry with
        | folder => rfl
        | file =>
          cases rest with
          | nil =>
            obtain rfl := Option.some.inj deeper
            exact node
          | cons => cases deeper
      rw [node?,at?,Tree.entries,lookup_filter_kept listed (kept _ entry_folder)]
      exact Option.map_eq_some_iff.mpr ⟨found,deeper,node⟩
  · rw [node?_eq_look] at folder ⊢
    rw [alike names inside,folder]

theorem alter_at {change : Option Tree → Option Tree} (there : tree.at? place = some found)
    (changes : change (some found) = some changed) : ∃ altered, alter change place (some tree) = some altered ∧
      altered.at? place = some changed ∧ LooksAlike place tree altered := by
  induction place generalizing tree with
  | nil =>
    obtain rfl := Option.some.inj there
    exact ⟨changed,changes,rfl,fun names apart => absurd (List.nil_prefix) apart⟩
  | cons name rest ih =>
    cases tree with
    | file => cases there
    | folder modified entries =>
      obtain ⟨entry,listed,there⟩ := Option.bind_eq_some_iff.mp there
      obtain ⟨altered,alters,placed,alike⟩ := ih there
      have listed : entries.lookup name = some entry := listed
      refine ⟨_,by rw [alter,Option.getD_some,Tree.entries,listed,alters],?_,?_⟩
      · rw [at?,Tree.entries,lookup_replaced,if_pos rfl]
        exact placed
      · intro names apart
        cases names with
        | nil => rfl
        | cons other names =>
          rw [look_cons,look_cons,Tree.entries,lookup_replaced]
          split
          next same =>
            subst same
            rw [Tree.entries,listed]
            exact alike names fun inside => apart ((List.prefix_cons_inj other).mpr inside)
          · rfl

theorem erase_at (there : tree.at? place = some (.folder modified entries)) (name : String) :
    (tree.erase (place ++ [name])).at? place = some (.folder modified (entries.filter (·.1 != name))) ∧
      LooksAlike place tree (tree.erase (place ++ [name])) := by
  have changes : alter (fun _ => none) [name] (some (.folder modified entries)) =
      some (.folder modified (entries.filter (·.1 != name))) := rfl
  obtain ⟨altered,alters,placed,alike⟩ := alter_at there changes
  have erased : tree.erase (place ++ [name]) = altered := by rw [erase,alter_append,alters,Option.getD_some]
  rw [erased]
  exact ⟨placed,alike⟩

theorem eraseAll_at (there : tree.at? place = some (.folder modified entries)) (removed : List String) :
    (tree.eraseAll place removed).at? place = some (.folder modified (entries.filter (!removed.contains ·.1))) ∧
      LooksAlike place tree (tree.eraseAll place removed) := by
  induction removed generalizing tree entries with
  | nil =>
    have whole : entries.filter (fun entry => !([] : List String).contains entry.1) = entries := by simp
    rw [whole]
    exact ⟨there,fun _ _ => rfl⟩
  | cons name rest ih =>
    obtain ⟨erased,alike⟩ := erase_at there name
    obtain ⟨left,later⟩ := ih erased
    refine ⟨left.trans ?_,fun names apart => (later names apart).trans (alike names apart)⟩
    rw [List.filter_filter]
    congr 2
    refine List.filter_congr fun entry _ => ?_
    rw [List.contains_cons,Bool.not_or,Bool.and_comm]
    rfl

end AppGrants.Files.Tree
