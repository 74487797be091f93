import AppGrants.Logs.Setup
import AppGrants.Proofs.Files.Erasing
import Mathlib

/-! Clearing a folder of its logs removes the expired ones and nothing else, in whichever order they are listed, and as far as it comes
when one of them cannot be removed. -/
namespace AppGrants.Logs
open Files

/-- The name ends in a point and the extension of logs in any case, with something before the point. -/
def NamedAsLog (name : String) : Prop :=
  ∃ stem ending, name.toList = stem ++ '.' :: ending ∧ stem ≠ [] ∧ ending.map Char.toLower = "log".toList

theorem point_not_mem {ending : List Char} (spelled : ending.map Char.toLower = "log".toList) : ∀ c ∈ ending, (c != '.') = true := by
  intro c member
  rw [bne_iff_ne]
  rintro rfl
  have lowered : Char.toLower '.' ∈ ending.map Char.toLower := List.mem_map_of_mem member
  rw [spelled] at lowered
  exact absurd lowered (by decide)

theorem extension?_point {ending : List Char} (plain : ∀ c ∈ ending, (c != '.') = true) (stem : List Char) :
    Path.extension? (stem ++ '.' :: ending) = if stem = [] then none else some ending := by
  have backwards : (stem ++ '.' :: ending).reverse = ending.reverse ++ '.' :: stem.reverse := by simp
  have plain : ∀ c ∈ ending.reverse, (c != '.') = true := fun c member => plain c (List.mem_reverse.mp member)
  have after : (stem ++ '.' :: ending).reverse.takeWhile (· != '.') = ending.reverse := by
    rw [backwards,List.takeWhile_append_of_pos plain,List.takeWhile_cons_of_neg (by decide),List.append_nil]
  have before : (stem ++ '.' :: ending).reverse.dropWhile (· != '.') = '.' :: stem.reverse := by
    rw [backwards,List.dropWhile_append_of_pos plain,List.dropWhile_cons_of_neg (by decide)]
  unfold Path.extension?
  dsimp only
  rw [after,before,List.reverse_reverse,List.length_cons,List.length_reverse]
  cases stem <;> simp

theorem exists_of_extension? {name ending : List Char} (named : Path.extension? name = some ending) :
    ∃ stem, name = stem ++ '.' :: ending ∧ stem ≠ [] := by
  unfold Path.extension? at named
  dsimp only at named
  have whole : name.reverse.takeWhile (· != '.') ++ name.reverse.dropWhile (· != '.') = name.reverse :=
    List.takeWhile_append_dropWhile
  split at named
  next long =>
    obtain rfl := Option.some.inj named
    cases before : name.reverse.dropWhile (· != '.') with
    | nil => simp [before] at long
    | cons point rest =>
      have stops := List.head_dropWhile_not (· != '.') (before ▸ List.cons_ne_nil point rest)
      simp only [before,List.head_cons,bne_eq_false_iff_eq] at stops
      subst stops
      refine ⟨rest.reverse,?_,?_⟩
      · have forwards := congrArg List.reverse whole
        rw [before,List.reverse_append,List.reverse_cons,List.reverse_reverse,List.append_assoc] at forwards
        exact forwards.symm
      · rintro empty
        rw [before,List.reverse_eq_nil_iff.mp empty] at long
        simp at long
  · cases named

theorem isLogName_iff (name : String) : isLogName name = true ↔ NamedAsLog name := by
  unfold isLogName
  constructor
  · intro named
    split at named
    next ending extended =>
      obtain ⟨stem,whole,written⟩ := exists_of_extension? extended
      exact ⟨stem,ending,whole,written,eq_of_beq named⟩
    · cases named
  · rintro ⟨stem,ending,whole,written,spelled⟩
    rw [whole,extension?_point (point_not_mem spelled),if_neg written]
    exact beq_iff_eq.mpr spelled

/-- A log that was last written longer ago than logs are kept. -/
structure Expired (keep : Nat) (now : Int) (item : String × Tree) : Prop where
  file : item.2.node.isFile = true
  named : NamedAsLog item.1
  old : (keep : Int) < now - item.2.modified

section
variable {keep : Nat} {now : Int} {item : String × Tree}

theorem expired_iff : Expired keep now item ↔
    (item.2.node.isFile && isLogName item.1 && Entry.hasExpired keep now item.2.modified) = true := by
  have ages : Entry.hasExpired keep now item.2.modified = true ↔ (keep : Int) < now - item.2.modified := by
    unfold Entry.hasExpired
    rw [decide_eq_true_eq]
    omega
  rw [Bool.and_eq_true,Bool.and_eq_true,isLogName_iff,ages,and_assoc]
  exact ⟨fun expired => ⟨expired.file,expired.named,expired.old⟩,fun ⟨file,named,old⟩ => ⟨file,named,old⟩⟩

instance : Decidable (Expired keep now item) := decidable_of_iff _ expired_iff.symm

theorem Expired.mono {longer : Nat} (longer_kept : keep ≤ longer) (expired : Expired longer now item) : Expired keep now item :=
  ⟨expired.file,expired.named,by have := expired.old; omega⟩

end

/-- What stays of the entries. -/
def unexpired (keep : Nat) (now : Int) (entries : List (String × Tree)) : List (String × Tree) :=
  entries.filter fun item => ¬Expired keep now item

/-- The time of each of the items can be asked for, and each can be removed. -/
def Circumstances.Calm (circumstances : Circumstances) (items : List (String × Tree)) : Prop :=
  ∀ item ∈ items, circumstances.time item.1 = .ok () ∧ circumstances.removal item.1 = .ok ()

section
variable {circumstances : Circumstances} {build : Build} {path : String} {keep : Nat} {now : Int}

theorem clean_entry {item : String × Tree} (timed : circumstances.time item.1 = .ok ()) :
    (circumstances.entry item).clean build path keep now = if Expired keep now item then
      (match circumstances.removal item.1 with
        | .ok _ => .ok true
        | .error text => .error (Entry.removalFailure build (Path.join path item.1) text))
    else .ok false := by
  have known : (circumstances.entry item).modified = .ok item.2.modified := by
    rw [Circumstances.entry,timed]
    rfl
  have logs : (circumstances.entry item).isLog = (item.2.node.isFile && isLogName item.1) := rfl
  unfold Entry.clean
  rw [known,logs]
  dsimp only
  by_cases expired : Expired keep now item
  · obtain ⟨log,old⟩ := Bool.and_eq_true_iff.mp (expired_iff.mp expired)
    rw [if_pos expired,log,old,if_neg (by decide),if_neg (by decide)]
    rfl
  · rw [if_neg expired]
    split
    · rfl
    next log =>
      split
      · rfl
      next old => exact absurd (expired_iff.mpr (by simp_all)) expired

/-- Where nothing fails the loop goes on, with the names of the expired logs in its hands. -/
theorem cleanUp_calm {items : List (String × Tree)} (calm : circumstances.Calm items) (others : List Entry) :
    cleanUp build path keep now (items.map circumstances.entry ++ others) =
      ((items.filter fun item => Expired keep now item).map (·.1) ++ (cleanUp build path keep now others).1,
        (cleanUp build path keep now others).2) := by
  induction items with
  | nil => rfl
  | cons item rest ih =>
    obtain ⟨timed,removable⟩ := calm item List.mem_cons_self
    have calm : circumstances.Calm rest := fun other member => calm other (List.mem_cons_of_mem item member)
    have cleaned : (circumstances.entry item).clean build path keep now = .ok (decide (Expired keep now item)) := by
      rw [clean_entry timed,removable]
      split
      next expired => rw [decide_eq_true expired]
      next kept => rw [decide_eq_false kept]
    rw [List.map_cons,List.cons_append,cleanUp,cleaned,ih calm]
    by_cases expired : Expired keep now item
    · simp [expired,Circumstances.entry]
    · simp [expired]

theorem Circumstances.mem_listing {entries : List (String × Tree)} (item : String × Tree) :
    item ∈ circumstances.listing entries ↔ item ∈ entries := (circumstances.whole entries).mem_iff

theorem cleanUp_listing {entries : List (String × Tree)} (calm : circumstances.Calm entries) :
    cleanUp build path keep now ((circumstances.listing entries).map circumstances.entry) =
      (((circumstances.listing entries).filter fun item => Expired keep now item).map (·.1),none) := by
  have calm : circumstances.Calm (circumstances.listing entries) :=
    fun item member => calm item ((circumstances.mem_listing item).mp member)
  simpa [cleanUp] using @cleanUp_calm circumstances build path keep now _ calm []

variable (build path keep now) in
/-- The loop ends at an expired log that cannot be removed. -/
theorem cleanUp_stopped {before : List (String × Tree)} {item : String × Tree} (rest : List (String × Tree)) {text : String}
    (calm : circumstances.Calm before) (timed : circumstances.time item.1 = .ok ())
    (stays : circumstances.removal item.1 = .error text) (expired : Expired keep now item) :
    cleanUp build path keep now ((before ++ item :: rest).map circumstances.entry) =
      ((before.filter fun item => Expired keep now item).map (·.1),
        some (Entry.removalFailure build (Path.join path item.1) text)) := by
  rw [List.map_append,cleanUp_calm calm,List.map_cons,cleanUp,clean_entry timed,if_pos expired,stays,List.append_nil]

end

section
variable {tree : Tree} {folder place : List String} {path : String} {modified : Int} {entries : List (String × Tree)}
  {keep : Nat} {now : Int}

section
variable (resolves : tree.resolve folder path = .ok place) (there : tree.at? place = some (.folder modified entries))
  {circumstances : Circumstances} {build : Build} {removed : List String}
include resolves there

theorem clearFolder_done
    (cleans : cleanUp build path keep now ((circumstances.listing entries).map circumstances.entry) = (removed,none)) :
    clearFolder circumstances build folder path keep now tree = (.ok removed.length,tree.eraseAll place removed) := by
  simp only [clearFolder,resolves,there,cleans]

theorem clearFolder_stopped {failure : Failure}
    (cleans : cleanUp build path keep now ((circumstances.listing entries).map circumstances.entry) = (removed,some failure)) :
    clearFolder circumstances build folder path keep now tree = (.error failure,tree.eraseAll place removed) := by
  simp only [clearFolder,resolves,there,cleans]

end

/-- Of entries with different names those are among the named ones that were named. -/
theorem contains_name_iff (distinct : (entries.map (·.1)).Nodup) {items : List (String × Tree)} (inside : ∀ item ∈ items, item ∈ entries)
    {item : String × Tree} (member : item ∈ entries) :
    ((items.filter fun item => Expired keep now item).map (·.1)).contains item.1 = true ↔
      Expired keep now item ∧ item.1 ∈ items.map (·.1) := by
  rw [List.contains_iff_mem]
  constructor
  · intro named
    obtain ⟨other,listed,same⟩ := List.mem_map.mp named
    obtain ⟨listed,expired⟩ := List.mem_filter.mp listed
    obtain rfl := List.inj_on_of_nodup_map distinct (inside other listed) member same
    exact ⟨of_decide_eq_true expired,List.mem_map_of_mem listed⟩
  · rintro ⟨expired,named⟩
    obtain ⟨other,listed,same⟩ := List.mem_map.mp named
    obtain rfl := List.inj_on_of_nodup_map distinct (inside other listed) member same
    exact List.mem_map_of_mem (List.mem_filter.mpr ⟨listed,decide_eq_true expired⟩)

/-- What is left when the expired logs among the items have been erased. -/
theorem eraseAll_expired (there : tree.at? place = some (.folder modified entries)) (distinct : (entries.map (·.1)).Nodup)
    {items : List (String × Tree)} (inside : ∀ item ∈ items, item ∈ entries) :
    let after := tree.eraseAll place ((items.filter fun item => Expired keep now item).map (·.1))
    after.at? place = some (.folder modified (entries.filter fun item => ¬(Expired keep now item ∧ item.1 ∈ items.map (·.1)))) ∧
      tree.LooksAlike place after := by
  obtain ⟨left,alike⟩ := Tree.eraseAll_at there ((items.filter fun item => Expired keep now item).map (·.1))
  refine ⟨left.trans ?_,alike⟩
  congr 2
  refine List.filter_congr fun item member => ?_
  rw [Bool.eq_iff_iff,Bool.not_eq_true',decide_eq_true_eq,← contains_name_iff distinct inside member]
  exact Bool.eq_false_iff

variable (keep now) in
theorem clearFolder_calm (resolves : tree.resolve folder path = .ok place)
    (there : tree.at? place = some (.folder modified entries)) (distinct : (entries.map (·.1)).Nodup)
    {circumstances : Circumstances} (calm : circumstances.Calm entries) (build : Build) :
    let cleared := clearFolder circumstances build folder path keep now tree
    cleared.1 = .ok (entries.countP fun item => Expired keep now item) ∧
      cleared.2.at? place = some (.folder modified (unexpired keep now entries)) ∧ tree.LooksAlike place cleared.2 := by
  intro cleared
  have outcome : cleared = _ := clearFolder_done resolves there (cleanUp_listing calm)
  rw [outcome]
  obtain ⟨left,alike⟩ := @eraseAll_expired _ _ _ _ keep now there distinct (circumstances.listing entries)
    fun item => (circumstances.mem_listing item).mp
  refine ⟨?_,left.trans ?_,alike⟩
  · rw [List.length_map,← List.countP_eq_length_filter,(circumstances.whole entries).countP_eq]
  · congr 2
    refine List.filter_congr fun item member => ?_
    have named : item.1 ∈ (circumstances.listing entries).map (·.1) :=
      List.mem_map_of_mem ((circumstances.mem_listing item).mpr member)
    simp only [named,and_true]

theorem clearFolder_again (resolves : tree.resolve folder path = .ok place)
    (there : tree.at? place = some (.folder modified entries)) {after : Tree}
    (left : after.at? place = some (.folder modified (unexpired keep now entries))) (alike : tree.LooksAlike place after)
    {later : Circumstances} (calm : later.Calm (unexpired keep now entries)) (build : Build) :
    clearFolder later build folder path keep now after = (.ok 0,after) := by
  have stays := alike.folder_stays there left fun item node => decide_eq_true fun expired : Expired keep now item => by
    have file := expired.file
    rw [node] at file
    cases file
  have still : after.node? place = some .folder := by rw [Tree.node?,left]; rfl
  have resolves := Tree.resolve_of_folders stays resolves (by rw [still]; exact Bool.and_false _)
  have nothing : ((later.listing (unexpired keep now entries)).filter fun item => Expired keep now item) = [] := by
    apply List.filter_eq_nil_iff.mpr
    intro item member expired
    have kept := (List.mem_filter.mp ((later.mem_listing item).mp member)).2
    exact of_decide_eq_true kept (of_decide_eq_true expired)
  have cleans : cleanUp build path keep now ((later.listing (unexpired keep now entries)).map later.entry) = ([],none) := by
    rw [cleanUp_listing calm,nothing,List.map_nil]
  exact clearFolder_done resolves left cleans

/-- Where nothing fails, a folder is cleared of precisely its expired logs, and their number is told: its other entries stay as they
are, and so does everything elsewhere. It does not matter in which order the entries are listed; nothing more is removed the second
time; and the longer logs are kept the more is left. Where an expired log cannot be removed, those that were listed before it are gone,
and nothing else. -/
theorem clearFolder_expired (resolves : tree.resolve folder path = .ok place)
    (there : tree.at? place = some (.folder modified entries)) (distinct : (entries.map (·.1)).Nodup) (build : Build) (now : Int) :
    let clear (circumstances : Circumstances) (keep : Nat) := clearFolder circumstances build folder path keep now tree
    (∀ circumstances keep, circumstances.Calm entries → let cleared := clear circumstances keep
      cleared.1 = .ok (entries.countP fun item => Expired keep now item) ∧
      cleared.2.at? place = some (.folder modified (unexpired keep now entries)) ∧ tree.LooksAlike place cleared.2 ∧
      (∀ others : Circumstances, others.Calm entries →
        (clear others keep).1 = cleared.1 ∧ ∀ names, (clear others keep).2.look names = cleared.2.look names) ∧
      (∀ later : Circumstances, later.Calm (unexpired keep now entries) →
        clearFolder later build folder path keep now cleared.2 = (.ok 0,cleared.2)) ∧
      ∀ longer ≥ keep, (unexpired keep now entries).Sublist (unexpired longer now entries)) ∧
    (∀ (circumstances : Circumstances) keep before item rest text, circumstances.listing entries = before ++ item :: rest →
      circumstances.Calm before → circumstances.time item.1 = .ok () → circumstances.removal item.1 = .error text →
      Expired keep now item → let cleared := clear circumstances keep
      cleared.1 = .error (Entry.removalFailure build (Path.join path item.1) text) ∧
      cleared.2.at? place = some (.folder modified
        (entries.filter fun other => ¬(Expired keep now other ∧ other.1 ∈ before.map (·.1)))) ∧
      tree.LooksAlike place cleared.2) ∧
    ∀ days, cleanFolder build folder path days now tree = (.ok (),(clear {} (daysToKeep days)).2) := by
  intro clear
  refine ⟨fun circumstances keep calm => ?_,fun circumstances keep before item rest text split calm timed stays expired => ?_,
    fun days => ?_⟩
  · obtain ⟨counted,left,alike⟩ := clearFolder_calm keep now resolves there distinct calm build
    refine ⟨counted,left,alike,fun others calm' => ?_,fun later calm' => ?_,fun longer longer_kept => ?_⟩
    · obtain ⟨counted',left',alike'⟩ := clearFolder_calm keep now resolves there distinct calm' build
      exact ⟨counted'.trans counted.symm,alike'.look_eq alike left' left⟩
    · exact clearFolder_again resolves there left alike calm' build
    · refine List.monotone_filter_right entries fun item kept => ?_
      exact decide_eq_true fun expired => of_decide_eq_true kept (expired.mono longer_kept)
  · have cleans := cleanUp_stopped build path keep now rest calm timed stays expired
    rw [← split] at cleans
    have inside : ∀ other ∈ before, other ∈ entries := by
      intro other member
      apply (circumstances.whole entries).mem_iff.mp
      rw [split]
      exact List.mem_append_left _ member
    have outcome := clearFolder_stopped resolves there cleans
    dsimp only [clear]
    rw [outcome]
    exact ⟨rfl,eraseAll_expired there distinct inside⟩
  · have calm : Circumstances.Calm {} entries := fun _ _ => ⟨rfl,rfl⟩
    obtain ⟨counted,-,-⟩ := clearFolder_calm (daysToKeep days) now resolves there distinct calm build
    have all_done : (clear {} (daysToKeep days)).1.map (fun _ => ()) = .ok () := congrArg (Except.map fun _ => ()) counted
    exact Prod.ext all_done rfl

end

/-- Two expired logs among a hidden file, a folder with the name of a log, and a log of the time to come. -/
def loggedEntries : List (String × Tree) := [("a.LOG",.file [] false 0),(".log",.file [] false 0),("old.log",.folder 0 []),
  ("b.log",.file [] false 9),("c.1.log",.file [] false 2)]

def loggedTree : Tree := .folder 0 [("logs",.folder 7 loggedEntries)]

/-- The last entry is listed first, and the first one cannot be removed. -/
def guardedFolder : Circumstances where
  listing := List.reverse
  whole := List.reverse_perm
  removal name := if name = "a.LOG" then .error "Permission denied (os error 13)" else .ok ()

theorem clearFolder_expired_guarded :
    let clear (circumstances : Circumstances) := clearFolder circumstances .release [] "/logs" 5 8 loggedTree
    loggedTree.resolve [] "/logs" = .ok ["logs"] ∧ (loggedEntries.map (·.1)).Nodup ∧
      (clear {}).1 = .ok (loggedEntries.countP fun item => Expired 5 8 item) ∧
      (clear {}).2.at? ["logs"] = some (.folder 7 (unexpired 5 8 loggedEntries)) ∧
      clearFolder {} .release [] "/logs" 5 8 (clear {}).2 = (.ok 0,(clear {}).2) ∧
      (clear guardedFolder).1 = .error (Entry.removalFailure .release (Path.join "/logs" "a.LOG") "Permission denied (os error 13)") ∧
      cleanFolder .release [] "/logs" 1 8 loggedTree = (.ok (),(clearFolder {} .release [] "/logs" (daysToKeep 1) 8 loggedTree).2) := by
  intro clear
  have resolves : loggedTree.resolve [] "/logs" = .ok ["logs"] := by cbv
  have distinct : (loggedEntries.map (·.1)).Nodup := by decide
  obtain ⟨cleared,stopped,cleaned⟩ := @clearFolder_expired loggedTree [] ["logs"] "/logs" 7 loggedEntries resolves rfl distinct .release 8
  have calm (items : List (String × Tree)) : Circumstances.Calm {} items := fun _ _ => ⟨rfl,rfl⟩
  obtain ⟨counted,left,-,-,again,-⟩ := cleared {} 5 (calm _)
  have apart : ∀ name ∈ loggedEntries.tail.reverse.map (·.1), name ≠ "a.LOG" := by decide
  have guarded : guardedFolder.Calm loggedEntries.tail.reverse :=
    fun item member => ⟨rfl,if_neg (apart item.1 (List.mem_map_of_mem member))⟩
  obtain ⟨told,-,-⟩ := stopped guardedFolder 5 loggedEntries.tail.reverse ("a.LOG",.file [] false 0) []
    "Permission denied (os error 13)" rfl guarded rfl rfl (expired_iff.mpr (by decide))
  exact ⟨resolves,distinct,counted,left,again {} (calm _),told,cleaned 1⟩

end AppGrants.Logs
