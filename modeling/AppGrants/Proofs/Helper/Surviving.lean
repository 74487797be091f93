import AppGrants.Proofs.Helper.Answering
import AppGrants.Proofs.Helper.Uids

/-! Which inputs the helper does not get through: those that ask for packages while a line is seen whose uid would be too
large, where overflows panic. Whatever else the package manager prints, every line is answered; where overflows wrap every line
is answered, and the package of such a line has a uid that does not belong to its user. -/
namespace AppGrants.Helper
open Service Text
variable {ω : Type} {build : Build} {overflow : Overflow} {runner : Runner ω} {sink : Sink}

/-- One of the packages that would be listed has no uid. -/
def Backend.Overflows (runner : Runner ω) (flags : UInt32) (backend : Backend ω) : Prop :=
  ∃ sighting ∈ backend.seen runner flags, ¬sighting.Fits

/-- One of the lines asks for packages of which one has no uid, after what was done for those before it. -/
inductive Falls (runner : Runner ω) : Backend ω → List Bytes → Prop where
  | here {backend : Backend ω} {line : Bytes} {lines : List Bytes} {id : Nat} {flags : UInt32}
      (asks : requestOf? line = some ⟨id, .listPackages flags⟩) (overflows : backend.Overflows runner flags) :
      Falls runner backend (line :: lines)
  | request {backend : Backend ω} {line : Bytes} {lines : List Bytes} {request : Request}
      (asks : requestOf? line = some request) (later : Falls runner (backend.perform .panics runner request.method).2 lines) :
      Falls runner backend (line :: lines)
  | invalid {backend : Backend ω} {line : Bytes} {lines : List Bytes} (nothing : requestOf? line = none)
      (later : Falls runner backend lines) : Falls runner backend (line :: lines)

theorem overflows_of_panicked {request : Request} {backend : Backend ω} {text : String}
    (tells : responseTo request.id (backend.perform overflow runner request.method).1 = .panicked text) :
    overflow = .panics ∧ ∃ flags, request.method = .listPackages flags ∧ backend.Overflows runner flags := by
  obtain ⟨id,_ | strategy | flags | _⟩ := request
  · cases tells
  · rw [Backend.perform] at tells
    cases listed : (backend.listUserIds runner strategy).1 with
    | ok users => simp [listed,responseTo,Ending.ofExcept] at tells
    | error failure => simp [listed,responseTo,Ending.ofExcept] at tells
  · rw [Backend.perform] at tells
    cases ended : (backend.listPackages overflow runner flags).1 with
    | done packages => simp [ended,responseTo] at tells
    | failed failure => simp [ended,responseTo] at tells
    | panicked text =>
      obtain ⟨checks,overflows⟩ := (backend.listPackages_listed overflow).panicked_iff.mp ⟨text,ended⟩
      exact ⟨checks,flags,rfl,overflows⟩
  · cases tells

theorem not_overflows_of_done {id : Nat} {flags : UInt32} {backend : Backend ω} {response : Response}
    (tells : responseTo id (backend.listPackages .panics runner flags).1 = .done response) : ¬backend.Overflows runner flags := by
  intro overflows
  obtain ⟨text,panicked⟩ := (backend.listPackages_listed .panics).panicked_iff.mpr ⟨rfl,overflows⟩
  rw [panicked] at tells
  cases tells

theorem falls_cons_iff {line : Bytes} {lines : List Bytes} {backend next : Backend ω} {response : Response}
    (responds : Responds .panics runner line backend response next) :
    Falls runner backend (line :: lines) ↔ Falls runner next lines := by
  cases responds with
  | request asks tells =>
    refine ⟨fun falls => ?_,.request asks⟩
    cases falls with
    | here asks' overflows =>
      obtain rfl := Option.some.inj (asks.symm.trans asks')
      exact absurd overflows (not_overflows_of_done tells)
    | request asks' later =>
      obtain rfl := Option.some.inj (asks.symm.trans asks')
      exact later
    | invalid nothing _ => simp [nothing] at asks
  | invalid message nothing =>
    refine ⟨fun falls => ?_,.invalid nothing⟩
    cases falls with
    | here asks _ | request asks _ => simp [nothing] at asks
    | invalid _ later => exact later

theorem not_falls_nil {backend : Backend ω} : ¬Falls runner backend [] := nofun

theorem serveLines_panicked_iff (holds : sink.Holds) {lines : List Bytes} {served : Served ω}
    (calm : ∀ text, served.ending ≠ .panicked text) :
    (∃ text, (serveLines build overflow runner sink lines served).ending = .panicked text) ↔
      overflow = .panics ∧ Falls runner served.backend ((due lines).takeWhile isLegible) := by
  have not_both {backend : Backend ω} : ¬(overflow = .panics ∧ Falls runner backend []) := fun both => not_falls_nil both.2
  -- On the lines, from any state that has not ended in a panic: a line that is answered leaves such a state.
  induction lines generalizing served with
  | nil => exact iff_of_false (fun ⟨text,panicked⟩ => calm text panicked) not_both
  | cons line rest ih =>
    have reacts := @reacts_step _ build overflow runner _ holds line served
    rw [serveLines]
    generalize served.step build overflow runner sink line = result at reacts ⊢
    cases reacts with
    | illegible unread =>
      rw [due_illegible unread,List.takeWhile_cons_of_neg (by simp [unread])]
      exact iff_of_false (by simp) not_both
    | blank blank =>
      rw [due_blank blank]
      exact ih calm
    | @panicked request text legible filled asks tells =>
      obtain ⟨checks,flags,lists,overflows⟩ := overflows_of_panicked tells
      obtain ⟨id,method⟩ := request
      obtain rfl : method = .listPackages flags := lists
      have more : shutsDown line = false := by simp [shutsDown,asks]
      rw [due_next filled more,List.takeWhile_cons_of_pos legible]
      exact iff_of_true ⟨text,rfl⟩ ⟨checks,.here asks overflows⟩
    | last legible filled responds last =>
      rw [due_last filled last,List.takeWhile_cons_of_pos legible]
      refine iff_of_false (by simp [Served.add]) ?_
      rintro ⟨rfl,falls⟩
      exact not_falls_nil ((falls_cons_iff responds).mp falls)
    | next legible filled responds more =>
      rw [due_next filled more,List.takeWhile_cons_of_pos legible]
      refine (ih (by simp [Served.add])).trans (and_congr_right ?_)
      rintro rfl
      exact (falls_cons_iff responds).symm

/-- There is a package for every line that is seen, with its app and under its user where the uid fits, or a command failed, or a
uid did not fit and that panics. Only the last of these ends the helper: all other requests are answered. -/
theorem serve_survives (overflow : Overflow) (runner : Runner ω) :
    (∀ flags (backend : Backend ω),
      Listed overflow (backend.seen runner flags) (backend.listPackages overflow runner flags).1) ∧
    ∀ build (sink : Sink) input (backend : Backend ω), sink.Holds →
      ((∃ text, (serve build overflow runner sink input backend).ending = .panicked text) ↔
        overflow = .panics ∧ Falls runner backend ((due (byteLines input)).takeWhile isLegible)) := by
  constructor
  · intro flags backend
    exact backend.listPackages_listed overflow
  · intro build sink input backend holds
    exact serveLines_panicked_iff holds (by simp)

/-- A system with a user whose uids begin below the greatest number and end above it. -/
def crowded : Backend Answers where
  world := { known := [("pm list users", .ok "UserInfo\x7b21474:u\x7d running"),
    ("pm list packages -U -f --user 21474", .ok "package:/a=b uid:83648")] }

theorem crowded_panics : (crowded.listPackages .panics Answers.runner 0).1 = .panicked "attempt to add with overflow" := by
  decide

theorem crowded_wraps : (crowded.listPackages .wraps Answers.runner 0).1 =
    .done [{ packageName := "b", uid := -2147483648, sourceDir := some "/a" }] := by
  decide

theorem serve_survives_crowded : Sink.Holds {} ∧
    let input := requestLines [⟨1, .listPackages 0⟩]
    (∃ text, (serve .debug .panics Answers.runner {} input crowded).ending = .panicked text) ∧
      ∀ text, (serve .release .wraps Answers.runner {} input crowded).ending ≠ .panicked text := by
  let query : Request := ⟨1,.listPackages 0⟩
  have holds : Sink.Holds {} := fun _ => ⟨rfl,rfl⟩
  have small : query.id < UInt64.size := by decide
  have asks : requestOf? (utf8 query.encode) = some query := by
    simp [requestOf?,ofUtf8?_utf8,query.decode_encode small,Except.toOption]
  have filled : isBlankLine (utf8 query.encode) = false := by
    simpa [isBlankLine,ofUtf8?_utf8] using (query.fillsLine small).not_blank
  have legible : isLegible (utf8 query.encode) = true := by simp [isLegible,ofUtf8?_utf8]
  have more : shutsDown (utf8 query.encode) = false := by
    rw [shutsDown,asks]
    rfl
  obtain ⟨-,overflows⟩ := (crowded.listPackages_listed .panics).panicked_iff.mp ⟨_,crowded_panics⟩
  refine ⟨holds,((serve_survives .panics Answers.runner).2 .debug {} _ crowded holds).mpr ⟨rfl,?_⟩,fun text panicked => ?_⟩
  · rw [byteLines_requestLines (by decide),List.map_singleton,due_next filled more,List.takeWhile_cons_of_pos legible]
    exact .here asks overflows
  · obtain ⟨checks,-⟩ := ((serve_survives .wraps Answers.runner).2 .release {} _ crowded holds).mp ⟨text,panicked⟩
    cases checks

/-- A debug build does not get through what this system prints, and a release build tells of its app under no user. -/
theorem not_always_survives :
    (¬∀ {ω : Type} (runner : Runner ω) flags (backend : Backend ω) text,
      (backend.listPackages Build.debug.overflow runner flags).1 ≠ .panicked text) ∧
    ¬∀ {ω : Type} (runner : Runner ω) flags (backend : Backend ω) packages,
      (backend.listPackages Build.release.overflow runner flags).1 = .done packages →
        packages.map (·.uid.userIndex) = (backend.seen runner flags).map (·.user) := by
  constructor
  · intro calm
    exact calm Answers.runner 0 crowded _ crowded_panics
  · intro owned
    have users := owned Answers.runner 0 crowded _ crowded_wraps
    revert users
    decide

end AppGrants.Helper
