import AppGrants.Proofs.Service.Serving

/-! What is written down of a run. Beside the pool stands a ledger, which says of each use what lease made which calls, and
what was answered. All lists are latest first. -/
namespace AppGrants.Service
variable {ω α : Type}

/-- Calls that were made for one purpose, and the answer if an operation was asked for. -/
structure Work where
  made : List Exchange
  answer : Option Answer

/-- How many calls failed at their first attempt in works. -/
def stumblesIn : List Work → Nat
  | [] => 0
  | work :: older => stumblesIn older + stumbles (trials work.made)

theorem stumblesIn_append (later earlier : List Work) : stumblesIn (later ++ earlier) = stumblesIn earlier + stumblesIn later := by
  induction later with
  | nil => rfl
  | cons work rest ih => rw [List.cons_append,stumblesIn,ih,stumblesIn,Nat.add_assoc]

/-- What one use did, with the lease of the pool that did it. -/
structure Entry where
  lease : Option Nat := none
  works : List Work := []

def Entry.made (entry : Entry) : List Exchange := entry.works.flatMap Work.made

/-- The calls that were made from one site to another. -/
def Site.made (site after : Site (Observed ω)) : List Exchange :=
  after.world.log.take (after.world.log.length - site.world.log.length)

def Site.work (site after : Site (Observed ω)) (answer : Option Answer) : Work := ⟨site.made after,answer⟩

namespace Body

def works (host : Host ω) : Body α → Grip (Observed ω) → List Work
  | finish _,_ => []
  | strategy next,grip =>
    let result := grip.strategy host.observed
    pursue (fun value => (next value).works host) result ++ [grip.site.work result.2.site (some (.strategy result.1))]
  | listUserIds next,grip =>
    let result := grip.listUserIds host.observed
    pursue (fun value => (next value).works host) result ++ [grip.site.work result.2.site (some (.users result.1))]
  | listPackages flags next,grip =>
    let result := grip.listPackages host.observed flags
    pursue (fun value => (next value).works host) result ++ [grip.site.work result.2.site (some (.packages result.1))]

end Body

/-- The works of a body with a lease of its own. -/
def Site.session (host : Host ω) (body : Body α) (site : Site (Observed ω)) : List Work :=
  match site.acquire host.observed with
  | (.done _,grip) =>
    let after := (body.run host.observed grip).2
    after.site.work (after.drop host.observed) none :: (body.works host grip ++ [site.work grip.site none])
  | (_,grip) => [site.work grip.site none]

def Pool.entry (host : Host ω) (pool : Pool (Observed ω)) : Use → Entry
  | .acquire =>
    match pool.acquire host.observed with
    | (.done lease,after) => ⟨some lease,[pool.site.work after.site none]⟩
    | (_,after) => ⟨none,[pool.site.work after.site none]⟩
  | .operate lease operation =>
    match pool.lease? lease with
    | some channel =>
      let (answer,after) := operation.run host.observed ⟨pool.site,channel⟩
      ⟨some lease,[pool.site.work after.site (some answer)]⟩
    | none => {}
  | .drop lease =>
    match pool.lease? lease with
    | some channel => ⟨some lease,[pool.site.work (Grip.drop host.observed ⟨pool.site,channel⟩) none]⟩
    | none => {}
  | .withChannel body => ⟨none,pool.site.session host body⟩
  | .disconnect => {}

structure Ledger (ω : Type) where
  pool : Pool (Observed ω)
  entries : List Entry := []

namespace Ledger

def use (host : Host ω) (ledger : Ledger ω) (use : Use) : Ledger ω :=
  ⟨ledger.pool.use host.observed use,ledger.pool.entry host use :: ledger.entries⟩

def run (host : Host ω) (world : ω) : List Use → Ledger ω
  | [] => ⟨.start ⟨world,[],0⟩,[]⟩
  | use :: older => (run host world older).use host use

def log (ledger : Ledger ω) : List Exchange := ledger.pool.site.world.log

def works (ledger : Ledger ω) : List Work := ledger.entries.flatMap Entry.works

/-- The calls that one lease of the pool made. -/
def madeBy (ledger : Ledger ω) (lease : Nat) : List Exchange :=
  (ledger.entries.filter fun entry => entry.lease == some lease).flatMap Entry.made

end Ledger

/-- The service without its observer. -/
def Observed.sight : Sight (Observed ω) ω := ⟨Observed.world,id⟩

theorem Host.observed_shows (host : Host ω) : Observed.sight.ShowsHost host.observed host where
  bind _ _ := ⟨rfl,rfl,fun _ => rfl⟩
  capabilities _ _ := ⟨rfl,rfl,fun _ => rfl⟩
  listUserIds _ _ _ := ⟨rfl,rfl,fun _ => rfl⟩
  listPackages _ _ _ := ⟨rfl,rfl,fun _ => rfl⟩
  release _ _ := rfl
  discard _ _ := rfl

/-- The observer does not disturb the run. -/
theorem Ledger.run_pool (host : Host ω) (world : ω) (uses : List Use) :
    Observed.sight.pool (run host world uses).pool = Pool.run host world uses := by
  induction uses with
  | nil => rfl
  | cons use older ih =>
    rw [Pool.run,← ih]
    cases hook : use.isHook with
    | true =>
      cases use with
      | disconnect => rfl
      | _ => cases hook
    | false => exact (host.observed_shows.use_shown hook _).symm

theorem Ledger.run_manager (host : Host ω) (world : ω) (uses : List Use) :
    (Pool.run host world uses).site.manager = (run host world uses).pool.site.manager := by
  rw [← run_pool]
  rfl

theorem Site.made_eq {site after : Site (Observed ω)} {made : List Exchange} (log : after.world.log = made ++ site.world.log) :
    site.made after = made := by
  rw [Site.made,log,List.length_append,Nat.add_sub_cancel,List.take_left]

theorem Answer.Follows.grows {answer : Answer} {made log : List Exchange} (follows : answer.Follows made log)
    (later : List Exchange) : answer.Follows made (later ++ log) := by
  cases answer with
  | strategy outcome =>
    cases outcome with
    | done strategy => exact chosen_grows follows later
    | failed | panicked => trivial
  | users outcome =>
    cases outcome with
    | done ids => exact ⟨follows.1,fun absent => ⟨(follows.2 absent).1,toldFirst_grows (follows.2 absent).2 later⟩⟩
    | failed | panicked => trivial
  | packages outcome => trivial

/-- The way of a lease by a list of works. -/
structure Does (grip after : Grip (Observed ω)) (works : List Work) : Prop extends
    Goes grip after none (works.flatMap Work.made) (stumblesIn works) where
  follows : ∀ work ∈ works, ∀ answer, work.answer = some answer → answer.Follows work.made after.site.world.log
  unprobed : ∀ number, probes number after.site.world.log = false

namespace Does
variable {grip middle after : Grip (Observed ω)} {works later : List Work}

theorem rests (does : Does grip after works) : after.site.Rests := ⟨does.knows,does.unprobed⟩

theorem nothing (rests : grip.site.Rests) : Does grip grip [] := ⟨.nothing rests.toKnows,by simp,rests.unprobed⟩

theorem trans (first : Does grip middle works) (second : Does middle after later) : Does grip after (later ++ works) where
  toGoes := by
    rw [List.flatMap_append,stumblesIn_append]
    exact first.toGoes.trans second.toGoes
  follows := by
    refine List.forall_mem_append.mpr ⟨second.follows,fun work member answer same => ?_⟩
    rw [second.log]
    exact (first.follows work member answer same).grows _
  unprobed := second.unprobed

theorem one {answer : Option Answer} {made : List Exchange} (goes : Goes grip after none made (stumbles (trials made)))
    (follows : ∀ told, answer = some told → told.Follows made after.site.world.log)
    (unprobed : ∀ number, probes number after.site.world.log = false) :
    Does grip after [grip.site.work after.site answer] := by
  have same := Site.made_eq goes.log
  rw [Site.work,same]
  refine ⟨?_,by simpa using follows,unprobed⟩
  simpa [stumblesIn] using goes

theorem prepared {result : Outcome Nat × Grip (Observed ω)} {made : List Exchange} (prepares : Prepares grip result made 0) :
    Does grip result.2 [grip.site.work result.2.site none] := by
  have goes : Goes grip result.2 none made (stumbles (trials made)) := by
    rw [prepares.quiet]
    exact prepares.toGoes
  exact one goes (by simp) prepares.unprobed

theorem served {answer : Outcome α → Answer} {result : Outcome α × Grip (Observed ω)} {made : List Exchange}
    (serves : Serves answer grip result made) : Does grip result.2 [grip.site.work result.2.site (some (answer result.1))] := by
  refine one serves.toGoes ?_ serves.unprobed
  rintro told same
  cases same
  exact serves.follows

end Does

theorem Operation.does (host : Host ω) {grip : Grip (Observed ω)} (rests : grip.site.Rests) (operation : Operation) :
    Does grip (operation.run host.observed grip).2
      [grip.site.work (operation.run host.observed grip).2.site (some (operation.run host.observed grip).1)] := by
  cases operation with
  | strategy =>
    obtain ⟨made,serves,-⟩ := Grip.strategy_serves host rests
    exact .served serves
  | listUserIds =>
    obtain ⟨made,serves⟩ := Grip.listUserIds_serves host rests
    exact .served serves
  | listPackages flags =>
    obtain ⟨made,serves⟩ := Grip.listPackages_serves host rests flags
    exact .served serves

namespace Body
variable (host : Host ω)

theorem proceed_does {β : Type} {answer : Outcome β → Answer} {grip : Grip (Observed ω)} {result : Outcome β × Grip (Observed ω)}
    {made : List Exchange} (serves : Serves answer grip result made) {next : Except Failure β → Body α}
    (ih : ∀ (value : Except Failure β) (grip : Grip (Observed ω)), grip.site.Rests →
      Does grip ((next value).run host.observed grip).2 ((next value).works host grip) ∧
        Spares (((next value).works host grip).flatMap Work.made) ((next value).run host.observed grip).1) :
    let final := proceed (fun value => (next value).run host.observed) result
    let works := pursue (fun value => (next value).works host) result ++ [grip.site.work result.2.site (some (answer result.1))]
    Does grip final.2 works ∧ Spares (works.flatMap Work.made) final.1 := by
  have first := Does.served serves
  have same := Site.made_eq serves.log
  have whole {works : List Work} {outcome : Outcome α} (calm : result.1.panics = false)
      (spares : Spares (works.flatMap Work.made) outcome) :
      Spares ((works ++ [grip.site.work result.2.site (some (answer result.1))]).flatMap Work.made) outcome := by
    rw [List.flatMap_append,List.flatMap_singleton,Site.work,same]
    exact spares.after (serves.spares.calm calm)
  obtain ⟨value | failure | text,after⟩ := result
  · obtain ⟨rest,spares⟩ := ih (.ok value) after first.rests
    exact ⟨first.trans rest,whole rfl spares⟩
  · obtain ⟨rest,spares⟩ := ih (.error failure) after first.rests
    exact ⟨first.trans rest,whole rfl spares⟩
  · refine ⟨first,?_⟩
    rw [pursue,List.nil_append,List.flatMap_singleton,Site.work,same]
    exact serves.spares

/-- A body does what its works say, and loses a channel only in a panic. -/
theorem run_does (body : Body α) {grip : Grip (Observed ω)} (rests : grip.site.Rests) :
    Does grip (body.run host.observed grip).2 (body.works host grip) ∧
      Spares ((body.works host grip).flatMap Work.made) (body.run host.observed grip).1 := by
  induction body generalizing grip with
  | finish outcome => exact ⟨.nothing rests,Nat.zero_le _⟩
  | strategy next ih =>
    obtain ⟨made,serves,-⟩ := Grip.strategy_serves host rests
    exact proceed_does host serves fun value _ => ih value
  | listUserIds next ih =>
    obtain ⟨made,serves⟩ := Grip.listUserIds_serves host rests
    exact proceed_does host serves fun value _ => ih value
  | listPackages flags next ih =>
    obtain ⟨made,serves⟩ := Grip.listPackages_serves host rests flags
    exact proceed_does host serves fun value _ => ih value

end Body
section
variable (host : Host ω) {site : Site (Observed ω)}

theorem Site.acquire_does (rests : site.Rests) :
    Does ⟨site,none⟩ (site.acquire host.observed).2 [site.work (site.acquire host.observed).2.site none] ∧
      Spares (site.made (site.acquire host.observed).2.site) (site.acquire host.observed).1 ∧
      ((∀ value, (site.acquire host.observed).1 ≠ .done value) → (site.acquire host.observed).2.channel = none) := by
  obtain ⟨made,prepares⟩ := Grip.rebind_prepares host rests.toKnows
  refine ⟨.prepared prepares,?_,fun fails => ?_⟩
  · have spares := prepares.spares
    rwa [← Site.made_eq prepares.log,Spares,← Ending.panics_map _ fun _ => ()] at spares
  · unfold Site.acquire at fails ⊢
    rw [Grip.rebind_eq] at fails ⊢
    rcases bound : site.bind host.observed with ⟨number | failure | text,after⟩
    all_goals rw [bound] at fails
    · exact absurd rfl (fails ())
    · rfl
    · rfl

theorem Grip.drop_does {grip : Grip (Observed ω)} (rests : grip.site.Rests) :
    Does grip ⟨grip.drop host.observed,none⟩ [grip.site.work (grip.drop host.observed) none] ∧
      lost (grip.site.made (grip.drop host.observed)) = [] := by
  have dropped := Grip.drop_goes host rests
  have quiet : trials (grip.channel.toList.map .released) = [] := by cases grip.channel <;> rfl
  have goes : Goes grip ⟨grip.drop host.observed,none⟩ none (grip.channel.toList.map .released)
      (stumbles (trials (grip.channel.toList.map .released))) := by
    rw [quiet]
    exact dropped
  refine ⟨.one goes (by simp) fun number => ?_,?_⟩
  · obtain ⟨site,_ | held⟩ := grip
    · exact rests.unprobed number
    · rfl
  · rw [Site.made_eq dropped.log]
    cases grip.channel <;> rfl

/-- A body with a lease of its own leaves nothing in anyone's hands. -/
theorem Site.session_does (rests : site.Rests) (body : Body α) :
    Does ⟨site,none⟩ ⟨(site.withChannel host.observed body).2,none⟩ (site.session host body) ∧
      Spares ((site.session host body).flatMap Work.made) (site.withChannel host.observed body).1 := by
  obtain ⟨first,spares,empty⟩ := Site.acquire_does host rests
  unfold Site.withChannel Site.session
  rcases acquired : site.acquire host.observed with ⟨value | failure | text,grip⟩
  all_goals rw [acquired] at first spares empty
  · obtain ⟨worked,kept⟩ := body.run_does host first.rests
    obtain ⟨dropped,calm⟩ := Grip.drop_does host worked.rests
    refine ⟨(first.trans worked).trans dropped,?_⟩
    rw [List.flatMap_cons,List.flatMap_append,List.flatMap_singleton,Spares,lost_append]
    change (lost (Site.made _ _) ++ _).length ≤ _
    rw [calm]
    exact kept.after (spares.calm rfl)
  all_goals
    obtain ⟨after,channel⟩ := grip
    obtain rfl : channel = none := empty (by simp)
    refine ⟨first,?_⟩
    rw [List.flatMap_singleton]
    exact spares

end
/-- How the leases of a pool change while one of them, or one apart from them, goes from one channel to another. -/
inductive Moves (leases : List (Option (Option Nat))) :
    Option Nat → Option Nat → Option Nat → List (Option (Option Nat)) → Prop where
  | apart : Moves leases none none none leases
  | acquired {channel : Option Nat} : Moves leases (some leases.length) none channel (leases ++ [some channel])
  | moved {lease : Nat} {held after : Option Nat} {next : Option (Option Nat)} (holds : leases[lease]? = some (some held))
      (same : next.join = after) : Moves leases (some lease) held after (leases.set lease next)

namespace Moves
variable {leases later : List (Option (Option Nat))} {lease held after : Option Nat}

theorem held_perm (moves : Moves leases lease held after later) : ∃ others,
    (leases.filterMap Option.join).Perm (held.toList ++ others) ∧ (later.filterMap Option.join).Perm (after.toList ++ others) := by
  cases moves with
  | apart => exact ⟨_,.refl _,.refl _⟩
  | acquired =>
    refine ⟨leases.filterMap Option.join,.refl _,?_⟩
    rw [List.filterMap_append]
    refine List.perm_append_comm.trans (List.Perm.append_right _ ?_)
    cases after <;> exact .refl _
  | @moved lease _ _ next holds same =>
    subst same
    obtain ⟨bound,found⟩ := List.getElem?_eq_some_iff.mp holds
    have first := (List.getElem_cons_eraseIdx_perm bound).symm.filterMap Option.join
    have second := (List.set_perm_cons_eraseIdx bound next).filterMap Option.join
    refine ⟨(leases.eraseIdx lease).filterMap Option.join,?_,?_⟩
    · rw [found] at first
      cases held <;> exact first
    · rcases next with _ | _ | _ <;> exact second

theorem channel_after (moves : Moves leases lease held after later) {number : Nat} (same : lease = some number) :
    leases[number]?.join.join = held ∧ later[number]?.join.join = after ∧ number < later.length := by
  cases moves with
  | apart => cases same
  | acquired =>
    cases same
    simp
  | moved holds joined =>
    cases same
    obtain ⟨bound,found⟩ := List.getElem?_eq_some_iff.mp holds
    simp [bound,found,joined]

theorem channel_other (moves : Moves leases lease held after later) {number : Nat} (other : lease ≠ some number) :
    later[number]?.join.join = leases[number]?.join.join := by
  cases moves with
  | apart => rfl
  | acquired =>
    have apart : number ≠ leases.length := fun same => other (congrArg some same.symm)
    by_cases inside : number < leases.length
    · rw [List.getElem?_append_left inside]
    · have beyond : (leases ++ [some after]).length ≤ number := by
        rw [List.length_append,List.length_singleton]
        omega
      rw [List.getElem?_eq_none beyond,List.getElem?_eq_none (by omega)]
  | moved =>
    rw [List.getElem?_set_ne fun same => other (congrArg some same)]

theorem apart_eq (moves : Moves leases lease held after later) (alone : lease = none) : held = none ∧ after = none := by
  subst alone
  cases moves
  exact ⟨rfl,rfl⟩

theorem length_le (moves : Moves leases lease held after later) : leases.length ≤ later.length := by
  cases moves <;> simp

end Moves
/-- What holds of a ledger after any uses. -/
structure Ledger.Sound (uses : List Use) (ledger : Ledger ω) : Prop where
  rests : ledger.pool.site.Rests
  lawful : Lawful ledger.log
  alive : (live ledger.log).Perm (ledger.pool.held ++ lost ledger.log)
  written : ledger.log = ledger.entries.flatMap Entry.made
  again : ledger.pool.site.manager.stats.reconnects = stumblesIn ledger.works
  heard : ledger.pool.site.manager.stats.disconnects = ledger.pool.site.world.notices + uses.countP Use.isHook
  holds : ∀ lease, Keeps none (ledger.madeBy lease) (ledger.pool.channel? lease)
  apart : ∀ entry ∈ ledger.entries, entry.lease = none → Keeps none entry.made none
  known : ∀ entry ∈ ledger.entries, ∀ lease, entry.lease = some lease → lease < ledger.pool.leases.length
  follows : ∀ work ∈ ledger.works, ∀ answer, work.answer = some answer → answer.Follows work.made ledger.log

namespace Ledger.Sound
variable {host : Host ω} {ledger : Ledger ω} {uses : List Use} {use : Use}

theorem entered (sound : Sound uses ledger) (use : Use) (calm : use.isHook = false) (entry : Entry) {held : Option Nat}
    {after : Grip (Observed ω)} {leases : List (Option (Option Nat))} (does : Does ⟨ledger.pool.site,held⟩ after entry.works)
    (moves : Moves ledger.pool.leases entry.lease held after.channel leases) :
    Sound (use :: uses) ⟨⟨after.site,leases⟩,entry :: ledger.entries⟩ := by
  have log : after.site.world.log = entry.made ++ ledger.log := does.log
  -- What the other leases hold, and what was lost before, is live before and after.
  obtain ⟨others,before,later⟩ := moves.held_perm
  have alive : (live ledger.log).Perm (held.toList ++ (others ++ lost ledger.log)) := by
    rw [← List.append_assoc]
    exact sound.alive.trans (before.append_right _)
  obtain ⟨moved,lawful⟩ := does.keeps.live sound.lawful alive
  exact {
    rests := does.rests
    lawful := by
      change Lawful after.site.world.log
      rw [log]
      exact lawful
    alive := by
      change (live after.site.world.log).Perm (leases.filterMap Option.join ++ lost after.site.world.log)
      rw [log,lost_append]
      refine moved.trans (.trans ?_ (later.symm.append_right _))
      rw [List.append_assoc]
      exact (List.perm_append_comm_assoc _ _ _).append_left _
    written := by
      rw [List.flatMap_cons,← sound.written]
      exact log
    again := by
      rw [works,List.flatMap_cons,stumblesIn_append]
      exact does.reconnects.trans (congrArg (· + _) sound.again)
    heard := by
      have before := sound.heard
      have between : after.site.manager.stats.disconnects + ledger.pool.site.world.notices =
        ledger.pool.site.manager.stats.disconnects + after.site.world.notices := does.heard
      rw [List.countP_cons_of_neg (by simp [calm])]
      change after.site.manager.stats.disconnects = after.site.world.notices + _
      omega
    holds lease := by
      have kept : Keeps none (ledger.madeBy lease) ledger.pool.leases[lease]?.join.join := sound.holds lease
      change Keeps none (((entry :: ledger.entries).filter _).flatMap Entry.made) leases[lease]?.join.join
      by_cases same : entry.lease = some lease
      · obtain ⟨first,last,-⟩ := moves.channel_after same
        rw [first] at kept
        rw [List.filter_cons_of_pos (by simp [same]),List.flatMap_cons,last]
        exact kept.append does.keeps
      · rw [List.filter_cons_of_neg (by simp [same]),moves.channel_other same]
        exact kept
    apart other member alone := by
      rcases List.mem_cons.mp member with rfl | member
      · have keeps := does.keeps
        obtain ⟨first,last⟩ := moves.apart_eq alone
        rw [last] at keeps
        exact first ▸ keeps
      · exact sound.apart other member alone
    known other member lease same := by
      rcases List.mem_cons.mp member with rfl | member
      · exact (moves.channel_after same).2.2
      · exact Nat.lt_of_lt_of_le (sound.known other member lease same) moves.length_le
    follows := by
      rw [works,List.flatMap_cons]
      refine List.forall_mem_append.mpr ⟨does.follows,fun work member answer same => ?_⟩
      change answer.Follows work.made after.site.world.log
      rw [log]
      exact (sound.follows work member answer same).grows _ }

/-- Nothing was done. -/
theorem idle (sound : Sound uses ledger) (calm : use.isHook = false) : Sound (use :: uses) ⟨ledger.pool,{} :: ledger.entries⟩ := by
  have nothing : Does ⟨ledger.pool.site,none⟩ ⟨ledger.pool.site,none⟩ (Entry.works {}) := .nothing sound.rests
  exact sound.entered use calm {} nothing .apart

theorem told (sound : Sound uses ledger) : Sound (.disconnect :: uses) ⟨ledger.pool.disconnect,{} :: ledger.entries⟩ where
  rests := ⟨⟨sound.rests.binds,sound.rests.releases,sound.rests.strategy,sound.rests.proper⟩,sound.rests.unprobed⟩
  lawful := sound.lawful
  alive := sound.alive
  written := sound.written
  again := sound.again
  heard := by
    rw [List.countP_cons_of_pos rfl]
    exact congrArg (· + 1) sound.heard
  holds := sound.holds
  apart other member alone := by
    rcases List.mem_cons.mp member with rfl | member
    · exact .nothing
    · exact sound.apart other member alone
  known other member lease same := by
    rcases List.mem_cons.mp member with rfl | member
    · cases same
    · exact sound.known other member lease same
  follows := sound.follows

/-- Each use keeps the ledger sound. -/
theorem used (sound : Sound uses ledger) (host : Host ω) (use : Use) : Sound (use :: uses) (ledger.use host use) := by
  unfold Ledger.use
  cases use with
  | acquire =>
    obtain ⟨does,-,empty⟩ := Site.acquire_does host sound.rests
    unfold Pool.use Pool.entry Pool.acquire
    rcases acquired : ledger.pool.site.acquire host.observed with ⟨value | failure | text,grip⟩
    all_goals rw [acquired] at does empty
    · exact sound.entered .acquire rfl ⟨some _,_⟩ does .acquired
    all_goals
      obtain ⟨after,channel⟩ := grip
      obtain rfl : channel = none := empty (by simp)
      exact sound.entered .acquire rfl ⟨none,_⟩ does .apart
  | operate lease operation =>
    unfold Pool.use Pool.entry
    dsimp only
    rw [Pool.operate_eq]
    cases found : ledger.pool.lease? lease with
    | none => exact sound.idle rfl
    | some held =>
      exact sound.entered _ rfl ⟨some lease,_⟩ (operation.does host sound.rests) (.moved (Pool.lease?_eq_some found) rfl)
  | drop lease =>
    unfold Pool.use Pool.entry Pool.drop
    dsimp only
    cases found : ledger.pool.lease? lease with
    | none => exact sound.idle rfl
    | some held =>
      exact sound.entered _ rfl ⟨some lease,_⟩ (Grip.drop_does host sound.rests).1 (.moved (Pool.lease?_eq_some found) rfl)
  | withChannel body => exact sound.entered (.withChannel body) rfl ⟨none,_⟩ (Site.session_does host sound.rests body).1 .apart
  | disconnect => exact sound.told

end Ledger.Sound

theorem Ledger.run_sound (host : Host ω) (world : ω) (uses : List Use) : (run host world uses).Sound uses := by
  induction uses with
  | nil =>
    exact {
      rests := ⟨⟨rfl,rfl,rfl,trivial⟩,fun _ => rfl⟩
      lawful := trivial
      alive := .refl _
      written := rfl
      again := rfl
      heard := rfl
      holds := fun _ => .nothing
      apart := by simp [run]
      known := by simp [run]
      follows := by simp [run,works] }
  | cons use older ih => exact ih.used host use

end AppGrants.Service
