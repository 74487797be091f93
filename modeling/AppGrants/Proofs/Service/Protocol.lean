import AppGrants.Proofs.Service.Conversation

/-! What goes over a channel, whatever the helper at its other end does: requests with ascending ids, each answered by the line
that bears its id or not at all, and in the end at most one request to shut down. -/
namespace AppGrants.Service
open Json
variable {π α : Type}

/-- What is done to a helper from this end. -/
inductive Deed where
  | wrote (text : String) (result : Except String Unit)
  | read (result : Except String (Option String))
  | stopped

def Deed.text? : Deed → Option String
  | wrote text _ => some text
  | _ => none

/-- A helper and all that was done to it, in order. -/
structure Overheard (π : Type) where
  helper : π
  deeds : List Deed := []

def Overheard.written (heard : Overheard π) : List String := heard.deeds.filterMap Deed.text?

def Peer.overheard (peer : Peer π) : Peer (Overheard π) where
  status? heard := peer.status? heard.helper
  write text heard :=
    let (result, helper) := peer.write text heard.helper
    (result, ⟨helper, heard.deeds ++ [.wrote text result]⟩)
  readLine heard :=
    let (result, helper) := peer.readLine heard.helper
    (result, ⟨helper, heard.deeds ++ [.read result]⟩)
  stop heard := ⟨peer.stop heard.helper, heard.deeds ++ [.stopped]⟩

def Request.line (request : Request) : String := request.encode ++ "\n"

/-- The line is a response with the id that brings the value. -/
def Channel.Accepts [Codec α] (id : Nat) (line : String) (value : α) : Prop :=
  ∃ response : Response, decode (String.ofList (Text.trimEnd line.toList)) = .ok response ∧ response.id = id ∧
    response.intoResult = .ok value

theorem Channel.accepts_of_valueOf [Codec α] {id : Nat} {line : String} {value : α} (brings : valueOf id line = .ok value) :
    Accepts id line value := by
  unfold valueOf at brings
  cases decoded : (decode (String.ofList (Text.trimEnd line.toList)) : Except Fault Response) with
  | error fault => simp [decoded] at brings
  | ok response =>
    simp only [decoded] at brings
    split at brings
    next same => exact ⟨response,decoded,same,brings⟩
    · cases brings

/-- How a request ends that was given an id: the answer, what was done meanwhile, and why the helper is lost, if it is. -/
inductive Exchanged [Codec α] (request : Request) : Except TransportError α → List Deed → Option String → Prop where
  | unwritten (fault : String) :
      Exchanged request (.error ⟨fault⟩) [.wrote request.line (.error fault)] (some "helper stdin closed")
  | unread (fault : String) : Exchanged request (.error ⟨fault⟩) [.wrote request.line (.ok ()), .read (.error fault)] none
  | closed : Exchanged request (.error ⟨"helper closed the stream during " ++ request.method.name⟩)
      [.wrote request.line (.ok ()), .read (.ok none)] (some "helper stdout closed")
  | answered (line : String) :
      Exchanged request (Channel.valueOf request.id line) [.wrote request.line (.ok ()), .read (.ok (some line))] none

/-- All that can become of a request. -/
inductive Requested [Codec α] (method : Method) (channel : Channel (Overheard π)) :
    Except TransportError α → Channel (Overheard π) → Prop where
  | refused (gone : channel.lost.isSome = true) : Requested method channel (.error ⟨"helper already disconnected"⟩) channel
  | exited {reason : String} (present : channel.lost = none) :
      Requested method channel (.error ⟨reason⟩) { channel with lost := some reason }
  | sent {answer : Except TransportError α} {helper : π} {deeds : List Deed} {lost : Option String} (present : channel.lost = none)
      (exchanged : Exchanged ⟨channel.nextId.toNat, method⟩ answer deeds lost) : Requested method channel answer { channel with
        peer := ⟨helper, channel.peer.deeds ++ deeds⟩, nextId := channel.nextId + 1, lost }

theorem Peer.write_overheard {peer : Peer π} {heard : Overheard π} {helper : π} {text : String} {result : Except String Unit}
    (writes : peer.write text heard.helper = (result,helper)) :
    peer.overheard.write text heard = (result,⟨helper,heard.deeds ++ [.wrote text result]⟩) := by
  simp only [overheard,writes]

theorem Peer.readLine_overheard {peer : Peer π} {helper left : π} {deeds : List Deed} {result : Except String (Option String)}
    (reads : peer.readLine helper = (result,left)) :
    peer.overheard.readLine ⟨helper,deeds⟩ = (result,⟨left,deeds ++ [.read result]⟩) := by
  simp only [overheard,reads]

theorem Channel.requested [Codec α] (peer : Peer π) (method : Method) (channel : Channel (Overheard π)) :
    Requested method channel (channel.request (α := α) peer.overheard method).1
      (channel.request (α := α) peer.overheard method).2 := by
  cases lost : channel.lost with
  | some reason =>
    have gone : channel.lost.isSome = true := by simp [lost]
    rw [request,if_pos gone]
    exact .refused gone
  | none =>
    unfold request
    simp only [lost,Option.isSome_none,Bool.false_eq_true,if_false]
    cases status : peer.overheard.status? channel.peer with
    | some status =>
      simp only [lose,lost]
      exact .exited lost
    | none =>
      rcases writes : peer.write ((Request.mk channel.nextId.toNat method).encode ++ "\n") channel.peer.helper with
        ⟨fault | ⟨⟩,sent⟩
      · simp only [Peer.write_overheard writes,lose]
        exact .sent lost (.unwritten fault)
      · simp only [Peer.write_overheard writes,receive]
        rcases reads : peer.readLine sent with ⟨fault | _ | line,left⟩
        · simp only [Peer.readLine_overheard reads,List.append_assoc]
          exact .sent lost (.unread fault)
        · simp only [Peer.readLine_overheard reads,List.append_assoc,lose]
          exact .sent lost .closed
        · simp only [Peer.readLine_overheard reads,List.append_assoc]
          exact .sent lost (.answered line)

/-- The channel as it is without anyone who listens. -/
def Channel.unheard (channel : Channel (Overheard π)) : Channel π :=
  ⟨channel.peer.helper, channel.nextId, channel.capabilities, channel.lost, channel.isReleased⟩

section
variable (peer : Peer π) (channel : Channel (Overheard π))

theorem Channel.request_unheard [Codec α] (method : Method) : channel.unheard.request (α := α) peer method =
    ((channel.request (α := α) peer.overheard method).1,(channel.request (α := α) peer.overheard method).2.unheard) := by
  obtain ⟨⟨helper,deeds⟩,nextId,capabilities,_ | reason,released⟩ := channel
  · cases status : peer.status? helper with
    | some status =>
      simp only [request,unheard,Peer.overheard,status]
      rfl
    | none =>
      rcases writes : peer.write ((Request.mk nextId.toNat method).encode ++ "\n") helper with ⟨fault | _,sent⟩
      · simp only [request,unheard,Peer.overheard,status,writes]
        rfl
      · rcases reads : peer.readLine sent with ⟨fault | _ | line,left⟩
        all_goals
          simp only [request,unheard,Peer.overheard,status,writes,receive,reads]
          rfl
  · rfl

theorem Channel.release_unheard : channel.unheard.release peer = (channel.release peer.overheard).unheard := by
  obtain ⟨⟨helper,deeds⟩,nextId,capabilities,_ | reason,_ | _⟩ := channel <;> rfl

theorem Channel.greet_unheard (command : List String) : channel.unheard.greet peer command =
    ((channel.greet peer.overheard command).1,(channel.greet peer.overheard command).2.unheard) := by
  rw [greet,greet,request_unheard]
  rcases channel.request peer.overheard .hello with ⟨error | hello,after⟩
  · dsimp only
    rw [release_unheard]
  · dsimp only
    split
    · rfl
    · rw [release_unheard]

theorem Question.ask_unheard (question : Question) : question.ask peer channel.unheard =
    ((question.ask peer.overheard channel).1,(question.ask peer.overheard channel).2.unheard) := by
  cases question with
  | greeting => exact channel.request_unheard peer _
  | userIds strategy => exact channel.request_unheard peer _
  | packages flags => exact channel.request_unheard peer _
  | capabilities =>
    have same : channel.unheard.capabilities = channel.capabilities := rfl
    simp only [ask,Channel.askCapabilities,same]
    cases channel.capabilities with
    | some told => rfl
    | none =>
      rw [Channel.request_unheard]
      rcases channel.request (α := Hello) peer.overheard .hello with ⟨error | hello,after⟩ <;> rfl

theorem Question.askAll_unheard (questions : List Question) : askAll peer questions channel.unheard =
    ((askAll peer.overheard questions channel).1,(askAll peer.overheard questions channel).2.unheard) := by
  induction questions generalizing channel with
  | nil => rfl
  | cons question rest ih =>
    simp only [askAll,ask_unheard,ih]

end

/-- What was written so far are the requests for the methods, and the helper was not ended. -/
structure Spoken (methods : List Method) (channel : Channel (Overheard π)) : Prop where
  written : channel.peer.written = (numbered methods).map Request.line
  serving : Method.shutdown ∉ methods
  nextId : channel.nextId = UInt64.ofNat (methods.length + 1)
  running : Deed.stopped ∉ channel.peer.deeds
  unreleased : channel.isReleased = false

section
variable [Codec α] {method : Method} {methods : List Method} {channel next : Channel (Overheard π)}
  {answer : Except TransportError α}

theorem Exchanged.written {request : Request} {deeds : List Deed} {lost : Option String}
    (exchanged : Exchanged request answer deeds lost) : deeds.filterMap Deed.text? = [request.line] := by
  cases exchanged <;> rfl

theorem Exchanged.running {request : Request} {deeds : List Deed} {lost : Option String}
    (exchanged : Exchanged request answer deeds lost) : Deed.stopped ∉ deeds := by
  cases exchanged <;> simp

theorem Spoken.exchanged {helper : π} {deeds : List Deed} {lost : Option String} (spoken : Spoken methods channel)
    (serving : method ≠ .shutdown) (exchanged : Exchanged ⟨channel.nextId.toNat,method⟩ answer deeds lost) :
    Spoken (methods ++ [method])
      { channel with peer := ⟨helper,channel.peer.deeds ++ deeds⟩, nextId := channel.nextId + 1, lost } where
  written := by
    have written : (channel.peer.deeds ++ deeds).filterMap Deed.text? = channel.peer.written ++ _ := List.filterMap_append
    rw [Overheard.written,written,exchanged.written,spoken.written,numbered_concat,← spoken.nextId,List.map_append,
      List.map_singleton]
  serving := by simp [spoken.serving,serving.symm]
  nextId := by
    rw [List.length_append,List.length_singleton,UInt64.ofNat_add,← spoken.nextId]
    rfl
  running stopped := (List.mem_append.mp stopped).elim spoken.running exchanged.running
  unreleased := spoken.unreleased

theorem Spoken.requested (spoken : Spoken methods channel) (serving : method ≠ .shutdown)
    (requested : Requested method channel answer next) : ∃ more, Spoken (methods ++ more) next := by
  cases requested with
  | refused _ =>
    refine ⟨[],?_⟩
    rw [List.append_nil]
    exact spoken
  | exited _ =>
    refine ⟨[],?_⟩
    rw [List.append_nil]
    exact ⟨spoken.written,spoken.serving,spoken.nextId,spoken.running,spoken.unreleased⟩
  | sent _ exchanged => exact ⟨[method],spoken.exchanged serving exchanged⟩

theorem Requested.capabilities_eq (requested : Requested method channel answer next) :
    next.capabilities = channel.capabilities := by
  cases requested <;> rfl

theorem Requested.of_lost (requested : Requested method channel answer next) (gone : channel.lost.isSome = true) :
    answer = .error ⟨"helper already disconnected"⟩ ∧ next = channel := by
  cases requested with
  | refused _ => exact ⟨rfl,rfl⟩
  | exited present => simp [present] at gone
  | sent present _ => simp [present] at gone

theorem Requested.of_ok {value : α} (requested : Requested method channel (.ok value) next) :
    let own : Request := ⟨channel.nextId.toNat, method⟩
    ∃ line, next.peer.deeds = channel.peer.deeds ++ [.wrote own.line (.ok ()), .read (.ok (some line))] ∧
      Channel.Accepts own.id line value ∧ next.lost = none := by
  generalize told : (.ok value : Except TransportError α) = answer at requested
  cases requested with
  | refused _ => cases told
  | exited _ => cases told
  | sent _ exchanged =>
    cases exchanged with
    | answered line => exact ⟨line,rfl,Channel.accepts_of_valueOf told.symm,rfl⟩
    | _ => cases told

end

theorem numbered_increasing (methods : List Method) :
    ((numbered methods).take (UInt64.size - 1)).Pairwise fun left right => left.id < right.id := by
  rw [List.pairwise_iff_getElem]
  intro i j before after order
  have small : j < UInt64.size - 1 := by
    rw [List.length_take] at after
    omega
  unfold UInt64.size at small
  simp only [numbered,List.getElem_take,List.getElem_mapIdx,UInt64.toNat_ofNat']
  omega

theorem numbered_fresh {methods : List Method} (small : methods.length < UInt64.size) :
    ∀ earlier ∈ numbered methods, earlier.id ≠ (UInt64.ofNat (methods.length + 1)).toNat := by
  intro earlier member
  obtain ⟨index,bound,rfl⟩ := List.mem_mapIdx.mp member
  unfold UInt64.size at small
  simp only [UInt64.toNat_ofNat']
  omega

instance : (question : Question) → Codec question.Value
  | .greeting => inferInstanceAs (Codec Hello)
  | .capabilities => inferInstanceAs (Codec Capabilities)
  | .userIds _ => inferInstanceAs (Codec (List Int32))
  | .packages _ => inferInstanceAs (Codec (List PackageMeta))

section
variable (peer : Peer π) {methods : List Method} {channel : Channel (Overheard π)} {question : Question} {method : Method}

theorem Question.requested (sends : question.method? true = some method) :
    Requested method channel (question.ask peer.overheard channel).1 (question.ask peer.overheard channel).2 := by
  cases question with
  | capabilities => cases sends
  | greeting | userIds _ | packages _ =>
    obtain rfl := Option.some.inj sends
    exact channel.requested peer _

theorem Question.serving (sends : question.method? true = some method) : method ≠ .shutdown := by
  rintro rfl
  cases question <;> cases sends

theorem Question.ask_known {told : Capabilities} (known : channel.capabilities = some told)
    (silent : question.method? true = none) : (question.ask peer.overheard channel).2 = channel := by
  cases question with
  | capabilities =>
    rw [ask,Channel.askCapabilities,known]
  | greeting | userIds _ | packages _ => cases silent

/-- The channel after the greeting and some questions. -/
structure Bound (methods : List Method) (channel : Channel (Overheard π)) : Prop extends Spoken methods channel where
  known : channel.capabilities.isSome = true

theorem Bound.ask (bound : Bound methods channel) (question : Question) :
    ∃ more, Bound (methods ++ more) (question.ask peer.overheard channel).2 := by
  obtain ⟨told,known⟩ := Option.isSome_iff_exists.mp bound.known
  cases sends : question.method? true with
  | none =>
    refine ⟨[],?_⟩
    rw [Question.ask_known peer known sends,List.append_nil]
    exact bound
  | some method =>
    have requested : Requested method channel _ _ := Question.requested peer sends
    obtain ⟨more,spoken⟩ := bound.toSpoken.requested (Question.serving sends) requested
    exact ⟨more,spoken,requested.capabilities_eq ▸ bound.known⟩

theorem Bound.askAll (bound : Bound methods channel) (questions : List Question) :
    ∃ more, Bound (methods ++ more) (Question.askAll peer.overheard questions channel).2 := by
  -- On the questions; each sends one request at most, whatever came back on those before it.
  induction questions generalizing methods channel with
  | nil =>
    refine ⟨[],?_⟩
    rw [List.append_nil]
    exact bound
  | cons question rest ih =>
    obtain ⟨front,next⟩ := bound.ask peer question
    obtain ⟨back,last⟩ := ih next
    exact ⟨front ++ back,by simpa [Question.askAll] using last⟩

theorem Bound.ask_lost (bound : Bound methods channel) (gone : channel.lost.isSome = true) (question : Question) :
    (question.ask peer.overheard channel).2 = channel := by
  obtain ⟨told,known⟩ := Option.isSome_iff_exists.mp bound.known
  cases sends : question.method? true with
  | none => exact Question.ask_known peer known sends
  | some method => exact ((Question.requested peer sends).of_lost gone).2

/-- How often it is told that the helper went away. -/
def Question.notices (peer : Peer π) : List Question → Channel π → Nat
  | [], _ => 0
  | question :: rest, channel =>
    let next := (question.ask peer channel).2
    (if channel.lost.isNone && next.lost.isSome then 1 else 0) + notices peer rest next

theorem Bound.notices_eq (bound : Bound methods channel) (questions : List Question) :
    Question.notices peer.overheard questions channel + channel.lost.toList.length =
      (Question.askAll peer.overheard questions channel).2.lost.toList.length := by
  induction questions generalizing methods channel with
  | nil => exact Nat.zero_add _
  | cons question rest ih =>
    obtain ⟨more,next⟩ := bound.ask peer question
    have later := ih next
    have same : channel.lost.isSome = true → (question.ask peer.overheard channel).2 = channel :=
      fun gone => bound.ask_lost peer gone question
    rw [Question.askAll,Question.notices]
    dsimp only
    rw [← later]
    cases lost : channel.lost with
    | some reason =>
      -- The notice was given before, and the channel stays as it is.
      rw [same (by simp [lost]),lost]
      simp
    | none =>
      cases (question.ask peer.overheard channel).2.lost <;> simp [Nat.add_comm]

/-- What holds of the next question: a known answer is given at once, a lost helper refuses at once, and what is accepted is a
line that bears the id of the request that was just written, which none before had. -/
structure Guarded (peer : Peer π) (methods : List Method) (channel : Channel (Overheard π)) : Prop where
  known : ∀ told ∈ channel.capabilities, Question.capabilities.ask peer.overheard channel = (.ok told, channel)
  refused : ∀ (question : Question) (method : Method), question.method? true = some method → channel.lost.isSome = true →
    question.ask peer.overheard channel = (.error ⟨"helper already disconnected"⟩, channel)
  accepted : ∀ (question : Question) (method : Method) (value : question.Value), question.method? true = some method →
    (question.ask peer.overheard channel).1 = .ok value → ∃ line,
      let own : Request := ⟨channel.nextId.toNat, method⟩
      (question.ask peer.overheard channel).2.peer.deeds =
        channel.peer.deeds ++ [.wrote own.line (.ok ()), .read (.ok (some line))] ∧
      Channel.Accepts own.id line value ∧
      (methods.length < UInt64.size → ∀ earlier ∈ numbered methods, earlier.id ≠ own.id)

theorem Spoken.guarded (spoken : Spoken methods channel) : Guarded peer methods channel where
  known := by
    intro told known
    rw [Question.ask,Channel.askCapabilities,Option.mem_def.mp known]
    rfl
  refused := by
    intro question method sends gone
    obtain ⟨answer,same⟩ := (Question.requested peer sends).of_lost gone
    exact Prod.ext answer same
  accepted := by
    intro question method value sends accepts
    have requested : Requested method channel _ _ := Question.requested peer sends
    rw [accepts] at requested
    obtain ⟨line,deeds,accepted,-⟩ := requested.of_ok
    refine ⟨line,deeds,accepted,fun small => ?_⟩
    rw [spoken.nextId]
    exact numbered_fresh small

/-- What is done to the helper when the channel is let go of: a request to shut down unless the helper is lost, and one end. -/
structure Parted (methods : List Method) (channel ended : Channel (Overheard π)) : Prop where
  deeds : ∃ result, ended.peer.deeds = channel.peer.deeds ++
    (if channel.lost.isSome then [] else [.wrote (Request.mk channel.nextId.toNat .shutdown).line result]) ++ [.stopped]
  written : ended.peer.written = (numbered (methods ++ if channel.lost.isSome then [] else [.shutdown])).map Request.line
  lost : ended.lost = channel.lost
  released : ended.isReleased = true

theorem Spoken.release (spoken : Spoken methods channel) : Parted methods channel (channel.release peer.overheard) := by
  let told := peer.write (Request.mk channel.nextId.toNat .shutdown).line channel.peer.helper
  have deeds : (channel.release peer.overheard).peer.deeds = channel.peer.deeds ++
      (if channel.lost.isSome then [] else [.wrote (Request.mk channel.nextId.toNat .shutdown).line told.1]) ++ [.stopped] := by
    rw [Channel.release,spoken.unreleased,if_neg Bool.false_ne_true]
    cases channel.lost <;> simp [Peer.overheard,Request.line,told]
  refine ⟨⟨told.1,deeds⟩,?_,?_,?_⟩
  · have before : channel.peer.deeds.filterMap Deed.text? = _ := spoken.written
    rw [Overheard.written,deeds,List.filterMap_append,List.filterMap_append,before]
    cases channel.lost with
    | some reason => simp [Deed.text?]
    | none => simp [Deed.text?,numbered_concat,← spoken.nextId]
  · rw [Channel.release,spoken.unreleased,if_neg Bool.false_ne_true]
  · rw [Channel.release,spoken.unreleased,if_neg Bool.false_ne_true]

theorem Channel.release_again (released : channel.isReleased = true) : channel.release peer.overheard = channel := by
  rw [release,if_pos released]

theorem Spoken.release_iterate (spoken : Spoken methods channel) (again : Nat) :
    Parted methods channel ((Channel.release peer.overheard)^[again + 1] channel) := by
  have parted : Parted methods channel (channel.release peer.overheard) := spoken.release peer
  rw [Function.iterate_succ_apply,Function.iterate_fixed (Channel.release_again peer parted.released)]
  exact parted

/-- A channel to a helper that nothing was done to yet. -/
def Channel.unused (origin : π) : Channel (Overheard π) := { peer := ⟨origin, []⟩ }

theorem Bound.greet {origin : π} {command : List String}
    (welcomed : ((Channel.unused origin).greet peer.overheard command).1 = .ok ()) :
    Bound [.hello] ((Channel.unused origin).greet peer.overheard command).2 ∧
      ((Channel.unused origin).greet peer.overheard command).2.lost = none := by
  have silent : Spoken [] (Channel.unused origin) := ⟨rfl,by simp,rfl,by simp [Channel.unused],rfl⟩
  have requested : Requested (α := Hello) .hello (Channel.unused origin) _ _ := Channel.requested peer .hello _
  unfold Channel.greet at welcomed ⊢
  rcases asked : (Channel.unused origin).request (α := Hello) peer.overheard .hello with ⟨error | hello,after⟩
  · simp [asked] at welcomed
  · rw [asked] at requested
    obtain ⟨-,-,-,present⟩ := requested.of_ok
    have spoken : Spoken [.hello] after := by
      cases requested with
      | sent _ exchanged => exact silent.exchanged (by simp) exchanged
    by_cases same : hello.protocolVersion = protocolVersion
    · simp only [if_pos same]
      exact ⟨⟨⟨spoken.written,spoken.serving,spoken.nextId,spoken.running,spoken.unreleased⟩,rfl⟩,present⟩
    · simp [asked,same] at welcomed

end

/-- Whatever the helper does, the requests to it are numbered from the greeting's 1, so that their ids ascend; a question is
accepted only with a line of its own id; that the helper went away is told at most once, and then nothing more is written; and
when the channel is let go of, in whichever way and however often, the helper is ended once. -/
theorem askAll_protocol (peer : Peer π) (origin : π) (command : List String)
    (welcomed : (Channel.greet peer command { peer := origin }).1 = .ok ()) (questions : List Question) :
    let greeted := ((Channel.unused origin).greet peer.overheard command).2
    let channel := (Question.askAll peer.overheard questions greeted).2
    (Question.askAll peer.overheard questions greeted).1 =
      (Question.askAll peer questions (Channel.greet peer command { peer := origin }).2).1 ∧
    ∃ methods : List Method, Bound (.hello :: methods) channel ∧
      ((numbered (.hello :: methods ++ [.shutdown])).take (UInt64.size - 1)).Pairwise (fun left right => left.id < right.id) ∧
      Guarded peer (.hello :: methods) channel ∧
      Question.notices peer.overheard questions greeted = (if channel.lost.isSome then 1 else 0) ∧
      ∀ again, Parted (.hello :: methods) channel ((Channel.release peer.overheard)^[again + 1] channel) := by
  have unheard : Channel.greet peer command { peer := origin } = _ := (Channel.unused origin).greet_unheard peer command
  rw [unheard] at welcomed ⊢
  obtain ⟨bound,present⟩ := Bound.greet peer welcomed
  obtain ⟨methods,last⟩ := bound.askAll peer questions
  have notices := bound.notices_eq peer questions
  refine ⟨?_,methods,last,numbered_increasing _,last.toSpoken.guarded peer,?_,last.toSpoken.release_iterate peer⟩
  · rw [Question.askAll_unheard]
  · rw [present] at notices
    refine notices.trans ?_
    cases (Question.askAll peer.overheard questions _).2.lost <;> rfl

def greeting : Hello := ⟨protocolVersion, {}⟩

/-- A helper that answers the greeting again and again. -/
def repeating : Peer Unit where
  status? _ := none
  write _ _ := (.ok (), ())
  readLine _ := (.ok (some (encode (Response.success 1 greeting) ++ "\n")), ())
  stop _ := ()

theorem valueOf_greeting : Channel.valueOf 1 (encode (Response.success 1 greeting) ++ "\n") = .ok greeting :=
  @valueOf_responseTo Hello _ 1 (.done greeting) _ (by decide) Hello.carried rfl

theorem askAll_protocol_repeating : (Channel.greet repeating [] { peer := () }).1 = .ok () ∧
    ∃ methods : List Method, Bound (.hello :: methods)
      (Question.askAll repeating.overheard [.userIds .primaryOnly, .packages 0]
        ((Channel.unused ()).greet repeating.overheard []).2).2 := by
  have welcomed : (Channel.greet repeating [] { peer := () }).1 = .ok () := by
    have asked : Channel.request (α := Hello) repeating .hello { peer := () } = _ := Channel.request_eq rfl rfl rfl rfl
    have first : (1 : UInt64).toNat = 1 := rfl
    rw [first,valueOf_greeting] at asked
    rw [Channel.greet,asked]
    rfl
  obtain ⟨-,methods,bound,-⟩ := askAll_protocol repeating () [] welcomed [.userIds .primaryOnly,.packages 0]
  exact ⟨welcomed,methods,bound⟩

end AppGrants.Service
