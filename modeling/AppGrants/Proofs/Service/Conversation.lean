import AppGrants.Proofs.Helper.Answering
import AppGrants.Service.Channel

/-! A channel to a helper that serves the package manager: what is asked through it is answered as by the package manager
itself. -/
namespace AppGrants
open Service

namespace Helper.Backend
variable {ω : Type} {overflow : Overflow} {runner : Runner ω}

theorem known_overlaysFor (user : Int32) (backend : Backend ω) : (backend.overlaysFor runner user).2.known = backend.known := by
  unfold overlaysFor
  dsimp only
  split <;> rfl

theorem known_packagesOf (flags : UInt32) (user : Int32) (backend : Backend ω) :
    (backend.packagesOf overflow runner flags user).2.known = backend.known := by
  unfold packagesOf
  dsimp only
  split
  · rfl
  · exact known_overlaysFor user _

theorem known_packagesOfAll (flags : UInt32) (users : List Int32) (backend : Backend ω) :
    (backend.packagesOfAll overflow runner flags users).2.known = backend.known := by
  induction users generalizing backend with
  | nil => rfl
  | cons user others ih =>
    have first : (backend.packagesOf overflow runner flags user).2.known = backend.known := known_packagesOf flags user backend
    rw [packagesOfAll]
    split
    next listed =>
      rw [listed] at first
      exact (ih _).trans first
    · exact first

theorem known_listUserIds (strategy : UserStrategy) (backend : Backend ω) :
    (backend.listUserIds runner strategy).2.known = backend.known := by
  cases strategy <;> rfl

theorem capabilities_of_known {told : Capabilities} {backend : Backend ω} (known : backend.known = some told) :
    backend.capabilities runner = (told,backend) := by
  rw [capabilities,known]

theorem known_capabilities (backend : Backend ω) :
    (backend.capabilities runner).2.known = some (backend.capabilities runner).1 := by
  cases known : backend.known with
  | some told => rw [capabilities_of_known known,known]
  | none =>
    rw [capabilities,known]

theorem known_perform {told : Capabilities} {backend : Backend ω} (known : backend.known = some told) (method : Method) :
    (backend.perform overflow runner method).2.known = some told := by
  cases method with
  | hello =>
    rw [perform,capabilities_of_known known]
    exact known
  | listUserIds strategy => exact (known_listUserIds strategy backend).trans known
  | listPackages flags =>
    rw [perform,listPackages,capabilities_of_known known]
    dsimp only
    have users : (backend.listUserIds runner told.negotiate).2.known = backend.known := known_listUserIds _ backend
    split
    next listed =>
      rw [listed] at users
      exact users.trans known
    next listed =>
      rw [listed] at users
      exact ((known_packagesOfAll flags _ _).trans users).trans known
  | shutdown => exact known

end Helper.Backend

namespace Service
open Helper Json Text
variable {ω α : Type} {build : Build} {overflow : Overflow} {runner : Runner ω} {backend now : Backend ω}

/-- All that the helper was told, and how many of the bytes that it wrote have been read. -/
structure Streams where
  told : Bytes := []
  taken : Nat := 0

/-- What the helper has done with all that it was told so far. -/
def Streams.served (build : Build) (overflow : Overflow) (runner : Runner ω) (backend : Backend ω) (streams : Streams) :
    Served ω :=
  serve build overflow runner {} streams.told backend

def exitStatus : Outcome Nat → String
  | .done _ => "exit status: 0"
  | .failed _ => "exit status: 1"
  | .panicked _ => "exit status: 101"

/-- The helper that serves the package manager, as it is seen through its streams. -/
def servingPeer (build : Build) (overflow : Overflow) (runner : Runner ω) (backend : Backend ω) : Peer Streams where
  status? streams :=
    let served := streams.served build overflow runner backend
    if served.isOver then some (exitStatus served.ending) else none
  write text streams :=
    if (streams.served build overflow runner backend).isOver then (.error "Broken pipe (os error 32)", streams)
    else (.ok (), { streams with told := streams.told ++ utf8 text })
  readLine streams :=
    let unread := (streams.served build overflow runner backend).output.drop streams.taken
    let line := unread.takeWhile (· != 0x0A)
    if line.length = unread.length then (.ok none, streams)
    else
      let read := { streams with taken := streams.taken + line.length + 1 }
      match ofUtf8? (line ++ [0x0A]) with
      | some text => (.ok (some text), read)
      | none => (.error "stream did not contain valid UTF-8", read)
  stop streams := streams

/-- What is asked through a channel. A greeting is always sent, but the capabilities are asked for only until they are known. -/
inductive Question where
  | greeting
  | capabilities
  | userIds (strategy : UserStrategy)
  | packages (flags : UInt32)

namespace Question

def Value : Question → Type
  | greeting => Hello
  | capabilities => Capabilities
  | userIds _ => List Int32
  | packages _ => List PackageMeta

/-- The answer of the package manager itself. -/
def direct (overflow : Overflow) (runner : Runner ω) : (question : Question) → Backend ω → Outcome question.Value × Backend ω
  | greeting, backend =>
    let (known, backend) := backend.capabilities runner
    (.done (Hello.mk protocolVersion known), backend)
  | capabilities, backend =>
    let (known, backend) := backend.capabilities runner
    (.done known, backend)
  | userIds strategy, backend =>
    let (result, backend) := backend.listUserIds runner strategy
    (.ofExcept result, backend)
  | packages flags, backend => backend.listPackages overflow runner flags

/-- The answer that comes through the channel. -/
def ask {π : Type} (peer : Peer π) : (question : Question) → Channel π → Except TransportError question.Value × Channel π
  | greeting, channel => channel.request (α := Hello) peer .hello
  | capabilities, channel => channel.askCapabilities peer
  | userIds strategy, channel => channel.listUserIds peer strategy
  | packages flags, channel => channel.listPackages peer flags

def directAll (overflow : Overflow) (runner : Runner ω) :
    List Question → Backend ω → List ((question : Question) × Outcome question.Value) × Backend ω
  | [], backend => ([], backend)
  | question :: rest, backend =>
    let (outcome, backend) := question.direct overflow runner backend
    let (others, backend) := directAll overflow runner rest backend
    (⟨question, outcome⟩ :: others, backend)

def askAll {π : Type} (peer : Peer π) :
    List Question → Channel π → List ((question : Question) × Except TransportError question.Value) × Channel π
  | [], channel => ([], channel)
  | question :: rest, channel =>
    let (answer, channel) := question.ask peer channel
    let (others, channel) := askAll peer rest channel
    (⟨question, answer⟩ :: others, channel)

/-- What is sent for the question; the capabilities may be known already. -/
def method? (known : Bool) : Question → Option Method
  | greeting => some .hello
  | capabilities => if known then none else some .hello
  | userIds strategy => some (.listUserIds strategy)
  | packages flags => some (.listPackages flags)

def learns : Question → Bool
  | capabilities => true
  | _ => false

def sentAll : Bool → List Question → List Method
  | _, [] => []
  | known, question :: rest => (question.method? known).toList ++ sentAll (known || question.learns) rest

end Question

/-- An outcome as it is told on the other end: a failure by its code and its message. -/
def overWire : Outcome α → Except TransportError α
  | .done value => .ok value
  | .failed failure => .error ⟨failure.code ++ ": " ++ failure.message⟩
  | .panicked text => .error ⟨text⟩

theorem valueOf_responseTo [Codec α] {id : Nat} {outcome : Outcome α} {response : Response} (small : id < UInt64.size)
    (carried : ∀ value : α, Carried 126 value) (told : responseTo id outcome = .done response) :
    Channel.valueOf id (encode response ++ "\n") = overWire outcome := by
  have fills := (tells_responseTo small carried told).2
  have line : String.ofList (trimEnd (encode response ++ "\n").toList) = encode response := by
    rw [fills.trimEnd_line,String.ofList_toList]
  cases outcome with
  | done value =>
    obtain rfl : Response.success id value = response := Ending.done.inj told
    have result := Response.intoResult_received id (carried value).resumes
    rw [Channel.valueOf,line,Response.decode_success small (carried value)]
    exact (if_pos rfl).trans result
  | failed failure =>
    obtain rfl : Response.failure id failure.line = response := Ending.done.inj told
    rw [Channel.valueOf,line,Response.decode_failure small]
    exact if_pos rfl
  | panicked text => cases told

theorem readLine_output {streams : Streams} {front : Bytes} {text : String} (fills : FillsLine text)
    (output : (streams.served build overflow runner backend).output = front ++ utf8 (text ++ "\n"))
    (taken : streams.taken = front.length) : (servingPeer build overflow runner backend).readLine streams =
      (.ok (some (text ++ "\n")),{ streams with taken := (front ++ utf8 (text ++ "\n")).length }) := by
  have unread : (streams.served build overflow runner backend).output.drop streams.taken = utf8 text ++ [0x0A] := by
    rw [output,taken,List.drop_left,utf8_line]
  have line : (utf8 text ++ [0x0A]).takeWhile (· != 0x0A) = utf8 text := by
    have plain : ∀ byte ∈ utf8 text, (byte != 0x0A) = true := by
      intro byte member
      rw [bne_iff_ne]
      rintro rfl
      exact fills.feed_not_mem_utf8 member
    rw [List.takeWhile_append_of_pos plain]
    simp
  have decoded : ofUtf8? (utf8 text ++ [0x0A]) = some (text ++ "\n") := by
    rw [← utf8_line]
    exact ofUtf8?_utf8 _
  have more : ¬(utf8 text).length = (utf8 text ++ [0x0A]).length := by simp
  simp only [servingPeer,unread,line,if_neg more,decoded]
  rw [taken,utf8_line,List.length_append,List.length_append]
  rfl

theorem serve_next {requests : List Request} {request : Request} {response : Response}
    (small : ∀ request ∈ requests, request.id < UInt64.size) (fits : request.id < UInt64.size)
    (before : Served ω) (reached : serve build overflow runner {} (requestLines requests) backend = before)
    (going : before.isOver = false)
    (told : responseTo request.id (before.backend.perform overflow runner request.method).1 = .done response) :
    serve build overflow runner {} (requestLines (requests ++ [request])) backend =
      { before.add response (before.backend.perform overflow runner request.method).2 with
        isOver := request.method == .shutdown } := by
  have holds : Sink.Holds {} := fun _ => ⟨rfl,rfl⟩
  have all : ∀ other ∈ requests ++ [request], other.id < UInt64.size := by
    simpa [or_imp,forall_and] using ⟨small,fits⟩
  have stepped := @Served.step_encoded _ build overflow runner {} holds request fits before
  have append := @serveLines_append _ build overflow runner {} holds (requests.map fun request => utf8 request.encode)
    [utf8 request.encode] ⟨.done 0,[],backend,false⟩ rfl
  rw [serve,byteLines_requestLines small] at reached
  have answered : before.answering overflow runner request =
      if request.method == .shutdown then .error (before.add response (before.backend.perform overflow runner request.method).2)
      else .ok (before.add response (before.backend.perform overflow runner request.method).2) := by
    simp only [Served.answering,told]
  rw [reached,going,if_neg Bool.false_ne_true,serveLines,stepped,answered] at append
  rw [serve,byteLines_requestLines all,List.map_append,List.map_singleton,append]
  cases ends : request.method == .shutdown with
  | true => rfl
  | false => simp [serveLines,Served.add,going]

/-- The requests for the methods, with ids that are numbered from 1. -/
def numbered (methods : List Method) : List Request :=
  methods.mapIdx fun index method => ⟨(UInt64.ofNat (index + 1)).toNat, method⟩

theorem numbered_concat (methods : List Method) (method : Method) :
    numbered (methods ++ [method]) = numbered methods ++ [⟨(UInt64.ofNat (methods.length + 1)).toNat,method⟩] :=
  List.mapIdx_concat

theorem numbered_small (methods : List Method) : ∀ request ∈ numbered methods, request.id < UInt64.size := by
  intro request member
  obtain ⟨index,_,rfl⟩ := List.mem_mapIdx.mp member
  exact UInt64.toNat_lt _

/-- Both ends have come equally far: everything that was asked has been answered, and nothing else has been. -/
structure Attuned (build : Build) (overflow : Overflow) (runner : Runner ω) (backend : Backend ω) (methods : List Method)
    (now : Backend ω) (channel : Channel Streams) : Prop where
  told : channel.peer.told = requestLines (numbered methods)
  taken : channel.peer.taken = (channel.peer.served build overflow runner backend).output.length
  state : (channel.peer.served build overflow runner backend).backend = now
  going : (channel.peer.served build overflow runner backend).isOver = false
  ending : (channel.peer.served build overflow runner backend).ending = .done methods.length
  tells : List.Forall₂ (fun request text => ∃ succeeds, Tells text request.id succeeds) (numbered methods)
    (channel.peer.served build overflow runner backend).lines
  nextId : channel.nextId = UInt64.ofNat (methods.length + 1)
  present : channel.lost = none
  unreleased : channel.isReleased = false
  known : ∀ told ∈ channel.capabilities, now.known = some told

theorem Attuned.first : Attuned build overflow runner backend [] backend { peer := {} } :=
  ⟨rfl,rfl,rfl,rfl,rfl,.nil,rfl,rfl,rfl,by simp⟩

section
variable {methods : List Method} {channel : Channel Streams}

theorem exists_responseTo [Codec α] (id : Nat) {outcome : Outcome α} (calm : ∀ text, outcome ≠ .panicked text) :
    ∃ response, responseTo id outcome = .done response := by
  cases outcome with
  | done value => exact ⟨_,rfl⟩
  | failed failure => exact ⟨_,rfl⟩
  | panicked text => exact absurd rfl (calm text)

theorem Channel.request_eq {π : Type} [Codec α] {peer : Peer π} {channel : Channel π} {method : Method} {written left : π}
    {line : String} (present : channel.lost = none) (status : peer.status? channel.peer = none)
    (writes : peer.write ((Request.mk channel.nextId.toNat method).encode ++ "\n") channel.peer = (.ok (),written))
    (reads : peer.readLine written = (.ok (some line),left)) : channel.request (α := α) peer method =
      (valueOf channel.nextId.toNat line,{ channel with peer := left, nextId := channel.nextId + 1 }) := by
  unfold Channel.request
  simp only [present,status,Option.isSome_none,Bool.false_eq_true,if_false,writes,receive,reads]

/-- The streams after the next request was written. -/
def Channel.written (channel : Channel Streams) (method : Method) : Streams :=
  { channel.peer with told := channel.peer.told ++ utf8 ((Request.mk channel.nextId.toNat method).encode ++ "\n") }

theorem Attuned.length_eq (attuned : Attuned build overflow runner backend methods now channel) :
    (channel.peer.served build overflow runner backend).lines.length = methods.length := by
  rw [← attuned.tells.length_eq,numbered,List.length_mapIdx]

section
variable (attuned : Attuned build overflow runner backend methods now channel) (method : Method)
include attuned

theorem Attuned.numbered_next : numbered (methods ++ [method]) = numbered methods ++ [⟨channel.nextId.toNat,method⟩] := by
  rw [numbered_concat,← attuned.nextId]

theorem Attuned.told_written : (channel.written method).told = requestLines (numbered (methods ++ [method])) := by
  simp [Channel.written,attuned.numbered_next,requestLines,attuned.told]

theorem Attuned.write_eq :
    (servingPeer build overflow runner backend).write ((Request.mk channel.nextId.toNat method).encode ++ "\n") channel.peer =
      (.ok (),channel.written method) := by
  simp [servingPeer,attuned.going,Channel.written]

theorem Attuned.served_written {response : Response}
    (told : responseTo channel.nextId.toNat (now.perform overflow runner method).1 = .done response) :
    (channel.written method).served build overflow runner backend =
      { (channel.peer.served build overflow runner backend).add response (now.perform overflow runner method).2 with
        isOver := method == .shutdown } := by
  let request : Request := ⟨channel.nextId.toNat,method⟩
  have reached : serve build overflow runner {} (requestLines (numbered methods)) backend =
      channel.peer.served build overflow runner backend := by
    rw [Streams.served,attuned.told]
  have performed : responseTo request.id
      ((channel.peer.served build overflow runner backend).backend.perform overflow runner request.method).1 = .done response := by
    rw [attuned.state]
    exact told
  have next := serve_next (numbered_small methods) (UInt64.toNat_lt _) _ reached attuned.going performed
  rw [Streams.served,attuned.told_written,attuned.numbered_next,next,attuned.state]

end

/-- One more request, with its answer, keeps both ends equally far. -/
theorem Attuned.request (attuned : Attuned build overflow runner backend methods now channel) {method : Method}
    (goes_on : method ≠ .shutdown) (calm : ∀ text, (now.perform overflow runner method).1 ≠ .panicked text) :
    ∃ after,
      channel.request (servingPeer build overflow runner backend) method =
        (overWire (now.perform overflow runner method).1,after) ∧
      after.capabilities = channel.capabilities ∧
      Attuned build overflow runner backend (methods ++ [method]) (now.perform overflow runner method).2 after := by
  have fits : channel.nextId.toNat < UInt64.size := UInt64.toNat_lt _
  obtain ⟨response,told⟩ := exists_responseTo channel.nextId.toNat calm
  obtain ⟨tells,fills⟩ := tells_responseTo fits Method.carried told
  have value := valueOf_responseTo fits Method.carried told
  have more : (method == .shutdown) = false := beq_eq_false_iff_ne.mpr goes_on
  have served := attuned.served_written method told
  rw [more] at served
  have output : ((channel.written method).served build overflow runner backend).output =
      (channel.peer.served build overflow runner backend).output ++ utf8 (encode response ++ "\n") := by
    rw [served]
    simp [Served.output,Served.add]
  -- All that was written before is taken, so the line that is read is the one that was added.
  have reads := readLine_output fills output attuned.taken
  rw [← output] at reads
  have status : (servingPeer build overflow runner backend).status? channel.peer = none := by simp [servingPeer,attuned.going]
  let after : Channel Streams := { channel with
    peer := ⟨(channel.written method).told,((channel.written method).served build overflow runner backend).output.length⟩
    nextId := channel.nextId + 1 }
  have same : after.peer.served build overflow runner backend =
      (channel.written method).served build overflow runner backend := rfl
  refine ⟨after,?_,rfl,attuned.told_written method,rfl,?_,?_,?_,?_,?_,attuned.present,attuned.unreleased,?_⟩
  · rw [Channel.request_eq attuned.present status (attuned.write_eq method) reads,value]
  · rw [same,served]
    rfl
  · rw [same,served]
  · rw [same,served,List.length_append]
    simp [Served.add,attuned.length_eq]
  · rw [same,served,attuned.numbered_next]
    exact List.rel_append attuned.tells (.cons ⟨_,tells⟩ .nil)
  · rw [List.length_append,List.length_singleton,UInt64.ofNat_add,← attuned.nextId]
    rfl
  · intro told cached
    exact Backend.known_perform (attuned.known told cached) method

theorem Attuned.ask (attuned : Attuned build overflow runner backend methods now channel) (question : Question)
    (calm : ∀ text, (question.direct overflow runner now).1 ≠ .panicked text) :
    ∃ after,
      question.ask (servingPeer build overflow runner backend) channel =
        (overWire (question.direct overflow runner now).1,after) ∧
      after.capabilities.isSome = (channel.capabilities.isSome || question.learns) ∧
      Attuned build overflow runner backend (methods ++ (question.method? channel.capabilities.isSome).toList)
        (question.direct overflow runner now).2 after := by
  have sent {method : Method} (goes_on : method ≠ .shutdown)
      (calm : ∀ text, (now.perform overflow runner method).1 ≠ .panicked text) :
      ∃ after,
        channel.request (servingPeer build overflow runner backend) method =
          (overWire (now.perform overflow runner method).1,after) ∧
        after.capabilities.isSome = (channel.capabilities.isSome || false) ∧
        Attuned build overflow runner backend (methods ++ [method]) (now.perform overflow runner method).2 after := by
    obtain ⟨after,answer,same,reached⟩ := attuned.request goes_on calm
    exact ⟨after,answer,by simp [same],reached⟩
  cases question with
  | greeting => exact @sent .hello (by simp) calm
  | userIds strategy => exact @sent (.listUserIds strategy) (by simp) calm
  | packages flags => exact @sent (.listPackages flags) (by simp) calm
  | capabilities =>
    cases cached : channel.capabilities with
    | some told =>
      -- Nothing is sent, and the package manager tells again what it told first.
      have direct : now.capabilities runner = (told,now) := Backend.capabilities_of_known (attuned.known told cached)
      refine ⟨channel,?_,by simp [cached],?_⟩
      · simp only [Question.ask,Channel.askCapabilities,cached,Question.direct,direct]
        rfl
      · simpa [Question.method?,Question.direct,direct] using attuned
    | none =>
      have told : ∀ text, (now.perform overflow runner .hello).1 ≠ .panicked text := fun text panicked => by cases panicked
      obtain ⟨after,answer,-,reached⟩ := attuned.request (by simp) told
      have hello : channel.request (α := Hello) (servingPeer build overflow runner backend) .hello =
        (.ok (Hello.mk protocolVersion (now.capabilities runner).1),after) := answer
      have known : ∀ held ∈ some (now.capabilities runner).1, (now.capabilities runner).2.known = some held := by
        rintro held ⟨⟩
        exact Backend.known_capabilities now
      refine ⟨{ after with capabilities := some (now.capabilities runner).1 },?_,rfl,{ reached with known }⟩
      simp only [Question.ask,Channel.askCapabilities,cached,hello]
      rfl

theorem Attuned.askAll (questions : List Question) (attuned : Attuned build overflow runner backend methods now channel)
    (calm : ∀ answer ∈ (Question.directAll overflow runner questions now).1, ∀ text, answer.2 ≠ .panicked text) :
    (Question.askAll (servingPeer build overflow runner backend) questions channel).1 =
      (Question.directAll overflow runner questions now).1.map (fun answer => ⟨answer.1,overWire answer.2⟩) ∧
    Attuned build overflow runner backend (methods ++ Question.sentAll channel.capabilities.isSome questions)
      (Question.directAll overflow runner questions now).2
      (Question.askAll (servingPeer build overflow runner backend) questions channel).2 := by
  induction questions generalizing methods now channel with
  | nil => exact ⟨rfl,(List.append_nil methods).symm ▸ attuned⟩
  | cons question rest ih =>
    obtain ⟨after,answer,learned,reached⟩ := attuned.ask question (calm _ (.head _))
    obtain ⟨others,last⟩ := ih reached fun answer member => calm answer (.tail _ member)
    simp only [Question.askAll,Question.directAll,answer]
    rw [learned,List.append_assoc] at last
    exact ⟨by rw [others]; rfl,last⟩

/-- After the request to shut down nothing is listened to. -/
structure Ended (build : Build) (overflow : Overflow) (runner : Runner ω) (backend : Backend ω) (methods : List Method)
    (streams : Streams) : Prop where
  told : streams.told = requestLines (numbered (methods ++ [.shutdown]))
  closed : (streams.served build overflow runner backend).isOver = true
  ending : (streams.served build overflow runner backend).ending = .done (methods.length + 1)
  deaf : ∀ more, serve build overflow runner {} (streams.told ++ more) backend = streams.served build overflow runner backend

theorem Attuned.release (attuned : Attuned build overflow runner backend methods now channel) :
    Ended build overflow runner backend methods (channel.release (servingPeer build overflow runner backend)).peer := by
  have released : (channel.release (servingPeer build overflow runner backend)).peer = channel.written .shutdown := by
    simp only [Channel.release,attuned.unreleased,attuned.present,attuned.write_eq]
    rfl
  have told_unit : responseTo channel.nextId.toNat (now.perform overflow runner .shutdown).1 =
    .done (.success channel.nextId.toNat ()) := rfl
  have served := attuned.served_written .shutdown told_unit
  have told := attuned.told_written .shutdown
  rw [released]
  refine ⟨told,?_,?_,?_⟩
  · rw [served]
    rfl
  · rw [served]
    simp [Served.add,attuned.length_eq]
  · -- What was told ends in the line that shuts down, and nothing behind that line is looked at.
    intro more
    let request : Request := ⟨channel.nextId.toNat,.shutdown⟩
    let front := channel.peer.told ++ utf8 request.encode
    have closed : (channel.written .shutdown).told = front ++ [0x0A] := by
      simp [Channel.written,front,request,utf8_line]
    have asks : requestOf? (utf8 request.encode) = some request := by
      simp [requestOf?,ofUtf8?_utf8,Request.decode_encode request (UInt64.toNat_lt _),Except.toOption]
    have shuts : shutsDown (utf8 request.encode) = true := by simp [shutsDown,asks,request]
    have line : utf8 request.encode ∈ byteLines (front ++ [0x0A]) := by
      rw [← closed,told,attuned.numbered_next,byteLines_requestLines]
      · simp [request]
      · rw [← attuned.numbered_next]
        exact numbered_small _
    have holds : Sink.Holds {} := fun _ => ⟨rfl,rfl⟩
    rw [Streams.served,closed,List.append_assoc]
    exact serve_append holds ⟨_,line,shuts⟩

end

/-- Whatever is asked through the channel is answered as the package manager itself answers, and the request to shut down is the
last one. -/
theorem askAll_direct (build : Build) (overflow : Overflow) (runner : Runner ω) (backend : Backend ω) (questions : List Question)
    (calm : ∀ answer ∈ (Question.directAll overflow runner questions backend).1, ∀ text, answer.2 ≠ .panicked text) :
    let peer := servingPeer build overflow runner backend
    let direct := Question.directAll overflow runner questions backend
    let asked := Question.askAll peer questions { peer := {} }
    let methods := Question.sentAll false questions
    asked.1 = direct.1.map (fun answer => ⟨answer.1, overWire answer.2⟩) ∧
      Attuned build overflow runner backend methods direct.2 asked.2 ∧
      Ended build overflow runner backend methods (asked.2.release peer).peer := by
  obtain ⟨answers,attuned⟩ := Attuned.first.askAll questions calm
  exact ⟨answers,attuned,attuned.release⟩

/-- One user has one package, which comes with the system. -/
def lone : Runner Unit := fun command world =>
  (if command = Backend.usersCommand then .ok "UserInfo\x7b0:Owner:13\x7d running"
    else if command.program = "pm" then .ok "package:/system/a.apk=com.a uid:10001"
    else .error (.new "absent" "no overlays"), world)

def curious : List Question := [.capabilities, .userIds .aliveUsers, .packages 0, .capabilities]

theorem askAll_direct_lone :
    (∀ answer ∈ (Question.directAll .panics lone curious ⟨(), none⟩).1, ∀ text, answer.2 ≠ .panicked text) ∧
      (Question.askAll (servingPeer .debug .panics lone ⟨(), none⟩) curious { peer := {} }).1 = [
        ⟨.capabilities, .ok (Capabilities.mk true true)⟩, ⟨.userIds .aliveUsers, .ok [(0 : Int32)]⟩,
        ⟨.packages 0, .ok [PackageMeta.mk "com.a" 10001 none .system none (some "/system/a.apk")]⟩,
        ⟨.capabilities, .ok (Capabilities.mk true true)⟩] := by
  have direct : (Question.directAll .panics lone curious ⟨(),none⟩).1 = [
      ⟨.capabilities,.done (Capabilities.mk true true)⟩,⟨.userIds .aliveUsers,.done [(0 : Int32)]⟩,
      ⟨.packages 0,.done [PackageMeta.mk "com.a" 10001 none .system none (some "/system/a.apk")]⟩,
      ⟨.capabilities,.done (Capabilities.mk true true)⟩] := rfl
  have calm : ∀ answer ∈ (Question.directAll .panics lone curious ⟨(),none⟩).1, ∀ text, answer.2 ≠ .panicked text := by
    simp [direct]
  refine ⟨calm,?_⟩
  rw [(askAll_direct .debug .panics lone ⟨(),none⟩ curious calm).1,direct]
  rfl

end Service
end AppGrants
