import AppGrants.Helper.Serve
import AppGrants.Proofs.Service.Payloads
import AppGrants.Proofs.Service.Wire
import Mathlib.Data.List.TakeWhile

/-! What is answered to an input: a line to each of its lines that is not blank, in their order, up to the one that asks to shut
down; what comes after that one does not matter. -/
namespace AppGrants

def Ending.succeeds {ε α : Type} : Ending ε α → Bool
  | .done _ => true
  | _ => false

namespace Helper
open Service Text Json
variable {ω α : Type} {build : Build} {overflow : Overflow} {runner : Runner ω} {sink : Sink}

/-- The package manager asked without a wire in between. -/
def Backend.perform (overflow : Overflow) (runner : Runner ω) :
    (method : Method) → Backend ω → Outcome method.Value × Backend ω
  | .hello, backend =>
    let (capabilities, backend) := backend.capabilities runner
    (.done (Hello.mk protocolVersion capabilities), backend)
  | .listUserIds strategy, backend =>
    let (result, backend) := backend.listUserIds runner strategy
    (.ofExcept result, backend)
  | .listPackages flags, backend => backend.listPackages overflow runner flags
  | .shutdown, backend => (.done (), backend)

/-- The response that tells the outcome; a panic has none. -/
def responseTo [Codec α] (id : Nat) : Outcome α → Ending Empty Response
  | .done value => .done (.success id value)
  | .failed failure => .done (.failure id failure.line)
  | .panicked text => .panicked text

theorem answer_eq (request : Request) (backend : Backend ω) :
    answer overflow runner request backend =
      (responseTo request.id (backend.perform overflow runner request.method).1,
        (backend.perform overflow runner request.method).2) := by
  obtain ⟨id,_ | strategy | flags | _⟩ := request
  · rfl
  · rcases listed : backend.listUserIds runner strategy with ⟨result,after⟩
    simp only [answer,Backend.perform,listed]
    cases result <;> rfl
  · rcases listed : backend.listPackages overflow runner flags with ⟨result,after⟩
    simp only [answer,Backend.perform,listed]
    cases result <;> rfl
  · rfl

/-- Nothing goes wrong with what is written. -/
def Sink.Holds (sink : Sink) : Prop := ∀ number, sink.writeFault number = none ∧ sink.flushFault number = none

/-- The request that the line is, if it is one. -/
def requestOf? (line : Bytes) : Option Request := (ofUtf8? line).bind fun text => (Request.decode text).toOption

def isLegible (line : Bytes) : Bool := (ofUtf8? line).isSome

def isBlankLine (line : Bytes) : Bool := (ofUtf8? line).any isBlankText

def shutsDown (line : Bytes) : Bool := (requestOf? line).any (·.method == .shutdown)

/-- The items up to the first one that is the last, with that one. -/
def through (isLast : α → Bool) : List α → List α
  | [] => []
  | item :: rest => if isLast item then [item] else item :: through isLast rest

/-- The lines that are to be answered. -/
def due (lines : List Bytes) : List Bytes := through shutsDown (lines.filter (!isBlankLine ·))

/-- A line that is not blank, and the response to it. -/
inductive Responds (overflow : Overflow) (runner : Runner ω) (line : Bytes) (backend : Backend ω) :
    Response → Backend ω → Prop where
  | request {request : Request} {response : Response} (asks : requestOf? line = some request)
      (tells : responseTo request.id (backend.perform overflow runner request.method).1 = .done response) :
      Responds overflow runner line backend response (backend.perform overflow runner request.method).2
  | invalid (message : String) (nothing : requestOf? line = none) :
      Responds overflow runner line backend (.failure 0 message) backend

def Served.add (response : Response) (backend : Backend ω) (served : Served ω) : Served ω :=
  { served with backend, ending := .done (served.lines.length + 1), lines := served.lines ++ [encode response] }

/-- What one line can do. -/
inductive Reacts (build : Build) (overflow : Overflow) (runner : Runner ω) (line : Bytes) (served : Served ω) :
    Except (Served ω) (Served ω) → Prop where
  | illegible (unread : isLegible line = false) : Reacts build overflow runner line served
      (.error { served with ending := .failed (readFailure build) })
  | blank (blank : isBlankLine line = true) : Reacts build overflow runner line served (.ok served)
  | panicked {request : Request} {text : String} (legible : isLegible line = true) (filled : isBlankLine line = false)
      (asks : requestOf? line = some request)
      (tells : responseTo request.id (served.backend.perform overflow runner request.method).1 = .panicked text) :
      Reacts build overflow runner line served (.error { served with
        ending := .panicked text, backend := (served.backend.perform overflow runner request.method).2 })
  | last {response : Response} {backend : Backend ω} (legible : isLegible line = true) (filled : isBlankLine line = false)
      (responds : Responds overflow runner line served.backend response backend) (last : shutsDown line = true) :
      Reacts build overflow runner line served (.error (served.add response backend))
  | next {response : Response} {backend : Backend ω} (legible : isLegible line = true) (filled : isBlankLine line = false)
      (responds : Responds overflow runner line served.backend response backend) (more : shutsDown line = false) :
      Reacts build overflow runner line served (.ok (served.add response backend))

theorem Served.write_eq (holds : sink.Holds) (response : Response) (served : Served ω) :
    served.write build sink response = .ok { served with lines := served.lines ++ [encode response] } := by
  obtain ⟨writes,flushes⟩ := holds served.lines.length
  simp only [write,writes,flushes]

/-- What becomes of a request: it is answered with what the package manager itself does. -/
def Served.answering (overflow : Overflow) (runner : Runner ω) (request : Request) (served : Served ω) :
    Except (Served ω) (Served ω) :=
  let (outcome, backend) := served.backend.perform overflow runner request.method
  match responseTo request.id outcome with
  | .done response =>
    let added := served.add response backend
    if request.method == .shutdown then .error added else .ok added
  | .failed error => error.elim
  | .panicked text => .error { served with ending := .panicked text, backend }

theorem Served.step_request (holds : sink.Holds) {line : Bytes} {text : String} {request : Request}
    (decoded : ofUtf8? line = some text) (filled : isBlankText text = false) (read : Request.decode text = .ok request)
    (served : Served ω) : served.step build overflow runner sink line = served.answering overflow runner request := by
  simp only [step,decoded,filled,Bool.false_eq_true,if_false,answerLine,read,answer_eq,answering]
  cases responseTo request.id (served.backend.perform overflow runner request.method).1 with
  | done response =>
    simp only [Ending.map,write_eq holds]
    rfl
  | failed error => exact error.elim
  | panicked text => rfl

theorem Served.step_encoded (holds : sink.Holds) {request : Request} (small : request.id < UInt64.size) (served : Served ω) :
    served.step build overflow runner sink (utf8 request.encode) = served.answering overflow runner request :=
  served.step_request holds (ofUtf8?_utf8 _) (request.fillsLine small).not_blank (request.decode_encode small)

theorem reacts_step (holds : sink.Holds) (line : Bytes) (served : Served ω) :
    Reacts build overflow runner line served (served.step build overflow runner sink line) := by
  cases decoded : ofUtf8? line with
  | none =>
    have unread : isLegible line = false := by simp [isLegible,decoded]
    simp only [Served.step,decoded]
    exact .illegible unread
  | some text =>
    have legible : isLegible line = true := by simp [isLegible,decoded]
    have filled : isBlankLine line = isBlankText text := by simp [isBlankLine,decoded]
    cases blank : isBlankText text with
    | true =>
      simp only [Served.step,decoded,blank,if_true]
      exact .blank (filled.trans blank)
    | false =>
      cases read : Request.decode text with
      | error fault =>
        have nothing : requestOf? line = none := by simp [requestOf?,decoded,read,Except.toOption]
        have more : shutsDown line = false := by simp [shutsDown,nothing]
        simp only [Served.step,decoded,blank,Bool.false_eq_true,if_false,answerLine,read,Served.write_eq holds]
        exact .next legible (filled.trans blank) (.invalid _ nothing) more
      | ok request =>
        have asks : requestOf? line = some request := by simp [requestOf?,decoded,read,Except.toOption]
        have last : shutsDown line = (request.method == .shutdown) := by simp [shutsDown,asks]
        rw [Served.step_request holds decoded blank read,Served.answering]
        cases told : responseTo request.id (served.backend.perform overflow runner request.method).1 with
        | panicked text =>
          simp only [told]
          exact .panicked legible (filled.trans blank) asks told
        | failed error => exact error.elim
        | done response =>
          have responds := Responds.request asks told
          simp only [told]
          cases ends : request.method == .shutdown with
          | true => exact .last legible (filled.trans blank) responds (last.trans ends)
          | false => exact .next legible (filled.trans blank) responds (last.trans ends)

/-- The line is a response with this id, to a request that succeeded or did not. -/
def Tells (text : String) (id : Nat) (succeeds : Bool) : Prop :=
  ∃ response : Response, decode text = .ok response ∧ response.id = id ∧ response.ok = succeeds

/-- Lines that answer to lines one after another, with what the package manager itself does in between. -/
inductive Written (overflow : Overflow) (runner : Runner ω) : Backend ω → List Bytes → List String → Prop where
  | nothing {backend : Backend ω} : Written overflow runner backend [] []
  | request {backend : Backend ω} {line : Bytes} {request : Request} {text : String} {lines : List Bytes} {texts : List String}
      (asks : requestOf? line = some request)
      (tells : Tells text request.id (backend.perform overflow runner request.method).1.succeeds)
      (others : Written overflow runner (backend.perform overflow runner request.method).2 lines texts) :
      Written overflow runner backend (line :: lines) (text :: texts)
  | invalid {backend : Backend ω} {line : Bytes} {text : String} {lines : List Bytes} {texts : List String}
      (nothing : requestOf? line = none) (tells : Tells text 0 false) (others : Written overflow runner backend lines texts) :
      Written overflow runner backend (line :: lines) (text :: texts)

section
variable {line : Bytes} {backend next : Backend ω} {response : Response}

theorem id_lt_of_requestOf? {request : Request} (asks : requestOf? line = some request) : request.id < UInt64.size := by
  obtain ⟨text,-,read⟩ := Option.bind_eq_some_iff.mp asks
  cases decoded : Request.decode text with
  | error fault => simp [decoded,Except.toOption] at read
  | ok found =>
    obtain rfl : found = request := by simpa [decoded,Except.toOption] using read
    exact Request.id_lt_of_decode decoded

theorem tells_responseTo [Codec α] {id : Nat} {outcome : Outcome α} (small : id < UInt64.size)
    (carried : ∀ value : α, Carried 126 value) (told : responseTo id outcome = .done response) :
    Tells (encode response) id outcome.succeeds ∧ FillsLine (encode response) := by
  cases outcome with
  | done value =>
    obtain rfl : Response.success id value = response := Ending.done.inj told
    have plain : ∀ doc ∈ (Response.success id value).result, doc.Plain 126 := Response.plain_success (carried value)
    exact ⟨⟨_,Response.decode_success small (carried value),rfl,rfl⟩,Response.fillsLine _ small plain⟩
  | failed failure =>
    obtain rfl : Response.failure id failure.line = response := Ending.done.inj told
    exact ⟨⟨_,Response.decode_failure small _,rfl,rfl⟩,Response.fillsLine _ small (by simp [Response.failure])⟩
  | panicked text => cases told

theorem Responds.fillsLine (responds : Responds overflow runner line backend response next) : FillsLine (encode response) := by
  cases responds with
  | request asks tells => exact (tells_responseTo (id_lt_of_requestOf? asks) Method.carried tells).2
  | invalid message _ => exact Response.fillsLine _ (Nat.zero_lt_succ _) (by simp [Response.failure])

theorem Responds.written {lines : List Bytes} {texts : List String}
    (responds : Responds overflow runner line backend response next) (others : Written overflow runner next lines texts) :
    Written overflow runner backend (line :: lines) (encode response :: texts) := by
  cases responds with
  | request asks tells => exact .request asks (tells_responseTo (id_lt_of_requestOf? asks) Method.carried tells).1 others
  | invalid message nothing =>
    have tells : Tells (encode (Response.failure 0 message)) 0 false :=
      ⟨_,Response.decode_failure (Nat.zero_lt_succ _) message,rfl,rfl⟩
    exact .invalid nothing tells others

end

section
variable {line : Bytes} {lines : List Bytes}

theorem due_blank (blank : isBlankLine line = true) : due (line :: lines) = due lines := by
  rw [due,List.filter_cons_of_neg (by simp [blank]),due]

theorem due_last (filled : isBlankLine line = false) (last : shutsDown line = true) : due (line :: lines) = [line] := by
  rw [due,List.filter_cons_of_pos (by simp [filled]),through,if_pos last]

theorem due_next (filled : isBlankLine line = false) (more : shutsDown line = false) :
    due (line :: lines) = line :: due lines := by
  rw [due,List.filter_cons_of_pos (by simp [filled]),through,if_neg (by simp [more]),due]

theorem due_illegible (unread : isLegible line = false) : due (line :: lines) = line :: due lines := by
  have none_decoded : ofUtf8? line = none := by simpa [isLegible] using unread
  exact due_next (by simp [isBlankLine,none_decoded]) (by simp [shutsDown,requestOf?,none_decoded])

/-- Until something goes wrong each line that is due is answered. -/
theorem serveLines_written (holds : sink.Holds) {served : Served ω} (counted : served.ending = .done served.lines.length)
    (calm : ∀ text, (serveLines build overflow runner sink lines served).ending ≠ .panicked text) :
    ∃ texts, (serveLines build overflow runner sink lines served).lines = served.lines ++ texts ∧
      Written overflow runner served.backend ((due lines).takeWhile isLegible) texts ∧
      (serveLines build overflow runner sink lines served).ending =
        if (due lines).all isLegible then .done (served.lines ++ texts).length else .failed (readFailure build) := by
  -- On the lines, from any state whose count is that of what it wrote; a line that is answered adds one to both.
  induction lines generalizing served with
  | nil => exact ⟨[],(List.append_nil _).symm,.nothing,by simpa [serveLines,due,through] using counted⟩
  | cons line rest ih =>
    have reacts := @reacts_step _ build overflow runner _ holds line served
    rw [serveLines] at calm ⊢
    generalize served.step build overflow runner sink line = result at calm reacts ⊢
    cases reacts with
    | illegible unread =>
      rw [due_illegible unread]
      exact ⟨[],(List.append_nil _).symm,by simpa [unread] using .nothing,by simp [unread]⟩
    | blank blank =>
      rw [due_blank blank]
      exact ih counted calm
    | panicked _ _ _ _ => exact absurd rfl (calm _)
    | @last response backend legible filled responds last =>
      rw [due_last filled last]
      exact ⟨[encode response],rfl,by simpa [legible] using responds.written .nothing,by simp [legible,Served.add]⟩
    | @next response backend legible filled responds more =>
      obtain ⟨texts,same,written,ending⟩ := ih (by simp [Served.add]) calm
      rw [due_next filled more]
      refine ⟨encode response :: texts,?_,?_,?_⟩
      · rw [same]
        exact (List.append_cons ..).symm
      · rw [List.takeWhile_cons_of_pos legible]
        exact responds.written written
      · rw [ending]
        simp [legible,Served.add]

theorem serveLines_fills (holds : sink.Holds) {served : Served ω} (fill : ∀ text ∈ served.lines, FillsLine text) :
    ∀ text ∈ (serveLines build overflow runner sink lines served).lines, FillsLine text := by
  induction lines generalizing served with
  | nil => exact fill
  | cons line rest ih =>
    have reacts := @reacts_step _ build overflow runner _ holds line served
    have added {response : Response} {backend : Backend ω}
        (responds : Responds overflow runner line served.backend response backend) :
        ∀ text ∈ (served.add response backend).lines, FillsLine text := by
      simp only [Served.add,List.forall_mem_append,List.forall_mem_singleton]
      exact ⟨fill,responds.fillsLine⟩
    rw [serveLines]
    generalize served.step build overflow runner sink line = result at reacts ⊢
    cases reacts with
    | illegible _ => exact fill
    | blank _ => exact ih fill
    | panicked _ _ _ _ => exact fill
    | last _ _ responds _ => exact added responds
    | next _ _ responds _ => exact ih (added responds)

theorem not_shutsDown_of_blank (blank : isBlankLine line = true) : shutsDown line = false := by
  have no_request : requestOf? line = none := by
    cases decoded : ofUtf8? line with
    | none => simp [requestOf?,decoded]
    | some text =>
      have blanks : ∀ c ∈ text.toList, isBlank c = true := by simpa [isBlankLine,decoded,isBlankText] using blank
      cases read : Request.decode text with
      | error fault => simp [requestOf?,decoded,read,Except.toOption]
      | ok request =>
        -- A request is an object, and the brace that opens it is no white space.
        exact absurd (blanks _ (Request.brace_mem_of_decode read)) (by decide)
  simp [shutsDown,no_request]

theorem step_goes_on (holds : sink.Holds) {served next : Served ω}
    (stepped : served.step build overflow runner sink line = .ok next) :
    shutsDown line = false ∧ next.isOver = served.isOver := by
  have reacts := @reacts_step _ build overflow runner _ holds line served
  rw [stepped] at reacts
  cases reacts with
  | blank blank => exact ⟨not_shutsDown_of_blank blank,rfl⟩
  | next _ _ _ more => exact ⟨more,rfl⟩

/-- Nothing is looked at when serving is over. -/
theorem serveLines_append (holds : sink.Holds) (front rest : List Bytes) {served : Served ω} (begins : served.isOver = false) :
    serveLines build overflow runner sink (front ++ rest) served =
      if (serveLines build overflow runner sink front served).isOver then serveLines build overflow runner sink front served
      else serveLines build overflow runner sink rest (serveLines build overflow runner sink front served) := by
  induction front generalizing served with
  | nil => simp [serveLines,begins]
  | cons line front ih =>
    rw [List.cons_append,serveLines,serveLines]
    cases stepped : served.step build overflow runner sink line with
    | error last => rfl
    | ok next => exact ih ((step_goes_on holds stepped).2.trans begins)

theorem isOver_of_shutsDown (holds : sink.Holds) {served : Served ω} (shuts : ∃ line ∈ lines, shutsDown line = true) :
    (serveLines build overflow runner sink lines served).isOver = true := by
  obtain ⟨line,member,shuts⟩ := shuts
  induction lines generalizing served with
  | nil => cases member
  | cons first rest ih =>
    rw [serveLines]
    cases stepped : served.step build overflow runner sink first with
    | error last => rfl
    | ok next =>
      rcases List.mem_cons.mp member with rfl | later
      · have more := (step_goes_on holds stepped).1
        rw [shuts] at more
        cases more
      · exact ih later

end

def Served.output (served : Served ω) : Bytes := served.lines.flatMap fun text => utf8 (text ++ "\n")

theorem serve_append (holds : sink.Holds) {front rest : Bytes} {backend : Backend ω}
    (shuts : ∃ line ∈ byteLines (front ++ [0x0A]), shutsDown line = true) :
    serve build overflow runner sink (front ++ 0x0A :: rest) backend =
      serve build overflow runner sink (front ++ [0x0A]) backend := by
  have ended : (serve build overflow runner sink (front ++ [0x0A]) backend).isOver = true := isOver_of_shutsDown holds shuts
  rw [serve,byteLines_append,serveLines_append holds _ _ rfl]
  exact if_pos ended

/-- What serving the lines that are due comes to. -/
structure Serves (build : Build) (overflow : Overflow) (runner : Runner ω) (backend : Backend ω) (lines : List Bytes)
    (served : Served ω) : Prop where
  written : Written overflow runner backend (lines.takeWhile isLegible) served.lines
  framed : parts (· == 0x0A) served.output = served.lines.map utf8 ++ [[]]
  finished : (∀ line ∈ lines, isLegible line = true) → served.ending = .done lines.length ∧ served.lines.length = lines.length
  stopped : (∃ line ∈ lines, isLegible line = false) →
    served.ending = .failed (readFailure build) ∧ (readFailure build).code = "helper_read_failed"

theorem Written.length_eq {backend : Backend ω} {lines : List Bytes} {texts : List String}
    (written : Written overflow runner backend lines texts) : texts.length = lines.length := by
  induction written with
  | nothing => rfl
  | request _ _ _ ih => exact congrArg (· + 1) ih
  | invalid _ _ _ ih => exact congrArg (· + 1) ih

theorem Served.output_parts {served : Served ω} (fill : ∀ text ∈ served.lines, FillsLine text) :
    parts (· == 0x0A) served.output = served.lines.map utf8 ++ [[]] := by
  have output : served.output = (served.lines.map utf8).flatMap (· ++ [0x0A]) := by
    simp only [Served.output,utf8_line,List.flatMap_map]
  rw [output]
  refine parts_flatMap (by decide) fun piece member byte inside => ?_
  obtain ⟨text,written,rfl⟩ := List.mem_map.mp member
  rw [beq_eq_false_iff_ne]
  rintro rfl
  exact (fill text written).feed_not_mem_utf8 inside

theorem serve_answers (holds : sink.Holds) (input : Bytes) (backend : Backend ω)
    (calm : ∀ text, (serve build overflow runner sink input backend).ending ≠ .panicked text) :
    Serves build overflow runner backend (due (byteLines input)) (serve build overflow runner sink input backend) ∧
    ∀ front rest other, input = front ++ 0x0A :: rest → (∃ line ∈ byteLines (front ++ [0x0A]), shutsDown line = true) →
      serve build overflow runner sink (front ++ 0x0A :: other) backend = serve build overflow runner sink input backend := by
  constructor
  · have fill : ∀ text ∈ (serve build overflow runner sink input backend).lines, FillsLine text := serveLines_fills holds (by simp)
    obtain ⟨texts,same,written,ending⟩ := serveLines_written holds rfl calm
    obtain rfl : (serve build overflow runner sink input backend).lines = texts := same
    refine ⟨written,Served.output_parts fill,fun legible => ?_,fun ⟨line,member,unread⟩ => ?_⟩
    · have all : (due (byteLines input)).all isLegible = true := List.all_eq_true.mpr legible
      have length := written.length_eq
      rw [List.takeWhile_eq_self_iff.mpr legible] at length
      rw [if_pos all,List.nil_append,length] at ending
      exact ⟨ending,length⟩
    · have some_unread : ¬(due (byteLines input)).all isLegible = true := fun all => by
        have legible := List.all_eq_true.mp all line member
        rw [unread] at legible
        cases legible
      exact ⟨ending.trans (if_neg some_unread),rfl⟩
  · rintro front rest other rfl shuts
    exact (serve_append holds shuts).trans (serve_append holds shuts).symm

def requestLines (requests : List Request) : Bytes := requests.flatMap fun request => utf8 (request.encode ++ "\n")

theorem byteLines_requestLines {requests : List Request} (small : ∀ request ∈ requests, request.id < UInt64.size) :
    byteLines (requestLines requests) = requests.map fun request => utf8 request.encode := by
  have fill : ∀ text ∈ requests.map Request.encode, FillsLine text := by
    intro text member
    obtain ⟨request,inside,rfl⟩ := List.mem_map.mp member
    exact request.fillsLine (small request inside)
  have lines := FillsLine.byteLines_flatMap fill
  rw [List.flatMap_map,List.map_map] at lines
  exact lines

/-- Every command fails. -/
def mute : Runner Unit := fun _ world => (.error (.new "absent" "nobody is there"), world)

def farewell : List Request := [⟨1, .hello⟩, ⟨2, .listPackages 0⟩, ⟨3, .shutdown⟩]

theorem serve_answers_farewell :
    Sink.Holds {} ∧ (∀ text, (serve .debug .panics mute {} (requestLines farewell) ⟨(), none⟩).ending ≠ .panicked text) ∧
      Serves .debug .panics mute ⟨(), none⟩ (due (byteLines (requestLines farewell)))
        (serve .debug .panics mute {} (requestLines farewell) ⟨(), none⟩) := by
  have holds : Sink.Holds {} := fun _ => ⟨rfl,rfl⟩
  have small : ∀ request ∈ farewell, request.id < UInt64.size := by decide
  have calm : ∀ text, (serve .debug .panics mute {} (requestLines farewell) ⟨(),none⟩).ending ≠ .panicked text := by
    have first := @Served.step_encoded _ .debug .panics mute _ holds _ (small ⟨1,.hello⟩ (by decide))
    have second := @Served.step_encoded _ .debug .panics mute _ holds _ (small ⟨2,.listPackages 0⟩ (by decide))
    have third := @Served.step_encoded _ .debug .panics mute _ holds _ (small ⟨3,.shutdown⟩ (by decide))
    rw [serve,byteLines_requestLines small]
    simp only [farewell,List.map,serveLines,first,second,third]
    intro text panicked
    cases panicked
  exact ⟨holds,calm,(serve_answers holds _ _ calm).1⟩

end Helper
end AppGrants
