import AppGrants.Helper.Backend
import AppGrants.Service.Wire
import AppGrants.Text.Utf8

/-! Answering requests line by line until one asks to shut down. Every line that is not blank has one response. -/
namespace AppGrants.Helper

open Service Text

/-- The texts of the errors with which the n-th write or flush fails, if it does. -/
structure Sink where
  writeFault : Nat → Option String := fun _ => none
  flushFault : Nat → Option String := fun _ => none

/-- How serving ended, with the lines that were written; it is over when no further line would be answered. -/
structure Served (ω : Type) where
  ending : Outcome Nat
  lines : List String
  backend : Backend ω
  isOver : Bool := false

/-- Failures travel as one line of text. -/
def respond [Json.Codec α] (id : Nat) : Except Failure α → Response
  | .ok value => .success id value
  | .error failure => .failure id failure.line

/-- The response to a request, or the text of a panic. -/
def answer (overflow : Overflow) (runner : Runner ω) (request : Request) (backend : Backend ω) :
    Ending Empty Response × Backend ω :=
  match request.method with
  | .hello =>
    let (capabilities, backend) := backend.capabilities runner
    (.done (respond request.id (.ok (Hello.mk protocolVersion capabilities))), backend)
  | .listUserIds strategy =>
    let (result, backend) := backend.listUserIds runner strategy
    (.done (respond request.id result), backend)
  | .listPackages flags =>
    match backend.listPackages overflow runner flags with
    | (.done packages, backend) => (.done (respond request.id (.ok packages)), backend)
    | (.failed failure, backend) => (.done (.failure request.id failure.line), backend)
    | (.panicked text, backend) => (.panicked text, backend)
  | .shutdown => (.done (respond request.id (.ok ())), backend)

/-- The response to a line, and whether it was the last one to be answered. -/
def answerLine (overflow : Overflow) (runner : Runner ω) (line : String) (backend : Backend ω) :
    Ending Empty (Response × Bool) × Backend ω :=
  match Request.decode line with
  | .error fault => (.done (.failure 0 ("invalid request: " ++ fault.message), false), backend)
  | .ok request =>
    let (ending, backend) := answer overflow runner request backend
    (ending.map ((·, request.method == .shutdown)), backend)

def readFailure (build : Build) : Failure :=
  (Failure.ofRaised build (.ofText "stream did not contain valid UTF-8")).withCode "helper_read_failed"
    "failed to read helper request"

def writeFailure (build : Build) (text : String) : Failure :=
  (Failure.ofRaised build (.ofText text)).withCode "helper_write_failed" "failed to write helper response"

def flushFailure (build : Build) (text : String) : Failure :=
  (Failure.ofRaised build (.ofText text)).withCode "helper_write_failed" "failed to flush helper response"

namespace Served

def write (build : Build) (sink : Sink) (response : Response) (served : Served ω) : Except (Served ω) (Served ω) :=
  let number := served.lines.length
  match sink.writeFault number with
  | some text => .error { served with ending := .failed (writeFailure build text) }
  | none =>
    let written := { served with lines := served.lines ++ [Json.encode response] }
    match sink.flushFault number with
    | some text => .error { written with ending := .failed (flushFailure build text) }
    | none => .ok written

def step (build : Build) (overflow : Overflow) (runner : Runner ω) (sink : Sink) (line : Bytes) (served : Served ω) :
    Except (Served ω) (Served ω) :=
  match ofUtf8? line with
  | none => .error { served with ending := .failed (readFailure build) }
  | some text =>
    if isBlankText text then .ok served
    else
      match answerLine overflow runner text served.backend with
      | (.panicked text, backend) => .error { served with ending := .panicked text, backend }
      | (.done (response, last), backend) => do
        let written ← write build sink response { served with backend, ending := .done (served.lines.length + 1) }
        if last then .error written else .ok written

end Served

def serveLines (build : Build) (overflow : Overflow) (runner : Runner ω) (sink : Sink) : List Bytes → Served ω → Served ω
  | [], served => served
  | line :: rest, served =>
    match served.step build overflow runner sink line with
    | .ok next => serveLines build overflow runner sink rest next
    | .error last => { last with isOver := true }

/-- The number of the requests that were answered, unless something went wrong. -/
def serve (build : Build) (overflow : Overflow) (runner : Runner ω) (sink : Sink) (input : Bytes) (backend : Backend ω) :
    Served ω :=
  serveLines build overflow runner sink (byteLines input) ⟨.done 0, [], backend, false⟩

end AppGrants.Helper
