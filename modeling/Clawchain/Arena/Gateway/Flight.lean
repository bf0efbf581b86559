import Clawchain.Arena.Gateway.Submit
import Mathlib.Logic.Function.Basic
import Mathlib.Logic.Relation

/-! Submit calls side by side. One call owns a request at a time, the others
wait for it; between any two steps of a call the other calls, the runtime and
the clock may come. -/
namespace Clawchain.Arena.Submit
open Clawchain.Lib Clawchain.Arena.Table

structure InFlightRequest where
  payloadHash : String
  done : Nat
  deriving DecidableEq, Repr

inductive Stage where
  | loadEntry
  | loadAction (command : Command)
  | record (command : Command)
  | handle (command : Command) (actor : Nat)
  | commit (response : SubmitResponse)
  | observe (response : SubmitResponse)
  | apply (response : SubmitResponse)
  | replay (response : SubmitResponse)
  | reapply (response : SubmitResponse)
  | finish (result : Except SubmitError SubmitResponse) (cacheRequest : Bool)
  deriving DecidableEq

structure Owner where
  stage : Stage
  actor : Option Nat
  observer : Bool
  deriving DecidableEq

inductive CallEnd where
  | answered (response : SubmitResponse)
  | failed (error : SubmitError)
  | cancelled
  deriving DecidableEq

inductive CallState where
  | calling
  | waiting (done : Nat)
  | owning (owner : Owner)
  | ended (how : CallEnd)
  deriving DecidableEq

/-- The gateway with the objects behind it and the calls it serves. An actor is known by its address; `changes`,
the requests whose `Handle` moved a table, is kept for reasoning only. -/
structure Flight (ι : Type) where
  actors : OrdMap String Nat := OrdMap.empty
  objects : Nat → Actor := fun _ => newActor {}
  allocated : Nat := 0
  observer : Bool := false
  responses : OrdMap String SubmitResponse := OrdMap.empty
  ledger : OrdMap String SubmitRequest := OrdMap.empty
  inFlight : OrdMap String InFlightRequest := OrdMap.empty
  channels : Nat := 0
  closed : List Nat := []
  world : World := {}
  changes : List String := []
  calls : ι → CallState := fun _ => .calling

/-- What the runtime, the deadline scanner and the clock do in between. -/
inductive RuntimeCall where
  | handle (actor : Nat) (envelope : CommandEnvelope)
  | openPhase (actor : Nat) (phase : PhaseDefinition)
  | registerActor (tableID : String) (state : ActorState) (streamSeq : Int)
  | removeActor (tableID : String)
  | setObserver (present : Bool)
  | tick (now : Int)

section Flight
variable {ι : Type} [DecidableEq ι]

def Flight.setCall (board : Flight ι) (caller : ι) (state : CallState) : Flight ι :=
  { board with calls := Function.update board.calls caller state }

def Flight.setObject (board : Flight ι) (actor : Nat) (object : Actor) (world : World) : Flight ι :=
  { board with objects := Function.update board.objects actor object, world := world }

def onWorld {α : Type} (call : SystemM α) (world : World) : Except SubmitError α × World :=
  let (result,system) := call { world := world }
  (result,system.world)

variable (digest : SubmissionPayload → String)

/-- The request takes off, or it is answered, refused or sent to wait; all of it under the gateway's lock. -/
def Flight.beginSubmit (board : Flight ι) (caller : ι) (req : SubmitRequest) : Flight ι :=
  if validSignature req.minerID req.signature = false then board.setCall caller (.ended (.failed .invalidSignature))
  else if ∃ existing, board.ledger.get? req.requestID = some existing ∧
      submissionPayloadHash digest existing ≠ submissionPayloadHash digest req then
    board.setCall caller (.ended (.failed .requestPayloadConflict))
  else match board.responses.get? req.requestID with
    | some response =>
      if response.resultEventID ≠ "" then board.setCall caller (.ended (.answered response))
      else board.setCall caller (.owning ⟨.loadEntry,none,false⟩)
    | none => match board.inFlight.get? req.requestID with
      | some flying =>
        if flying.payloadHash ≠ submissionPayloadHash digest req then
          board.setCall caller (.ended (.failed .requestPayloadConflict))
        else board.setCall caller (.waiting flying.done)
      | none =>
        { board with
          inFlight := board.inFlight.insert req.requestID ⟨submissionPayloadHash digest req,board.channels⟩
          channels := board.channels + 1 }.setCall caller
            (.owning ⟨.loadEntry,board.actors.get? req.tableID,board.observer⟩)

def Flight.finishSubmit (board : Flight ι) (req : SubmitRequest) (result : Except SubmitError SubmitResponse)
    (cacheRequest : Bool) : Flight ι :=
  { board with
    ledger := if cacheRequest then board.ledger.insert req.requestID req else board.ledger
    responses := match result with
      | .ok response => board.responses.insert req.requestID response
      | .error _ => board.responses
    closed := match board.inFlight.get? req.requestID with
      | some flying => flying.done :: board.closed
      | none => board.closed
    inFlight := board.inFlight.erase req.requestID }

def endOf : Except SubmitError SubmitResponse → CallEnd
  | .ok response => .answered response
  | .error e => .failed e

def Flight.afterCall {α : Type} (board : Flight ι) (outcome : Except SubmitError α × World) (cacheRequest : Bool)
    (next : α → Stage) : Flight ι × Stage :=
  ({ board with world := outcome.2 },match outcome.1 with
    | .ok a => next a
    | .error e => .finish (.error e) cacheRequest)

def Flight.handleRequest (board : Flight ι) (req : SubmitRequest) (command : Command) (actor : Nat) :
    Flight ι × Stage :=
  let (result,after,world) := (board.objects actor).handle ⟨req.requestID,req.expectedStateSeq,command⟩ board.world
  let moved := board.setObject actor after world
  (if after.state.stateSeq = (board.objects actor).state.stateSeq then moved
    else { moved with changes := board.changes ++ [req.requestID] },
    match result with
    | .ok result => .commit ⟨result.resultEventID,result.stateSeq⟩
    | .error .stateSeqMismatch => .finish (.error .stateSeqMismatch) true
    | .error e => .finish (.error (.handle e)) true)

/-- One stage of an owner; `observed` tells how its observer fares. -/
def Flight.stage (board : Flight ι) (req : SubmitRequest) (owner : Owner) (observed : Bool) : Flight ι × Stage :=
  let record (status : SubmissionStatus) (cacheRequest : Bool) (next : Stage) : Flight ι × Stage :=
    board.afterCall (onWorld (recordSubmission digest req status) board.world) cacheRequest fun _ => next
  match owner.stage with
  | .loadEntry => match toCommand req with
    | none => (board,.finish (.error .badRequest) false)
    | some command =>
      board.afterCall (onWorld (storeCall (loadSubmissionLedgerEntry req.requestID)) board.world) false fun
        | none => .record command
        | some entry =>
          if entry.payloadHash ≠ submissionPayloadHash digest req then .finish (.error .requestPayloadConflict) false
          else .loadAction command
  | .loadAction command =>
    board.afterCall (onWorld (storeCall (loadActionRecord req.requestID)) board.world) false fun
      | none => .record command
      | some action => .replay ⟨action.resultEventID,action.acceptedStateSeq⟩
  | .record command => match owner.actor with
    | none => (board,.finish (.error .unknownTable) false)
    | some actor => record .received false (.handle command actor)
  | .handle command actor => board.handleRequest req command actor
  | .commit response => record .committed true (.observe response)
  | .observe response =>
    (board,if owner.observer && !observed then .finish (.error .observer) true else .apply response)
  | .apply response => record .applied true (.finish (.ok response) true)
  | .replay response => (board,match owner.observer,owner.actor with
    | true,some _ => if observed then .reapply response else .finish (.error .observer) true
    | true,none => .finish (.ok response) true
    | false,_ => .reapply response)
  | .reapply response => record .applied true (.finish (.ok response) true)
  | .finish result cacheRequest => (board,.finish result cacheRequest)

def Flight.proceed (board : Flight ι) (caller : ι) (req : SubmitRequest) (owner : Owner) (observed : Bool) : Flight ι :=
  match owner.stage with
  | .finish result cacheRequest => (board.finishSubmit req result cacheRequest).setCall caller (.ended (endOf result))
  | _ =>
    let (after,stage) := board.stage digest req owner observed
    after.setCall caller (.owning { owner with stage := stage })

def Flight.runtime (board : Flight ι) : RuntimeCall → Flight ι
  | .handle actor envelope =>
    let (_,after,world) := (board.objects actor).handle envelope board.world
    board.setObject actor after world
  | .openPhase actor phase =>
    let (_,after,world) := (board.objects actor).openPhase phase board.world
    board.setObject actor after world
  | .registerActor tableID state streamSeq =>
    { board.setObject board.allocated (newRecoveredActor state streamSeq) board.world with
      actors := board.actors.insert tableID board.allocated
      allocated := board.allocated + 1 }
  | .removeActor tableID => { board with actors := board.actors.erase tableID }
  | .setObserver present => { board with observer := present }
  | .tick now => { board with world := { board.world with now := now } }

/-- One step of one call, or of the rest of the process. A waiting call goes on when its channel is closed, or gives up
when its context is done. -/
inductive FlightStep (request : ι → SubmitRequest) : Flight ι → Flight ι → Prop
  | begin (board : Flight ι) (caller : ι) (calling : board.calls caller = .calling) :
      FlightStep request board (board.beginSubmit digest caller (request caller))
  | wake (board : Flight ι) (caller : ι) (done : Nat) (waiting : board.calls caller = .waiting done)
      (closed : done ∈ board.closed) : FlightStep request board (board.setCall caller .calling)
  | cancel (board : Flight ι) (caller : ι) (done : Nat) (waiting : board.calls caller = .waiting done) :
      FlightStep request board (board.setCall caller (.ended .cancelled))
  | proceed (board : Flight ι) (caller : ι) (owner : Owner) (observed : Bool)
      (owning : board.calls caller = .owning owner) :
      FlightStep request board (board.proceed digest caller (request caller) owner observed)
  | runtime (board : Flight ι) (call : RuntimeCall) : FlightStep request board (board.runtime call)

end Flight

end Clawchain.Arena.Submit
