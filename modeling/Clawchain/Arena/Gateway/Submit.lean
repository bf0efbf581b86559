import Clawchain.Arena.Table.ExactlyOnce

/-! The submit gateway. A request is answered from memory, replayed from the
durable ledger and its action record, or handed to its table's actor, after
which the observer takes the table on. -/
namespace Clawchain.Arena.Submit
open Clawchain.Lib Clawchain.Arena.Table

structure SubmitRequest where
  (requestID tournamentID tableID minerID : String)
  sessionID : String := ""
  seatNo : Int
  actionType : String
  amount : Int := 0
  expectedStateSeq : Int
  signature : String
  deriving DecidableEq, Repr

structure SubmitResponse where
  resultEventID : String
  stateSeq : Int
  deriving DecidableEq, Repr

inductive SubmitError where
  | invalidSignature
  | stateSeqMismatch
  | unknownTable
  | badRequest
  | requestPayloadConflict
  | handle (error : HandleError)
  | store (error : StoreError)
  | observer
  deriving DecidableEq, Repr

structure SubmissionPayload where
  (tournamentID tableID minerID : String)
  seatNo : Int
  actionType : String
  (amount expectedStateSeq : Int)
  deriving DecidableEq, Repr

def SubmitRequest.payload (req : SubmitRequest) : SubmissionPayload :=
  ⟨req.tournamentID,req.tableID,req.minerID,req.seatNo,req.actionType,req.amount,req.expectedStateSeq⟩

structure Step where
  (tableID requestID : String)
  command : Command
  (fromSeq toSeq : Int)
  (before after : State)
  deriving DecidableEq

structure Gateway where
  actors : OrdMap String Actor := OrdMap.empty
  responses : OrdMap String SubmitResponse := OrdMap.empty
  ledger : OrdMap String SubmitRequest := OrdMap.empty
  deriving DecidableEq

/-- The gateway, the store around it, and the steps its actors have made. -/
structure System where
  gateway : Gateway := {}
  world : World := {}
  steps : List Step := []
  deriving DecidableEq

abbrev SystemM := Faulty System SubmitError

def validSignature (minerID signature : String) : Bool := signature == "sig:" ++ minerID

def actionTypeNamed (name : String) : ActionType :=
  if name = "signal_none" then .signalNone
  else if name = "pass_probe" then .passProbe
  else if name = "check" then .check
  else if name = "call" then .call
  else if name = "fold" then .fold
  else if name = "raise" then .raise
  else if name = "all_in" then .allIn
  else if name = "auto_check" then .autoCheck
  else if name = "auto_fold" then .autoFold
  else .other name

def SubmissionPayload.command? (payload : SubmissionPayload) : Option Command :=
  let actionType := Format.trimSpace payload.actionType
  if actionType = "" then none
  else some (.submitArenaAction ⟨payload.seatNo,actionTypeNamed actionType,payload.amount⟩)

def toCommand (req : SubmitRequest) : Option Command := req.payload.command?

def seatIDForRequest (req : SubmitRequest) : String :=
  if req.seatNo ≤ 0 then "system:" ++ req.tableID else seatID req.tableID req.seatNo

def System.actor? (system : System) (tableID : String) : Option Actor := system.gateway.actors.get? tableID

def System.setActor (system : System) (tableID : String) (actor : Actor) (world : World) : System :=
  { system with
    gateway := { system.gateway with actors := system.gateway.actors.insert tableID actor }
    world := world }

def System.handle (system : System) (tableID : String) (actor : Actor) (envelope : CommandEnvelope) :
    Except HandleError Result × System :=
  let (result,after,world) := actor.handle envelope system.world
  let moved := system.setActor tableID after world
  if after.state.stateSeq = actor.state.stateSeq then (result,moved)
  else (result,{ moved with steps := system.steps ++ [⟨tableID,envelope.requestID,envelope.command,
    actor.state.stateSeq,after.state.stateSeq,actor.state.table,after.state.table⟩] })

/-- What the observer, or the runtime on its own, may do to the actors. -/
inductive HookCall where
  | openPhase (tableID : String) (phase : PhaseDefinition)
  | handle (tableID : String) (envelope : CommandEnvelope)
  | registerActor (tableID : String) (state : ActorState) (streamSeq : Int)
  | removeActor (tableID : String)
  | fail

def openPhaseOn (tableID : String) (phase : PhaseDefinition) : SystemM Unit := fun system =>
  match system.actor? tableID with
  | none => (.ok (),system)
  | some actor =>
    let (result,after,world) := actor.openPhase phase system.world
    (result.mapError .store,system.setActor tableID after world)

def handleOn (tableID : String) (envelope : CommandEnvelope) : SystemM Unit := fun system =>
  match system.actor? tableID with
  | none => (.ok (),system)
  | some actor =>
    let (result,after) := system.handle tableID actor envelope
    ((result.map fun _ => ()).mapError .handle,after)

def hookCall : HookCall → SystemM Unit
  | .openPhase tableID phase => openPhaseOn tableID phase
  | .handle tableID envelope => handleOn tableID envelope
  | .registerActor tableID state streamSeq =>
    Faulty.modify fun system => system.setActor tableID (newRecoveredActor state streamSeq) system.world
  | .removeActor tableID => Faulty.modify fun system =>
    { system with gateway := { system.gateway with actors := system.gateway.actors.erase tableID } }
  | .fail => Faulty.fail .observer

def hookCalls : List HookCall → SystemM Unit
  | [] => pure ()
  | call :: rest => do
    hookCall call
    hookCalls rest

section Submit
variable (digest : SubmissionPayload → String)

def submissionPayloadHash (req : SubmitRequest) : String := digest req.payload

def storeCall {α : Type} (call : StoreM α) : SystemM α := fun system =>
  let (result,world) := call system.world
  (result.mapError fun
    | .payloadConflict _ => .requestPayloadConflict
    | e => .store e,{ system with world := world })

def recordSubmission (req : SubmitRequest) (status : SubmissionStatus) : SystemM Unit :=
  storeCall (appendSubmissionLedgerEntries [{
    requestID := req.requestID
    tournamentID := req.tournamentID
    tableID := req.tableID
    seatID := seatIDForRequest req
    minerID := req.minerID
    expectedStateSeq := req.expectedStateSeq
    validationStatus := status
    payloadHash := submissionPayloadHash digest req }])

def handleRequest (req : SubmitRequest) (command : Command) (actor : Actor) : SystemM SubmitResponse := fun system =>
  let (result,after) := system.handle req.tableID actor ⟨req.requestID,req.expectedStateSeq,command⟩
  ((result.mapError fun
    | .stateSeqMismatch => .stateSeqMismatch
    | e => .handle e).map fun result => ⟨result.resultEventID,result.stateSeq⟩,after)

def settleRequest (hook : Option (List HookCall)) (req : SubmitRequest) (response : SubmitResponse) :
    SystemM SubmitResponse := do
  recordSubmission digest req .committed
  hookCalls (hook.getD [])
  recordSubmission digest req .applied
  return response

def commitRequest (hook : Option (List HookCall)) (req : SubmitRequest) (command : Command) (actor : Actor) :
    SystemM SubmitResponse := do
  let response ← handleRequest req command actor
  settleRequest digest hook req response

def finalizeDurableReplay (hook : Option (List HookCall)) (req : SubmitRequest) : SystemM Unit := fun system =>
  match hook,system.actor? req.tableID with
  | some calls,some _ => (hookCalls calls >>= fun _ => recordSubmission digest req .applied) system
  | none,_ => recordSubmission digest req .applied system
  | some _,none => (.ok (),system)

def replayRequest (hook : Option (List HookCall)) (req : SubmitRequest) (action : ActionRecord) :
    SystemM SubmitResponse := do
  finalizeDurableReplay digest hook req
  return ⟨action.resultEventID,action.acceptedStateSeq⟩

/-- How a request is to be answered: the decision taken before memory is cached. -/
inductive Plan where
  | replay (action : ActionRecord)
  | commit (command : Command) (actor : Actor)

def loadRecorded (req : SubmitRequest) : SystemM (Option ActionRecord) := do
  let entry ← storeCall (loadSubmissionLedgerEntry req.requestID)
  match entry with
  | none => return none
  | some entry =>
    if entry.payloadHash ≠ submissionPayloadHash digest req then Faulty.fail .requestPayloadConflict
    else storeCall (loadActionRecord req.requestID)

def planSubmit (req : SubmitRequest) (actor : Option Actor) : SystemM Plan :=
  match toCommand req with
  | none => Faulty.fail .badRequest
  | some command => do
    let action ← loadRecorded digest req
    match action,actor with
    | some action,_ => return .replay action
    | none,none => Faulty.fail .unknownTable
    | none,some actor => do
      recordSubmission digest req .received
      return .commit command actor

def cacheRequest (system : System) (req : SubmitRequest) : System :=
  { system with gateway := { system.gateway with ledger := system.gateway.ledger.insert req.requestID req } }

def cacheResponse (system : System) (req : SubmitRequest) (response : SubmitResponse) : System :=
  { system with gateway := { system.gateway with responses := system.gateway.responses.insert req.requestID response } }

def carryOut (hook : Option (List HookCall)) (req : SubmitRequest) : Plan → SystemM SubmitResponse
  | .replay action => replayRequest digest hook req action
  | .commit command actor => commitRequest digest hook req command actor

def remember (req : SubmitRequest) : Except SubmitError SubmitResponse × System →
    Except SubmitError SubmitResponse × System
  | (.error e,after) => (.error e,cacheRequest after req)
  | (.ok response,after) => (.ok response,cacheResponse (cacheRequest after req) req response)

def submitOwned (hook : Option (List HookCall)) (req : SubmitRequest) (actor : Option Actor) (system : System) :
    Except SubmitError SubmitResponse × System :=
  match planSubmit digest req actor system with
  | (.error e,planned) => (.error e,planned)
  | (.ok plan,planned) => remember req (carryOut digest hook req plan planned)

def submit (hook : Option (List HookCall)) (req : SubmitRequest) (system : System) :
    Except SubmitError SubmitResponse × System :=
  if validSignature req.minerID req.signature = false then (.error .invalidSignature,system)
  else if ∃ existing, system.gateway.ledger.get? req.requestID = some existing ∧
      submissionPayloadHash digest existing ≠ submissionPayloadHash digest req then
    (.error .requestPayloadConflict,system)
  else match system.gateway.responses.get? req.requestID with
    | some response =>
      -- A cached response without an event id would be taken for a miss, with no actor looked up.
      if response.resultEventID ≠ "" then (.ok response,system) else submitOwned digest none req none system
    | none => submitOwned digest hook req (system.actor? req.tableID) system

end Submit

/-! The table of two, and a digest that is the joined payload itself. -/

def joined (payload : SubmissionPayload) : String :=
  "|".intercalate [payload.tournamentID,payload.tableID,payload.minerID,toString payload.seatNo,payload.actionType,
    toString payload.amount,toString payload.expectedStateSeq]

def signalRequest : SubmitRequest :=
  { requestID := "req:1", tournamentID := "tour:w1:01", tableID := "tbl:tour:w1:01:01", minerID := "miner:1"
    seatNo := 1, actionType := "signal_none", expectedStateSeq := 0, signature := "sig:miner:1" }

def signalSystem (outcomes : List Outcome) : System :=
  { gateway := { actors := OrdMap.empty.insert "tbl:tour:w1:01:01" signalActor }, world := { outcomes := outcomes } }

end Clawchain.Arena.Submit
