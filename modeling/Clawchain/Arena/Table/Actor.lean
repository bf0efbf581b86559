import Clawchain.Arena.Store
import Clawchain.Arena.Table.Engine

/-! The table actor: it numbers the accepted commands, remembers their results
by request id, and writes records, events and snapshots before it moves on. -/
namespace Clawchain.Arena.Table
open Clawchain.Lib

structure ActorState where
  tableID : String := ""
  tournamentID : String := ""
  handID : String := ""
  phaseID : String := ""
  stateSeq : Int := 0
  table : State := {}
  deriving DecidableEq

structure CommandEnvelope where
  requestID : String
  expectedStateSeq : Int
  command : Command
  deriving DecidableEq, Repr

structure Result where
  resultEventID : String
  stateSeq : Int
  deriving DecidableEq, Repr

structure PhaseDefinition where
  (id handID : String)
  type : Phase
  (actingSeat toCall : Int)
  deadlineAt : Option Int
  deriving DecidableEq, Repr

structure Actor where
  state : ActorState
  streamSeq : Int := 0
  results : OrdMap String Result := OrdMap.empty
  deriving DecidableEq

inductive HandleError where
  | stateSeqMismatch
  | rejected (error : ApplyError)
  | store (error : StoreError)
  deriving DecidableEq, Repr

def newActor (initial : ActorState) : Actor := { state := initial }

def newRecoveredActor (initial : ActorState) (streamSeq : Int) : Actor :=
  { newActor initial with streamSeq := streamSeq }

def recoveredState (snapshot : TableSnapshot) (deadline : Option ActionDeadline) : ActorState :=
  { tableID := snapshot.tableID
    tournamentID := snapshot.tournamentID
    handID := (deadline.map ActionDeadline.handID).getD ""
    phaseID := (deadline.map ActionDeadline.phaseID).getD ""
    stateSeq := snapshot.stateSeq
    table := snapshot.payload }

def Phase.name : Phase → String
  | .signal => "signal"
  | .probe => "probe"
  | .wager => "wager"
  | .other name => name

def ActionType.name : ActionType → String
  | .signalNone => "signal_none"
  | .passProbe => "pass_probe"
  | .check => "check"
  | .call => "call"
  | .fold => "fold"
  | .raise => "raise"
  | .allIn => "all_in"
  | .autoCheck => "auto_check"
  | .autoFold => "auto_fold"
  | .other name => name

def EventType.name : EventType → String
  | .actionApplied => "action_applied"
  | .timeoutApplied => "timeout_applied"
  | .handClosed => "hand_closed"

def eventID (streamKey : String) (streamSeq : Int) : String :=
  "evt:" ++ streamKey ++ ":" ++ Format.padInt 12 streamSeq

def seatID (tableID : String) (seatNo : Int) : String :=
  "seat:" ++ tableID ++ ":" ++ Format.padInt 2 seatNo

def ActorState.streamKey (state : ActorState) : String := "table:" ++ state.tableID

def eventIDForIndex (base : String) (idx : Nat) : String :=
  if idx = 0 then base else base ++ ":" ++ toString idx

def actionTypeOf : Command → String
  | .submitArenaAction cmd => cmd.actionType.name
  | .applyPhaseTimeout _ => "timeout"
  | .closeHand => "close_hand"
  | .startHand _ => "start_hand"
  | .unknown => ""

def seatNoOf : Command → Int
  | .submitArenaAction cmd => cmd.seatNo
  | .applyPhaseTimeout cmd => cmd.seatNo
  | _ => 0

def persistAction (state : ActorState) (envelope : CommandEnvelope) (event : String) (nextSeq : Int) :
    StoreM Unit := fun world =>
  appendActionRecords [{
    requestID := envelope.requestID
    tournamentID := state.tournamentID
    tableID := state.tableID
    handID := state.handID
    phaseID := state.phaseID
    seatID := if seatNoOf envelope.command > 0 then seatID state.tableID (seatNoOf envelope.command)
      else "system:" ++ state.tableID
    actionType := actionTypeOf envelope.command
    actionSeq := nextSeq
    expectedStateSeq := envelope.expectedStateSeq
    acceptedStateSeq := nextSeq
    resultEventID := event
    receivedAt := world.now }] world

def logEntries (state : ActorState) (event : String) (nextSeq baseStreamSeq : Int) (events : List Event)
    (now : Int) : List EventLogEntry :=
  events.zipIdx.map fun (entry,idx) => {
    eventID := eventIDForIndex event idx
    aggregateID := state.tableID
    streamKey := state.streamKey
    streamSeq := baseStreamSeq + idx
    tournamentID := state.tournamentID
    tableID := state.tableID
    handID := state.handID
    phaseID := state.phaseID
    eventType := entry.type.name
    stateSeq := nextSeq
    occurredAt := now
    payloadHash := "event-payload:" ++ event ++ ":" ++ toString idx
    payload := .event entry }

def persistEvents (state : ActorState) (event : String) (nextSeq baseStreamSeq : Int) (events : List Event) :
    StoreM Unit := fun world =>
  let entries := logEntries state event nextSeq baseStreamSeq events world.now
  if entries = [] then (.ok (),world) else appendEvents entries world

def resolvesDeadline : Command → Bool
  | .submitArenaAction _ => true
  | .applyPhaseTimeout _ => true
  | _ => false

def deadlineID (phaseID : String) : String := "ddl:" ++ phaseID

def closeDeadline (state : ActorState) (cmd : Command) (event : String) : StoreM Unit := fun world =>
  if resolvesDeadline cmd && state.phaseID != "" then
    upsertActionDeadline {
      deadlineID := deadlineID state.phaseID
      tournamentID := state.tournamentID
      tableID := state.tableID
      handID := state.handID
      phaseID := state.phaseID
      deadlineAt := world.now
      status := .closed
      resolvedByEventID := event
      createdAt := world.now
      updatedAt := world.now } world
  else (.ok (),world)

def snapshotHand (state : ActorState) (next : State) (nextSeq finalStreamSeq : Int) : StoreM Unit := fun world =>
  if next.handClosed then
    saveHandSnapshot {
      id := "handsnap:" ++ state.handID ++ ":" ++ toString nextSeq
      tournamentID := state.tournamentID
      tableID := state.tableID
      handID := state.handID
      streamKey := state.streamKey
      streamSeq := finalStreamSeq
      stateSeq := nextSeq
      payload := next
      createdAt := world.now } world
  else (.ok (),world)

def snapshotTable (state : ActorState) (table : State) (nextSeq streamSeq : Int) : StoreM Unit := fun world =>
  saveTableSnapshot {
    id := "tblsnap:" ++ state.tableID ++ ":" ++ toString nextSeq
    tournamentID := state.tournamentID
    tableID := state.tableID
    streamKey := state.streamKey
    streamSeq := streamSeq
    stateSeq := nextSeq
    payload := table
    createdAt := world.now } world

def persistDerivedState (state : ActorState) (cmd : Command) (next : State) (nextSeq : Int) (event : String)
    (finalStreamSeq : Int) : StoreM Unit := do
  closeDeadline state cmd event
  snapshotHand state next nextSeq finalStreamSeq
  if next.handClosed || state.phaseID != "" then snapshotTable state next nextSeq finalStreamSeq

def persist (actor : Actor) (envelope : CommandEnvelope) (next : State) (events : List Event) : StoreM Unit := do
  let baseStreamSeq := actor.streamSeq + 1
  let finalStreamSeq := if events.length > 0 then baseStreamSeq + events.length - 1 else actor.streamSeq
  let nextSeq := actor.state.stateSeq + 1
  let event := eventID actor.state.streamKey baseStreamSeq
  persistAction actor.state envelope event nextSeq
  persistEvents actor.state event nextSeq baseStreamSeq events
  persistDerivedState actor.state envelope.command next nextSeq event finalStreamSeq

def Actor.nextResult (actor : Actor) : Result :=
  ⟨eventID actor.state.streamKey (actor.streamSeq + 1),actor.state.stateSeq + 1⟩

def Actor.committed (actor : Actor) (requestID : String) (next : State) (events : List Event) : Actor :=
  { state := { actor.state with table := next, stateSeq := actor.state.stateSeq + 1 }
    streamSeq := actor.streamSeq + 1 + if events.length > 1 then (events.length - 1 : Int) else 0
    results := actor.results.insert requestID actor.nextResult }

def Actor.handle (actor : Actor) (envelope : CommandEnvelope) (world : World) :
    Except HandleError Result × Actor × World :=
  match actor.results.get? envelope.requestID with
  | some result => (.ok result,actor,world)
  | none =>
    if envelope.expectedStateSeq ≠ actor.state.stateSeq then (.error .stateSeqMismatch,actor,world)
    else match apply actor.state.table envelope.command with
      | .error e => (.error (.rejected e),actor,world)
      | .ok (next,events) =>
        match persist actor envelope next events world with
        | (.error e,world) => (.error (.store e),actor,world)
        | (.ok (),world) => (.ok actor.nextResult,actor.committed envelope.requestID next events,world)

def phaseStartFor (state : ActorState) (phase : PhaseDefinition) : Int :=
  if phase.type = state.table.currentPhase ∧ phase.handID = state.handID ∧ state.table.phaseStartSeatNo ≠ 0 then
    state.table.phaseStartSeatNo
  else phase.actingSeat

def openedTable (state : ActorState) (phase : PhaseDefinition) : State :=
  { state.table with
    currentPhase := phase.type
    phaseStartSeatNo := phaseStartFor state phase
    actingSeatNo := phase.actingSeat
    currentToCall := phase.toCall
    handClosed := false }

def openedState (state : ActorState) (phase : PhaseDefinition) : ActorState :=
  { state with
    phaseID := phase.id
    handID := if phase.handID ≠ "" then phase.handID else state.handID
    table := openedTable state phase }

def openDeadline (state : ActorState) (phase : PhaseDefinition) (event : String) : StoreM Unit := fun world =>
  match phase.deadlineAt with
  | none => (.ok (),world)
  | some deadlineAt => upsertActionDeadline {
      deadlineID := deadlineID phase.id
      tournamentID := state.tournamentID
      tableID := state.tableID
      handID := state.handID
      phaseID := phase.id
      seatID := seatID state.tableID phase.actingSeat
      deadlineAt := deadlineAt
      status := .opened
      openedByEventID := event
      createdAt := world.now
      updatedAt := world.now } world

def appendPhaseOpened (state : ActorState) (phase : PhaseDefinition) (streamSeq nextSeq : Int) :
    StoreM Unit := fun world =>
  appendEvents [{
    eventID := eventID state.streamKey streamSeq
    aggregateID := state.tableID
    streamKey := state.streamKey
    streamSeq := streamSeq
    tournamentID := state.tournamentID
    tableID := state.tableID
    handID := state.handID
    phaseID := phase.id
    eventType := "table.phase.opened"
    stateSeq := nextSeq
    occurredAt := world.now
    payloadHash := "phase-open-payload:" ++ state.tableID ++ ":" ++ toString nextSeq
    payload := .phaseOpen }] world

def persistPhase (state : ActorState) (phase : PhaseDefinition) (streamSeq nextSeq : Int) : StoreM Unit := do
  appendPhaseOpened state phase streamSeq nextSeq
  openDeadline state phase (eventID state.streamKey streamSeq)
  snapshotTable state state.table nextSeq streamSeq

/-- The memory is changed first; a store failure leaves it changed, with the old number. -/
def Actor.openPhase (actor : Actor) (phase : PhaseDefinition) (world : World) :
    Except StoreError Unit × Actor × World :=
  let opened := { actor with state := openedState actor.state phase, streamSeq := actor.streamSeq + 1 }
  let nextSeq := actor.state.stateSeq + 1
  match persistPhase opened.state phase opened.streamSeq nextSeq world with
  | (.error e,world) => (.error e,opened,world)
  | (.ok (),world) => (.ok (),{ opened with state := { opened.state with stateSeq := nextSeq } },world)

/-! A table of two whose first seat is to signal. -/

def twoSeats : OrdMap Int Seat :=
  (OrdMap.empty.insert 1 { seatNo := 1, state := .active, stack := 100 : Seat }).insert 2
    { seatNo := 2, state := .active, stack := 100 : Seat }

def signalActor : Actor := newActor
  { tableID := "tbl:tour:w1:01:01", tournamentID := "tour:w1:01", handID := "hand:tour:w1:01:01:0001"
    phaseID := "phase:1"
    table := { currentPhase := .signal, actingSeatNo := 1, phaseStartSeatNo := 1, seats := twoSeats } }

end Clawchain.Arena.Table
