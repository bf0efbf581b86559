import Clawchain.Lib.OrdMap
import Mathlib.Algebra.Order.Ring.Int

/-! Completed hands of the poker tournaments, and the three stores that take them in: the hot store, the repository in memory
and the one in Postgres. An optional text that is empty counts as missing, as does an empty document, where the source asks
for its truth. -/
namespace Clawchain.Hands
open Clawchain.Lib

def handCompletedSchemaVersion : String := "poker_mtt.hand_completed.v1"

def handCompletedEventType : String := "poker_mtt.hand_completed"

/-- An entry of a dictionary: it may be absent, or null. -/
abbrev Entry (α : Type) := Option (Option α)

structure Identity where
  tournamentID : Entry String := none
  tableID : Entry String := none
  handNo : Entry Int := none
  handID : Entry String := none
  deriving DecidableEq, Repr

/-- Times are seconds. What a document says of its source is `Source`, and of the hand `Payload`. -/
structure HandEvent (Source Payload : Type) where
  schemaVersion : Option String := some handCompletedSchemaVersion
  eventType : Option String := some handCompletedEventType
  (eventID checksum : Option String)
  version : Option Int := none
  identity : Identity
  tournamentID : Option String := none
  tableID : Option String := none
  handNo : Option Int := none
  handID : Option String := none
  source : Option Source := none
  sourceJSON : Option Source := none
  payload : Option Payload := none
  payloadJSON : Option Payload := none
  ingestState : Option String := none
  conflictReason : Option String := none
  createdAt : Option Int := none
  updatedAt : Option Int := none
  deriving DecidableEq

def present (value : Option String) : Bool := value.any (· ≠ "")

/-- `a or b` -/
def orElse (a b : Option String) : Option String := if present a then a else b

variable {Source Payload : Type}

def validateHandCompletedEvent (event : HandEvent Source Payload) : Except String Unit :=
  if event.schemaVersion ≠ some handCompletedSchemaVersion then .error "invalid hand completed schema_version"
  else if event.eventType ≠ some handCompletedEventType then .error "invalid hand completed event_type"
  else if present event.checksum = false then .error "missing hand completed checksum"
  else if event.identity.tournamentID = none then .error "missing hand identity field: tournament_id"
  else if event.identity.tableID = none then .error "missing hand identity field: table_id"
  else if event.identity.handNo = none then .error "missing hand identity field: hand_no"
  else if event.identity.handID = none then .error "missing hand identity field: hand_id"
  else .ok ()

/-! What a store does with an event, given what it has of the hand. -/

inductive IngestState where
  | inserted
  | updated
  | duplicate
  | stale
  | conflict
  deriving DecidableEq, Repr

inductive ConflictReason where
  | missingVersionWithoutExistingEvent
  | missingVersionChecksumMismatch
  | sameVersionChecksumMismatch
  deriving DecidableEq, Repr

def ConflictReason.text : ConflictReason → String
  | .missingVersionWithoutExistingEvent => "missing_version_without_existing_event"
  | .missingVersionChecksumMismatch => "missing_version_checksum_mismatch"
  | .sameVersionChecksumMismatch => "same_version_checksum_mismatch"

/-- The version and the checksum of an event. -/
abbrev Stamp := Option Int × String

def arrival (existing : Option Stamp) (arriving : Stamp) : IngestState × Option ConflictReason :=
  match existing,arriving.1 with
  | none,none => (.conflict,some .missingVersionWithoutExistingEvent)
  | none,some _ => (.inserted,none)
  | some held,none =>
    if arriving.2 = held.2 then (.duplicate,none) else (.conflict,some .missingVersionChecksumMismatch)
  | some held,some version =>
    if held.1.any (version < ·) then (.stale,none)
    else if held.1 = some version then
      if arriving.2 = held.2 then (.duplicate,none) else (.conflict,some .sameVersionChecksumMismatch)
    else (.updated,none)

def IngestState.stores : IngestState → Bool
  | .inserted | .updated => true
  | _ => false

structure IngestResult (Row : Type) where
  state : IngestState
  event : Row
  previousEvent : Option Row := none
  reason : Option ConflictReason := none
  deriving DecidableEq

namespace HandEvent
variable (event : HandEvent Source Payload)

def stamp : Stamp := (event.version,event.checksum.getD "")

/-- `event["identity"]["hand_id"]` -/
def identityHandID : String := event.identity.handID.join.getD ""

end HandEvent

abbrev HotStore (Source Payload : Type) := OrdMap String (HandEvent Source Payload)

def HotStore.ingest (event : HandEvent Source Payload) (store : HotStore Source Payload) :
    Except String (IngestResult (HandEvent Source Payload) × HotStore Source Payload) := do
  validateHandCompletedEvent event
  let existing := OrdMap.get? store event.identityHandID
  let (state,reason) := arrival (existing.map HandEvent.stamp) event.stamp
  let result : IngestResult (HandEvent Source Payload) := {
    state := state
    event := if state = .duplicate then existing.getD event else event
    previousEvent := existing
    reason := reason }
  return (result,if state.stores then OrdMap.insert store event.identityHandID event else store)

structure HandRow (Source Payload : Type) where
  handID : String
  (tournamentID tableID : Option String)
  (handNo version : Option Int)
  checksum : String
  eventID : Option String
  source : Option Source
  payload : Option Payload
  ingestState : String
  conflictReason : Option String
  (createdAt updatedAt : Option Int)
  deriving DecidableEq

def HandRow.stamp (row : HandRow Source Payload) : Stamp := (row.version,row.checksum)

def HandEvent.handIDOf (event : HandEvent Source Payload) : Option String := orElse event.identity.handID.join event.handID

def normalizePokerMttHandEvent (event : HandEvent Source Payload) : Except String (HandRow Source Payload) :=
  if present event.handIDOf = false then .error "missing poker mtt hand_id"
  else .ok {
    handID := event.handIDOf.getD ""
    tournamentID := orElse event.identity.tournamentID.join event.tournamentID
    tableID := orElse event.identity.tableID.join event.tableID
    handNo := event.identity.handNo.join <|> event.handNo
    version := event.version
    checksum := event.checksum.getD ""
    eventID := event.eventID
    source := event.sourceJSON <|> event.source
    payload := event.payloadJSON <|> event.payload
    ingestState := (orElse event.ingestState (some "inserted")).getD ""
    conflictReason := event.conflictReason
    createdAt := event.createdAt
    updatedAt := event.updatedAt }

abbrev HandTable (Source Payload : Type) := OrdMap String (HandRow Source Payload)

def HandRow.replacing (row : HandRow Source Payload) (existing : Option (HandRow Source Payload)) : HandRow Source Payload :=
  { row with createdAt := (existing.bind (·.createdAt)) <|> row.createdAt }

def HandRow.answer (row : HandRow Source Payload) (existing : Option (HandRow Source Payload)) (state : IngestState)
    (reason : Option ConflictReason) : IngestResult (HandRow Source Payload) :=
  match state with
  | .inserted => { state := state, event := row.replacing existing }
  | .updated => { state := state, event := row.replacing existing, previousEvent := existing }
  | .duplicate => { state := state, event := existing.getD row }
  | .stale => { state := state, event := row, previousEvent := existing }
  | .conflict => {
      state := state
      event := { row with ingestState := "conflict", conflictReason := reason.map ConflictReason.text }
      previousEvent := existing
      reason := reason }

def savePokerMttHandEvent (event : HandEvent Source Payload) (table : HandTable Source Payload) :
    Except String (IngestResult (HandRow Source Payload) × HandTable Source Payload) := do
  let row ← normalizePokerMttHandEvent event
  let existing := OrdMap.get? table row.handID
  let (state,reason) := arrival (existing.map HandRow.stamp) row.stamp
  return (row.answer existing state reason,
    if state.stores then OrdMap.insert table row.handID (row.replacing existing) else table)

def ingestInto (save : HandEvent Source Payload → HandTable Source Payload →
      Except String (IngestResult (HandRow Source Payload) × HandTable Source Payload))
    (event : HandEvent Source Payload) (table : HandTable Source Payload) :
    Except String (IngestResult (HandRow Source Payload) × HandTable Source Payload) := do
  validateHandCompletedEvent event
  save event table

/-- The columns hold no zero character, and integers of 32 bits. -/
def isText (text : String) : Bool := text.toList.all (·.toNat ≠ 0)

def isInteger (n : Int) : Bool := -2 ^ 31 ≤ n && n < 2 ^ 31

section Postgres
variable (jsonbSource : Source → Bool) (jsonbPayload : Payload → Bool)

def columnsHold (row : HandRow Source Payload) : Bool :=
  isText row.handID && row.tournamentID.any isText && row.tableID.any isText && row.handNo.any isInteger &&
    row.version.all isInteger && isText row.checksum && row.eventID.any isText && row.source.all jsonbSource &&
    row.payload.all jsonbPayload && isText row.ingestState && row.conflictReason.all isText

/-- A row gets the time of the insertion where the event has none. -/
def pokerMttHandEventValues (now : Int) (event : HandEvent Source Payload) : Except String (HandRow Source Payload) := do
  let row ← normalizePokerMttHandEvent event
  return { row with createdAt := row.createdAt <|> some now, updatedAt := row.updatedAt <|> some now }

def savePokerMttHandEventPg (now : Int) (event : HandEvent Source Payload) (table : HandTable Source Payload) :
    Except String (IngestResult (HandRow Source Payload) × HandTable Source Payload) := do
  let values ← pokerMttHandEventValues now event
  if isText values.handID = false then .error "invalid value for a column"
  else
    let existing := OrdMap.get? table values.handID
    let (state,reason) := arrival (existing.map HandRow.stamp) values.stamp
    if state.stores ∧ columnsHold jsonbSource jsonbPayload values = false then .error "invalid value for a column"
    else return (values.answer existing state reason,
      if state.stores then OrdMap.insert table values.handID (values.replacing existing) else table)

end Postgres

end Clawchain.Hands
