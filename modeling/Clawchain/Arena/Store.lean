import Clawchain.Arena.Table.State
import Clawchain.Lib.Faulty
import Clawchain.Lib.Format
import Mathlib.Data.String.Basic

/-! The durable store as the table actor and the gateway use it: rows keyed by
their primary key, upserted one after the other. A call may fail after any
number of its rows was written; the rows stay. -/
namespace Clawchain.Arena
open Clawchain.Lib

/-- What an event row carries: an engine event, or the opening of a phase. -/
inductive EventPayload where
  | event (event : Table.Event)
  | phaseOpen
  deriving DecidableEq, Repr

structure EventLogEntry where
  eventID : String
  aggregateType : String := "table"
  (aggregateID streamKey : String)
  streamSeq : Int
  (tournamentID tableID handID phaseID eventType : String)
  eventVersion : Int := 1
  (stateSeq occurredAt : Int)
  payloadHash : String
  payload : EventPayload
  deriving DecidableEq, Repr

def EventLogEntry.identity (entry : EventLogEntry) : EventLogEntry :=
  { entry with occurredAt := 0, payload := .phaseOpen }

structure ActionRecord where
  (requestID tournamentID tableID handID phaseID seatID actionType : String)
  (actionSeq expectedStateSeq acceptedStateSeq : Int)
  validationStatus : String := "accepted"
  resultEventID : String
  receivedAt : Int
  deriving DecidableEq, Repr

inductive DeadlineStatus where
  | opened
  | closed
  deriving DecidableEq, Repr

structure ActionDeadline where
  (deadlineID tournamentID tableID handID phaseID : String)
  seatID : String := ""
  deadlineAt : Int
  status : DeadlineStatus
  openedByEventID : String := ""
  resolvedByEventID : String := ""
  (createdAt updatedAt : Int)
  deriving DecidableEq, Repr

structure TableSnapshot where
  (id tournamentID tableID streamKey : String)
  (streamSeq stateSeq : Int)
  payload : Table.State
  createdAt : Int
  deriving DecidableEq

structure HandSnapshot where
  (id tournamentID tableID handID streamKey : String)
  (streamSeq stateSeq : Int)
  payload : Table.State
  createdAt : Int
  deriving DecidableEq

inductive SubmissionStatus where
  | received
  | committed
  | applied
  deriving DecidableEq, Repr

structure SubmissionLedger where
  (requestID tournamentID tableID seatID minerID : String)
  expectedStateSeq : Int
  validationStatus : SubmissionStatus
  payloadHash : String
  deriving DecidableEq, Repr

structure Store where
  events : OrdMap String EventLogEntry := OrdMap.empty
  actions : OrdMap String ActionRecord := OrdMap.empty
  deadlines : OrdMap String ActionDeadline := OrdMap.empty
  tableSnapshots : OrdMap String TableSnapshot := OrdMap.empty
  handSnapshots : OrdMap String HandSnapshot := OrdMap.empty
  ledger : OrdMap String SubmissionLedger := OrdMap.empty
  deriving DecidableEq

inductive StoreError where
  | unavailable
  | eventConflict (eventID : String)
  | payloadConflict (requestID : String)
  deriving DecidableEq, Repr

/-- How the next store call ends: well, or with an error after `rows` of its rows. -/
inductive Outcome where
  | ok
  | failed (rows : Nat)
  deriving DecidableEq, Repr

/-- The store, the outcomes of the calls to come (the rest succeeds), and the clock. -/
structure World where
  store : Store := {}
  outcomes : List Outcome := []
  now : Int := 0
  deriving DecidableEq

abbrev StoreM := Faulty World StoreError

section Calls
variable {ρ : Type}

def writeRows (write : ρ → Store → Except StoreError Store) : List ρ → Store → Except StoreError Unit × Store
  | [],store => (.ok (),store)
  | row :: rest,store =>
    match write row store with
    | .ok store => writeRows write rest store
    | .error e => (.error e,store)

def writeCall (write : ρ → Store → Except StoreError Store) (rows : List ρ) : StoreM Unit := fun world =>
  match world.outcomes with
  | .failed count :: rest =>
    let (result,store) := writeRows write (rows.take count) world.store
    (result.bind fun _ => .error .unavailable,{ world with store := store, outcomes := rest })
  | outcomes =>
    let (result,store) := writeRows write rows world.store
    (result,{ world with store := store, outcomes := outcomes.tail })

def readCall {α : Type} (read : Store → α) : StoreM α := fun world =>
  match world.outcomes with
  | .failed _ :: rest => (.error .unavailable,{ world with outcomes := rest })
  | outcomes => (.ok (read world.store),{ world with outcomes := outcomes.tail })

end Calls

/-- `ON CONFLICT DO NOTHING`, then the existing row's identity is compared. -/
def writeEvent (entry : EventLogEntry) (store : Store) : Except StoreError Store :=
  match store.events.get? entry.eventID with
  | none => .ok { store with events := store.events.insert entry.eventID entry }
  | some existing =>
    if existing.identity = entry.identity then .ok store else .error (.eventConflict entry.eventID)

def writeSubmission (entry : SubmissionLedger) (store : Store) : Except StoreError Store :=
  match store.ledger.get? entry.requestID with
  | none => .ok { store with ledger := store.ledger.insert entry.requestID entry }
  | some existing =>
    if existing.payloadHash = entry.payloadHash then
      .ok { store with ledger := store.ledger.insert entry.requestID entry }
    else .error (.payloadConflict entry.requestID)

def appendEvents (entries : List EventLogEntry) : StoreM Unit := writeCall writeEvent entries

def appendActionRecords (records : List ActionRecord) : StoreM Unit :=
  writeCall (fun record store => .ok { store with actions := store.actions.insert record.requestID record }) records

def writeDeadline (row : ActionDeadline) (store : Store) : Store :=
  let createdAt := ((store.deadlines.get? row.deadlineID).map ActionDeadline.createdAt).getD row.createdAt
  { store with deadlines := store.deadlines.insert row.deadlineID { row with createdAt := createdAt } }

def upsertActionDeadline (deadline : ActionDeadline) : StoreM Unit :=
  writeCall (fun row store => .ok (writeDeadline row store)) [deadline]

def saveTableSnapshot (snapshot : TableSnapshot) : StoreM Unit :=
  writeCall (fun row store => .ok { store with tableSnapshots := store.tableSnapshots.insert row.id row }) [snapshot]

def saveHandSnapshot (snapshot : HandSnapshot) : StoreM Unit :=
  writeCall (fun row store => .ok { store with handSnapshots := store.handSnapshots.insert row.id row }) [snapshot]

def appendSubmissionLedgerEntries (entries : List SubmissionLedger) : StoreM Unit :=
  writeCall writeSubmission entries

def loadSubmissionLedgerEntry (requestID : String) : StoreM (Option SubmissionLedger) :=
  readCall fun store => store.ledger.get? requestID

def loadActionRecord (requestID : String) : StoreM (Option ActionRecord) :=
  readCall fun store => store.actions.get? requestID

def openDeadlines (store : Store) : OrdMap String ActionDeadline :=
  store.deadlines.filter fun _ deadline => deadline.status = .opened

def latestTableSnapshot (store : Store) (tournamentID tableID : String) : Option TableSnapshot :=
  (store.tableSnapshots.entries.map Prod.snd).foldl (fun latest snapshot =>
    if snapshot.tournamentID = tournamentID ∧ snapshot.tableID = tableID ∧
      latest.all (·.streamSeq < snapshot.streamSeq) then some snapshot else latest) none

def listActionDeadlinesByTournament (store : Store) (tournamentID : String) : List ActionDeadline :=
  ((store.deadlines.entries.map Prod.snd).filter fun deadline => deadline.tournamentID = tournamentID).insertionSort
    fun a b => a.deadlineAt < b.deadlineAt ∨ a.deadlineAt = b.deadlineAt ∧ a.createdAt ≤ b.createdAt

def laterDeadline (latest : Option ActionDeadline) (deadline : ActionDeadline) : Option ActionDeadline :=
  match latest with
  | none => some deadline
  | some current =>
    if deadline.deadlineAt > current.deadlineAt ∨ deadline.updatedAt > current.updatedAt then some deadline
    else some current

/-- The entry of `latestOpenDeadlinesByTable` for one table. -/
def latestOpenDeadline (store : Store) (tournamentID tableID : String) : Option ActionDeadline :=
  ((listActionDeadlinesByTournament store tournamentID).filter fun deadline =>
    deadline.status = .opened ∧ deadline.tableID = tableID).foldl laterDeadline none

end Clawchain.Arena
