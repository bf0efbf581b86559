import Clawchain.Hands.Model
import Clawchain.Lib.PyText

/-! The consumer of completed hands. Every message is given to the repository's store and leaves a checkpoint of its queue; a
conflict is kept for review, and a message that the store refuses is kept as a dead letter. The checkpoint is that of the
last message, and so that of the furthest one only while the queue moves forward. -/
namespace Clawchain.Hands
open Clawchain.Lib

/-! What a message says of where it comes from. -/

/-- A value of the message's source. Of lists, dictionaries and other numbers it is kept how they print, what integer they
are, and whether they count as true. -/
inductive SourceValue where
  | null
  | bool (value : Bool)
  | number (value : Int)
  | text (value : String)
  | other (printed : String) (number : Option Int) (truth : Bool)
  deriving DecidableEq, Repr

namespace SourceValue

/-- `str` -/
def printed : SourceValue → String
  | null => "None"
  | bool value => if value then "True" else "False"
  | number value => toString value
  | text value => value
  | other printed _ _ => printed

def truth : SourceValue → Bool
  | null => false
  | bool value => value
  | number value => value ≠ 0
  | text value => value ≠ ""
  | other _ _ truth => truth

def ofText (value : Option String) : SourceValue := (value.map text).getD null

/-- `a or b` -/
def or (a b : SourceValue) : SourceValue := if a.truth then a else b

end SourceValue

abbrev Source := OrdMap String SourceValue

def Source.field (source : Source) (key : String) : SourceValue := (OrdMap.get? source key).getD .null

def sourceFirst (source : Source) (keys : List String) (default : SourceValue) : SourceValue :=
  ((keys.map source.field).find? fun value => value ≠ .null && PyText.strip value.printed ≠ "").getD default

def optionalInt : SourceValue → Option Int
  | .null => none
  | .bool value => some (if value then 1 else 0)
  | .number value => some value
  | .text value => PyText.int value
  | .other _ number _ => number

structure Metadata where
  (topic queue consumerGroup : String)
  tournamentID : SourceValue
  handID : Option String
  offset : Option Int
  (messageID bizID : SourceValue)
  lagMessages : Int
  lagWatermarkAt : SourceValue
  source : Source
  deriving DecidableEq

variable {Payload : Type}

abbrev Message (Payload : Type) := HandEvent Source Payload

def pokerMttMqMetadata (event : Message Payload) : Metadata :=
  let source := event.source.getD OrdMap.empty
  { topic := (sourceFirst source ["topic","rocketmq_topic"] (.text "unknown_topic")).printed
    queue := (sourceFirst source ["queue","queue_id","queueId","message_queue"] (.text "default")).printed
    consumerGroup := (sourceFirst source ["consumer_group","consumerGroup"] (.text "clawchain-poker-mtt-hands")).printed
    tournamentID := (SourceValue.ofText event.identity.tournamentID.join).or ((source.field "source_mtt_id").or
      ((source.field "mtt_id").or (.ofText event.tournamentID)))
    handID := event.handIDOf
    offset := optionalInt (sourceFirst source ["offset","queue_offset","queueOffset"] .null)
    messageID := sourceFirst source ["message_id","messageId","msg_id"] (.ofText event.eventID)
    bizID := sourceFirst source ["biz_id","bizId"] .null
    lagMessages := max 0 ((optionalInt (sourceFirst source ["lag_messages","lagMessages"] .null)).getD 0)
    lagWatermarkAt := sourceFirst source ["lag_watermark_at","lagWatermarkAt"] .null
    source := source }

def pokerMttMqCheckpointID (metadata : Metadata) : String :=
  "poker_mtt_mq_checkpoint:" ++ (if metadata.tournamentID.truth then metadata.tournamentID.printed else "global") ++ ":" ++
    metadata.topic ++ ":" ++ metadata.consumerGroup ++ ":" ++ metadata.queue

def HandEvent.queueOf (event : Message Payload) : String := pokerMttMqCheckpointID (pokerMttMqMetadata event)

def HandEvent.offsetOf (event : Message Payload) : Option Int := (pokerMttMqMetadata event).offset

inductive MessageState where
  | ingested (state : IngestState)
  | dlq
  deriving DecidableEq, Repr

structure ReplayPayload where
  metadata : Metadata
  version : Option Int
  checksum : Option String
  ingestState : MessageState

structure ConflictPayload where
  tournamentID : SourceValue
  handID : Option String
  (messageID bizID : SourceValue)
  (checksum previousChecksum : Option String)
  conflictReason : String
  deriving DecidableEq

structure DlqPayload where
  (tournamentID messageID bizID : SourceValue)
  reason : String
  deriving DecidableEq

/-- What is hashed of a message and of the rows it leaves. -/
structure Digests where
  replayRoot : ReplayPayload → String
  conflictID : ConflictPayload → String
  dlqID : DlqPayload → String

structure Checkpoint where
  id : String
  tournamentID : SourceValue
  (topic queue consumerGroup : String)
  lastOffset : Option Int
  (lastMessageID lastBizID : SourceValue)
  lastHandID : Option String
  lastIngestState : MessageState
  replayRoot : String
  lagMessages : Int
  lagWatermarkAt : SourceValue
  source : Source
  (lastProcessedAt createdAt updatedAt : Int)
  deriving DecidableEq

inductive ReviewState where
  | manualReview
  | open
  deriving DecidableEq, Repr

structure Conflict (Payload : Type) where
  id : String
  tournamentID : SourceValue
  handID : Option String
  (topic queue consumerGroup : String)
  offset : Option Int
  (messageID bizID : SourceValue)
  version : Option Int
  (checksum previousChecksum : Option String)
  conflictReason : String
  state : ReviewState
  (payload previousPayload : Option Payload)
  source : Source
  (createdAt updatedAt : Int)
  deriving DecidableEq

structure DeadLetter (Payload : Type) where
  id : String
  tournamentID : SourceValue
  (topic queue consumerGroup : String)
  offset : Option Int
  (messageID bizID : SourceValue)
  dlqReason : String
  state : ReviewState
  payload : Message Payload
  source : Source
  (createdAt updatedAt : Int)
  deriving DecidableEq

structure ConsumerRepository (Payload : Type) where
  hands : HandTable Source Payload := OrdMap.empty
  checkpoints : OrdMap String Checkpoint := OrdMap.empty
  conflicts : OrdMap String (Conflict Payload) := OrdMap.empty
  dlq : OrdMap String (DeadLetter Payload) := OrdMap.empty

section Ingestion
variable (digests : Digests)

def checkpointRow (event : Message Payload) (metadata : Metadata) (ingestState : MessageState) (now : Int) : Checkpoint where
  id := pokerMttMqCheckpointID metadata
  tournamentID := metadata.tournamentID
  topic := metadata.topic
  queue := metadata.queue
  consumerGroup := metadata.consumerGroup
  lastOffset := metadata.offset
  lastMessageID := metadata.messageID
  lastBizID := metadata.bizID
  lastHandID := metadata.handID
  lastIngestState := ingestState
  replayRoot := digests.replayRoot ⟨metadata,event.version,event.checksum,ingestState⟩
  lagMessages := metadata.lagMessages
  lagWatermarkAt := metadata.lagWatermarkAt
  source := metadata.source
  lastProcessedAt := now
  createdAt := now
  updatedAt := now

def savePokerMttMqCheckpoint (row : Checkpoint) (repo : ConsumerRepository Payload) : ConsumerRepository Payload :=
  { repo with checkpoints := repo.checkpoints.insert row.id row }

def conflictRow (event : Message Payload) (metadata : Metadata) (reason : String)
    (previousEvent : Option (HandRow Source Payload)) (now : Int) : Conflict Payload where
  id := digests.conflictID ⟨metadata.tournamentID,metadata.handID,metadata.messageID,metadata.bizID,event.checksum,
    previousEvent.map (·.checksum),reason⟩
  tournamentID := metadata.tournamentID
  handID := metadata.handID
  topic := metadata.topic
  queue := metadata.queue
  consumerGroup := metadata.consumerGroup
  offset := metadata.offset
  messageID := metadata.messageID
  bizID := metadata.bizID
  version := event.version
  checksum := event.checksum
  previousChecksum := previousEvent.map (·.checksum)
  conflictReason := reason
  state := .manualReview
  payload := event.payload <|> event.payloadJSON
  previousPayload := previousEvent.bind (·.payload)
  source := metadata.source
  createdAt := now
  updatedAt := now

def savePokerMttMqConflict (row : Conflict Payload) (repo : ConsumerRepository Payload) : ConsumerRepository Payload :=
  { repo with conflicts := repo.conflicts.insert row.id row }

def dlqRow (event : Message Payload) (metadata : Metadata) (reason : String) (now : Int) : DeadLetter Payload where
  id := digests.dlqID ⟨metadata.tournamentID,metadata.messageID,metadata.bizID,reason⟩
  tournamentID := metadata.tournamentID
  topic := metadata.topic
  queue := metadata.queue
  consumerGroup := metadata.consumerGroup
  offset := metadata.offset
  messageID := metadata.messageID
  bizID := metadata.bizID
  dlqReason := reason
  state := .open
  payload := event
  source := metadata.source
  createdAt := now
  updatedAt := now

def savePokerMttMqDlq (row : DeadLetter Payload) (repo : ConsumerRepository Payload) : ConsumerRepository Payload :=
  { repo with dlq := repo.dlq.insert row.id row }

structure IngestAnswer (Payload : Type) where
  state : MessageState
  event : Option (HandRow Source Payload) := none
  previousEvent : Option (HandRow Source Payload) := none
  reason : Option String := none
  checkpoint : Checkpoint
  conflict : Option (Conflict Payload) := none
  dlq : Option (DeadLetter Payload) := none

def HandEvent.dated (now : Int) (event : Message Payload) : Message Payload :=
  { event with createdAt := event.createdAt <|> some now, updatedAt := some now }

def ingestPokerMttHandEvent (now : Int) (event : Message Payload) (repo : ConsumerRepository Payload) :
    IngestAnswer Payload × ConsumerRepository Payload :=
  let payload := event.dated now
  let metadata := pokerMttMqMetadata payload
  match ingestInto savePokerMttHandEvent payload repo.hands with
  | .error reason =>
    let letter := dlqRow digests payload metadata reason now
    let checkpoint := checkpointRow digests payload metadata .dlq now
    ({ state := .dlq, reason := some reason, checkpoint := checkpoint, dlq := some letter },
      savePokerMttMqCheckpoint checkpoint (savePokerMttMqDlq letter repo))
  | .ok (result,hands) =>
    let checkpoint := checkpointRow digests payload metadata (.ingested result.state) now
    let reason := result.reason.map ConflictReason.text
    let conflict := if result.state = .conflict then
        some (conflictRow digests payload metadata (reason.getD "hand_checksum_conflict") result.previousEvent now)
      else none
    let saved := savePokerMttMqCheckpoint checkpoint { repo with hands := hands }
    ({ state := .ingested result.state, event := some result.event, previousEvent := result.previousEvent, reason := reason,
       checkpoint := checkpoint, conflict := conflict },
      (conflict.map fun row => savePokerMttMqConflict row saved).getD saved)

variable {digests : Digests} {now : Int} {event : Message Payload} {repo : ConsumerRepository Payload}

theorem ingest_refused {reason : String} (refused : ingestInto savePokerMttHandEvent (event.dated now) repo.hands = .error reason) :
    (ingestPokerMttHandEvent digests now event repo).2 =
      savePokerMttMqCheckpoint (checkpointRow digests (event.dated now) (pokerMttMqMetadata (event.dated now)) .dlq now)
        (savePokerMttMqDlq (dlqRow digests (event.dated now) (pokerMttMqMetadata (event.dated now)) reason now) repo) := by
  simp [ingestPokerMttHandEvent,refused]

theorem ingest_taken {result : IngestResult (HandRow Source Payload)} {hands : HandTable Source Payload}
    (taken : ingestInto savePokerMttHandEvent (event.dated now) repo.hands = .ok (result,hands)) (known : result.state ≠ .conflict) :
    (ingestPokerMttHandEvent digests now event repo).2 =
      savePokerMttMqCheckpoint
        (checkpointRow digests (event.dated now) (pokerMttMqMetadata (event.dated now)) (.ingested result.state) now)
        { repo with hands := hands } := by
  simp [ingestPokerMttHandEvent,taken,known]

theorem ingest_conflicting {result : IngestResult (HandRow Source Payload)} {hands : HandTable Source Payload}
    (taken : ingestInto savePokerMttHandEvent (event.dated now) repo.hands = .ok (result,hands)) (conflicts : result.state = .conflict) :
    (ingestPokerMttHandEvent digests now event repo).2 =
      savePokerMttMqConflict
        (conflictRow digests (event.dated now) (pokerMttMqMetadata (event.dated now))
          ((result.reason.map ConflictReason.text).getD "hand_checksum_conflict") result.previousEvent now)
        (savePokerMttMqCheckpoint
          (checkpointRow digests (event.dated now) (pokerMttMqMetadata (event.dated now)) (.ingested .conflict) now)
          { repo with hands := hands }) := by
  simp [ingestPokerMttHandEvent,taken,conflicts]

theorem ingest_checkpoints (digests : Digests) (now : Int) (event : Message Payload) (repo : ConsumerRepository Payload) :
    ∃ row : Checkpoint, row.lastOffset = event.offsetOf ∧
      (ingestPokerMttHandEvent digests now event repo).2.checkpoints =
        repo.checkpoints.insert event.queueOf row := by
  cases taken : ingestInto savePokerMttHandEvent (event.dated now) repo.hands with
  | error reason =>
    rw [ingest_refused taken]
    exact ⟨_,rfl,rfl⟩
  | ok done =>
    by_cases conflicts : done.1.state = .conflict
    · rw [ingest_conflicting taken conflicts]
      exact ⟨_,rfl,rfl⟩
    · rw [ingest_taken taken conflicts]
      exact ⟨_,rfl,rfl⟩

end Ingestion

end Clawchain.Hands
