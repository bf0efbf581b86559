import Clawchain.Lib.OrdMap
import Clawchain.Lib.Rfc3339
import Mathlib.Data.String.Basic

/-! The settlement module: authorized submitters anchor settlement batches, and an
anchor that was written is never written again. -/
namespace Clawchain.Chain.Settlement
open Clawchain.Lib

structure MsgAnchorSettlementBatch where
  (submitter settlementBatchId anchorJobId lane schemaVersion policyBundleVersion canonicalRoot : String)
  (anchorPayloadHash rewardWindowIdsRoot taskRunIdsRoot minerRewardRowsRoot windowEndAt : String)
  totalRewardAmount : UInt64
  deriving DecidableEq, Repr

structure SettlementAnchor where
  (settlementBatchID anchorJobID submitter lane schemaVersion policyBundleVersion canonicalRoot : String)
  (anchorPayloadHash rewardWindowIDsRoot taskRunIDsRoot minerRewardRowsRoot windowEndAt : String)
  totalRewardAmount : UInt64
  (anchoredAtHeight anchoredAtTime : Int)
  deriving DecidableEq, Repr

structure Block where
  (height time : Int)
  deriving DecidableEq, Repr

inductive SettlementError where
  | invalidAddress
  | invalidSettlementBatch
  | unauthorizedSubmitter
  | settlementBatchAnchored
  deriving DecidableEq, Repr

/-- The keeper's part of the store. Anchors and submitters have their own prefixes. -/
structure Keeper where
  anchors : OrdMap String SettlementAnchor := OrdMap.empty
  submitters : OrdMap String Unit := OrdMap.empty
  deriving DecidableEq

structure GenesisState where
  anchors : List SettlementAnchor := []
  authorizedSubmitters : List String := []

def allowedAnchorSchemaVersions : List String := ["settlement.v1","clawchain.anchor_payload.v1"]

def isLowerHex (c : Char) : Bool := ('0' ≤ c && c ≤ '9') || ('a' ≤ c && c ≤ 'f')

/-- `^sha256:[0-9a-f]{64}$` -/
def isSHA256Ref (value : String) : Bool :=
  let chars := value.toList
  chars.take 7 == "sha256:".toList && (chars.drop 7).length == 64 && (chars.drop 7).all isLowerHex

def hashRefs (msg : MsgAnchorSettlementBatch) : List String :=
  [msg.canonicalRoot,msg.anchorPayloadHash,msg.rewardWindowIdsRoot,msg.taskRunIdsRoot,msg.minerRewardRowsRoot]

def newSettlementAnchor (msg : MsgAnchorSettlementBatch) (block : Block) : SettlementAnchor where
  settlementBatchID := msg.settlementBatchId
  anchorJobID := msg.anchorJobId
  submitter := msg.submitter
  lane := msg.lane
  schemaVersion := msg.schemaVersion
  policyBundleVersion := msg.policyBundleVersion
  canonicalRoot := msg.canonicalRoot
  anchorPayloadHash := msg.anchorPayloadHash
  rewardWindowIDsRoot := msg.rewardWindowIdsRoot
  taskRunIDsRoot := msg.taskRunIdsRoot
  minerRewardRowsRoot := msg.minerRewardRowsRoot
  windowEndAt := msg.windowEndAt
  totalRewardAmount := msg.totalRewardAmount
  anchoredAtHeight := block.height
  anchoredAtTime := block.time

def settlementAnchorMatchesMsg (anchor : SettlementAnchor) (msg : MsgAnchorSettlementBatch) : Bool :=
  anchor.settlementBatchID == msg.settlementBatchId &&
    anchor.anchorJobID == msg.anchorJobId &&
    anchor.submitter == msg.submitter &&
    anchor.lane == msg.lane &&
    anchor.schemaVersion == msg.schemaVersion &&
    anchor.policyBundleVersion == msg.policyBundleVersion &&
    anchor.canonicalRoot == msg.canonicalRoot &&
    anchor.anchorPayloadHash == msg.anchorPayloadHash &&
    anchor.rewardWindowIDsRoot == msg.rewardWindowIdsRoot &&
    anchor.taskRunIDsRoot == msg.taskRunIdsRoot &&
    anchor.minerRewardRowsRoot == msg.minerRewardRowsRoot &&
    anchor.windowEndAt == msg.windowEndAt &&
    anchor.totalRewardAmount == msg.totalRewardAmount

section Keeper
variable (accAddress : String → Bool)

def validateBasic (msg : MsgAnchorSettlementBatch) : Except SettlementError Unit :=
  if accAddress msg.submitter = false then .error .invalidAddress
  else if msg.settlementBatchId = "" ∨ msg.anchorJobId = "" ∨ msg.lane = "" then .error .invalidSettlementBatch
  else if msg.schemaVersion = "" ∨ msg.policyBundleVersion = "" ∨ msg.windowEndAt = "" then
    .error .invalidSettlementBatch
  else if msg.schemaVersion ∉ allowedAnchorSchemaVersions then .error .invalidSettlementBatch
  else if Rfc3339.parses msg.windowEndAt = false then .error .invalidSettlementBatch
  else if (hashRefs msg).all isSHA256Ref = false then .error .invalidSettlementBatch
  else .ok ()

def setSettlementAnchor (anchor : SettlementAnchor) (keeper : Keeper) : Keeper :=
  { keeper with anchors := keeper.anchors.insert anchor.settlementBatchID anchor }

def setAuthorizedAnchorSubmitter (submitter : String) (keeper : Keeper) : Keeper :=
  if accAddress submitter then { keeper with submitters := keeper.submitters.insert submitter () } else keeper

def isAuthorizedAnchorSubmitter (keeper : Keeper) (submitter : String) : Bool :=
  (keeper.submitters.get? submitter).isSome

def hasSettlementAnchor (keeper : Keeper) (settlementBatchID : String) : Bool :=
  (keeper.anchors.get? settlementBatchID).isSome

def initGenesis (genesis : GenesisState) : Keeper :=
  genesis.anchors.foldl (fun keeper anchor => setSettlementAnchor anchor keeper)
    (genesis.authorizedSubmitters.foldl (fun keeper submitter => setAuthorizedAnchorSubmitter accAddress submitter keeper)
      {})

def anchorSettlementBatch (block : Block) (msg : MsgAnchorSettlementBatch) (keeper : Keeper) :
    Except SettlementError String × Keeper :=
  match validateBasic accAddress msg with
  | .error e => (.error e,keeper)
  | .ok () =>
    if isAuthorizedAnchorSubmitter keeper msg.submitter = false then (.error .unauthorizedSubmitter,keeper)
    else match keeper.anchors.get? msg.settlementBatchId with
      | some existing =>
        if settlementAnchorMatchesMsg existing msg then (.ok msg.settlementBatchId,keeper)
        else (.error .settlementBatchAnchored,keeper)
      | none => (.ok msg.settlementBatchId,setSettlementAnchor (newSettlementAnchor msg block) keeper)

def anchorAll (messages : List (Block × MsgAnchorSettlementBatch)) (keeper : Keeper) : Keeper :=
  messages.foldl (fun keeper entry => (anchorSettlementBatch accAddress entry.1 entry.2 keeper).2) keeper

variable {accAddress} {block : Block} {msg : MsgAnchorSettlementBatch} {keeper : Keeper}
variable {id : String} {anchor : SettlementAnchor}

theorem anchorSettlementBatch_cases (accAddress : String → Bool) (block : Block) (msg : MsgAnchorSettlementBatch)
    (keeper : Keeper) : (∃ e, anchorSettlementBatch accAddress block msg keeper = (.error e,keeper)) ∨
    validateBasic accAddress msg = .ok () ∧ isAuthorizedAnchorSubmitter keeper msg.submitter = true ∧
      ((∃ anchor, keeper.anchors.get? msg.settlementBatchId = some anchor ∧
          settlementAnchorMatchesMsg anchor msg = true ∧
          anchorSettlementBatch accAddress block msg keeper = (.ok msg.settlementBatchId,keeper)) ∨
        keeper.anchors.get? msg.settlementBatchId = none ∧ anchorSettlementBatch accAddress block msg keeper =
          (.ok msg.settlementBatchId,setSettlementAnchor (newSettlementAnchor msg block) keeper)) := by
  unfold anchorSettlementBatch
  cases valid : validateBasic accAddress msg with
  | error e => exact .inl ⟨e,rfl⟩
  | ok _ =>
    cases authorized : isAuthorizedAnchorSubmitter keeper msg.submitter with
    | false => exact .inl ⟨.unauthorizedSubmitter,rfl⟩
    | true =>
      cases found : keeper.anchors.get? msg.settlementBatchId with
      | none => exact .inr ⟨rfl,rfl,.inr ⟨rfl,rfl⟩⟩
      | some existing =>
        cases same : settlementAnchorMatchesMsg existing msg with
        | false => exact .inl ⟨.settlementBatchAnchored,by simp [same]⟩
        | true => exact .inr ⟨rfl,rfl,.inl ⟨existing,rfl,same,by simp [same]⟩⟩

theorem anchorSettlementBatch_keeps (found : keeper.anchors.get? id = some anchor) :
    (anchorSettlementBatch accAddress block msg keeper).2.anchors.get? id = some anchor := by
  obtain ⟨e,refused⟩ | ⟨-,-,⟨existing,-,-,again⟩ | ⟨absent,first⟩⟩ :=
    anchorSettlementBatch_cases accAddress block msg keeper
  · rw [refused]
    exact found
  · rw [again]
    exact found
  · rw [first]
    have other : id ≠ msg.settlementBatchId := by
      intro same
      rw [same,absent] at found
      cases found
    exact (OrdMap.get?_insert_of_ne _ _ other).trans found

theorem anchorSettlementBatch_adds
    (found : (anchorSettlementBatch accAddress block msg keeper).2.anchors.get? id = some anchor) :
    keeper.anchors.get? id = some anchor ∨ validateBasic accAddress msg = .ok () ∧
      isAuthorizedAnchorSubmitter keeper msg.submitter = true ∧ id = msg.settlementBatchId ∧
        anchor = newSettlementAnchor msg block := by
  obtain ⟨e,refused⟩ | ⟨valid,authorized,⟨existing,-,-,again⟩ | ⟨-,first⟩⟩ :=
    anchorSettlementBatch_cases accAddress block msg keeper
  · rw [refused] at found
    exact .inl found
  · rw [again] at found
    exact .inl found
  · rw [first] at found
    change (keeper.anchors.insert msg.settlementBatchId (newSettlementAnchor msg block)).get? id = _ at found
    rw [OrdMap.get?_insert] at found
    split_ifs at found with same
    · exact .inr ⟨valid,authorized,same,(Option.some.inj found).symm⟩
    · exact .inl found

theorem anchorAll_snoc (messages : List (Block × MsgAnchorSettlementBatch)) (entry : Block × MsgAnchorSettlementBatch) :
    anchorAll accAddress (messages ++ [entry]) keeper =
      (anchorSettlementBatch accAddress entry.1 entry.2 (anchorAll accAddress messages keeper)).2 := by
  simp [anchorAll]

theorem anchorAll_keeps (messages : List (Block × MsgAnchorSettlementBatch))
    (found : keeper.anchors.get? id = some anchor) :
    (anchorAll accAddress messages keeper).anchors.get? id = some anchor := by
  induction messages using List.reverseRecOn with
  | nil => exact found
  | append_singleton messages entry ih =>
    rw [anchorAll_snoc]
    exact anchorSettlementBatch_keeps ih

theorem anchorAll_origin (messages : List (Block × MsgAnchorSettlementBatch))
    (found : (anchorAll accAddress messages keeper).anchors.get? id = some anchor) :
    keeper.anchors.get? id = some anchor ∨ ∃ earlier entry rest, messages = earlier ++ entry :: rest ∧
      validateBasic accAddress entry.2 = .ok () ∧
      isAuthorizedAnchorSubmitter (anchorAll accAddress earlier keeper) entry.2.submitter = true ∧
      id = entry.2.settlementBatchId ∧ anchor = newSettlementAnchor entry.2 entry.1 := by
  induction messages using List.reverseRecOn with
  | nil => exact .inl found
  | append_singleton messages entry ih =>
    rw [anchorAll_snoc] at found
    obtain before | ⟨valid,authorized,same,fresh⟩ := anchorSettlementBatch_adds found
    · refine (ih before).imp_right ?_
      rintro ⟨earlier,origin,rest,split,facts⟩
      exact ⟨earlier,origin,rest ++ [entry],by simp [split],facts⟩
    · exact .inr ⟨messages,entry,[],rfl,valid,authorized,same,fresh⟩

theorem initGenesis_anchors (genesis : GenesisState) : (initGenesis accAddress genesis).anchors =
    OrdMap.ofList (genesis.anchors.map fun anchor => (anchor.settlementBatchID,anchor)) := by
  have submitted (submitters : List String) (keeper : Keeper) : (submitters.foldl (fun keeper submitter =>
      setAuthorizedAnchorSubmitter accAddress submitter keeper) keeper).anchors = keeper.anchors := by
    induction submitters generalizing keeper with
    | nil => rfl
    | cons submitter rest ih =>
      rw [List.foldl_cons,ih]
      unfold setAuthorizedAnchorSubmitter
      split <;> rfl
  have anchored (anchors : List SettlementAnchor) (keeper : Keeper) : (anchors.foldl (fun keeper anchor =>
      setSettlementAnchor anchor keeper) keeper).anchors = (anchors.map fun anchor =>
        (anchor.settlementBatchID,anchor)).foldl (fun m e => m.insert e.1 e.2) keeper.anchors := by
    induction anchors generalizing keeper with
    | nil => rfl
    | cons anchor rest ih => exact ih (setSettlementAnchor anchor keeper)
  unfold initGenesis
  rw [anchored,submitted]
  rfl

end Keeper

def SettlementAnchor.message (anchor : SettlementAnchor) : MsgAnchorSettlementBatch where
  submitter := anchor.submitter
  settlementBatchId := anchor.settlementBatchID
  anchorJobId := anchor.anchorJobID
  lane := anchor.lane
  schemaVersion := anchor.schemaVersion
  policyBundleVersion := anchor.policyBundleVersion
  canonicalRoot := anchor.canonicalRoot
  anchorPayloadHash := anchor.anchorPayloadHash
  rewardWindowIdsRoot := anchor.rewardWindowIDsRoot
  taskRunIdsRoot := anchor.taskRunIDsRoot
  minerRewardRowsRoot := anchor.minerRewardRowsRoot
  windowEndAt := anchor.windowEndAt
  totalRewardAmount := anchor.totalRewardAmount

theorem settlementAnchorMatchesMsg_iff (anchor : SettlementAnchor) (msg : MsgAnchorSettlementBatch) :
    settlementAnchorMatchesMsg anchor msg = true ↔ anchor.message = msg := by
  cases msg
  simp only [settlementAnchorMatchesMsg,SettlementAnchor.message,Bool.and_eq_true,beq_iff_eq,
    MsgAnchorSettlementBatch.mk.injEq]
  tauto

theorem anchorSettlementBatch_ok_iff {accAddress : String → Bool} {block : Block} {msg : MsgAnchorSettlementBatch}
    {keeper : Keeper} {anchor : SettlementAnchor} (found : keeper.anchors.get? msg.settlementBatchId = some anchor) :
    (∃ response, (anchorSettlementBatch accAddress block msg keeper).1 = .ok response) ↔
      isAuthorizedAnchorSubmitter keeper msg.submitter = true ∧ validateBasic accAddress msg = .ok () ∧
        anchor.message = msg := by
  rw [← settlementAnchorMatchesMsg_iff]
  constructor
  · rintro ⟨response,accepted⟩
    obtain ⟨e,refused⟩ | ⟨valid,authorized,⟨existing,held,matching,-⟩ | ⟨absent,-⟩⟩ :=
      anchorSettlementBatch_cases accAddress block msg keeper
    · rw [refused] at accepted
      cases accepted
    · rw [found] at held
      cases held
      exact ⟨authorized,valid,matching⟩
    · rw [found] at absent
      cases absent
  · rintro ⟨authorized,valid,matching⟩
    refine ⟨msg.settlementBatchId,?_⟩
    unfold anchorSettlementBatch
    simp [valid,authorized,found,matching]

/-- Anchors are append-only: what a run has anchored stays through every later
message, a repeated batch is accepted only as it was anchored, anchors come from
accepted messages, and refused messages change nothing. -/
theorem anchors_append_only (accAddress : String → Bool) (genesis : GenesisState)
    (messages : List (Block × MsgAnchorSettlementBatch)) :
    let start := initGenesis accAddress genesis
    let now := anchorAll accAddress messages start
    (∀ later id anchor, now.anchors.get? id = some anchor →
      (anchorAll accAddress (messages ++ later) start).anchors.get? id = some anchor) ∧
    (∀ block msg anchor, now.anchors.get? msg.settlementBatchId = some anchor →
      ((∃ response, (anchorSettlementBatch accAddress block msg now).1 = .ok response) ↔
        isAuthorizedAnchorSubmitter now msg.submitter = true ∧ validateBasic accAddress msg = .ok () ∧
          anchor.message = msg)) ∧
    (∀ id anchor, now.anchors.get? id = some anchor → anchor ∈ genesis.anchors ∨
      ∃ earlier entry rest, messages = earlier ++ entry :: rest ∧ validateBasic accAddress entry.2 = .ok () ∧
        isAuthorizedAnchorSubmitter (anchorAll accAddress earlier start) entry.2.submitter = true ∧
        id = entry.2.settlementBatchId ∧ anchor = newSettlementAnchor entry.2 entry.1 ∧ anchor.message = entry.2) ∧
    (∀ block msg e, (anchorSettlementBatch accAddress block msg now).1 = .error e →
      (anchorSettlementBatch accAddress block msg now).2 = now) := by
  intro start now
  refine ⟨?_,?_,?_,?_⟩
  · intro later id anchor found
    rw [anchorAll,List.foldl_append]
    exact anchorAll_keeps later found
  · intro block msg anchor found
    exact anchorSettlementBatch_ok_iff found
  · intro id anchor found
    obtain initial | ⟨earlier,entry,rest,split,valid,authorized,same,fresh⟩ := anchorAll_origin messages found
    · rw [initGenesis_anchors] at initial
      obtain ⟨given,member,equal⟩ := List.mem_map.mp (OrdMap.mem_of_get?_ofList initial)
      exact .inl ((Prod.mk.inj equal).2 ▸ member)
    · exact .inr ⟨earlier,entry,rest,split,valid,authorized,same,fresh,fresh ▸ rfl⟩
  · intro block msg e refused
    obtain ⟨_,unchanged⟩ | ⟨-,-,⟨anchor,-,-,again⟩ | ⟨-,first⟩⟩ :=
      anchorSettlementBatch_cases accAddress block msg now
    · rw [unchanged]
    · rw [again] at refused
      cases refused
    · rw [first] at refused
      cases refused

end Clawchain.Chain.Settlement
