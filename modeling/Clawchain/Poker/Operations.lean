import Clawchain.Poker.Reconcile

/-! Everything the service with the poker lanes is asked to do. An anchor that is confirmed pays the ledgers of its batch's
windows; else the operations are those of the service below, after a reconcile of the whole service. -/
namespace Clawchain.Poker
open Clawchain.Lib Clawchain.Mining

section Tails
variable (settings : Settings)

def prepareAnchor (id : String) : Service Unit := do
  let batch ← getSettlementBatch id
  if batch.state = .cancelled ∨ batch.totalRewardAmount = 0 then refuse "settlement batch not anchorable"
  else if batch.lane.isPoker ∧ settings.pokerMttSettlementAnchoringEnabled = false then
    refuse "poker mtt settlement anchoring disabled"
  else .read fun repo =>
    match anchorPayload settings repo batch with
    | .error message => refuse message
    | .ok (payload,pages) => fixAnchorPayload settings id batch payload pages

def submitReady (now : Time) (batchID : String) : Service String := do
  let batch ← getSettlementBatch batchID
  if batch.state ≠ .anchorReady then refuse "settlement batch not anchor_ready"
  else
    match batch.anchorPayloadHash,batch.anchorPayloadJSON with
    | some payloadHash,some _ => .read fun repo => do
      let job := newAnchorJob now batchID payloadHash batch.lane repo
      .modify (·.enlistAnchorJob job)
      return job.id
    | _,_ => refuse "settlement batch missing anchor payload"

end Tails

def BudgetLedger.pay (settlementBatchID : String) (ledger : BudgetLedger) : BudgetLedger :=
  { ledger with
    settlementBatchID := some settlementBatchID
    paidAmount := ledger.approvedAmount
    state := if 0 < ledger.approvedAmount then .paid else ledger.state }

def PokerRepository.payLedgers (batch : SettlementBatch) (repo : PokerRepository) : PokerRepository :=
  { repo with budgetLedgers := repo.budgetLedgers.mapVals fun _ ledger =>
      if ledger.rewardWindowID ∈ batch.rewardWindowIDs then ledger.pay batch.id else ledger }

def PokerRepository.anchorBatch (job : AnchorJob) (now : Time) (repo : PokerRepository) : PokerRepository :=
  let ended := { repo with toRepository := repo.toRepository.endAnchorJob job (AnchorJob.anchor now) .anchored }
  match ended.settlementBatches.get? job.settlementBatchID with
  | none => ended
  | some batch => if batch.anchorJobID = some job.id then ended.payLedgers batch else ended

structure PokerAnswers extends ScoredOutside where
  broadcast : FutureMsg → BroadcastAnswer := fun _ => .otherError
  confirm : String → String → Except ServiceError Receipt := fun _ _ => .error .type

section Calls
variable (settings : PokerSettings) (now : Time)

def rebuildRewardWindow (outside : ScoredOutside) (id : String) : PokerService Unit := do
  reconcile settings now outside
  .read fun repo =>
    match repo.rewardWindows.get? id with
    | none => .fail (.value "reward window not found")
    | some window => do
      onRepository (.modify (·.storeRewardWindow settings.toSettings (recountRewardWindow window repo.toRepository)))
      .modify (·.touchRewardWindow window.id now)

def retryAnchorSettlementBatch (outside : ScoredOutside) (id : String) : PokerService Unit := do
  reconcile settings now outside
  onRepository (prepareAnchor settings.toSettings id)

def submitAnchorJob (outside : ScoredOutside) (batchID : String) : PokerService String := do
  reconcile settings now outside
  onRepository (submitReady now batchID)

def markAnchorJobAnchored (outside : ScoredOutside) (id : String) : PokerService Unit := do
  reconcile settings now outside
  let job ← onRepository (resolveAnchorJob id)
  .modify (·.anchorBatch job now)

def markAnchorJobFailed (outside : ScoredOutside) (reason id : String) : PokerService Unit := do
  reconcile settings now outside
  onRepository do
    let job ← resolveAnchorJob id
    .modify (·.endAnchorJob job (AnchorJob.fail reason) .anchorFailed)

def broadcastChainTx (answers : PokerAnswers) (id : String) : PokerService Unit := do
  let plan ← onRepository (buildChainTxPlan id)
  let _ ← onRepository (getAnchorJob id)
  match answers.broadcast plan with
  | .valueError message => do
    markAnchorJobFailed settings now answers.toScoredOutside message id
    .fail (.value message)
  | .otherError => .fail .type
  | .receipt txHash => onRepository (.modify (·.updateAnchorJob id fun job =>
      { job with state := .anchorSubmitted, broadcastTxHash := txHash }))

def retryFailedAnchorJobBroadcast (answers : Nat → PokerAnswers) (id : String) : PokerService Unit := do
  reconcile settings now (answers 0).toScoredOutside
  let job ← onRepository (resolveAnchorJob id)
  if job.state ≠ .anchorFailed then .fail (.value "anchor job not retryable")
  else do
    retryAnchorSettlementBatch settings now (answers 1).toScoredOutside job.settlementBatchID
    let jobID ← submitAnchorJob settings now (answers 2).toScoredOutside job.settlementBatchID
    broadcastChainTx settings now (answers 3) jobID

def closeAnchorJob (outside : ScoredOutside) (id : String) (raw : Option ConfirmationStatus) (rawLog : Option String) :
    PokerService Unit := do
  let status := normalizeChainConfirmationStatus raw
  onRepository (.modify (·.updateAnchorJob id fun job => { job with chainConfirmationStatus := some status }))
  if status = .confirmed then markAnchorJobAnchored settings now outside id
  else if isTerminal status then
    markAnchorJobFailed settings now outside
      ((rawLog.filter (· ≠ "")).getD s!"chain anchor confirmation {(raw.getD .pending).name}") id
  else pure ()

def confirmAnchorJobOnChain (answers : Nat → PokerAnswers) (id : String) : PokerService Unit := do
  reconcile settings now (answers 0).toScoredOutside
  let job ← onRepository (resolveAnchorJob id)
  match job.broadcastTxHash with
  | none => .fail (.value "anchor job missing broadcast tx hash")
  | some txHash =>
    if txHash = "" then .fail (.value "anchor job missing broadcast tx hash")
    else if job.state = .anchored then pure ()
    else do
      let batch ← onRepository (getSettlementBatch job.settlementBatchID)
      match (answers 0).confirm txHash batch.id with
      | .error failure => .fail failure
      | .ok receipt => .read fun repo => do
        let (raw,rawLog) := verdict settings.toSettings repo.toRepository job batch receipt
        closeAnchorJob settings now (answers 1).toScoredOutside job.id raw rawLog

def reconcilePendingAnchorJobsOnChain (answers : Nat → Nat → PokerAnswers) : PokerService Unit := do
  reconcile settings now (answers 0 0).toScoredOutside
  .read fun repo => .each (fun entry : AnchorJob × Nat =>
    .given (entry.1.state = .anchorSubmitted ∧ entry.1.broadcastTxHash.any (· ≠ "")) <|
      confirmAnchorJobOnChain settings now (answers (entry.2 + 1)) entry.1.id)
    (repo.anchorJobs.entries.map Prod.snd).zipIdx

end Calls

inductive PokerOperation where
  | changeInputs (inputs : Inputs)
  | registerMiner (address minerVersion : String) (ipAddress userAgent : Option String)
  | commitSubmission (taskRunID minerAddress requestID commitHash : String) (ipAddress userAgent : Option String)
  | revealSubmission (taskRunID minerAddress requestID : String) (pYesBps : Int) (revealNonce : String)
      (ipAddress userAgent : Option String)
  | reconcile (outside : ScoredOutside)
  | buildPokerMttRewardWindow (request : Request)
  | rebuildRewardWindow (outside : ScoredOutside) (id : String)
  | retryAnchorSettlementBatch (outside : ScoredOutside) (id : String)
  | submitAnchorJob (outside : ScoredOutside) (id : String)
  | broadcastChainTx (answers : PokerAnswers) (id : String)
  | retryFailedAnchorJobBroadcast (answers : Nat → PokerAnswers) (id : String)
  | confirmAnchorJobOnChain (answers : Nat → PokerAnswers) (id : String)
  | reconcilePendingAnchorJobsOnChain (answers : Nat → Nat → PokerAnswers)
  | markAnchorJobFailed (outside : ScoredOutside) (reason id : String)

section Runs
variable (settings : PokerSettings)

def PokerOperation.run (now : Time) : PokerOperation → PokerService Unit
  | .changeInputs inputs => .modify ({ · with inputs := inputs })
  | .registerMiner address version ip agent =>
    onRepository (Mining.registerMiner settings.toSettings now address version ip agent)
  | .commitSubmission task miner request commit ip agent =>
    onRepository (Mining.commitSubmission settings.toSettings now task miner request commit ip agent)
  | .revealSubmission task miner request bps nonce ip agent =>
    onRepository (Mining.revealSubmission settings.toSettings now task miner request bps nonce ip agent)
  | .reconcile outside => Poker.reconcile settings now outside
  | .buildPokerMttRewardWindow request => do
    let _ ← Poker.buildPokerMttRewardWindow settings request now
    pure ()
  | .rebuildRewardWindow outside id => Poker.rebuildRewardWindow settings now outside id
  | .retryAnchorSettlementBatch outside id => Poker.retryAnchorSettlementBatch settings now outside id
  | .submitAnchorJob outside id => do
    let _ ← Poker.submitAnchorJob settings now outside id
    pure ()
  | .broadcastChainTx answers id => Poker.broadcastChainTx settings now answers id
  | .retryFailedAnchorJobBroadcast answers id => Poker.retryFailedAnchorJobBroadcast settings now answers id
  | .confirmAnchorJobOnChain answers id => Poker.confirmAnchorJobOnChain settings now answers id
  | .reconcilePendingAnchorJobsOnChain answers => Poker.reconcilePendingAnchorJobsOnChain settings now answers
  | .markAnchorJobFailed outside reason id => Poker.markAnchorJobFailed settings now outside reason id

abbrev PokerCall := Time × PokerOperation

def PokerCall.after (call : PokerCall) (repo : PokerRepository) : PokerRepository := (call.2.run settings call.1 repo).2

def finishPoker (calls : List PokerCall) (repo : PokerRepository) : PokerRepository :=
  calls.foldl (fun repo call => call.after settings repo) repo

end Runs
end Clawchain.Poker
