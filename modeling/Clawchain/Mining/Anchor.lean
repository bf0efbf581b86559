import Clawchain.Mining.Windows

/-! Anchoring a settlement batch: its payload is fixed, a job is submitted, its message broadcast, and the chain's
answer confirms the job or fails it. -/
namespace Clawchain.Mining
open Clawchain.Lib

def anchorPayloadSchemaVersion : String := "clawchain.anchor_payload.v1"

/-! What is broadcast, and what the chain answers. -/

structure FutureMsg where
  (settlementBatchID anchorJobID : String)
  lane : Lane
  (schemaVersion policyBundleVersion canonicalRoot anchorPayloadHash rewardWindowIDsRoot : Option String)
  (taskRunIDsRoot minerRewardRowsRoot : Option String)
  windowEndAt : Int
  totalRewardAmount : Nat
  deriving DecidableEq, Repr

inductive BroadcastAnswer where
  | receipt (txHash : Option String)
  | valueError (message : String)
  | otherError

inductive AnchorField where
  | settlementBatchID
  | anchorJobID
  | lane
  | schemaVersion
  | policyBundleVersion
  | canonicalRoot
  | anchorPayloadHash
  | rewardWindowIDsRoot
  | taskRunIDsRoot
  | minerRewardRowsRoot
  | windowEndAt
  | totalRewardAmount
  deriving DecidableEq, Repr

def anchorFields : List AnchorField :=
  [.settlementBatchID,.anchorJobID,.lane,.schemaVersion,.policyBundleVersion,.canonicalRoot,.anchorPayloadHash,
    .rewardWindowIDsRoot,.taskRunIDsRoot,.minerRewardRowsRoot,.windowEndAt,.totalRewardAmount]

/-- A value in the chain's JSON; a missing one is null. -/
inductive Scalar where
  | null
  | text (value : String)
  | number (value : Int)
  | other
  deriving DecidableEq, Repr

def Scalar.ofOption (value : Option String) : Scalar := (value.map Scalar.text).getD .null

abbrev AnchorObject := AnchorField → Scalar

/-- The answer of a store query: its own fields, and the anchor unless that is null or empty. -/
structure QueryResponse where
  fields : AnchorObject
  isEmpty : Bool := false
  anchor : Option AnchorObject

structure Receipt where
  confirmationStatus : Option ConfirmationStatus
  confirmed : Option Bool := none
  queryResponse : Option QueryResponse := none
  rawLog : Option String := none
  fallbackMemo : Bool := false

structure Answers extends Outside where
  broadcast : FutureMsg → BroadcastAnswer := fun _ => .otherError
  confirm : String → String → Except ServiceError Receipt := fun _ _ => .error .type

def buildAnchorTxPlan (job : AnchorJob) (batch : SettlementBatch) : FutureMsg where
  settlementBatchID := batch.id
  anchorJobID := job.id
  lane := batch.lane
  schemaVersion := batch.anchorSchemaVersion <|> batch.anchorPayloadJSON.map fun _ => anchorPayloadSchemaVersion
  policyBundleVersion := batch.anchorPayloadJSON.map (·.policyBundleVersion)
  canonicalRoot := batch.canonicalRoot <|> batch.anchorPayloadJSON.map (·.canonicalRoot)
  anchorPayloadHash := batch.anchorPayloadHash
  rewardWindowIDsRoot := batch.anchorPayloadJSON.map (·.rewardWindowIDsRoot)
  taskRunIDsRoot := batch.anchorPayloadJSON.map (·.taskRunIDsRoot)
  minerRewardRowsRoot := batch.anchorPayloadJSON.map (·.minerRewardRowsRoot)
  windowEndAt := batch.windowEndAt
  totalRewardAmount := batch.totalRewardAmount

def expectedSettlementAnchor (job : AnchorJob) (batch : SettlementBatch) : AnchorObject
  | .settlementBatchID => .text batch.id
  | .anchorJobID => .text job.id
  | .lane => .text batch.lane.name
  | .schemaVersion =>
    .ofOption (batch.anchorSchemaVersion <|> batch.anchorPayloadJSON.map fun _ => anchorPayloadSchemaVersion)
  | .policyBundleVersion => .text ((batch.anchorPayloadJSON.map (·.policyBundleVersion)).getD batch.policyBundleVersion)
  | .canonicalRoot => .ofOption (batch.canonicalRoot <|> batch.anchorPayloadJSON.map (·.canonicalRoot))
  | .anchorPayloadHash => .ofOption batch.anchorPayloadHash
  | .rewardWindowIDsRoot => .ofOption (batch.anchorPayloadJSON.map (·.rewardWindowIDsRoot))
  | .taskRunIDsRoot => .ofOption (batch.anchorPayloadJSON.map (·.taskRunIDsRoot))
  | .minerRewardRowsRoot => .ofOption (batch.anchorPayloadJSON.map (·.minerRewardRowsRoot))
  | .windowEndAt => .text (isoText batch.windowEndAt)
  | .totalRewardAmount => .number batch.totalRewardAmount

/-- Where the query has no anchor, the query is taken for it. -/
def confirmSettlementAnchorResponse (query : QueryResponse) (settlementBatchID : String)
    (canonicalRoot anchorPayloadHash : Option String) (expectedAnchor : AnchorObject) (txConfirmed fallbackMemo : Bool) :
    Bool × ConfirmationStatus :=
  match query.anchor <|> (if query.isEmpty then none else some query.fields) with
  | none =>
    (false,if txConfirmed then
        if fallbackMemo then .fallbackMemoTxAcceptedNoTypedState else .typedTxAcceptedStateMissing
      else .stateMissing)
  | some anchor =>
    if anchor .settlementBatchID = .text settlementBatchID ∧ anchor .canonicalRoot = .ofOption canonicalRoot ∧
        anchor .anchorPayloadHash = .ofOption anchorPayloadHash then
      if anchorFields.all fun field => anchor field = expectedAnchor field then (true,.confirmed)
      else (false,.anchorMetadataMismatch)
    else if anchor .settlementBatchID ≠ .text settlementBatchID then (false,.settlementBatchMismatch)
    else (false,.rootHashMismatch)

def normalizeChainConfirmationStatus : Option ConfirmationStatus → ConfirmationStatus
  | none => .pending
  | some .typedTxAcceptedStateMissing | some .stateMissing => .typedStateMissing
  | some .fallbackMemoTxAcceptedNoTypedState => .fallbackMemoOnly
  | some .rootHashMismatch | some .settlementBatchMismatch => .rootMismatch
  | some .anchorMetadataMismatch => .metadataMismatch
  | some status => status

def isTerminal (status : ConfirmationStatus) : Bool :=
  status ∈ [.typedStateMissing,.fallbackMemoOnly,.rootMismatch,.metadataMismatch,.failed]

section Operations
variable (settings : Settings)

def windowRows (repo : Repository) (poker : Bool) (window : RewardWindow) :
    Except String (List RewardRow × List ProjectionRoots) :=
  if poker then
    match repo.projections.get? window.id with
    | none => .error "poker mtt reward window projection not found"
    | some projection => do
      let rows ← resolvePokerMttProjectionRewardRows settings.hash projection.artifacts
      return (rows,[{ projection.roots with rewardWindowID := window.id }])
  else do
    let rows ← match repo.memberships.get? window.id with
      | none => .ok []
      | some membership => resolveRewardWindowMembershipRows settings.hash membership
    if rows ≠ [] then return (rows,[])
    else return (buildForecastRewardComponentRows (window.taskRunIDs.flatMap repo.listSubmissionsForTask),[])

def canonicalRootInput (batch : SettlementBatch) (taskRunIDs : List String) (rows : List RewardRow)
    (roots : List ProjectionRoots) : CanonicalRootInput where
  policyBundleVersion := batch.policyBundleVersion
  settlementBatchID := batch.id
  lane := batch.lane
  windowStartAt := batch.windowStartAt
  windowEndAt := batch.windowEndAt
  rewardWindowIDsRoot := settings.hash.ids (batch.rewardWindowIDs.mergeSort)
  taskRunIDsRoot := settings.hash.ids taskRunIDs
  minerRewardRowsRoot := settings.hash.rows rows
  taskCount := batch.taskCount
  minerCount := batch.minerCount
  totalRewardAmount := batch.totalRewardAmount
  pokerProjectionRootsRoot := if roots = [] then none else some (settings.hash.projectionRoots roots)
  reputationDeltaRowsRoot :=
    if roots = [] then none
    else some (settings.hash.deltaRoots (roots.map fun root => (root.rewardWindowID,root.reputationDeltaRowsRoot)))

def anchorPayload (repo : Repository) (batch : SettlementBatch) : Except String (AnchorPayload × List Page) := do
  let windows := batch.rewardWindowIDs.filterMap repo.rewardWindows.get?
  let parts ← windows.mapM (windowRows settings repo batch.lane.isPoker)
  let taskRunIDs := sortedIDs (windows.flatMap (·.taskRunIDs))
  let rows := mergeRewardComponentRows (parts.flatMap Prod.fst)
  let roots := (parts.flatMap Prod.snd).mergeSort fun a b => a.rewardWindowID ≤ b.rewardWindowID
  let input := canonicalRootInput settings batch taskRunIDs rows roots
  let (paged,pages) ← buildPagedPayload settings.hash settings.pokerMttProjectionArtifactPageSize rows
  return ({ input with
    rewardWindowIDs := batch.rewardWindowIDs.mergeSort
    taskRunIDs := taskRunIDs
    canonicalRoot := settings.hash.canonicalRoot input
    rows := paged
    pokerProjectionRoots := roots },pages)

theorem anchorPayload_ok {repo : Repository} {batch : SettlementBatch} {payload : AnchorPayload} {pages : List Page}
    (computed : anchorPayload settings repo batch = .ok (payload,pages)) : ∃ parts taskRunIDs roots,
    (batch.rewardWindowIDs.filterMap repo.rewardWindows.get?).mapM (windowRows settings repo batch.lane.isPoker) = .ok parts ∧
      buildPagedPayload settings.hash settings.pokerMttProjectionArtifactPageSize
        (mergeRewardComponentRows (parts.flatMap Prod.fst)) = .ok (payload.rows,pages) ∧
      payload.toCanonicalRootInput =
        canonicalRootInput settings batch taskRunIDs (mergeRewardComponentRows (parts.flatMap Prod.fst)) roots := by
  unfold anchorPayload at computed
  dsimp only [bind,Except.bind] at computed
  cases listed : (batch.rewardWindowIDs.filterMap repo.rewardWindows.get?).mapM
      (windowRows settings repo batch.lane.isPoker) with
  | error message =>
    rw [listed] at computed
    cases computed
  | ok parts =>
    rw [listed] at computed
    dsimp only at computed
    cases paged : buildPagedPayload settings.hash settings.pokerMttProjectionArtifactPageSize
        (mergeRewardComponentRows (parts.flatMap Prod.fst)) with
    | error message =>
      rw [paged] at computed
      cases computed
    | ok result =>
      rw [paged] at computed
      cases computed
      exact ⟨parts,_,_,rfl,paged,rfl⟩

namespace Repository

def upsertSettlementAnchorArtifact (batchID : String) (payload : AnchorPayload) (pages : List Page) (repo : Repository) :
    Repository :=
  let earlier := ((repo.anchorArtifacts.get? batchID).map (·.pages)).getD OrdMap.empty
  let held := pages.foldl (fun held page => held.insert page.pageIndex page) earlier
  { repo with anchorArtifacts := repo.anchorArtifacts.insert batchID ⟨payload.rows,held⟩ }

def saveAnchorJob (job : AnchorJob) (repo : Repository) : Repository :=
  { repo with anchorJobs := repo.anchorJobs.insert job.id job }

def updateAnchorJob (id : String) (update : AnchorJob → AnchorJob) (repo : Repository) : Repository :=
  { repo with anchorJobs := repo.anchorJobs.modifyAt id update }

def updateSettlementBatch (id : String) (update : SettlementBatch → SettlementBatch) (repo : Repository) : Repository :=
  { repo with settlementBatches := repo.settlementBatches.modifyAt id update }

end Repository

def getSettlementBatch (id : String) : Service SettlementBatch :=
  require (·.settlementBatches.get? id) "settlement batch not found"

def getAnchorJob (id : String) : Service AnchorJob := require (·.anchorJobs.get? id) "anchor job not found"

def jobOf (id : String) (repo : Repository) : Option AnchorJob :=
  repo.anchorJobs.get? id <|> ((repo.settlementBatches.get? id).bind (·.anchorJobID)).bind repo.anchorJobs.get?

def resolveAnchorJob (id : String) : Service AnchorJob := require (jobOf id) "anchor job not found"

def SettlementBatch.fix (payload : AnchorPayload) (payloadHash : String) (batch : SettlementBatch) : SettlementBatch :=
  { batch with
    state := .anchorReady
    anchorJobID := none
    anchorSchemaVersion := some anchorPayloadSchemaVersion
    canonicalRoot := some payload.canonicalRoot
    anchorPayloadJSON := some payload
    anchorPayloadHash := some payloadHash }

def fixAnchorPayload (id : String) (batch : SettlementBatch) (payload : AnchorPayload) (pages : List Page) : Service Unit :=
  let payloadHash := settings.hash.payload payload
  if batch.canonicalRoot.isSome ∧
      (batch.canonicalRoot ≠ some payload.canonicalRoot ∨ batch.anchorPayloadHash ≠ some payloadHash) then
    refuse "settlement batch canonical root conflict"
  else if batch.canonicalRoot.isSome ∧ batch.state ∈ [.anchorReady,.anchorSubmitted,.anchored] then
    match batch.anchorPayloadJSON with
    | none => pure ()
    | some stored => .modify (·.upsertSettlementAnchorArtifact id stored [])
  else do
    .modify (·.upsertSettlementAnchorArtifact id payload pages)
    .modify (·.updateSettlementBatch id (SettlementBatch.fix payload payloadHash))

def retryAnchorSettlementBatch (outside : Outside) (now : Time) (id : String) : Service Unit := do
  reconcile settings outside now
  let batch ← getSettlementBatch id
  if batch.state = .cancelled ∨ batch.totalRewardAmount = 0 then refuse "settlement batch not anchorable"
  else if batch.lane.isPoker ∧ settings.pokerMttSettlementAnchoringEnabled = false then
    refuse "poker mtt settlement anchoring disabled"
  else .read fun repo =>
    match anchorPayload settings repo batch with
    | .error message => refuse message
    | .ok (payload,pages) => fixAnchorPayload settings id batch payload pages

def newAnchorJob (now : Time) (batchID payloadHash : String) (lane : Lane) (repo : Repository) : AnchorJob where
  id := freshAnchorJobID repo.anchorJobs (anchorJobIDs batchID now)
  settlementBatchID := batchID
  lane := lane
  anchorPayloadHash := payloadHash

def Repository.enlistAnchorJob (job : AnchorJob) (repo : Repository) : Repository :=
  (repo.saveAnchorJob job).updateSettlementBatch job.settlementBatchID fun batch =>
    { batch with state := .anchorSubmitted, anchorJobID := some job.id }

def submitAnchorJob (outside : Outside) (now : Time) (batchID : String) : Service String := do
  reconcile settings outside now
  let batch ← getSettlementBatch batchID
  if batch.state ≠ .anchorReady then refuse "settlement batch not anchor_ready"
  else
    match batch.anchorPayloadHash,batch.anchorPayloadJSON with
    | some payloadHash,some _ => .read fun repo => do
      let job := newAnchorJob now batchID payloadHash batch.lane repo
      .modify (·.enlistAnchorJob job)
      return job.id
    | _,_ => refuse "settlement batch missing anchor payload"

/-- A job that ends takes its batch with it, if it is the batch's job. -/
def Repository.endAnchorJob (job : AnchorJob) (update : AnchorJob → AnchorJob) (batchState : BatchState)
    (repo : Repository) : Repository :=
  (repo.updateAnchorJob job.id update).updateSettlementBatch job.settlementBatchID fun batch =>
    if batch.anchorJobID = some job.id then { batch with state := batchState } else batch

def AnchorJob.anchor (now : Time) (job : AnchorJob) : AnchorJob :=
  { job with
    state := .anchored, chainConfirmationStatus := some .confirmed, anchoredAt := some now, failureReason := none }

def AnchorJob.fail (reason : String) (job : AnchorJob) : AnchorJob :=
  { job with state := .anchorFailed, failureReason := some reason }

def markAnchorJobTerminal (outside : Outside) (now : Time) (update : AnchorJob → AnchorJob) (batchState : BatchState)
    (id : String) : Service Unit := do
  reconcile settings outside now
  let job ← resolveAnchorJob id
  .modify (·.endAnchorJob job update batchState)

def markAnchorJobAnchored (outside : Outside) (now : Time) (id : String) : Service Unit :=
  markAnchorJobTerminal settings outside now (AnchorJob.anchor now) .anchored id

def markAnchorJobFailed (outside : Outside) (now : Time) (reason id : String) : Service Unit :=
  markAnchorJobTerminal settings outside now (AnchorJob.fail reason) .anchorFailed id

def buildChainTxPlan (id : String) : Service FutureMsg := do
  let job ← getAnchorJob id
  let batch ← getSettlementBatch job.settlementBatchID
  if batch.anchorPayloadJSON.isNone ∨ batch.canonicalRoot.isNone then
    refuse "settlement batch missing canonical anchor payload"
  else pure (buildAnchorTxPlan job batch)

def broadcastChainTx (answers : Answers) (now : Time) (id : String) : Service Unit := do
  let plan ← buildChainTxPlan id
  let _ ← getAnchorJob id
  match answers.broadcast plan with
  | .valueError message => do
    markAnchorJobFailed settings answers.toOutside now message id
    refuse message
  | .otherError => .fail .type
  | .receipt txHash => .modify (·.updateAnchorJob id fun job =>
      { job with state := .anchorSubmitted, broadcastTxHash := txHash })

def retryFailedAnchorJobBroadcast (answers : Nat → Answers) (now : Time) (id : String) : Service Unit := do
  reconcile settings (answers 0).toOutside now
  let job ← resolveAnchorJob id
  if job.state ≠ .anchorFailed then refuse "anchor job not retryable"
  else do
    retryAnchorSettlementBatch settings (answers 1).toOutside now job.settlementBatchID
    let jobID ← submitAnchorJob settings (answers 2).toOutside now job.settlementBatchID
    broadcastChainTx settings (answers 3) now jobID

def verdict (repo : Repository) (job : AnchorJob) (batch : SettlementBatch) (receipt : Receipt) :
    Option ConfirmationStatus × Option String :=
  if receipt.confirmationStatus = some .confirmed then
    match receipt.queryResponse with
    | some query =>
      let pages := ((repo.anchorArtifacts.get? batch.id).map (·.pages)).getD OrdMap.empty
      let rows := (batch.anchorPayloadJSON.map (·.rows)).getD { minerRewardRowsRoot := "" }
      match resolveSettlementAnchorRewardRows settings.hash rows pages with
      | .error message => (some .rootHashMismatch,some message)
      | .ok _ =>
        (some (confirmSettlementAnchorResponse query batch.id batch.canonicalRoot batch.anchorPayloadHash
          (expectedSettlementAnchor job batch) true receipt.fallbackMemo).2,receipt.rawLog)
    | none =>
      if receipt.confirmed ≠ some true then (some .typedTxAcceptedStateMissing,receipt.rawLog)
      else (some .confirmed,receipt.rawLog)
  else (receipt.confirmationStatus,receipt.rawLog)

def closeAnchorJob (outside : Outside) (now : Time) (id : String) (raw : Option ConfirmationStatus)
    (rawLog : Option String) : Service Unit := do
  let status := normalizeChainConfirmationStatus raw
  .modify (·.updateAnchorJob id fun job => { job with chainConfirmationStatus := some status })
  if status = .confirmed then markAnchorJobAnchored settings outside now id
  else if isTerminal status then
    markAnchorJobFailed settings outside now
      ((rawLog.filter (· ≠ "")).getD s!"chain anchor confirmation {(raw.getD .pending).name}") id
  else pure ()

def confirmAnchorJobOnChain (answers : Nat → Answers) (now : Time) (id : String) : Service Unit := do
  reconcile settings (answers 0).toOutside now
  let job ← resolveAnchorJob id
  match job.broadcastTxHash with
  | none => refuse "anchor job missing broadcast tx hash"
  | some txHash =>
    if txHash = "" then refuse "anchor job missing broadcast tx hash"
    else if job.state = .anchored then pure ()
    else do
      let batch ← getSettlementBatch job.settlementBatchID
      match (answers 0).confirm txHash batch.id with
      | .error failure => .fail failure
      | .ok receipt => .read fun repo => do
        let (raw,rawLog) := verdict settings repo job batch receipt
        closeAnchorJob settings (answers 1).toOutside now job.id raw rawLog

def reconcilePendingAnchorJobsOnChain (answers : Nat → Nat → Answers) (now : Time) : Service Unit := do
  reconcile settings (answers 0 0).toOutside now
  .read fun repo => .each (fun entry : AnchorJob × Nat =>
    .given (entry.1.state = .anchorSubmitted ∧ entry.1.broadcastTxHash.any (· ≠ "")) <|
      confirmAnchorJobOnChain settings (answers (entry.2 + 1)) now entry.1.id)
    (repo.anchorJobs.entries.map Prod.snd).zipIdx

end Operations
end Clawchain.Mining
