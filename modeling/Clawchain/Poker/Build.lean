import Clawchain.Poker.Selection

/-! Building a poker window: its results are weighed, the pool is split among the economic units, the epoch budget is asked,
and the window, its ledger, its projection and its batch are written. -/
namespace Clawchain.Poker
open Clawchain.Lib Clawchain.Mining

structure Request where
  lane : Lane
  (windowStartAt windowEndAt : Int)
  rewardPoolAmount : Nat
  includeProvisional : Bool
  policyBundleVersion : Option String := none
  metadata : Option ProjectionMetadata := none
  rewardWindowID : Option String := none
  deriving DecidableEq, Repr

def Request.id (request : Request) : String :=
  (request.rewardWindowID.filter (· ≠ "")).getD
    (pokerMttRewardWindowID request.lane request.windowStartAt request.windowEndAt)

def Result.ref (result : Result) : ResultRef where
  id := result.id
  tournamentID := result.tournamentID
  minerAddress := result.minerAddress
  economicUnitID := result.economicUnitID
  finalRank := result.finalRank
  totalScore := result.totalScore
  finalRankingID := result.finalRankingID
  standingSnapshotID := result.standingSnapshotID
  standingSnapshotHash := result.standingSnapshotHash
  evidenceRoot := result.evidenceRoot
  evidenceState := result.evidenceState
  evaluationVersion := result.evaluationVersion
  lockedAt := result.lockedAt
  anchorableAt := result.anchorableAt

def FinalRanking.input (ranking : FinalRanking) : FinalRankingInput where
  id := ranking.id
  tournamentID := ranking.tournamentID
  minerAddress := orElse ranking.minerAddress ranking.sourceUserID
  rank := ranking.rank
  rankState := ranking.rankState
  standingSnapshotID := ranking.standingSnapshotID
  standingSnapshotHash := ranking.standingSnapshotHash
  evidenceRoot := ranking.evidenceRoot
  evidenceState := ranking.evidenceState
  policyBundleVersion := ranking.policyBundleVersion

def Correction.ref (correction : Correction) : CorrectionRef where
  id := correction.id
  targetEntityID := correction.targetEntityID
  previousRoot := correction.previousRoot
  correctedRoot := correction.correctedRoot
  reason := correction.reason
  createdAt := correction.createdAt

def byTarget (a b : CorrectionRef) : Prop :=
  let order (ref : CorrectionRef) := toLex (ref.targetEntityID,toLex (ref.createdAt,ref.id))
  order a ≤ order b

instance : DecidableRel byTarget := fun _ _ => inferInstanceAs (Decidable (_ ≤ _))

namespace PokerRepository
variable (repo : PokerRepository)

def listCorrections : List Correction :=
  (repo.inputs.corrections.entries.map Prod.snd).filter (·.targetEntityType = "poker_mtt_result")

def correctionRefs (resultIDs : List String) : List CorrectionRef :=
  ((resultIDs.flatMap fun id => repo.listCorrections.filter (·.targetEntityID = id)).map Correction.ref).insertionSort byTarget

def minerRef (minerAddress : String) : Option MinerRef := do
  let miner ← repo.miners.get? minerAddress
  let identity ← repo.inputs.identities.get? minerAddress
  return ⟨miner.address,miner.economicUnitID,identity⟩

def inputRefs (selected : List Result) (multiplierRefs : List MultiplierInputRow) : InputRefs :=
  let sorted := selected.insertionSort fun a b => a.id ≤ b.id
  { resultRefs := sorted.map Result.ref
    finalRankingRefs := (sorted.filterMap fun result => (repo.finalRankingOf result).map FinalRanking.input).insertionSort
      fun a b => a.id ≤ b.id
    minerRefs := (sorted.filterMap fun result => repo.minerRef result.minerAddress).insertionSort
      fun a b => a.address ≤ b.address
    ratingRefs := (sorted.filterMap fun result => repo.latestRating result.minerAddress).insertionSort
      fun a b => a.minerAddress ≤ b.minerAddress
    multiplierRefs := multiplierRefs }

end PokerRepository

structure WindowInputs where
  policyBundleVersion : String
  (selected weighted : List Result)
  multiplierInputRows : List MultiplierInputRow
  correctionRefs : List CorrectionRef
  refs : InputRefs

section Build
variable (settings : PokerSettings) (request : Request)

def Request.policy (existing : Option RewardWindow) : String :=
  (orElse request.policyBundleVersion (orElse (existing.map (·.policyBundleVersion))
    (some (defaultPokerMttPolicyBundleVersion settings request.lane)))).getD ""

def selectedResults (current : Int) (policyBundleVersion : String) (repo : PokerRepository) : List Result :=
  (repo.inputs.listResultsForRewardWindow request.windowStartAt request.windowEndAt request.includeProvisional
    policyBundleVersion).filter (repo.counts current)

def windowInputs (current : Int) (existing : Option RewardWindow) (repo : PokerRepository) : Except String WindowInputs :=
  let policy := request.policy settings existing
  let selected := selectedResults request current policy repo
  if selected = [] then .error "no poker mtt results found for reward window"
  else
    let (weighted,rows) := applyEffectiveRewardMultipliers settings.floats selected
      (repo.multiplierSnapshots request.windowStartAt request.windowEndAt)
    .ok
      { policyBundleVersion := policy
        selected := selected
        weighted := weighted
        multiplierInputRows := rows
        correctionRefs := repo.correctionRefs (sortedIDs (selected.map (·.id)))
        refs := repo.inputRefs selected rows }

def unchanged (inputs : WindowInputs) (existing : RewardWindow) (projection : Projection) : Bool :=
  projection.inputSnapshotRoot = settings.pokerHash.inputs inputs.refs &&
    projection.rewardPoolAmount = request.rewardPoolAmount &&
    projection.policyBundleVersion = inputs.policyBundleVersion &&
    projection.aggregationPolicyVersion = settings.pokerMttRewardAggregationPolicyVersion &&
    projection.correctionLineageRoot = settings.pokerHash.corrections inputs.correctionRefs &&
    projection.roots.reputationDeltaRowsRoot ≠ "" &&
    projection.includeProvisional = request.includeProvisional &&
    (!settings.pokerMttBudgetEnforcementEnabled || projection.roots.budgetRoot ≠ "") &&
    (existing.settlementBatchID.isSome || existing.state = .noPositiveWeight)

structure Weights where
  (scores rewards : List UnitWeight)

def weigh (inputs : WindowInputs) (miners : String → Option Miner) : Except String Weights := do
  let scores ← aggregateRewardWeights settings.floats inputs.selected settings.pokerMttRewardAggregationPolicyVersion miners
  let rewards ← aggregateRewardWeights settings.floats inputs.weighted settings.pokerMttRewardAggregationPolicyVersion miners
  return ⟨scores,rewards⟩

def Weights.rewardOf (weights : Weights) (unit : String) : ℚ :=
  ((weights.rewards.find? (·.economicUnitID = unit)).map (·.scoreWeight)).getD 0

def Weights.positive (weights : Weights) : Bool :=
  0 < settings.floats.sum ((weights.rewards.map (·.scoreWeight)).filter (0 < ·))

def allocationWeights (weightedItems : List (String × ℚ)) : List (String × ℚ) × ℚ :=
  let positive := weightedItems.map fun item => (item.1,max 0 item.2)
  let total := settings.floats.sum (positive.map Prod.snd)
  if total ≤ 0 then (weightedItems.map fun item => (item.1,1),settings.floats.round weightedItems.length) else (positive,total)

def allocateIntegerPoolByWeights (weightedItems : List (String × ℚ)) (totalAmount : Nat) : List (String × Nat) :=
  if totalAmount = 0 ∨ weightedItems = [] then weightedItems.map fun item => (item.1,0)
  else
    let (items,total) := allocationWeights settings weightedItems
    items.map fun item => (item.1,Apportion.share settings.floats total totalAmount items item)

def Weights.allocations (weights : Weights) (rewardPoolAmount : Nat) : List (String × Nat) :=
  if weights.positive settings then
    allocateIntegerPoolByWeights settings (weights.scores.map fun unit => (unit.economicUnitID,weights.rewardOf unit.economicUnitID))
      rewardPoolAmount
  else weights.scores.map fun unit => (unit.economicUnitID,0)

def Weights.rows (weights : Weights) (rewardPoolAmount : Nat) : List RewardRow :=
  weights.scores.map fun unit =>
    { minerAddress := unit.representativeMiner
      submissionCount := unit.submissionCount
      grossRewardAmount := ((weights.allocations settings rewardPoolAmount).lookup unit.economicUnitID).getD 0 }

def reputationDeltaCap : Lane → Int
  | .pokerMttWeekly => 25
  | _ => 10

def reputationDeltaFromWeight (scoreWeight : ℚ) (deltaCap : Int) : Int :=
  max 0 (min deltaCap (roundHalfEven (settings.floats.round (max 0 scoreWeight * deltaCap))))

def PokerRepository.priorScoreRef (repo : PokerRepository) (minerAddress : String) : String :=
  (orElse ((repo.latestRating minerAddress).map (·.id)) (some "none")).getD ""

def resultUnit (result : Result) : String := (orElse result.economicUnitID (some result.minerAddress)).getD ""

def reputationDeltaRows (inputs : WindowInputs) (weights : Weights) (settlementBatchID : Option String)
    (repo : PokerRepository) : List ReputationDeltaRow :=
  (weights.scores.filter fun unit => 0 < unit.scoreWeight).map fun unit =>
    let sources := sortedIDs ((Groups.group resultUnit inputs.selected unit.economicUnitID).map (·.id))
    let corrections := repo.correctionRefs sources
    { rewardWindowID := request.id
      settlementBatchID := settlementBatchID
      lane := request.lane
      windowStartAt := request.windowStartAt
      windowEndAt := request.windowEndAt
      policyBundleVersion := inputs.policyBundleVersion
      aggregationPolicyVersion := settings.pokerMttRewardAggregationPolicyVersion
      minerAddress := unit.representativeMiner
      economicUnitID := unit.economicUnitID
      priorScoreRef := repo.priorScoreRef unit.representativeMiner
      delta := reputationDeltaFromWeight settings unit.scoreWeight (reputationDeltaCap request.lane)
      deltaCap := reputationDeltaCap request.lane
      scoreWeight := unit.scoreWeight
      grossRewardAmount := ((weights.allocations settings request.rewardPoolAmount).lookup unit.economicUnitID).getD 0
      submissionCount := unit.submissionCount
      sourceResultIDsRoot := settings.hash.ids sources
      sourceResultCount := sources.length
      correctionCount := corrections.length
      correctionLineageRoot := settings.pokerHash.corrections corrections }

def budgetLedgerID (budgetSourceID emissionEpochID rewardWindowID : String) : String :=
  "poker_mtt_budget:" ++ budgetSourceID ++ ":" ++ emissionEpochID ++ ":" ++ rewardWindowID

def priorApprovedAmount (budgetSourceID emissionEpochID rewardWindowID : String) (ledgers : OrdMap String BudgetLedger) : Nat :=
  (((ledgers.entries.map Prod.snd).filter fun row => row.budgetSourceID = budgetSourceID &&
    row.emissionEpochID = emissionEpochID && row.rewardWindowID ≠ rewardWindowID && row.state ≠ .cancelled &&
    row.state ≠ .rejected).map (·.approvedAmount)).sum

def budgetDisposition (positive : Bool) : BudgetDisposition where
  state := if positive then .reserved else .forfeited
  requestedRewardPoolAmount := request.rewardPoolAmount
  approvedAmount := if positive then request.rewardPoolAmount else 0
  paidAmount := 0
  forfeitedAmount := if positive then 0 else request.rewardPoolAmount

def budgetPayload (disposition : BudgetDisposition) (policyBundleVersion : String) : BudgetPayload where
  budgetSourceID := (orElse settings.pokerMttBudgetSourceID (some "unbudgeted")).getD ""
  emissionEpochID := (orElse settings.pokerMttEmissionEpochID (some "unbudgeted")).getD ""
  lane := request.lane
  rewardWindowID := request.id
  windowStartAt := request.windowStartAt
  windowEndAt := request.windowEndAt
  requestedAmount := disposition.requestedRewardPoolAmount
  approvedAmount := disposition.approvedAmount
  paidAmount := disposition.paidAmount
  forfeitedAmount := disposition.forfeitedAmount
  rolledAmount := 0
  state := disposition.state
  policyBundleVersion := policyBundleVersion

def prepareBudgetLedger (disposition : BudgetDisposition) (policyBundleVersion : String)
    (ledgers : OrdMap String BudgetLedger) : Except String (BudgetDisposition × Option BudgetLedger) :=
  let payload := budgetPayload settings request disposition policyBundleVersion
  let root := settings.pokerHash.budget payload
  if settings.pokerMttBudgetEnforcementEnabled = false then
    .ok ({ disposition with budgetRoot := root, budgetEnforcement := "disabled" },none)
  else if !present settings.pokerMttBudgetSourceID then
    .error "poker mtt budget_source_id is required when budget enforcement is enabled"
  else if !present settings.pokerMttEmissionEpochID then
    .error "poker mtt emission_epoch_id is required when budget enforcement is enabled"
  else if settings.pokerMttEmissionEpochBudgetAmount ≤ 0 then .error "poker mtt emission epoch budget must be positive"
  else
    let prior := priorApprovedAmount payload.budgetSourceID payload.emissionEpochID request.id ledgers
    if settings.pokerMttEmissionEpochBudgetAmount < (prior + payload.approvedAmount : Nat) then
      .error "poker mtt reward window exceeds emission epoch budget"
    else
      .ok ({ disposition with
          budgetSourceID := settings.pokerMttBudgetSourceID
          emissionEpochID := settings.pokerMttEmissionEpochID
          emissionEpochBudgetAmount := some settings.pokerMttEmissionEpochBudgetAmount
          budgetUsedBefore := some prior
          budgetRemainingAfter := some (settings.pokerMttEmissionEpochBudgetAmount - prior - payload.approvedAmount)
          budgetRoot := root
          budgetEnforcement := "enabled" },
        some { payload with
          id := budgetLedgerID payload.budgetSourceID payload.emissionEpochID request.id
          settlementBatchID := none
          budgetRoot := root })

def projectedSettlementBatchID (existing : Option RewardWindow) (weights : Weights) : Option String :=
  if weights.positive settings then
    orElse (existing.bind (·.settlementBatchID)) (some (settlementBatchIDOf request.id))
  else none

def projectionPayload (inputs : WindowInputs) (weights : Weights) (existing : Option RewardWindow)
    (disposition : BudgetDisposition) (repo : PokerRepository) : ProjectionPayload :=
  let settlementBatchID := projectedSettlementBatchID settings request existing weights
  let deltaRows := reputationDeltaRows settings request inputs weights settlementBatchID repo
  let byID := inputs.selected.insertionSort fun a b => a.id ≤ b.id
  { rewardWindowID := request.id
    lane := request.lane
    windowStartAt := request.windowStartAt
    windowEndAt := request.windowEndAt
    rewardPoolAmount := request.rewardPoolAmount
    policyBundleVersion := inputs.policyBundleVersion
    aggregationPolicyVersion := settings.pokerMttRewardAggregationPolicyVersion
    includeProvisional := request.includeProvisional
    settlementBatchID := settlementBatchID
    tournamentIDs := sortedIDs (inputs.selected.map (·.tournamentID))
    pokerMttResultIDs := byID.map (·.id)
    inputSnapshotRoot := settings.pokerHash.inputs inputs.refs
    correctionLineageRoot := settings.pokerHash.corrections inputs.correctionRefs
    correctionCount := inputs.correctionRefs.length
    minerRewardRows := weights.rows settings request.rewardPoolAmount
    budgetDisposition := disposition
    budgetRoot := disposition.budgetRoot
    finalRankingRoot := settings.pokerHash.finalRankings (byID.map fun result =>
      ⟨result.id,result.finalRankingID,result.standingSnapshotID,result.standingSnapshotHash⟩)
    evidenceRoot := settings.pokerHash.evidence (byID.map fun result => ⟨result.id,result.evidenceRoot,result.evidenceState⟩)
    ratingSnapshotRoot := settings.pokerHash.ratings (((weights.scores.map (·.representativeMiner)).filterMap
      repo.latestRating).insertionSort fun a b => toLex (a.minerAddress,a.id) ≤ toLex (b.minerAddress,b.id))
    multiplierSnapshotRoot := settings.pokerHash.multipliers inputs.multiplierInputRows
    reputationDeltaRowsRoot := settings.pokerHash.deltaRows deltaRows
    reputationDeltaRowsSample := deltaRows.take 10
    metadata := request.metadata }

def pokerBuild (poker : request.lane.isPoker = true) (inputs : WindowInputs) (weights : Weights)
    (budget : Except String (BudgetDisposition × Option BudgetLedger)) (existing : Option RewardWindow)
    (repo : PokerRepository) : PokerBuild :=
  let disposition := (budget.toOption.map Prod.fst).getD (budgetDisposition request (weights.positive settings))
  let payload := projectionPayload settings request inputs weights existing disposition repo
  { rewardWindowID := request.rewardWindowID
    lane := request.lane
    isPoker := poker
    windowStartAt := request.windowStartAt
    windowEndAt := request.windowEndAt
    rewardPoolAmount := request.rewardPoolAmount
    includeProvisional := request.includeProvisional
    policyBundleVersion := inputs.policyBundleVersion
    aggregationPolicyVersion := settings.pokerMttRewardAggregationPolicyVersion
    inputSnapshotRoot := payload.inputSnapshotRoot
    correctionLineageRoot := payload.correctionLineageRoot
    budgetEnforced := settings.pokerMttBudgetEnforcementEnabled
    tournamentIDs := payload.tournamentIDs
    submissionCount := inputs.selected.length
    hasPositiveWeight := weights.positive settings
    minerRewardRows := payload.minerRewardRows
    budget := budget.map fun _ => ()
    roots :=
      { rewardWindowID := request.id
        policyBundleVersion := inputs.policyBundleVersion
        finalRankingRoot := payload.finalRankingRoot
        evidenceRoot := payload.evidenceRoot
        multiplierSnapshotRoot := payload.multiplierSnapshotRoot
        budgetRoot := payload.budgetRoot
        reputationDeltaRowsRoot := payload.reputationDeltaRowsRoot
        projectionRoot := settings.pokerHash.projection payload } }

def PokerRepository.touchRewardWindow (id : String) (now : Time) (repo : PokerRepository) : PokerRepository :=
  { repo with windowUpdatedAt := repo.windowUpdatedAt.insert id (isoformatZ now) }

def syncRewardWindow (now : Time) (window : RewardWindow) (repo : PokerRepository) : PokerRepository :=
  let synced := { repo with toRepository := syncSettlementBatch settings.toSettings window repo.toRepository }
  if window.settlementBatchID.isSome then synced else synced.touchRewardWindow window.id now

def PokerRepository.saveBudgetLedger (ledger : BudgetLedger) (repo : PokerRepository) : PokerRepository :=
  { repo with budgetLedgers := repo.budgetLedgers.insert ledger.id ledger }

def saveLedger : Option BudgetLedger → PokerService Unit
  | none => pure ()
  | some ledger => .modify (·.saveBudgetLedger ledger)

def relinkLedger (settlementBatchID : Option String) (ledger : Option BudgetLedger) : PokerService Unit :=
  saveLedger ((ledger.filter (·.settlementBatchID ≠ settlementBatchID)).map ({ · with settlementBatchID := settlementBatchID }))

def returnedWindow (build : PokerBuild) (existing : Option RewardWindow) (ledger : Option BudgetLedger) :
    PokerService RewardWindow := .read fun repo => do
  let returned := (repo.rewardWindows.get? build.id).getD (build.window existing)
  relinkLedger returned.settlementBatchID ledger
  return returned

def writeRewardWindow (now : Time) (build : PokerBuild) (ledger : Option BudgetLedger) (existing : Option RewardWindow)
    (projection : Option Projection) : PokerService RewardWindow := do
  onRepository (.modify (·.storeRewardWindow settings.toSettings (build.window existing)))
  .given (existing ≠ some (build.window existing)) <| .modify (·.touchRewardWindow build.id now)
  saveLedger ledger
  match buildPagedPayload settings.hash settings.pokerMttProjectionArtifactPageSize build.minerRewardRows with
  | .error message => .fail (.value message)
  | .ok (rows,pages) => do
    onRepository (.modify fun repo =>
      { repo with projections := repo.projections.insert build.id (build.projection projection rows pages) })
    .given (build.hasPositiveWeight = true ∧ (existing ≠ some (build.window existing) ∨
        projection.map (·.roots.projectionRoot) ≠ some build.roots.projectionRoot ∨
        (existing.bind (·.settlementBatchID)).isNone)) <|
      .modify (syncRewardWindow settings now (build.window existing))
    returnedWindow build existing ledger

def projectionOf (repo : PokerRepository) : Option Projection :=
  (repo.rewardWindows.get? request.id).bind fun _ => repo.projections.get? request.id

def standingWindow (inputs : WindowInputs) (repo : PokerRepository) : Option RewardWindow :=
  (repo.rewardWindows.get? request.id).filter fun existing =>
    (projectionOf request repo).any (unchanged settings request inputs existing)

def computeRewardWindow (now : Time) (poker : request.lane.isPoker = true) (inputs : WindowInputs) : PokerService RewardWindow :=
  .read fun repo =>
    match weigh settings inputs repo.miners.get? with
    | .error message => .fail (.value message)
    | .ok weights =>
      let existing := repo.rewardWindows.get? request.id
      let budget := prepareBudgetLedger settings request (budgetDisposition request (weights.positive settings))
        inputs.policyBundleVersion repo.budgetLedgers
      let build := pokerBuild settings request poker inputs weights budget existing repo
      do
        onRepository (cancelUnpaidBatch build existing)
        match budget with
        | .error message => .fail (.value message)
        | .ok (_,ledger) => writeRewardWindow settings now build ledger existing (projectionOf request repo)

def buildPokerMttRewardWindow (now : Time) : PokerService RewardWindow := .read fun repo =>
  if poker : request.lane.isPoker = true then
    if request.windowEndAt ≤ request.windowStartAt then .fail (.value "window_end_at must be after window_start_at")
    else
      match (repo.rewardWindows.get? request.id).filter (batchClosed repo.toRepository) with
      | some existing => pure existing
      | none =>
        match windowInputs settings request (isoformatZ now) (repo.rewardWindows.get? request.id) repo with
        | .error message => .fail (.value message)
        | .ok inputs =>
          match standingWindow settings request inputs repo with
          | some existing => pure existing
          | none => computeRewardWindow settings request now poker inputs
  else .fail (.value "invalid poker mtt reward window lane")

end Build
end Clawchain.Poker
