import Clawchain.Mining.Settle

/-! Reward windows gather the resolved tasks of an hour, or the results of a poker lane, and each has a settlement
batch that follows it while it is open. -/
namespace Clawchain.Mining
open Clawchain.Lib

def policyBundleVersion : String := "pb_2026_04_09_a"

section Windows
variable (settings : Settings)

def RewardWindow.membership (window : RewardWindow) : RowArtifacts where
  rows := { minerRewardRowsRoot := settings.hash.rows window.minerRewardRows, minerRewardRows := window.minerRewardRows }

namespace Repository

def saveRewardWindow (window : RewardWindow) (repo : Repository) : Repository :=
  { repo with rewardWindows := repo.rewardWindows.insert window.id window }

def upsertRewardWindowArtifact (window : RewardWindow) (repo : Repository) : Repository :=
  { repo with memberships := repo.memberships.insert window.id (window.membership settings) }

def storeRewardWindow (window : RewardWindow) (repo : Repository) : Repository :=
  (repo.saveRewardWindow window).upsertRewardWindowArtifact settings window

def saveSettlementBatch (batch : SettlementBatch) (repo : Repository) : Repository :=
  { repo with settlementBatches := repo.settlementBatches.insert batch.id batch }

end Repository

def Task.unwindowed (task : Task) : Bool :=
  task.lane = .forecast15m && task.state = .resolved && task.rewardWindowID.isNone

def sortedIDs (ids : List String) : List String := addresses id ids

def buildRewardWindow (rewardWindowID : String) (tasks : List Task) (repo : Repository) : Repository :=
  let existing := repo.rewardWindows.get? rewardWindowID
  let taskRunIDs := sortedIDs ((existing.map (·.taskRunIDs)).getD [] ++ tasks.map (·.taskRunID))
  let listed := taskRunIDs.filterMap repo.tasks.get?
  let submissions := listed.flatMap fun task =>
    (repo.listSubmissionsForTask task.taskRunID).filter (·.pYesBps.isSome)
  let moved := submissions.foldl (fun repo submission =>
    if submission.rewardWindowID ≠ some rewardWindowID then
      repo.saveSubmission { submission with rewardWindowID := some rewardWindowID } else repo) repo
  let stamped := listed.foldl (fun repo task =>
    if task.rewardWindowID ≠ some rewardWindowID then
      repo.upsertTask { task with rewardWindowID := some rewardWindowID } else repo) moved
  let rows := buildForecastRewardComponentRows submissions
  let minerAddresses := sortedIDs (submissions.map (·.minerAddress))
  let start := ((tasks.head?.map (·.resolveAt)).map hourBucketStart).getD 0
  let window : RewardWindow :=
    { id := rewardWindowID
      lane := .forecast15m
      windowStartAt := start
      windowEndAt := start + 3600
      taskCount := taskRunIDs.length
      submissionCount := submissions.length
      minerCount := minerAddresses.length
      totalRewardAmount := totalReward rows
      settlementBatchID := existing.bind (·.settlementBatchID)
      taskRunIDs := taskRunIDs
      minerAddresses := minerAddresses
      minerRewardRows := rows
      policyBundleVersion := (existing.map (·.policyBundleVersion)).getD policyBundleVersion }
  stamped.storeRewardWindow settings window

def buildRewardWindows (repo : Repository) : Repository :=
  let waiting := repo.listTasks.filter Task.unwindowed
  let windowOf (task : Task) := forecastRewardWindowID task.resolveAt
  (addresses windowOf waiting).foldl
    (fun repo id => buildRewardWindow settings id (Groups.group windowOf waiting id) repo) repo

def syncSettlementBatch (window : RewardWindow) (repo : Repository) : Repository :=
  let id := window.settlementBatchID.getD (settlementBatchIDOf window.id)
  let figures (batch : SettlementBatch) : SettlementBatch :=
    { batch with
      id := id
      lane := window.lane
      windowStartAt := window.windowStartAt
      windowEndAt := window.windowEndAt
      rewardWindowIDs := [window.id]
      policyBundleVersion := window.policyBundleVersion
      taskCount := window.taskCount
      minerCount := window.minerCount
      totalRewardAmount := window.totalRewardAmount }
  let opened : SettlementBatch :=
    { id := id, lane := window.lane, windowStartAt := window.windowStartAt, windowEndAt := window.windowEndAt
      rewardWindowIDs := [window.id], policyBundleVersion := window.policyBundleVersion, taskCount := window.taskCount
      minerCount := window.minerCount, totalRewardAmount := window.totalRewardAmount }
  let synced := match repo.settlementBatches.get? id with
    | some batch => if batch.state = .opened then repo.saveSettlementBatch (figures batch) else repo
    | none => repo.saveSettlementBatch opened
  if window.settlementBatchID = some id then synced
  else
    match synced.rewardWindows.get? window.id with
    | none => synced
    | some stored =>
      synced.storeRewardWindow settings { stored with settlementBatchID := some id }

def buildSettlementBatches (repo : Repository) : Repository :=
  (repo.rewardWindows.entries.map Prod.snd).foldl (fun repo window =>
    if window.state = .noPositiveWeight then repo else syncSettlementBatch settings window repo) repo

structure PokerBuild where
  rewardWindowID : Option String := none
  lane : Lane
  isPoker : lane.isPoker = true := by rfl
  (windowStartAt windowEndAt : Int)
  rewardPoolAmount : Nat
  includeProvisional : Bool
  policyBundleVersion : String
  aggregationPolicyVersion : String := "capped_top3_mean_v1"
  (inputSnapshotRoot correctionLineageRoot : String)
  budgetEnforced : Bool := false
  tournamentIDs : List String
  submissionCount : Nat
  hasPositiveWeight : Bool
  minerRewardRows : List RewardRow
  budget : Except String Unit
  roots : ProjectionRoots

def PokerBuild.id (build : PokerBuild) : String :=
  (build.rewardWindowID.filter (· ≠ "")).getD (pokerMttRewardWindowID build.lane build.windowStartAt build.windowEndAt)

def PokerBuild.window (build : PokerBuild) (existing : Option RewardWindow) : RewardWindow where
  id := build.id
  lane := build.lane
  state := if build.hasPositiveWeight then .finalized else .noPositiveWeight
  windowStartAt := build.windowStartAt
  windowEndAt := build.windowEndAt
  taskCount := build.tournamentIDs.length
  submissionCount := build.submissionCount
  minerCount := build.minerRewardRows.length
  totalRewardAmount := if build.hasPositiveWeight then build.rewardPoolAmount else 0
  settlementBatchID := if build.hasPositiveWeight then existing.bind (·.settlementBatchID) else none
  taskRunIDs := sortedIDs build.tournamentIDs
  minerAddresses := (build.minerRewardRows.map (·.minerAddress)).mergeSort
  policyBundleVersion := build.policyBundleVersion

def PokerBuild.projection (build : PokerBuild) (earlier : Option Projection) (rows : PagedRows) (pages : List Page) :
    Projection where
  inputSnapshotRoot := build.inputSnapshotRoot
  rewardPoolAmount := build.rewardPoolAmount
  policyBundleVersion := build.policyBundleVersion
  aggregationPolicyVersion := build.aggregationPolicyVersion
  correctionLineageRoot := build.correctionLineageRoot
  includeProvisional := build.includeProvisional
  roots := build.roots
  artifacts :=
    { rows := rows
      pages := pages.foldl (fun held page => held.insert page.pageIndex page)
        ((earlier.map (·.artifacts.pages)).getD OrdMap.empty) }

def PokerBuild.unchanged (build : PokerBuild) (existing : RewardWindow) (projection : Projection) : Bool :=
  projection.inputSnapshotRoot = build.inputSnapshotRoot && projection.rewardPoolAmount = build.rewardPoolAmount &&
    projection.policyBundleVersion = build.policyBundleVersion &&
    projection.aggregationPolicyVersion = build.aggregationPolicyVersion &&
    projection.correctionLineageRoot = build.correctionLineageRoot && projection.roots.reputationDeltaRowsRoot ≠ "" &&
    projection.includeProvisional = build.includeProvisional &&
    (!build.budgetEnforced || projection.roots.budgetRoot ≠ "") &&
    (existing.settlementBatchID.isSome || existing.state = .noPositiveWeight)

def batchClosed (repo : Repository) (window : RewardWindow) : Bool :=
  (window.settlementBatchID.bind repo.settlementBatches.get?).any fun batch => batch.state ≠ .opened

def cancelSettlementBatch (id : String) (repo : Repository) : Repository :=
  if (repo.settlementBatches.get? id).any fun batch => batch.state ≠ .opened then repo
  else { repo with settlementBatches := repo.settlementBatches.modifyAt id fun batch =>
      { batch with
        state := .cancelled
        totalRewardAmount := 0
        anchorJobID := none
        anchorSchemaVersion := none
        canonicalRoot := none
        anchorPayloadJSON := none
        anchorPayloadHash := none } }

def cancelUnpaidBatch (build : PokerBuild) (existing : Option RewardWindow) : Service Unit :=
  match existing.bind (·.settlementBatchID) with
  | some id => .given (build.hasPositiveWeight = false) <| .modify (cancelSettlementBatch id)
  | none => pure ()

def storePokerMttRewardWindow (build : PokerBuild) (existing : Option RewardWindow)
    (projection : Option Projection) : Service Unit :=
  match build.budget,buildPagedPayload settings.hash settings.pokerMttProjectionArtifactPageSize build.minerRewardRows with
  | .error message,_ => refuse message
  | .ok _,.error message => do
    .modify (·.storeRewardWindow settings (build.window existing))
    refuse message
  | .ok _,.ok (rows,pages) => do
    .modify (·.storeRewardWindow settings (build.window existing))
    .modify fun repo => { repo with projections := repo.projections.insert build.id (build.projection projection rows pages) }
    .given (build.hasPositiveWeight = true ∧ (existing ≠ some (build.window existing) ∨
        projection.map (·.roots.projectionRoot) ≠ some build.roots.projectionRoot ∨
        (existing.bind (·.settlementBatchID)).isNone)) <|
      .modify (syncSettlementBatch settings (build.window existing))

def writePokerMttRewardWindow (build : PokerBuild) (existing : Option RewardWindow)
    (projection : Option Projection) : Service Unit := do
  cancelUnpaidBatch build existing
  storePokerMttRewardWindow settings build existing projection

def buildPokerMttRewardWindow (build : PokerBuild) : Service Unit := .read fun repo =>
  let existing := repo.rewardWindows.get? build.id
  let projection := existing.bind fun _ => repo.projections.get? build.id
  if existing.any (batchClosed repo) then pure ()
  else if (existing.bind fun window => projection.map (build.unchanged window)).getD false then pure ()
  else writePokerMttRewardWindow settings build existing projection

end Windows

/-- What a reconcile is told from outside: how the tasks that are due come out, what their submissions score, and
the poker windows that can be built. -/
structure Outside where
  resolveFastTask : Task → Option Bool := fun _ => none
  resolveDailyTask : Task → Option Bool := fun _ => none
  assess : Task → Submission → Assessment
  pokerBuilds : List (Except String PokerBuild) := []

def tryPokerMttRewardWindow (settings : Settings) : Except String PokerBuild → Service Unit
  | .error message => refuse message
  | .ok build => buildPokerMttRewardWindow settings build

def buildPokerMttRewardWindows (settings : Settings) (outside : Outside) : Service Unit :=
  .each (fun build => tryPokerMttRewardWindow settings (build.map ({ · with rewardWindowID := none }))) outside.pokerBuilds

def reconcile (settings : Settings) (outside : Outside) (now : Time) : Service Unit := do
  .modify fun repo => (newTasks settings now).foldl createTask repo
  settleDueTasks settings now outside.resolveFastTask outside.assess
  settleDueDailyTasks settings now outside.resolveDailyTask
  .modify (releaseMaturedHolds settings now)
  .modify (buildRewardWindows settings)
  buildPokerMttRewardWindows settings outside
  .modify (buildSettlementBatches settings)

def recountRewardWindow (window : RewardWindow) (repo : Repository) : RewardWindow :=
  let taskRunIDs := (repo.listTasks.filter fun task => task.rewardWindowID = some window.id).map (·.taskRunID)
  let submissions := (taskRunIDs.flatMap repo.listSubmissionsForTask).filter (·.pYesBps.isSome)
  let rows := buildForecastRewardComponentRows submissions
  let minerAddresses := sortedIDs (submissions.map (·.minerAddress))
  { window with
    taskCount := taskRunIDs.length
    submissionCount := submissions.length
    minerCount := minerAddresses.length
    totalRewardAmount := totalReward rows
    taskRunIDs := taskRunIDs.mergeSort
    minerAddresses := minerAddresses
    minerRewardRows := rows }

def rebuildRewardWindow (settings : Settings) (outside : Outside) (now : Time) (id : String) : Service Unit := do
  reconcile settings outside now
  .read fun repo =>
    match repo.rewardWindows.get? id with
    | none => refuse "reward window not found"
    | some window => .modify (·.storeRewardWindow settings (recountRewardWindow window repo))

end Clawchain.Mining
