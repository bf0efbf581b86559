import Clawchain.Lib.Faulty
import Clawchain.Lib.OrdMap
import Mathlib.Data.Prod.Lex
import Mathlib.Data.Rat.Defs
import Mathlib.Data.String.Basic

/-! The mining service's rows and its repository. A row keeps the fields that the modelled operations read or
write; a stored time is a number of seconds, the clock counts microseconds. -/
namespace Clawchain.Mining
open Clawchain.Lib

abbrev Time := Int

/-- A stored time has lost its fraction of a second. -/
def isoformatZ (now : Time) : Int := now / 1000000

def parseTime (stored : Int) : Time := stored * 1000000

inductive Lane where
  | forecast15m
  | dailyAnchor
  | pokerMttDaily
  | pokerMttWeekly
  deriving DecidableEq, Repr

def Lane.isPoker : Lane → Bool
  | .pokerMttDaily | .pokerMttWeekly => true
  | _ => false

def Lane.name : Lane → String
  | .forecast15m => "forecast_15m"
  | .dailyAnchor => "daily_anchor"
  | .pokerMttDaily => "poker_mtt_daily"
  | .pokerMttWeekly => "poker_mtt_weekly"

inductive TaskState where
  | published
  | awaitingResolution
  | resolved
  deriving DecidableEq, Repr

structure Task where
  taskRunID : String
  lane : Lane
  (publishAt commitDeadline revealDeadline resolveAt : Int)
  state : TaskState := .published
  outcome : Option Bool := none
  rewardWindowID : Option String := none
  deriving DecidableEq, Repr

inductive Eligibility where
  | eligible
  | auditOnly
  deriving DecidableEq, Repr

inductive SubmissionState where
  | committed
  | revealed
  | pendingResolution
  | resolved
  deriving DecidableEq, Repr

/-- What settling a submission computes beside its reward. -/
structure Components where
  fastDirectScore : Nat
  (modelReliability opsReliability arenaMultiplier antiAbuseDiscount qualityEnvelope : ℚ)
  deriving DecidableEq

structure Submission where
  (id taskRunID minerAddress economicUnitID : String)
  commitRequestID : Option String := none
  revealRequestID : Option String := none
  commitHash : String := ""
  pYesBps : Option Int := none
  eligibilityStatus : Eligibility := .eligible
  state : SubmissionState := .committed
  /-- What settling makes of the forecast. -/
  score : Option ℚ := none
  rewardAmount : Nat := 0
  releasedRewardAmount : Option Nat := none
  heldRewardAmount : Option Nat := none
  components : Option Components := none
  rewardWindowID : Option String := none
  deriving DecidableEq

inductive AdmissionState where
  | probation
  | mature
  deriving DecidableEq, Repr

structure Miner where
  (address economicUnitID : String)
  ipAddress : Option String := none
  userAgentHash : Option String := none
  totalRewards : Nat := 0
  heldRewards : Nat := 0
  forecastCommits : Nat := 0
  forecastReveals : Nat := 0
  settledTasks : Nat := 0
  admissionState : AdmissionState := .probation
  createdAt : Time
  deriving DecidableEq, Repr

inductive HoldState where
  | held
  | released
  deriving DecidableEq, Repr

structure HoldEntry where
  (id minerAddress taskRunID submissionID : String)
  amountHeld : Nat
  amountReleased : Nat := 0
  state : HoldState := .held
  releaseAfter : Int
  deriving DecidableEq, Repr

/-! Reward windows, settlement batches and anchor jobs. -/

structure RowComponents extends Components where
  (baseScore finalMiningScore releasedRewardAmount heldRewardAmount : Nat)
  deriving DecidableEq

structure RewardRow where
  minerAddress : String
  (submissionCount grossRewardAmount : Nat)
  components : Option RowComponents := none
  deriving DecidableEq

inductive WindowState where
  | finalized
  | noPositiveWeight
  deriving DecidableEq, Repr

structure RewardWindow where
  id : String
  lane : Lane
  state : WindowState := .finalized
  (windowStartAt windowEndAt : Int)
  taskCount : Nat := 0
  submissionCount : Nat := 0
  minerCount : Nat := 0
  totalRewardAmount : Nat := 0
  settlementBatchID : Option String := none
  taskRunIDs : List String := []
  minerAddresses : List String := []
  minerRewardRows : List RewardRow := []
  policyBundleVersion : String
  deriving DecidableEq

structure PageRef where
  (pageIndex rowCount : Nat)
  pageRoot : String
  deriving DecidableEq, Repr

structure Page where
  (pageIndex rowCount : Nat)
  minerRewardRows : List RewardRow
  pageRoot : String
  deriving DecidableEq

/-- The reward rows of a payload: in it, or in pages of their own. -/
structure PagedRows where
  minerRewardRowsRoot : String
  minerRewardRows : List RewardRow := []
  artifactPages : List PageRef := []
  deriving DecidableEq

inductive BatchState where
  | opened
  | anchorReady
  | anchorSubmitted
  | anchored
  | anchorFailed
  | cancelled
  deriving DecidableEq, Repr

/-- What the canonical root of a batch is the hash of. -/
structure CanonicalRootInput where
  (policyBundleVersion settlementBatchID : String)
  lane : Lane
  (windowStartAt windowEndAt : Int)
  (rewardWindowIDsRoot taskRunIDsRoot minerRewardRowsRoot : String)
  (taskCount minerCount totalRewardAmount : Nat)
  pokerProjectionRootsRoot : Option String := none
  reputationDeltaRowsRoot : Option String := none
  deriving DecidableEq

/-- The roots of a poker window that go into its batch. -/
structure ProjectionRoots where
  (rewardWindowID policyBundleVersion finalRankingRoot evidenceRoot multiplierSnapshotRoot budgetRoot : String)
  (reputationDeltaRowsRoot projectionRoot : String)
  deriving DecidableEq, Repr

structure AnchorPayload extends CanonicalRootInput where
  (rewardWindowIDs taskRunIDs : List String)
  canonicalRoot : String
  rows : PagedRows
  pokerProjectionRoots : List ProjectionRoots := []
  deriving DecidableEq

structure SettlementBatch where
  id : String
  lane : Lane
  state : BatchState := .opened
  (windowStartAt windowEndAt : Int)
  rewardWindowIDs : List String
  policyBundleVersion : String
  (taskCount minerCount totalRewardAmount : Nat)
  anchorJobID : Option String := none
  anchorSchemaVersion : Option String := none
  canonicalRoot : Option String := none
  anchorPayloadJSON : Option AnchorPayload := none
  anchorPayloadHash : Option String := none
  deriving DecidableEq

inductive JobState where
  | anchorSubmitted
  | anchored
  | anchorFailed
  deriving DecidableEq, Repr

/-- The statuses a confirmation can have; the last five are what the others are renamed to. -/
inductive ConfirmationStatus where
  | confirmed
  | failed
  | pending
  | typedTxAcceptedStateMissing
  | fallbackMemoTxAcceptedNoTypedState
  | rootHashMismatch
  | settlementBatchMismatch
  | anchorMetadataMismatch
  | stateMissing
  | typedStateMissing
  | fallbackMemoOnly
  | rootMismatch
  | metadataMismatch
  deriving DecidableEq, Repr

def ConfirmationStatus.name : ConfirmationStatus → String
  | .confirmed => "confirmed"
  | .failed => "failed"
  | .pending => "pending"
  | .typedTxAcceptedStateMissing => "typed_tx_accepted_state_missing"
  | .fallbackMemoTxAcceptedNoTypedState => "fallback_memo_tx_accepted_no_typed_state"
  | .rootHashMismatch => "root_hash_mismatch"
  | .settlementBatchMismatch => "settlement_batch_mismatch"
  | .anchorMetadataMismatch => "anchor_metadata_mismatch"
  | .stateMissing => "state_missing"
  | .typedStateMissing => "typed_state_missing"
  | .fallbackMemoOnly => "fallback_memo_only"
  | .rootMismatch => "root_mismatch"
  | .metadataMismatch => "metadata_mismatch"

structure AnchorJob where
  (id settlementBatchID : String)
  lane : Lane
  state : JobState := .anchorSubmitted
  anchorPayloadHash : String
  broadcastTxHash : Option String := none
  chainConfirmationStatus : Option ConfirmationStatus := none
  failureReason : Option String := none
  anchoredAt : Option Time := none
  deriving DecidableEq, Repr

/-- The artifacts of a reward window or of a settlement batch: its rows, and its pages by index. -/
structure RowArtifacts where
  rows : PagedRows
  pages : OrdMap Nat Page := OrdMap.empty
  deriving DecidableEq

structure Projection where
  inputSnapshotRoot : String
  rewardPoolAmount : Nat
  (policyBundleVersion aggregationPolicyVersion correctionLineageRoot : String)
  includeProvisional : Bool
  roots : ProjectionRoots
  artifacts : RowArtifacts
  deriving DecidableEq

structure Repository where
  miners : OrdMap String Miner := OrdMap.empty
  tasks : OrdMap String Task := OrdMap.empty
  submissions : OrdMap (Lex (String × String)) Submission := OrdMap.empty
  requestIndex : OrdMap String Submission := OrdMap.empty
  holdEntries : OrdMap String HoldEntry := OrdMap.empty
  rewardWindows : OrdMap String RewardWindow := OrdMap.empty
  settlementBatches : OrdMap String SettlementBatch := OrdMap.empty
  anchorJobs : OrdMap String AnchorJob := OrdMap.empty
  memberships : OrdMap String RowArtifacts := OrdMap.empty
  projections : OrdMap String Projection := OrdMap.empty
  anchorArtifacts : OrdMap String RowArtifacts := OrdMap.empty

end Clawchain.Mining
