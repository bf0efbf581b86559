import Clawchain.Mining.Windows

/-! The poker lanes' rows: results, final rankings, snapshots and corrections, and the ledgers of the epoch budget. An
optional text that is empty counts as missing, where the source asks for its truth. -/
namespace Clawchain.Poker
open Clawchain.Lib Clawchain.Mining

def present (value : Option String) : Bool := value.any (· ≠ "")

/-- `a or b` -/
def orElse (a b : Option String) : Option String := if present a then a else b

inductive RatedOrPractice where
  | rated
  | practice
  deriving DecidableEq, Repr

structure Result where
  (id tournamentID minerAddress : String)
  economicUnitID : Option String := none
  ratedOrPractice : RatedOrPractice := .rated
  humanOnly : Bool := true
  finalRank : Option Int
  rankState : Option String := some "ranked"
  totalScore : ℚ
  eligibleForMultiplier : Bool := true
  evaluationState : String := "final"
  evaluationVersion : String
  (finalRankingID standingSnapshotID : Option String)
  standingSnapshotHash : Option String := none
  evidenceRoot : Option String
  evidenceState : String := "complete"
  lockedAt : Option Int
  anchorableAt : Option Int := none
  noMultiplierReason : Option String := none
  deriving DecidableEq

structure FinalRanking where
  (id tournamentID : String)
  minerAddress : Option String := none
  sourceUserID : Option String := none
  rank : Option Int
  rankState : String := "ranked"
  standingSnapshotID : Option String
  standingSnapshotHash : Option String := none
  evidenceRoot : Option String
  evidenceState : String := "complete"
  policyBundleVersion : Option String := none
  deriving DecidableEq, Repr

structure RatingSnapshot where
  (id minerAddress : String)
  (windowStartAt windowEndAt : Int)
  publicRating : ℚ
  publicRank : Option Int := none
  confidence : ℚ := 0
  policyBundleVersion : String
  deriving DecidableEq

structure MultiplierSnapshot where
  (id minerAddress sourceResultID : String)
  multiplierAfter : ℚ
  (effectiveWindowStartAt effectiveWindowEndAt updatedAt : Option Int)
  deriving DecidableEq

structure Correction where
  id : String
  targetEntityType : String := "poker_mtt_result"
  (targetEntityID previousRoot correctedRoot reason : String)
  createdAt : Int
  deriving DecidableEq, Repr

structure RewardIdentity where
  (pokerMttUserID pokerMttAuthSource : Option String)
  pokerMttRewardBound : Bool
  pokerMttRewardBoundAt : Option Time
  pokerMttIsSynthetic : Bool := false
  pokerMttIdentityExpiresAt : Option Time := none
  pokerMttIdentityRevokedAt : Option Time := none
  deriving DecidableEq, Repr

inductive BudgetState where
  | reserved
  | forfeited
  | paid
  | cancelled
  | rejected
  deriving DecidableEq, Repr

structure BudgetPayload where
  (budgetSourceID emissionEpochID : String)
  lane : Lane
  rewardWindowID : String
  (windowStartAt windowEndAt : Int)
  (requestedAmount approvedAmount paidAmount forfeitedAmount rolledAmount : Nat)
  state : BudgetState
  policyBundleVersion : String
  deriving DecidableEq, Repr

structure BudgetLedger extends BudgetPayload where
  id : String
  settlementBatchID : Option String
  budgetRoot : String
  deriving DecidableEq, Repr

/-- What a window's projection says of its budget. -/
structure BudgetDisposition where
  state : BudgetState
  (requestedRewardPoolAmount approvedAmount paidAmount forfeitedAmount : Nat)
  budgetSourceID : Option String := none
  emissionEpochID : Option String := none
  emissionEpochBudgetAmount : Option Int := none
  budgetUsedBefore : Option Nat := none
  budgetRemainingAfter : Option Int := none
  budgetRoot : String := ""
  budgetEnforcement : String := ""
  deriving DecidableEq, Repr

structure ResultRef where
  (id tournamentID minerAddress : String)
  economicUnitID : Option String
  finalRank : Option Int
  totalScore : ℚ
  (finalRankingID standingSnapshotID standingSnapshotHash evidenceRoot : Option String)
  (evidenceState evaluationVersion : String)
  (lockedAt anchorableAt : Option Int)
  deriving DecidableEq

structure FinalRankingInput where
  (id tournamentID : String)
  minerAddress : Option String
  rank : Option Int
  rankState : String
  (standingSnapshotID standingSnapshotHash evidenceRoot : Option String)
  evidenceState : String
  policyBundleVersion : Option String
  deriving DecidableEq, Repr

structure MinerRef where
  (address economicUnitID : String)
  identity : RewardIdentity
  deriving DecidableEq, Repr

structure MultiplierInputRow where
  (pokerMttResultID minerAddress : String)
  economicUnitID : Option String
  effectiveRewardMultiplier : ℚ
  (multiplierSnapshotID sourceResultID : Option String)
  (effectiveWindowStartAt effectiveWindowEndAt : Option Int)
  deriving DecidableEq

structure InputRefs where
  resultRefs : List ResultRef
  finalRankingRefs : List FinalRankingInput
  minerRefs : List MinerRef
  ratingRefs : List RatingSnapshot
  multiplierRefs : List MultiplierInputRow
  deriving DecidableEq

structure FinalRankingRef where
  pokerMttResultID : String
  (finalRankingID standingSnapshotID standingSnapshotHash : Option String)
  deriving DecidableEq, Repr

structure EvidenceRef where
  pokerMttResultID : String
  evidenceRoot : Option String
  evidenceState : String
  deriving DecidableEq, Repr

structure CorrectionRef where
  (id targetEntityID previousRoot correctedRoot reason : String)
  createdAt : Int
  deriving DecidableEq, Repr

structure ReputationDeltaRow where
  rewardWindowID : String
  settlementBatchID : Option String
  lane : Lane
  (windowStartAt windowEndAt : Int)
  (policyBundleVersion aggregationPolicyVersion minerAddress economicUnitID priorScoreRef : String)
  (delta deltaCap : Int)
  scoreWeight : ℚ
  (grossRewardAmount submissionCount : Nat)
  sourceResultIDsRoot : String
  (sourceResultCount correctionCount : Nat)
  correctionLineageRoot : String
  deriving DecidableEq

/-- What a reconcile says of a window that it builds. -/
structure ProjectionMetadata where
  completenessMode : String
  provisionalResultCount : Nat
  watermarkAt : Int
  deriving DecidableEq, Repr

structure ProjectionPayload where
  rewardWindowID : String
  lane : Lane
  (windowStartAt windowEndAt : Int)
  rewardPoolAmount : Nat
  (policyBundleVersion aggregationPolicyVersion : String)
  includeProvisional : Bool
  settlementBatchID : Option String
  (tournamentIDs pokerMttResultIDs : List String)
  (inputSnapshotRoot correctionLineageRoot : String)
  correctionCount : Nat
  minerRewardRows : List RewardRow
  budgetDisposition : BudgetDisposition
  (budgetRoot finalRankingRoot evidenceRoot ratingSnapshotRoot multiplierSnapshotRoot : String)
  reputationDeltaRowsRoot : String
  reputationDeltaRowsSample : List ReputationDeltaRow
  metadata : Option ProjectionMetadata
  deriving DecidableEq

/-- The hashes of the canonical JSON of the poker lanes. -/
structure PokerHashing where
  inputs : InputRefs → String
  finalRankings : List FinalRankingRef → String
  evidence : List EvidenceRef → String
  ratings : List RatingSnapshot → String
  multipliers : List MultiplierInputRow → String
  corrections : List CorrectionRef → String
  deltaRows : List ReputationDeltaRow → String
  budget : BudgetPayload → String
  projection : ProjectionPayload → String

/-! Settings and repository; the settings know how floating point numbers are rounded. -/

structure PokerSettings extends Settings where
  pokerMttRewardWindowsEnabled : Bool := false
  pokerMttDailyRewardPoolAmount : Nat := 0
  pokerMttWeeklyRewardPoolAmount : Nat := 0
  pokerMttFinalizationWatermarkSeconds : Int := 21600
  pokerMttDailyPolicyBundleVersion : String := "poker_mtt_daily_policy_v1"
  pokerMttWeeklyPolicyBundleVersion : String := "poker_mtt_weekly_policy_v1"
  pokerMttRewardWindowReconcileLookbackDays : Int := 35
  pokerMttBudgetEnforcementEnabled : Bool := false
  pokerMttBudgetSourceID : Option String := none
  pokerMttEmissionEpochID : Option String := none
  pokerMttEmissionEpochBudgetAmount : Int := 0
  pokerMttRewardAggregationPolicyVersion : String := "capped_top3_mean_v1"
  freeSkipRatio : ℚ := 1 / 5
  floats : Floats := binary64
  pokerHash : PokerHashing

structure Inputs where
  results : OrdMap String Result := OrdMap.empty
  finalRankings : OrdMap String FinalRanking := OrdMap.empty
  identities : OrdMap String RewardIdentity := OrdMap.empty
  ratingSnapshots : OrdMap String RatingSnapshot := OrdMap.empty
  multiplierSnapshots : OrdMap String MultiplierSnapshot := OrdMap.empty
  corrections : OrdMap String Correction := OrdMap.empty

structure MinerStatistics where
  edgeScoreTotal : ℚ := 0
  correctDirectionCount : Nat := 0
  modelReliability : ℚ := 1
  opsReliability : ℚ := 1
  fastTaskOpportunities : Nat := 0
  fastTaskMisses : Nat := 0
  fastWindowStartAt : Option Time := none
  publicRank : Option Nat := none
  publicElo : Int := 1200
  deriving DecidableEq

structure PokerRepository extends Repository where
  inputs : Inputs := {}
  windowUpdatedAt : OrdMap String Int := OrdMap.empty
  budgetLedgers : OrdMap String BudgetLedger := OrdMap.empty
  statistics : OrdMap String MinerStatistics := OrdMap.empty

abbrev PokerService := Faulty PokerRepository ServiceError

/-- An operation of the service that leaves the ledgers, the statistics and the poker lanes' own rows alone. -/
def onRepository {α : Type} (operation : Service α) : PokerService α := fun repo =>
  ((operation repo.toRepository).1,{ repo with toRepository := (operation repo.toRepository).2 })

end Clawchain.Poker
