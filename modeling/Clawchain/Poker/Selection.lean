import Clawchain.Lib.Apportion
import Clawchain.Poker.Model

/-! Which results a poker window is built from: those that its lane's query finds, and of these the ones whose final ranking
and whose miner's identity stand. -/
namespace Clawchain.Poker
open Clawchain.Lib Clawchain.Mining

def dayBucketStart (seconds : Int) : Int := seconds / 86400 * 86400

def weekBucketStart (seconds : Int) : Int := dayBucketStart seconds - (seconds / 86400 + 3) % 7 * 86400

example : weekBucketStart 1772323200 = 1771804800 ∧ weekBucketStart 1772409600 = 1772409600 := by decide

def startsWith (start text : String) : Bool := start.toList.isPrefixOf text.toList

def compatibleResultPolicyVersions (rewardPolicyBundleVersion : String) : List String :=
  if startsWith "poker_mtt_daily_policy_v" rewardPolicyBundleVersion ∨
      startsWith "poker_mtt_weekly_policy_v" rewardPolicyBundleVersion then [rewardPolicyBundleVersion,"poker_mtt_v1"]
  else [rewardPolicyBundleVersion]

def resultPolicyMatchesRewardWindow (resultPolicyBundleVersion rewardPolicyBundleVersion : String) : Bool :=
  resultPolicyBundleVersion ≠ "" && rewardPolicyBundleVersion ≠ "" &&
    resultPolicyBundleVersion ∈ compatibleResultPolicyVersions rewardPolicyBundleVersion

def defaultPokerMttPolicyBundleVersion (settings : PokerSettings) : Lane → String
  | .pokerMttDaily => settings.pokerMttDailyPolicyBundleVersion
  | .pokerMttWeekly => settings.pokerMttWeeklyPolicyBundleVersion
  | _ => policyBundleVersion

def Result.rewardReady (result : Result) : Bool :=
  result.ratedOrPractice = .rated && result.humanOnly && result.evidenceState = "complete" &&
    present result.finalRankingID && present result.standingSnapshotID && present result.evidenceRoot &&
    result.noMultiplierReason = none && result.eligibleForMultiplier

def Result.lockedIn (start stop : Int) (result : Result) : Bool :=
  result.lockedAt.any fun lockedAt => start ≤ lockedAt && lockedAt < stop

def byLock (a b : Result) : Prop := toLex (a.lockedAt.getD 0,a.id) ≤ toLex (b.lockedAt.getD 0,b.id)

instance : DecidableRel byLock := fun _ _ => inferInstanceAs (Decidable (_ ≤ _))

def Inputs.listResults (inputs : Inputs) : List Result := inputs.results.entries.map Prod.snd

def Inputs.listClosedRewardWindowCandidates (lockedAfterAt lockedBeforeAt : Int) (policyBundleVersions : List String)
    (inputs : Inputs) : List Result :=
  ((inputs.listResults.filter fun result => result.lockedIn lockedAfterAt lockedBeforeAt && result.rewardReady &&
    result.evaluationVersion ∈ policyBundleVersions.flatMap compatibleResultPolicyVersions).insertionSort byLock).take 100000

def Inputs.listResultsForRewardWindow (windowStartAt windowEndAt : Int) (includeProvisional : Bool)
    (policyBundleVersion : String) (inputs : Inputs) : List Result :=
  (inputs.listResults.filter fun result => result.lockedIn windowStartAt windowEndAt && result.rewardReady &&
    (result.evaluationState = "final" || (includeProvisional && result.evaluationState = "provisional")) &&
    resultPolicyMatchesRewardWindow result.evaluationVersion policyBundleVersion &&
    result.rankState = some "ranked").insertionSort byLock

def finalRankingMatchesLegacyResult (row : FinalRanking) (result : Result) (finalRank : Int) : Bool :=
  let agrees (expected actual : Option String) : Bool := !present expected || actual = expected
  row.tournamentID = result.tournamentID && orElse row.minerAddress row.sourceUserID = some result.minerAddress &&
    row.rankState = "ranked" && row.rank = some finalRank && agrees result.standingSnapshotID row.standingSnapshotID &&
    agrees result.standingSnapshotHash row.standingSnapshotHash && agrees result.evidenceRoot row.evidenceRoot &&
    agrees (some result.evidenceState) (some row.evidenceState) &&
    (!present row.policyBundleVersion || row.policyBundleVersion = some result.evaluationVersion)

def isPokerMttSyntheticAddress (address : String) : Bool := startsWith "claw1local-" address

def rewardIdentityBlocker (miner : Option Miner) (identity : Option RewardIdentity) (current : Int) : Option String :=
  match miner,identity with
  | some miner,some identity =>
    if isPokerMttSyntheticAddress miner.address ∨ identity.pokerMttIsSynthetic then some "reward_identity_not_bound"
    else if identity.pokerMttRewardBound = false then some "reward_identity_not_bound"
    else if identity.pokerMttRewardBoundAt.isNone then some "missing_reward_identity"
    else if identity.pokerMttIdentityRevokedAt.isSome then some "reward_identity_revoked"
    else if identity.pokerMttIdentityExpiresAt.any (· ≤ parseTime current) then some "reward_identity_expired"
    else none
  | _,_ => some "missing_reward_identity"

namespace PokerRepository
variable (repo : PokerRepository)

def finalRankingOf (result : Result) : Option FinalRanking := result.finalRankingID.bind repo.inputs.finalRankings.get?

def counts (current : Int) (result : Result) : Bool :=
  (result.anchorableAt <|> result.lockedAt).any (· ≤ current) &&
    result.finalRank.any (fun finalRank =>
      (repo.finalRankingOf result).any fun ranking => finalRankingMatchesLegacyResult ranking result finalRank) &&
    (rewardIdentityBlocker (repo.miners.get? result.minerAddress) (repo.inputs.identities.get? result.minerAddress)
      current).isNone

def latestRating (minerAddress : String) : Option RatingSnapshot :=
  ((repo.inputs.ratingSnapshots.entries.map Prod.snd).filter (·.minerAddress = minerAddress)).foldl (fun latest snapshot =>
    match latest with
    | none => some snapshot
    | some current =>
      if toLex (current.windowEndAt,current.id) < toLex (snapshot.windowEndAt,snapshot.id) then some snapshot
      else some current) none

def multiplierSnapshots (windowStartAt windowEndAt : Int) (minerAddress : String) : List MultiplierSnapshot :=
  (repo.inputs.multiplierSnapshots.entries.map Prod.snd).filter fun snapshot => snapshot.minerAddress = minerAddress &&
    snapshot.effectiveWindowStartAt.any (· < windowEndAt) && snapshot.effectiveWindowEndAt.any (windowStartAt < ·)

end PokerRepository

def MultiplierSnapshot.effectiveAt (target : Int) (snapshot : MultiplierSnapshot) : Bool :=
  snapshot.effectiveWindowStartAt.any fun start =>
    snapshot.effectiveWindowEndAt.any fun stop => start ≤ target && target < stop

def byEffect (a b : MultiplierSnapshot) : Prop :=
  let order (row : MultiplierSnapshot) := toLex (row.effectiveWindowStartAt.getD 0,
    toLex ((row.updatedAt <|> row.effectiveWindowStartAt).getD 0,row.id))
  order a ≤ order b

instance : DecidableRel byEffect := fun _ _ => inferInstanceAs (Decidable (_ ≤ _))

def resolveEffectiveRewardMultiplier (snapshotRows : List MultiplierSnapshot) (effectiveAt : Option Int) :
    ℚ × Option MultiplierSnapshot :=
  match effectiveAt.bind fun target => ((snapshotRows.filter (·.effectiveAt target)).insertionSort byEffect).getLast? with
  | none => (1,none)
  | some chosen => (if chosen.multiplierAfter = 0 then 1 else chosen.multiplierAfter,some chosen)

def effectiveMultiplier (snapshots : String → List MultiplierSnapshot) (result : Result) : ℚ × Option MultiplierSnapshot :=
  resolveEffectiveRewardMultiplier (snapshots result.minerAddress) (result.lockedAt <|> result.anchorableAt)

section Arithmetic
variable (floats : Floats)

def rounded (x : ℚ) : ℚ := floats.round (round6 x)

def multiplierInputRow (result : Result) (multiplier : ℚ × Option MultiplierSnapshot) : MultiplierInputRow where
  pokerMttResultID := result.id
  minerAddress := result.minerAddress
  economicUnitID := result.economicUnitID
  effectiveRewardMultiplier := rounded floats multiplier.1
  multiplierSnapshotID := multiplier.2.map (·.id)
  sourceResultID := multiplier.2.map (·.sourceResultID)
  effectiveWindowStartAt := multiplier.2.bind (·.effectiveWindowStartAt)
  effectiveWindowEndAt := multiplier.2.bind (·.effectiveWindowEndAt)

def weightedResult (result : Result) (multiplier : ℚ) : Result :=
  { result with totalScore := rounded floats (floats.round (result.totalScore * multiplier)) }

def applyEffectiveRewardMultipliers (selected : List Result) (snapshots : String → List MultiplierSnapshot) :
    List Result × List MultiplierInputRow :=
  (selected.map fun result => weightedResult floats result (effectiveMultiplier snapshots result).1,
    (selected.map fun result => multiplierInputRow floats result (effectiveMultiplier snapshots result)).insertionSort
      fun a b => a.pokerMttResultID ≤ b.pokerMttResultID)

/-- `a or b or c`, where the last one is always there. -/
def economicUnitOf (miners : String → Option Miner) (result : Result) : String :=
  (orElse ((miners result.minerAddress).map (·.economicUnitID)) (orElse result.economicUnitID (some result.minerAddress))).getD ""

structure UnitWeight where
  economicUnitID : String
  scoreWeight : ℚ
  submissionCount : Nat
  representativeMiner : String
  deriving DecidableEq

def scoredRows (rows : List Result) : List (String × ℚ) :=
  (rows.map fun row => (row.minerAddress,max 0 row.totalScore)).insertionSort Apportion.bestFirst

def topThreeMean (scores : List ℚ) : ℚ :=
  rounded floats (floats.round (floats.sum (scores.take 3) / max 1 (scores.take 3).length))

def unitScore (policyVersion : String) (scores : List ℚ) : Except String ℚ :=
  if policyVersion = "max_score_v1" then .ok (scores.headD 0)
  else if policyVersion = "capped_top3_mean_v1" then .ok (topThreeMean floats scores)
  else .error ("unsupported poker mtt reward aggregation policy: " ++ policyVersion)

def unitWeight (policyVersion unit : String) (rows : List Result) : Except String UnitWeight := do
  let scored := scoredRows rows
  let scoreWeight ← unitScore floats policyVersion (scored.map Prod.snd)
  return ⟨unit,scoreWeight,scored.length,(scored.head?.map Prod.fst).getD ""⟩

def aggregateRewardWeights (selected : List Result) (policyVersion : String) (miners : String → Option Miner) :
    Except String (List UnitWeight) :=
  (addresses (economicUnitOf miners) selected).mapM fun unit =>
    unitWeight floats policyVersion unit (Groups.group (economicUnitOf miners) selected unit)

end Arithmetic
end Clawchain.Poker
