import Clawchain.Mining.Operations
import Clawchain.Poker.Build
import Clawchain.Poker.Statistics

/-! A reconcile of the whole service: the tasks are settled, the windows of every lane are built, their batches follow, and
the public ranks are refreshed. -/
namespace Clawchain.Poker
open Clawchain.Lib Clawchain.Mining

structure LaneConfig where
  lane : Lane
  rewardPoolAmount : Nat
  bucketStart : Int → Int
  windowSize : Int

structure Visit extends LaneConfig where
  windowStartAt : Int
  results : List Result

section Visits
variable (settings : PokerSettings) (current : Int)

def activeLaneConfigs : List LaneConfig :=
  [⟨.pokerMttDaily,settings.pokerMttDailyRewardPoolAmount,dayBucketStart,86400⟩,
    ⟨.pokerMttWeekly,settings.pokerMttWeeklyRewardPoolAmount,weekBucketStart,604800⟩].filter (0 < ·.rewardPoolAmount)

def lookbackDays : Int :=
  max 1 (if settings.pokerMttRewardWindowReconcileLookbackDays = 0 then 35
    else settings.pokerMttRewardWindowReconcileLookbackDays)

def candidateResults (inputs : Inputs) : List Result :=
  inputs.listClosedRewardWindowCandidates (current - lookbackDays settings * 86400) current
    ((activeLaneConfigs settings).map fun config => defaultPokerMttPolicyBundleVersion settings config.lane)

def LaneConfig.takes (config : LaneConfig) (result : Result) : Bool :=
  result.rewardReady && resultPolicyMatchesRewardWindow result.evaluationVersion
    (defaultPokerMttPolicyBundleVersion settings config.lane) &&
    result.lockedAt.any fun lockedAt => config.bucketStart lockedAt + config.windowSize ≤ current

def LaneConfig.visits (candidates : List Result) (config : LaneConfig) : List Visit :=
  let taken := candidates.filter (config.takes settings current)
  let start (result : Result) := config.bucketStart (result.lockedAt.getD 0)
  ((Groups.keysOf start taken).insertionSort (· ≤ ·)).map fun windowStartAt =>
    { config with windowStartAt := windowStartAt, results := Groups.group start taken windowStartAt }

def Visit.provisionalCount (visit : Visit) : Nat := (visit.results.filter (·.evaluationState ≠ "final")).length

def Visit.watermarkAt (visit : Visit) : Int :=
  visit.windowStartAt + visit.windowSize + settings.pokerMttFinalizationWatermarkSeconds

def Visit.request (visit : Visit) : Request where
  lane := visit.lane
  windowStartAt := visit.windowStartAt
  windowEndAt := visit.windowStartAt + visit.windowSize
  rewardPoolAmount := visit.rewardPoolAmount
  includeProvisional := 0 < visit.provisionalCount
  policyBundleVersion := some (defaultPokerMttPolicyBundleVersion settings visit.lane)
  metadata := some
    { completenessMode := if 0 < visit.provisionalCount then "watermark_release" else "all_final"
      provisionalResultCount := visit.provisionalCount
      watermarkAt := visit.watermarkAt settings }

end Visits

section Reconcile
variable (settings : PokerSettings) (now : Time)

/-- A bucket with provisional results waits, and one whose batch has left the open state is left alone. -/
def Visit.passed (visit : Visit) (repo : PokerRepository) : Bool :=
  (0 < visit.provisionalCount && isoformatZ now < visit.watermarkAt settings) ||
    (repo.rewardWindows.get? (visit.request settings).id).any (batchClosed repo.toRepository)

def visitWindow (visit : Visit) : PokerService Unit := .read fun repo =>
  if visit.passed settings now repo then pure ()
  else do
    let _ ← buildPokerMttRewardWindow settings (visit.request settings) now
    pure ()

def visits (inputs : Inputs) : List Visit :=
  if settings.pokerMttRewardWindowsEnabled then
    (activeLaneConfigs settings).flatMap
      (·.visits settings (isoformatZ now) (candidateResults settings (isoformatZ now) inputs))
  else []

def buildPokerMttRewardWindows : PokerService Unit := .read fun repo =>
  .each (visitWindow settings now) (visits settings now repo.inputs)

def gatherWindows (repo : PokerRepository) : PokerRepository :=
  let written := addresses (fun task => forecastRewardWindowID task.resolveAt) (repo.listTasks.filter Task.unwindowed)
  written.foldl (fun repo id => repo.touchRewardWindow id now)
    { repo with toRepository := buildRewardWindows settings.toSettings repo.toRepository }

def settleAndGather (outside : ScoredOutside) : PokerService Unit := do
  onRepository (.modify fun repo => (newTasks settings.toSettings now).foldl createTask repo)
  settleDueTasks settings now outside
  settleDueDailyTasks settings now outside
  onRepository (.modify (releaseMaturedHolds settings.toSettings now))
  .modify (gatherWindows settings now)

def PokerRepository.listRewardWindows (repo : PokerRepository) : List RewardWindow :=
  let order (window : RewardWindow) :=
    toLex (window.windowEndAt,toLex ((repo.windowUpdatedAt.get? window.id).getD 0,window.id))
  (repo.rewardWindows.entries.map Prod.snd).insertionSort fun a b => order b ≤ order a

def syncSettlementBatches (repo : PokerRepository) : PokerRepository :=
  repo.listRewardWindows.foldl (fun repo window =>
    if window.state = .noPositiveWeight then repo else syncRewardWindow settings now window repo) repo

def batchAndRank (repo : PokerRepository) : PokerRepository := (syncSettlementBatches settings now repo).refreshPublicRanks

def reconcile (outside : ScoredOutside) : PokerService Unit := do
  settleAndGather settings now outside
  buildPokerMttRewardWindows settings now
  .modify (batchAndRank settings now)

end Reconcile

/-! A small table for runs on fixed inputs. -/

def plainPokerHash : PokerHashing where
  inputs refs := "sha256:" ++ String.join (refs.resultRefs.map fun ref => ref.id ++ if 0 < ref.totalScore then "+" else "-")
  finalRankings _ := "sha256:rankings"
  evidence _ := "sha256:evidence"
  ratings _ := "sha256:ratings"
  multipliers _ := "sha256:multipliers"
  corrections _ := "sha256:corrections"
  deltaRows _ := "sha256:deltas"
  budget payload := "sha256:budget:" ++ payload.rewardWindowID
  projection payload := "sha256:projection:" ++ payload.inputSnapshotRoot

def plainPokerSettings : PokerSettings :=
  { plainSettings with
    pokerMttRewardWindowsEnabled := true
    pokerMttDailyRewardPoolAmount := 100
    pokerHash := plainPokerHash }

def plainResult (id minerAddress : String) (seconds : Int) (totalScore : ℚ) : Result where
  id := id
  tournamentID := "mtt-" ++ id
  minerAddress := minerAddress
  finalRank := some 1
  totalScore := totalScore
  evaluationVersion := "poker_mtt_v1"
  finalRankingID := some ("ranking-" ++ id)
  standingSnapshotID := some ("standing-" ++ id)
  evidenceRoot := some "sha256:evidence"
  lockedAt := some (1772323200 + seconds)

def plainRanking (result : Result) : FinalRanking where
  id := result.finalRankingID.getD ""
  tournamentID := result.tournamentID
  minerAddress := some result.minerAddress
  rank := result.finalRank
  standingSnapshotID := result.standingSnapshotID
  evidenceRoot := result.evidenceRoot

def plainMiner (address : String) : Miner := { address := address, economicUnitID := "unit:" ++ address, createdAt := opening }

def plainIdentity (expiresAt : Option Time) : RewardIdentity where
  pokerMttUserID := some "user"
  pokerMttAuthSource := some "donor"
  pokerMttRewardBound := true
  pokerMttRewardBoundAt := some opening
  pokerMttIdentityExpiresAt := expiresAt

def plainTable (miners : List (String × Option Time)) (results : List Result) : PokerRepository :=
  { miners := .ofList (miners.map fun miner => (miner.1,plainMiner miner.1))
    inputs :=
      { results := .ofList (results.map fun result => (result.id,result))
        finalRankings := .ofList (results.map fun result => ((plainRanking result).id,plainRanking result))
        identities := .ofList (miners.map fun miner => (miner.1,plainIdentity miner.2)) } }

end Clawchain.Poker
