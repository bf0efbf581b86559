import Clawchain.Poker.Model

/-! The statistics of the miners: what settling a task counts, and the public ranks. -/
namespace Clawchain.Poker
open Clawchain.Lib Clawchain.Mining

/-- What settling is told from outside, with the baseline that a forecast is measured against. -/
structure ScoredOutside extends Outside where
  baselineQBps : Task → Int := fun _ => 5000

namespace PokerRepository

def statisticsOf (address : String) (repo : PokerRepository) : MinerStatistics := (repo.statistics.get? address).getD {}

def updateStatistics (address : String) (update : MinerStatistics → MinerStatistics) (repo : PokerRepository) :
    PokerRepository :=
  { repo with statistics := repo.statistics.insert address (update (repo.statisticsOf address)) }

end PokerRepository

def scoreProbability (pYesBps baselineQBps : Int) (outcome : Bool) : ℚ :=
  let p : ℚ := pYesBps / 10000
  let q : ℚ := baselineQBps / 10000
  let y : ℚ := if outcome then 1 else 0
  let improvement := (q - y) ^ 2 - (p - y) ^ 2
  let bonus : ℚ := if directionCorrect pYesBps outcome then 15 / 1000 else 0
  let cap : ℚ := if |pYesBps - baselineQBps| < 300 then 1 / 4 else 1
  max 0 ((improvement + bonus) * cap)

def MinerStatistics.settle (score : ℚ) (correct : Bool) (settledTasks : Nat) (row : MinerStatistics) : MinerStatistics :=
  { row with
    edgeScoreTotal := row.edgeScoreTotal + score
    correctDirectionCount := row.correctDirectionCount + correct.toNat
    modelReliability := clamp (1 + (row.edgeScoreTotal + score) / settledTasks / 4) (97 / 100) (103 / 100) }

section Settle
variable (settings : PokerSettings) (now : Time)

def settleSubmission (outside : ScoredOutside) (task : Task) (outcome : Bool) (submission : Submission) :
    PokerService Unit := do
  onRepository (Mining.settleSubmission settings.toSettings now outside.assess task submission)
  match submission.pYesBps with
  | none => pure ()
  | some pYesBps =>
    .modify fun repo =>
      let settledTasks := ((repo.miners.get? submission.minerAddress).map (·.settledTasks)).getD 0
      repo.updateStatistics submission.minerAddress fun row =>
        row.settle (scoreProbability pYesBps (outside.baselineQBps task) outcome) (directionCorrect pYesBps outcome) settledTasks

def computeOpsReliability (miner : Miner) (row : MinerStatistics) : ℚ :=
  let discipline := if 0 < miner.forecastCommits then
      clamp (95 / 100 + (miner.forecastReveals : ℚ) / miner.forecastCommits * (5 / 100)) (95 / 100) (105 / 100)
    else 1
  let missRatio : ℚ := (row.fastTaskMisses : ℚ) / row.fastTaskOpportunities
  let participation := if row.fastTaskOpportunities = 0 then 1
    else if missRatio ≤ settings.freeSkipRatio then 105 / 100
    else
      let overage := (missRatio - settings.freeSkipRatio) / max (1 / 1000000000) (1 - settings.freeSkipRatio)
      clamp (105 / 100 - overage * (20 / 100)) (95 / 100) (105 / 100)
  round6 (min discipline participation)

def rollFastWindow (createdAt publishAt : Time) (row : MinerStatistics) : MinerStatistics :=
  let start := row.fastWindowStartAt.getD createdAt
  if 86400000000 ≤ publishAt - start then
    { row with fastWindowStartAt := some publishAt, fastTaskOpportunities := 0, fastTaskMisses := 0 }
  else { row with fastWindowStartAt := some (parseTime (isoformatZ start)) }

def participates (repo : Repository) (publishAt : Int) (miner : Miner) : Bool :=
  miner.createdAt ≤ parseTime publishAt || (repo.submissions.entries.map Prod.snd).any fun submission =>
    submission.minerAddress = miner.address && submission.pYesBps.isSome &&
      (repo.tasks.get? submission.taskRunID).any fun task => task.lane = .forecast15m && task.publishAt = publishAt

def countParticipation (task : Task) (revealed : List String) (repo : PokerRepository) (miner : Miner) : PokerRepository :=
  if participates repo.toRepository task.publishAt miner then
    repo.updateStatistics miner.address fun row =>
      let rolled := rollFastWindow miner.createdAt (parseTime task.publishAt) row
      let counted := { rolled with
        fastTaskOpportunities := rolled.fastTaskOpportunities + 1
        fastTaskMisses := rolled.fastTaskMisses + if miner.address ∈ revealed then 0 else 1 }
      { counted with opsReliability := computeOpsReliability settings miner counted }
  else repo

def applyFastTaskParticipation (task : Task) (submissions : List Submission) (repo : PokerRepository) : PokerRepository :=
  let revealed := (submissions.filter (·.pYesBps.isSome)).map (·.minerAddress)
  repo.listMiners.foldl (countParticipation settings task revealed) repo

def settleFastTask (outside : ScoredOutside) (task : Task) : PokerService Unit := .read fun repo =>
  let submissions := repo.listSubmissionsForTask task.taskRunID
  match outside.resolveFastTask task with
  | none => onRepository (Mining.settleFastTask settings.toSettings now outside.resolveFastTask outside.assess task)
  | some outcome => do
    .each (settleSubmission settings now outside task outcome) submissions
    .modify (applyFastTaskParticipation settings task submissions)
    onRepository (.modify (·.upsertTask { task with outcome := some outcome, state := .resolved }))

def settleDueTasks (outside : ScoredOutside) : PokerService Unit := .read fun repo =>
  .each (settleFastTask settings now outside) (repo.listDueUnsettledFastTasks (isoformatZ now))

def settleDailySubmission (outcome : Bool) (submission : Submission) : PokerService Unit := do
  onRepository (Mining.settleDailySubmission settings.toSettings outcome submission)
  match submission.pYesBps with
  | none => pure ()
  | some pYesBps =>
    .modify (·.updateStatistics submission.minerAddress fun row =>
      { row with
        modelReliability := clamp (row.modelReliability * dailyAnchorMultiplier settings.toSettings pYesBps outcome) (97 / 100) (103 / 100) })

def settleDailyTask (outside : ScoredOutside) (task : Task) : PokerService Unit :=
  match outside.resolveDailyTask task with
  | none => onRepository (Mining.settleDailyTask settings.toSettings outside.resolveDailyTask task)
  | some outcome => .read fun repo => do
    .each (settleDailySubmission settings outcome) (repo.listSubmissionsForTask task.taskRunID)
    onRepository (.modify (·.upsertTask { task with outcome := some outcome, state := .resolved }))

def settleDueDailyTasks (outside : ScoredOutside) : PokerService Unit := .read fun repo =>
  .each (settleDailyTask settings outside) <| repo.listTasks.filter fun task =>
    task.lane = .dailyAnchor ∧ task.state ≠ .resolved ∧ parseTime task.resolveAt ≤ now

end Settle

def truncate (x : ℚ) : Int := if 0 ≤ x then ⌊x⌋ else ⌈x⌉

def publicElo (settledTasks : Nat) (row : MinerStatistics) : Int :=
  let average := row.edgeScoreTotal / max 1 settledTasks
  max 900 (min 1800 (1200 + truncate (average * 800) + min settledTasks 100))

namespace PokerRepository
variable (repo : PokerRepository)

def rankKey (miner : Miner) : Nat ×ₗ ℚ ×ₗ Nat :=
  toLex (miner.totalRewards,toLex ((repo.statisticsOf miner.address).edgeScoreTotal,
    (repo.statisticsOf miner.address).correctDirectionCount))

def rankedMiners : List Miner := repo.listMiners.insertionSort fun a b => repo.rankKey b ≤ repo.rankKey a

def refreshPublicRanks : PokerRepository :=
  repo.rankedMiners.zipIdx.foldl (fun ranked entry => ranked.updateStatistics entry.1.address fun row =>
    { row with publicRank := some (entry.2 + 1), publicElo := publicElo entry.1.settledTasks row }) repo

end PokerRepository
end Clawchain.Poker
