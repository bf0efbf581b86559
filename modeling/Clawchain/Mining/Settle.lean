import Clawchain.Mining.Service

/-! Settling the tasks that are due: their submissions are rewarded, a part of the reward may be held back, and a
mature miner's holds are released. -/
namespace Clawchain.Mining
open Clawchain.Lib

structure Assessment where
  rewardAmount : Nat
  components : Components
  score : ℚ
  deriving DecidableEq

section Settle
variable (settings : Settings) (now : Time)

def admissionState (miner : Miner) : AdmissionState :=
  if settings.admissionMatureAgeHours * 3600000000 ≤ max 0 (now - miner.createdAt) then .mature
  else if settings.admissionMatureFastReveals ≤ miner.forecastReveals then .mature
  else .probation

def splitRewardByAdmission (miner : Miner) (rewardAmount : Nat) : Nat × Nat × AdmissionState :=
  let state := admissionState settings now miner
  let released := if state = .mature then rewardAmount else settings.released rewardAmount
  (released,rewardAmount - released,state)

def holdOf (task : Task) (submission : Submission) (held : Nat) : HoldEntry where
  id := s!"hold:{submission.id}"
  minerAddress := submission.minerAddress
  taskRunID := task.taskRunID
  submissionID := submission.id
  amountHeld := held
  releaseAfter := isoformatZ now

def settleSubmission (assess : Task → Submission → Assessment) (task : Task) (submission : Submission) : Service Unit :=
  .given submission.pYesBps.isSome <| .read fun repo =>
    match repo.miners.get? submission.minerAddress with
    | none => .fail .type
    | some miner =>
      let assessment := assess task submission
      let rewardAmount := if submission.eligibilityStatus = .eligible then assessment.rewardAmount else 0
      let (released,held,state) := splitRewardByAdmission settings now miner rewardAmount
      .modify fun repo =>
        let saved := repo.saveSubmission { submission with
          state := .resolved
          rewardAmount := rewardAmount
          releasedRewardAmount := some released
          heldRewardAmount := some held
          components := some assessment.components
          score := some assessment.score }
        let kept := if 0 < held then saved.saveHoldEntry (holdOf now task submission held) else saved
        kept.updateMiner submission.minerAddress fun miner =>
          { miner with
            totalRewards := miner.totalRewards + released
            heldRewards := miner.heldRewards + held
            settledTasks := miner.settledTasks + 1
            admissionState := state }

/-- Without an outcome the task and its revealed submissions wait. -/
def settleFastTask (resolve : Task → Option Bool) (assess : Task → Submission → Assessment) (task : Task) :
    Service Unit := .read fun repo =>
  let submissions := repo.listSubmissionsForTask task.taskRunID
  match resolve task with
  | none => do
    .each (fun submission => .given submission.pYesBps.isSome <|
      .modify (·.saveSubmission { submission with state := .pendingResolution })) submissions
    .modify (·.upsertTask { task with outcome := none, state := .awaitingResolution })
  | some outcome => do
    .each (settleSubmission settings now assess task) submissions
    .modify (·.upsertTask { task with outcome := some outcome, state := .resolved })

def settleDueTasks (resolve : Task → Option Bool) (assess : Task → Submission → Assessment) : Service Unit :=
  .read fun repo => .each (settleFastTask settings now resolve assess) (repo.listDueUnsettledFastTasks (isoformatZ now))

def clamp (value lower upper : ℚ) : ℚ := max lower (min upper value)

def directionCorrect (pYesBps : Int) (outcome : Bool) : Bool := (5000 ≤ pYesBps) = outcome

def dailyAnchorMultiplier (pYesBps : Int) (outcome : Bool) : ℚ :=
  let confidence := clamp (|pYesBps - 5000| / max 1 (settings.maxPYesBps - 5000)) 0 1
  let signed := if directionCorrect pYesBps outcome then confidence else -confidence
  round6 (clamp (1 + signed * (15 / 1000)) (985 / 1000) (1015 / 1000))

def settleDailySubmission (outcome : Bool) (submission : Submission) : Service Unit :=
  .given submission.pYesBps.isSome do
    .modify (·.saveSubmission { submission with
      state := .resolved
      score := submission.pYesBps.map fun pYesBps => round6 (dailyAnchorMultiplier settings pYesBps outcome - 1)
      rewardAmount := 0 })
    .read fun repo => if (repo.miners.get? submission.minerAddress).isNone then .fail .type else pure ()

def settleDailyTask (resolveDaily : Task → Option Bool) (task : Task) : Service Unit :=
  match resolveDaily task with
  | none => .modify (·.upsertTask { task with state := .awaitingResolution })
  | some outcome => .read fun repo => do
    .each (settleDailySubmission settings outcome) (repo.listSubmissionsForTask task.taskRunID)
    .modify (·.upsertTask { task with outcome := some outcome, state := .resolved })

def settleDueDailyTasks (resolveDaily : Task → Option Bool) : Service Unit := .read fun repo =>
  .each (settleDailyTask settings resolveDaily) <| repo.listTasks.filter fun task =>
    task.lane = .dailyAnchor ∧ task.state ≠ .resolved ∧ parseTime task.resolveAt ≤ now

def HoldEntry.remaining (hold : HoldEntry) : Nat := hold.amountHeld - hold.amountReleased

def dueHolds (address : String) (repo : Repository) : List HoldEntry :=
  (repo.listDueHoldEntries (isoformatZ now)).filter fun hold => hold.minerAddress = address ∧ 0 < hold.remaining

def releaseMinerHolds (miner : Miner) (repo : Repository) : Repository :=
  if admissionState settings now miner = .mature then
    let due := dueHolds now miner.address repo
    let released := due.foldl (fun repo hold =>
      repo.saveHoldEntry { hold with amountReleased := hold.amountHeld, state := .released }) repo
    let releasedTotal := (due.map (·.remaining)).sum
    if 0 < releasedTotal then
      released.updateMiner miner.address fun row =>
        { row with
          totalRewards := miner.totalRewards + releasedTotal
          heldRewards := miner.heldRewards - releasedTotal
          admissionState := .mature }
    else if 0 < miner.heldRewards then
      released.updateMiner miner.address fun row =>
        { row with totalRewards := miner.totalRewards + miner.heldRewards, heldRewards := 0, admissionState := .mature }
    else released.updateMiner miner.address fun row => { row with admissionState := .mature }
  else repo.updateMiner miner.address fun row => { row with admissionState := admissionState settings now miner }

def releaseMaturedHolds (repo : Repository) : Repository :=
  repo.listMiners.foldl (fun repo miner => releaseMinerHolds settings now miner repo) repo

end Settle
end Clawchain.Mining
