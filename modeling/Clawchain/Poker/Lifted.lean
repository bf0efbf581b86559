import Clawchain.Lib.Lifting
import Clawchain.Mining.Settling
import Clawchain.Poker.Operations

/-! What the stages of a reconcile do to the repository below: the same as the service below does. -/
namespace Clawchain.Poker
open Clawchain.Lib Clawchain.Mining

/-- An operation of the service below, with what it leaves alone. -/
abbrev Lifts {α : Type} (x : PokerService α) (y : Service α) : Prop := Faulty.Lifts (·.toRepository) x y

theorem onRepository_lifts {α : Type} (operation : Service α) : Lifts (onRepository operation) operation :=
  ⟨fun _ => rfl,fun _ => rfl⟩

section Settle
variable (settings : PokerSettings) (now : Time)

theorem settleSubmission_lifts (outside : ScoredOutside) (task : Task) (outcome : Bool) (submission : Submission) :
    Lifts (settleSubmission settings now outside task outcome submission)
      (Mining.settleSubmission settings.toSettings now outside.assess task submission) := by
  apply (onRepository_lifts _).followed
  intro _
  split
  · exact .pure ()
  · exact .quiet fun _ => rfl

theorem foldl_lower {α : Type} {f : PokerRepository → α → PokerRepository} {list : List α}
    (same : ∀ repo a, (f repo a).toRepository = repo.toRepository) (repo : PokerRepository) :
    (list.foldl f repo).toRepository = repo.toRepository := by
  induction list generalizing repo with
  | nil => rfl
  | cons a rest ih => rw [List.foldl_cons,ih,same]

theorem applyFastTaskParticipation_lower (task : Task) (submissions : List Submission) (repo : PokerRepository) :
    (applyFastTaskParticipation settings task submissions repo).toRepository = repo.toRepository := by
  apply foldl_lower
  intro repo miner
  unfold countParticipation
  split <;> rfl

theorem settleFastTask_lifts (outside : ScoredOutside) (task : Task) :
    Lifts (settleFastTask settings now outside task)
      (Mining.settleFastTask settings.toSettings now outside.resolveFastTask outside.assess task) := by
  cases resolved : outside.resolveFastTask task with
  | none =>
    have waits : settleFastTask settings now outside task =
        onRepository (Mining.settleFastTask settings.toSettings now outside.resolveFastTask outside.assess task) := by
      funext repo
      simp only [settleFastTask,Faulty.read_run,resolved]
    exact waits ▸ onRepository_lifts _
  | some outcome =>
    unfold settleFastTask Mining.settleFastTask
    simp only [resolved]
    apply Faulty.Lifts.read
    intro repo
    apply Faulty.Lifts.bind
    · exact .each fun submission _ => settleSubmission_lifts settings now outside task outcome submission
    · intro _
      refine ⟨fun _ => rfl,fun s => ?_⟩
      change ((applyFastTaskParticipation settings task _ s).toRepository).upsertTask _ = _
      rw [applyFastTaskParticipation_lower]
      rfl

theorem settleDueTasks_lifts (outside : ScoredOutside) : Lifts (settleDueTasks settings now outside)
    (Mining.settleDueTasks settings.toSettings now outside.resolveFastTask outside.assess) :=
  .read fun _ => .each fun task _ => settleFastTask_lifts settings now outside task

theorem settleDailySubmission_lifts (outcome : Bool) (submission : Submission) :
    Lifts (settleDailySubmission settings outcome submission) (Mining.settleDailySubmission settings.toSettings outcome submission) := by
  apply (onRepository_lifts _).followed
  intro _
  split
  · exact .pure ()
  · exact .quiet fun _ => rfl

theorem settleDailyTask_lifts (outside : ScoredOutside) (task : Task) :
    Lifts (settleDailyTask settings outside task) (Mining.settleDailyTask settings.toSettings outside.resolveDailyTask task) := by
  cases resolved : outside.resolveDailyTask task with
  | none =>
    have waits : settleDailyTask settings outside task = onRepository (Mining.settleDailyTask settings.toSettings outside.resolveDailyTask task) := by
      simp only [settleDailyTask,resolved]
    exact waits ▸ onRepository_lifts _
  | some outcome =>
    unfold settleDailyTask Mining.settleDailyTask
    simp only [resolved]
    apply Faulty.Lifts.read
    intro repo
    apply Faulty.Lifts.bind
    · exact .each fun submission _ => settleDailySubmission_lifts settings outcome submission
    · exact fun _ => onRepository_lifts _

theorem settleDueDailyTasks_lifts (outside : ScoredOutside) :
    Lifts (settleDueDailyTasks settings now outside) (Mining.settleDueDailyTasks settings.toSettings now outside.resolveDailyTask) :=
  .read fun _ => .each fun task _ => settleDailyTask_lifts settings outside task

theorem refreshPublicRanks_lower (repo : PokerRepository) : repo.refreshPublicRanks.toRepository = repo.toRepository := by
  unfold PokerRepository.refreshPublicRanks
  rw [foldl_lower]
  exact fun _ _ => rfl

theorem gatherWindows_lower (repo : PokerRepository) :
    (gatherWindows settings now repo).toRepository = buildRewardWindows settings.toSettings repo.toRepository := by
  unfold gatherWindows
  rw [foldl_lower]
  exact fun _ _ => rfl

def settleBelow (outside : Outside) : Service Unit := do
  .modify fun repo => (newTasks settings.toSettings now).foldl createTask repo
  Mining.settleDueTasks settings.toSettings now outside.resolveFastTask outside.assess
  Mining.settleDueDailyTasks settings.toSettings now outside.resolveDailyTask
  .modify (releaseMaturedHolds settings.toSettings now)
  .modify (buildRewardWindows settings.toSettings)

theorem settleAndGather_lifts (outside : ScoredOutside) :
    Lifts (settleAndGather settings now outside) (settleBelow settings now outside.toOutside) :=
  (onRepository_lifts _).bind fun _ => (settleDueTasks_lifts settings now outside).bind fun _ =>
    (settleDueDailyTasks_lifts settings now outside).bind fun _ => (onRepository_lifts _).bind fun _ =>
      .modify (gatherWindows_lower settings now)

end Settle
end Clawchain.Poker
