import Clawchain.Mining.Ledger

/-! The windows of the forecast lane: each gathers the tasks of an hour, its total is what their submissions earned, and
a batch that has left the open state has the total of its window. -/
namespace Clawchain.Mining
open Clawchain.Lib Clawchain.Lib.Faulty

def windowReward (repo : Repository) (id : String) : Int := repo.submissions.sumBy fun _ submission =>
  if submission.rewardWindowID = some id then submission.earned else 0

/-- A window is stored under its name, and that tells its lane. -/
structure RewardWindow.Sound (id : String) (window : RewardWindow) : Prop where
  named : window.id = id
  lane : (window.lane = .forecast15m ∧ window.state = .finalized ∧ ∃ resolveAt, id = forecastRewardWindowID resolveAt) ∨
    window.lane.isPoker = true ∧ ∃ windowStart windowEnd, id = pokerMttRewardWindowID window.lane windowStart windowEnd
  batched : ∀ batchID, window.settlementBatchID = some batchID → batchID = settlementBatchIDOf id

variable {id : String} {window : RewardWindow}

theorem RewardWindow.Sound.prefixed (sound : window.Sound id) :
    ∃ rest, id = "rw_" ++ rest := by
  rcases sound.lane with ⟨-,-,resolveAt,rfl⟩ | ⟨-,windowStart,windowEnd,rfl⟩
  · exact ⟨_,rfl⟩
  · exact ⟨window.lane.name ++ "_" ++ secondStamp windowStart ++ "_" ++ secondStamp windowEnd,by
      simp [pokerMttRewardWindowID,String.append_assoc]⟩

theorem RewardWindow.Sound.sameLane {other : RewardWindow} (sound : window.Sound id) (sound' : other.Sound id)
    (forecast : window.lane = .forecast15m) : other.lane = .forecast15m := by
  rcases sound'.lane with ⟨forecast',-⟩ | ⟨poker,windowStart,windowEnd,named⟩
  · exact forecast'
  · rcases sound.lane with ⟨-,-,resolveAt,rfl⟩ | ⟨poker',-⟩
    · exact absurd named (forecastRewardWindowID_ne_poker resolveAt poker windowStart windowEnd)
    · rw [forecast] at poker'
      cases poker'

theorem RewardWindow.Sound.sameBatch {id' : String} {other : RewardWindow} (sound : window.Sound id)
    (sound' : other.Sound id') (same : settlementBatchIDOf id = settlementBatchIDOf id') : id = id' := by
  obtain ⟨rest,rfl⟩ := sound.prefixed
  obtain ⟨rest',rfl⟩ := sound'.prefixed
  rw [settlementBatchIDOf_eq,settlementBatchIDOf_eq] at same
  have tails : rest = rest' := by
    apply String.toList_injective
    simpa using congrArg String.toList same
  rw [tails]

def Hour (repo : Repository) (id : String) (window : RewardWindow) : Prop :=
  repo.rewardWindows.get? id = some window ∧ window.lane = .forecast15m

structure Gathered (repo : Repository) : Prop where
  windows : ∀ id window, repo.rewardWindows.get? id = some window → window.Sound id
  tasks : ∀ id window taskRunID, Hour repo id window → taskRunID ∈ window.taskRunIDs →
    ∃ task, repo.tasks.get? taskRunID = some task ∧ task.lane = .forecast15m ∧ task.state = .resolved ∧
      id = forecastRewardWindowID task.resolveAt
  windowed : ∀ id task, repo.tasks.get? id = some task → task.rewardWindowID.isSome → task.state = .resolved
  submissions : ∀ key submission id, repo.submissions.get? key = some submission → submission.rewardWindowID = some id →
    submission.pYesBps.isSome ∧ ∃ window, Hour repo id window ∧ submission.taskRunID ∈ window.taskRunIDs
  joined : ∀ key submission task, repo.submissions.get? key = some submission → submission.state = .resolved →
    repo.tasks.get? submission.taskRunID = some task → task.rewardWindowID.isSome → submission.rewardWindowID.isSome
  totals : ∀ id window, Hour repo id window → (window.totalRewardAmount : Int) = windowReward repo id
  batches : ∀ id batch, repo.settlementBatches.get? id = some batch → batch.lane = .forecast15m →
    ∃ windowID window, Hour repo windowID window ∧ id = settlementBatchIDOf windowID ∧ batch.rewardWindowIDs = [windowID]
  paid : ∀ id batch windowID, repo.settlementBatches.get? id = some batch → batch.lane = .forecast15m → batch.Left →
    batch.rewardWindowIDs = [windowID] → (batch.totalRewardAmount : Int) = windowReward repo windowID

theorem gathered_empty : Gathered {} where
  windows _ _ found := by cases found
  tasks _ _ _ found := by cases found.1
  windowed _ _ found := by cases found
  submissions _ _ _ found := by cases found
  joined _ _ _ found := by cases found
  totals _ _ found := by cases found.1
  batches _ _ found := by cases found
  paid _ _ _ found := by cases found

/-! Rows that are written outside the windows. -/
section Rows
variable {repo after : Repository}

theorem Gathered.ofSame (gathered : Gathered repo) (tasks : after.tasks = repo.tasks)
    (submissions : after.submissions = repo.submissions) (windows : after.rewardWindows = repo.rewardWindows)
    (batches : after.settlementBatches = repo.settlementBatches) : Gathered after := by
  have hours {id : String} {window : RewardWindow} : Hour after id window ↔ Hour repo id window := by
    unfold Hour
    rw [windows]
  have rewards (id : String) : windowReward after id = windowReward repo id := by
    unfold windowReward
    rw [submissions]
  constructor
  · exact windows ▸ gathered.windows
  · intro id window taskRunID hour
    rw [tasks]
    exact gathered.tasks id window taskRunID (hours.mp hour)
  · exact tasks ▸ gathered.windowed
  · intro key submission id found
    simp only [hours]
    exact gathered.submissions key submission id (submissions ▸ found)
  · rw [submissions,tasks]
    exact gathered.joined
  · intro id window hour
    rw [rewards]
    exact gathered.totals id window (hours.mp hour)
  · intro id batch found
    simp only [hours]
    exact gathered.batches id batch (batches ▸ found)
  · intro id batch windowID found
    rw [rewards]
    exact gathered.paid id batch windowID (batches ▸ found)

theorem Gathered.upsertTask (gathered : Gathered repo) {task : Task} (fresh : task.rewardWindowID = none)
    (open_ : ∀ old, repo.tasks.get? task.taskRunID = some old → old.state ≠ .resolved) :
    Gathered (repo.upsertTask task) := by
  refine { gathered with tasks := ?_, windowed := ?_, joined := ?_ }
  · intro id window taskRunID hour member
    obtain ⟨old,held,forecast,resolved,named⟩ := gathered.tasks id window taskRunID hour member
    refine ⟨old,?_,forecast,resolved,named⟩
    change (repo.tasks.insert task.taskRunID task).get? taskRunID = some old
    rw [OrdMap.get?_insert_of_ne]
    · exact held
    · rintro rfl
      exact open_ old held resolved
  · intro id other found windowed
    change (repo.tasks.insert task.taskRunID task).get? id = some other at found
    rw [OrdMap.get?_insert] at found
    split_ifs at found
    · cases found
      simp [fresh] at windowed
    · exact gathered.windowed id other found windowed
  · intro key submission other found resolved held windowed
    change (repo.tasks.insert task.taskRunID task).get? submission.taskRunID = some other at held
    rw [OrdMap.get?_insert] at held
    split_ifs at held
    · cases held
      simp [fresh] at windowed
    · exact gathered.joined key submission other found resolved held windowed

theorem Gathered.saveSubmission (gathered : Gathered repo) {row : Submission}
    (again : ∀ old, repo.submissions.get? row.key = some old → row.rewardWindowID = old.rewardWindowID ∧
      (old.pYesBps.isSome → row.pYesBps.isSome) ∧ row.taskRunID = old.taskRunID ∧
      (row.rewardWindowID.isSome → row.earned = old.earned))
    (fresh : repo.submissions.get? row.key = none → row.rewardWindowID = none)
    (joined : row.state = .resolved → row.rewardWindowID = none → ∀ task, repo.tasks.get? row.taskRunID = some task →
      task.rewardWindowID = none) : Gathered (repo.saveSubmission row) := by
  have side := saveSubmission_sameSettlement row repo
  unfold SameSettlement Repository.settlementSide at side
  simp only [Prod.mk.injEq] at side
  obtain ⟨windows,batches,-⟩ := side
  rcases saveSubmission_cases row repo with ⟨same,-⟩ | ⟨-,written,-⟩
  · rw [same]
    exact gathered
  · have hours {id : String} {window : RewardWindow} : Hour (repo.saveSubmission row) id window ↔ Hour repo id window := by
      unfold Hour
      rw [windows]
    have rewards (id : String) : windowReward (repo.saveSubmission row) id = windowReward repo id := by
      unfold windowReward
      rw [written,OrdMap.sumBy_insert]
      cases found : repo.submissions.get? row.key with
      | none => simp [fresh found]
      | some old =>
        obtain ⟨sameWindow,-,-,earned⟩ := again old found
        rw [sameWindow] at earned ⊢
        by_cases own : old.rewardWindowID = some id
        · simp [own,earned]
        · simp [own]
    constructor
    · exact windows ▸ gathered.windows
    · intro id window taskRunID hour
      rw [saveSubmission_tasks]
      exact gathered.tasks id window taskRunID (hours.mp hour)
    · rw [saveSubmission_tasks]
      exact gathered.windowed
    · intro key submission id found inside
      simp only [hours]
      rw [written,OrdMap.get?_insert] at found
      split_ifs at found
      · cases found
        cases held : repo.submissions.get? row.key with
        | none => simp [fresh held] at inside
        | some old =>
          obtain ⟨sameWindow,revealed,sameTask,-⟩ := again old held
          obtain ⟨before,window,hour,member⟩ := gathered.submissions _ old id held (sameWindow ▸ inside)
          exact ⟨revealed before,window,hour,sameTask ▸ member⟩
      · exact gathered.submissions key submission id found inside
    · intro key submission task found resolved held windowed
      rw [saveSubmission_tasks] at held
      rw [written,OrdMap.get?_insert] at found
      split_ifs at found
      · cases found
        by_contra alone
        have unwindowed := joined resolved (by simpa using alone) task held
        simp [unwindowed] at windowed
      · exact gathered.joined key submission task found resolved held windowed
    · intro id window hour
      rw [rewards]
      exact gathered.totals id window (hours.mp hour)
    · intro id batch found
      simp only [hours]
      exact gathered.batches id batch (batches ▸ found)
    · intro id batch windowID found
      rw [rewards]
      exact gathered.paid id batch windowID (batches ▸ found)

end Rows

theorem Taking.gathered {before after : Repository} (step : Taking before after) (gathered : Gathered before) :
    Gathered after := by
  cases step with
  | register | refresh | count => exact gathered.ofSame rfl rfl rfl rfl
  | @commit submission unit request commitHash _ earlier task miner =>
    rcases earlier with stored | ⟨unknown,taskRunID,minerAddress,unit,rfl⟩
    · apply gathered.saveSubmission
      · intro old found
        cases stored.symm.trans found
        exact ⟨rfl,id,rfl,fun _ => rfl⟩
      · intro unknown
        cases unknown.symm.trans stored
      · intro resolved alone task held
        by_contra windowed
        have inside := gathered.joined _ submission task stored resolved held (Option.isSome_iff_ne_none.mpr windowed)
        rw [show submission.rewardWindowID = none from alone] at inside
        cases inside
    · apply gathered.saveSubmission
      · intro old found
        cases unknown.symm.trans found
      · exact fun _ => rfl
      · intro resolved
        cases resolved
  | @reveal submission unit request bps eligibility _ stored unrevealed =>
    apply gathered.saveSubmission
    · intro old found
      cases stored.symm.trans found
      refine ⟨rfl,fun _ => rfl,rfl,fun inside => ?_⟩
      obtain ⟨id,inside⟩ := Option.isSome_iff_exists.mp inside
      have revealed := (gathered.submissions _ submission id stored inside).1
      simp [unrevealed] at revealed
    · intro unknown
      cases unknown.symm.trans stored
    · intro resolved
      cases resolved

theorem Due.unwindowed {now : Time} {lane : Lane} {repo : Repository} {task : Task} (due : Due now lane repo task)
    (gathered : Gathered repo) : task.rewardWindowID = none := by
  by_contra windowed
  exact due.unresolved (gathered.windowed _ task due.stored (Option.isSome_iff_ne_none.mpr windowed))

theorem Waiting.unwindowed {now : Time} {lane : Lane} {repo : Repository} {task : Task} {submission : Submission}
    (waiting : Waiting repo task submission) (due : Due now lane repo task) (gathered : Gathered repo) :
    submission.rewardWindowID = none := by
  rw [Option.eq_none_iff_forall_ne_some]
  intro id inside
  obtain ⟨-,window,hour,member⟩ := gathered.submissions _ submission id waiting.stored inside
  obtain ⟨other,held,-,resolved,-⟩ := gathered.tasks id window _ hour member
  rw [waiting.own] at held
  cases due.stored.symm.trans held
  exact due.unresolved resolved

theorem Waiting.gathered {now : Time} {lane : Lane} {repo : Repository} {task : Task} {submission row : Submission}
    (waiting : Waiting repo task submission) (due : Due now lane repo task) (gathered : Gathered repo)
    (same : row.key = submission.key) (revealed : row.pYesBps = submission.pYesBps)
    (outside : row.rewardWindowID = submission.rewardWindowID) : Gathered (repo.saveSubmission row) := by
  have alone := waiting.unwindowed due gathered
  have sameTask : row.taskRunID = submission.taskRunID := congrArg (fun key => (ofLex key).1) same
  apply gathered.saveSubmission
  · intro old found
    rw [same] at found
    cases waiting.stored.symm.trans found
    refine ⟨outside,fun known => revealed ▸ known,sameTask,fun inside => ?_⟩
    simp [outside,alone] at inside
  · exact fun _ => outside.trans alone
  · intro _ _ other held
    rw [sameTask,waiting.own] at held
    cases due.stored.symm.trans held
    exact due.unwindowed gathered

theorem Settling.gathered {settings : Settings} {outside : Outside} {now : Time} {before after : Repository}
    (step : Settling settings outside now before after) (gathered : Gathered before) : Gathered after := by
  have again {lane : Lane} {task row : Task} (due : Due now lane before task) (same : row.taskRunID = task.taskRunID)
      (window : row.rewardWindowID = task.rewardWindowID) : Gathered (before.upsertTask row) := by
    apply gathered.upsertTask
    · exact window.trans (due.unwindowed gathered)
    · intro old found
      rw [same] at found
      cases due.stored.symm.trans found
      exact due.unresolved
  cases step with
  | create new fresh =>
    apply gathered.upsertTask
    · simp only [newTasks,List.mem_append,List.mem_flatMap,List.mem_map] at new
      rcases new with ⟨publishAt,-,asset,-,rfl⟩ | ⟨asset,-,rfl⟩ <;> rfl
    · intro old found
      cases fresh.symm.trans found
  | pend due unknown waiting => exact waiting.gathered due gathered rfl rfl rfl
  | wait due | resolve due | waitDaily due | resolveDaily due => exact again due rfl rfl
  | @settle task submission miner _ due known waiting owner =>
    rw [settleSubmission_run settings now outside.assess task submission miner waiting.revealed owner]
    have saved := @Waiting.gathered _ _ _ _ _ (settledRow settings now outside.assess task submission miner) waiting due gathered rfl rfl rfl
    have kept : Gathered (keepHold settings now outside.assess task submission miner
        (before.saveSubmission (settledRow settings now outside.assess task submission miner))) := by
      unfold keepHold
      split_ifs
      · exact saved.ofSame rfl rfl rfl rfl
      · exact saved
    exact kept.ofSame rfl rfl rfl rfl
  | settleDaily due waiting => exact waiting.gathered due gathered rfl rfl rfl
  | @release miner _ owner =>
    obtain ⟨entries,update,-,written⟩ := releaseMinerHolds_shape settings now miner before
    rw [written]
    exact gathered.ofSame rfl rfl rfl rfl

end Clawchain.Mining
