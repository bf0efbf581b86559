import Clawchain.Mining.Batching

/-! A task that is late, and the batch of its hour: what an anchored batch promises is what its windows gathered, as long
as nothing that earns a reward is resolved after the batch has left the open state. -/
namespace Clawchain.Mining
open Clawchain.Lib Clawchain.Lib.Faulty

def Task.waits (task : Task) : Task := { task with outcome := none, state := .awaitingResolution }

def Submission.waits (submission : Submission) : Submission := { submission with state := .pendingResolution }

/-- A due task gets its outcome, and a submission of it a reward, when the batch of its hour has left the open state. The
rows are those that are stored, or those that an earlier reconcile of the same call leaves. -/
def Late (now : Time) (outside : Outside) (repo : Repository) : Prop := ∃ task submission batch,
  Due now .forecast15m repo task ∧ Waiting repo task submission ∧ submission.eligibilityStatus = .eligible ∧
    repo.settlementBatches.get? (settlementBatchIDOf (forecastRewardWindowID task.resolveAt)) = some batch ∧ batch.Left ∧
    ∃ task' ∈ [task,task.waits], ∃ submission' ∈ [submission,submission.waits],
      (outside.resolveFastTask task').isSome ∧ (outside.assess task' submission').rewardAmount ≠ 0

def Task.alone (task : Task) : Task := { task with rewardWindowID := none }

def Submission.alone (submission : Submission) : Submission := { submission with rewardWindowID := none }

structure Waited (start repo : Repository) : Prop where
  known : ∀ id, (start.tasks.get? id).isSome → (repo.tasks.get? id).isSome
  tasks : ∀ id task, repo.tasks.get? id = some task → task.lane = .forecast15m → task.state ≠ .resolved →
    start.tasks.get? id = none ∨ ∃ old, start.tasks.get? id = some old ∧ old.state ≠ .resolved ∧
      (task.alone = old.alone ∨ task.alone = old.waits.alone)
  submissions : ∀ key submission task, repo.submissions.get? key = some submission → submission.state ≠ .resolved →
    repo.tasks.get? submission.taskRunID = some task → task.lane = .forecast15m → task.state ≠ .resolved →
      ∃ old, start.submissions.get? key = some old ∧
        (submission.alone = old.alone ∨ submission.alone = old.waits.alone)

theorem Waited.refl (repo : Repository) : Waited repo repo where
  known _ known := known
  tasks _ task found _ open_ := .inr ⟨task,found,open_,.inl rfl⟩
  submissions _ submission _ found _ _ _ _ := ⟨submission,found,.inl rfl⟩

section Writes
variable {start repo : Repository}

theorem Waited.ofSame {after : Repository} (waited : Waited start repo) (tasks : after.tasks = repo.tasks)
    (submissions : after.submissions = repo.submissions) : Waited start after := by
  constructor
  · rw [tasks]
    exact waited.known
  · rw [tasks]
    exact waited.tasks
  · rw [tasks,submissions]
    exact waited.submissions

theorem Waited.upsertTask (waited : Waited start repo) {task old : Task} (stored : repo.tasks.get? task.taskRunID = some old)
    (open_ : old.state ≠ .resolved) (same : task.lane = old.lane)
    (row : task.state = .resolved ∨ task.lane ≠ .forecast15m ∨ task = old.waits) :
    Waited start (repo.upsertTask task) := by
  constructor
  · intro id known
    change ((repo.tasks.insert task.taskRunID task).get? id).isSome
    rw [OrdMap.get?_insert]
    split_ifs
    · rfl
    · exact waited.known id known
  · intro id other found forecast unresolved
    change (repo.tasks.insert task.taskRunID task).get? id = some other at found
    rw [OrdMap.get?_insert] at found
    split_ifs at found with own
    · cases found
      rcases row with resolved | foreign | rfl
      · exact absurd resolved unresolved
      · exact absurd forecast foreign
      · subst own
        rcases waited.tasks _ old stored forecast open_ with unknown | ⟨first,held,open',same | same⟩
        · exact .inl unknown
        · refine .inr ⟨first,held,open',.inr ?_⟩
          exact congrArg Task.waits same
        · refine .inr ⟨first,held,open',.inr ?_⟩
          exact congrArg Task.waits same
    · exact waited.tasks id other found forecast unresolved
  · intro key submission other found unsettled held forecast unresolved
    change (repo.tasks.insert task.taskRunID task).get? submission.taskRunID = some other at held
    rw [OrdMap.get?_insert] at held
    split_ifs at held with own
    · cases held
      exact waited.submissions key submission old found unsettled (own ▸ stored) (same ▸ forecast) open_
    · exact waited.submissions key submission other found unsettled held forecast unresolved

theorem Waited.saveSubmission (waited : Waited start repo) {row old : Submission}
    (stored : repo.submissions.get? row.key = some old) (unsettled : old.state ≠ .resolved)
    (written : row.state = .resolved ∨ row = old.waits) : Waited start (repo.saveSubmission row) := by
  rcases saveSubmission_cases row repo with ⟨same,-⟩ | ⟨-,inserted,-⟩
  · rw [same]
    exact waited
  · constructor
    · rw [saveSubmission_tasks]
      exact waited.known
    · rw [saveSubmission_tasks]
      exact waited.tasks
    · intro key submission task found open_ held forecast unresolved
      rw [saveSubmission_tasks] at held
      rw [inserted,OrdMap.get?_insert] at found
      split_ifs at found with own
      · cases found
        rcases written with settled | rfl
        · exact absurd settled open_
        · subst own
          obtain ⟨first,known,same | same⟩ := waited.submissions _ old task stored unsettled held forecast unresolved
          · exact ⟨first,known,.inr (congrArg Submission.waits same)⟩
          · exact ⟨first,known,.inr (congrArg Submission.waits same)⟩
      · exact waited.submissions key submission task found open_ held forecast unresolved

end Writes

variable {after before repo start : Repository} {settings : Settings} {now : Time}

theorem Settling.waited {outside : Outside} (step : Settling settings outside now before after) (keyed : Keyed before)
    (waited : Waited start before) :
    Waited start after := by
  cases step with
  | @create task _ new fresh =>
    have other {id : String} (known : (before.tasks.get? id).isSome) : id ≠ task.taskRunID := by
      rintro rfl
      simp [fresh] at known
    constructor
    · intro id known
      change ((before.tasks.insert task.taskRunID task).get? id).isSome
      rw [OrdMap.get?_insert]
      split_ifs
      · rfl
      · exact waited.known id known
    · intro id row found forecast unresolved
      change (before.tasks.insert task.taskRunID task).get? id = some row at found
      rw [OrdMap.get?_insert] at found
      split_ifs at found with own
      · left
        by_contra known
        exact other (waited.known id (Option.isSome_iff_ne_none.mpr known)) own
      · exact waited.tasks id row found forecast unresolved
    · intro key submission row found unsettled held forecast unresolved
      change (before.tasks.insert task.taskRunID task).get? submission.taskRunID = some row at held
      rw [OrdMap.get?_insert_of_ne _ _ (other (keyed.submissions key submission found).task)] at held
      exact waited.submissions key submission row found unsettled held forecast unresolved
  | pend due unknown waiting => exact waited.saveSubmission waiting.stored waiting.unsettled (.inr rfl)
  | wait due unknown => exact waited.upsertTask due.stored due.unresolved rfl (.inr (.inr rfl))
  | @settle task submission miner _ due known waiting owner =>
    rw [settleSubmission_run settings now outside.assess task submission miner waiting.revealed owner]
    let row := settledRow settings now outside.assess task submission miner
    have saved : Waited start (before.saveSubmission row) := waited.saveSubmission waiting.stored waiting.unsettled (.inl rfl)
    have kept : (keepHold settings now outside.assess task submission miner (before.saveSubmission row)).tasks =
          (before.saveSubmission row).tasks ∧
        (keepHold settings now outside.assess task submission miner (before.saveSubmission row)).submissions =
          (before.saveSubmission row).submissions := by
      unfold keepHold
      split_ifs <;> exact ⟨rfl,rfl⟩
    exact saved.ofSame kept.1 kept.2
  | resolve due known settled => exact waited.upsertTask due.stored due.unresolved rfl (.inl rfl)
  | settleDaily due waiting => exact waited.saveSubmission waiting.stored waiting.unsettled (.inl rfl)
  | waitDaily due => exact waited.upsertTask due.stored due.unresolved rfl (.inr (.inl (by simp [due.lane])))
  | resolveDaily due settled => exact waited.upsertTask due.stored due.unresolved rfl (.inl rfl)
  | @release miner _ owner =>
    obtain ⟨entries,update,-,written⟩ := releaseMinerHolds_shape settings now miner before
    rw [written]
    exact waited.ofSame rfl rfl

theorem Stamped.waited {id : String} {taskRunIDs : List String} (stamped : Stamped id taskRunIDs before after)
    (waited : Waited start before) : Waited start after := by
  have sameTask (task : Task) : (stampTask id taskRunIDs task).alone = task.alone := by
    unfold stampTask
    split_ifs <;> rfl
  have sameSubmission (submission : Submission) : (stampSubmission id taskRunIDs submission).alone = submission.alone := by
    unfold stampSubmission
    split_ifs <;> rfl
  constructor
  · intro key known
    rw [stamped.tasks,Option.isSome_map]
    exact waited.known key known
  · intro key task found forecast unresolved
    rw [stamped.tasks] at found
    obtain ⟨old,held,rfl⟩ := Option.map_eq_some_iff.mp found
    obtain ⟨lane,state,-⟩ := stampTask_same id taskRunIDs old
    rw [sameTask]
    exact waited.tasks key old held (lane ▸ forecast) (state ▸ unresolved)
  · intro key submission task found unsettled held forecast unresolved
    rw [stamped.submissions] at found
    obtain ⟨old,stored,rfl⟩ := Option.map_eq_some_iff.mp found
    obtain ⟨own,settled,-⟩ := stampSubmission_same id taskRunIDs old
    rw [own,stamped.tasks] at held
    obtain ⟨earlier,held',rfl⟩ := Option.map_eq_some_iff.mp held
    obtain ⟨lane,state,-⟩ := stampTask_same id taskRunIDs earlier
    rw [sameSubmission]
    exact waited.submissions key old earlier stored (settled ▸ unsettled) held' (lane ▸ forecast) (state ▸ unresolved)

def LeftBefore (start repo : Repository) : Prop := ∀ id batch, repo.settlementBatches.get? id = some batch → batch.Left →
  ∃ old, start.settlementBatches.get? id = some old ∧ old.Left

section Prompt
variable {now : Time} {outside : Outside} {start repo : Repository}

theorem late_of_settle (regular : Regular start) (gathered : Gathered start) (waited : Waited start repo)
    (left : LeftBefore start repo) (gathered' : Gathered repo) {task : Task} {submission : Submission}
    {batch : SettlementBatch} (due : Due now .forecast15m repo task) (known : (outside.resolveFastTask task).isSome)
    (waiting : Waiting repo task submission)
    (found : repo.settlementBatches.get? (settlementBatchIDOf (forecastRewardWindowID task.resolveAt)) = some batch)
    (isLeft : batch.Left) (paid : rewardOf outside.assess task submission ≠ 0) : Late now outside start := by
  have eligible : submission.eligibilityStatus = .eligible := by
    by_contra other
    exact paid (if_neg other)
  unfold rewardOf at paid
  rw [if_pos eligible] at paid
  have held : repo.tasks.get? submission.taskRunID = some task := waiting.own ▸ due.stored
  obtain ⟨old,stored,row⟩ := waited.submissions _ submission task waiting.stored waiting.unsettled held due.lane due.unresolved
  have filed := regular.submissions _ old stored
  have own : old.taskRunID = submission.taskRunID := congrArg (fun key => (ofLex key).1) filed.keyed
  obtain ⟨first,taskHeld⟩ := Option.isSome_iff_exists.mp filed.task
  rw [own,waiting.own] at taskHeld
  rcases waited.tasks _ task due.stored due.lane due.unresolved with unknown | ⟨same,stored',open_,row'⟩
  · cases unknown.symm.trans taskHeld
  cases taskHeld.symm.trans stored'
  have sameID : first.taskRunID = task.taskRunID := (regular.tasks _ first stored').1
  have aloneTask : task.alone = task := by
    unfold Task.alone
    rw [← due.unwindowed gathered']
  have facts : first.resolveAt = task.resolveAt ∧ first.lane = task.lane := by
    rcases row' with same | same
    · exact ⟨(congrArg Task.resolveAt same).symm,(congrArg Task.lane same).symm⟩
    · exact ⟨(congrArg Task.resolveAt same).symm,(congrArg Task.lane same).symm⟩
  have due' : Due now .forecast15m start first :=
    ⟨sameID.symm ▸ stored',facts.2.trans due.lane,open_,facts.1 ▸ due.past⟩
  have factsSubmission : old.pYesBps = submission.pYesBps ∧ old.eligibilityStatus = submission.eligibilityStatus := by
    rcases row with same | same
    · exact ⟨(congrArg Submission.pYesBps same).symm,(congrArg Submission.eligibilityStatus same).symm⟩
    · exact ⟨(congrArg Submission.pYesBps same).symm,(congrArg Submission.eligibilityStatus same).symm⟩
  have waiting' : Waiting start first old :=
    { stored := filed.keyed.symm ▸ stored
      own := own.trans (waiting.own.trans sameID.symm)
      revealed := factsSubmission.1 ▸ waiting.revealed
      unsettled := regular.open_ _ old first stored (own.trans waiting.own ▸ stored') open_ }
  have aloneFirst : first.alone = first := by
    unfold Task.alone
    rw [← due'.unwindowed gathered]
  have aloneOld : old.alone = old := by
    unfold Submission.alone
    rw [← waiting'.unwindowed due' gathered]
  have aloneSubmission : submission.alone = submission := by
    unfold Submission.alone
    rw [← waiting.unwindowed due gathered']
  obtain ⟨oldBatch,held',oldLeft⟩ := left _ batch found isLeft
  refine ⟨first,old,oldBatch,due',waiting',factsSubmission.2.trans eligible,facts.1 ▸ held',oldLeft,task,?_,submission,?_,
    known,paid⟩
  · have waits : first.waits.alone = first.waits := congrArg Task.waits aloneFirst
    rw [aloneTask,aloneFirst,waits] at row'
    simpa using row'
  · have waits : old.waits.alone = old.waits := congrArg Submission.waits aloneOld
    rw [aloneSubmission,aloneOld,waits] at row
    simpa using row

theorem Settling.prompt {settings : Settings} {after : Repository} (regular : Regular start) (gathered : Gathered start)
    (onTime : ¬Late now outside start) (waited : Waited start repo) (left : LeftBefore start repo) (keyed : Keyed repo)
    (gathered' : Gathered repo) (prompt : Prompt repo) (step : Settling settings outside now repo after) : Prompt after := by
  have side := step.sameSettlement
  unfold SameSettlement Repository.settlementSide at side
  simp only [Prod.mk.injEq] at side
  obtain ⟨-,batches,-⟩ := side
  -- Tasks that are written again keep their lane and their hour.
  have rewritten {lane : Lane} {task row : Task} (due : Due now lane repo task) (written : after = repo.upsertTask row)
      (same : row.taskRunID = task.taskRunID) (sameLane : row.lane = task.lane) (sameHour : row.resolveAt = task.resolveAt) :
      Prompt after := by
    subst written
    intro key submission other batch found settled alone held forecast
    change (repo.tasks.insert row.taskRunID row).get? submission.taskRunID = some other at held
    rw [OrdMap.get?_insert] at held
    split_ifs at held with own
    · cases held
      rw [sameHour]
      exact prompt key submission task batch found settled alone (own ▸ same ▸ due.stored) (sameLane ▸ forecast)
    · exact prompt key submission other batch found settled alone held forecast
  -- A submission that is written waits, is of another lane, or earned nothing.
  have saved {lane : Lane} {task : Task} {submission : Submission} (row : Submission) (due : Due now lane repo task)
      (waiting : Waiting repo task submission) (same : row.key = submission.key)
      (tasks : after.tasks = repo.tasks) (written : after.submissions = repo.submissions.insert submission.key row)
      (unpaid : row.state ≠ .resolved ∨ lane ≠ .forecast15m ∨ ∀ batch,
        repo.settlementBatches.get? (settlementBatchIDOf (forecastRewardWindowID task.resolveAt)) = some batch → batch.Left →
          row.rewardAmount = 0) : Prompt after := by
    have sameTask : row.taskRunID = submission.taskRunID := congrArg (fun key => (ofLex key).1) same
    intro key other task' batch found settled alone held forecast located isLeft
    rw [written,OrdMap.get?_insert] at found
    rw [tasks] at held
    rw [batches] at located
    split_ifs at found with own
    · cases found
      rw [sameTask,waiting.own] at held
      cases due.stored.symm.trans held
      rcases unpaid with open_ | foreign | nothing
      · exact absurd settled open_
      · exact absurd (due.lane.symm.trans forecast) foreign
      · exact nothing batch located isLeft
    · exact prompt key other task' batch found settled alone held forecast located isLeft
  cases step with
  | @create task _ new fresh =>
    intro key submission other batch found settled alone held forecast
    have known := (keyed.submissions key submission found).task
    change (repo.tasks.insert task.taskRunID task).get? submission.taskRunID = some other at held
    rw [OrdMap.get?_insert_of_ne] at held
    · exact prompt key submission other batch found settled alone held forecast
    · intro own
      simp [own,fresh] at known
  | @pend task submission _ due unknown waiting =>
    exact saved submission.waits due waiting rfl (saveSubmission_tasks _ repo)
      (saveSubmission_again keyed waiting.stored rfl) (.inl (by simp [Submission.waits]))
  | wait due unknown => exact rewritten due rfl rfl rfl rfl
  | @settle task submission miner _ due known waiting owner =>
    have run := settleSubmission_run settings now outside.assess task submission miner waiting.revealed owner
    obtain ⟨tasks,written,-⟩ := settleSubmission_rows keyed waiting owner run
    rw [run] at saved batches ⊢
    refine saved (settledRow settings now outside.assess task submission miner) due waiting rfl tasks written (.inr (.inr fun batch located isLeft => ?_))
    by_contra paid
    exact onTime (late_of_settle regular gathered waited left gathered' due known waiting located isLeft paid)
  | resolve due known settled => exact rewritten due rfl rfl rfl rfl
  | @settleDaily task submission _ due waiting score =>
    exact saved { submission with state := .resolved, score := some score, rewardAmount := 0 } due waiting rfl (saveSubmission_tasks _ repo)
      (saveSubmission_again keyed waiting.stored rfl) (.inr (.inl (by simp)))
  | waitDaily due => exact rewritten due rfl rfl rfl rfl
  | resolveDaily due settled => exact rewritten due rfl rfl rfl rfl
  | @release miner _ owner =>
    obtain ⟨entries,update,-,written⟩ := releaseMinerHolds_shape settings now miner repo
    rw [written]
    exact prompt

end Prompt

structure Whole (repo : Repository) : Prop where
  regular : Regular repo
  gathered : Gathered repo
  all : AllGathered repo

structure Ongoing (start repo : Repository) : Prop extends Whole repo where
  waited : Waited start repo
  left : LeftBefore start repo

theorem Whole.ongoing (whole : Whole repo) : Ongoing repo repo where
  toWhole := whole
  waited := .refl repo
  left _ batch found left := ⟨batch,found,left⟩

theorem Untouched.leftBefore (move : Untouched before after) (left : LeftBefore start before) : LeftBefore start after := by
  intro id batch found isLeft
  rcases move.batches id with same | ⟨-,last,held,ends,-⟩
  · exact left id batch (same ▸ found) isLeft
  · cases held.symm.trans found
    rcases ends with opened | cancelled
    · exact absurd opened isLeft.1
    · exact absurd cancelled isLeft.2

section Calls
variable {settings : Settings} {now : Time} {outside : Outside} {start repo : Repository}

theorem reconcile_ongoing (whole : Whole start) (onTime : ¬Late now outside start) (ongoing : Ongoing start repo) :
    Ongoing start (reconcile settings outside now repo).2 ∧
      ((reconcile settings outside now repo).1 = .ok () → Synced (reconcile settings outside now repo).2) := by
  obtain ⟨settled,path,regular,side,run⟩ := reconcile_settles settings outside now ongoing.regular
  have along : (Keyed settled ∧ Gathered settled) ∧ (Waited start settled ∧ LeftBefore start settled) ∧ Prompt settled := by
    clear run regular side
    induction path with
    | refl =>
      exact ⟨⟨ongoing.regular.toKeyed,ongoing.gathered⟩,⟨ongoing.waited,ongoing.left⟩,ongoing.all.prompt⟩
    | tail _ step ih =>
      obtain ⟨⟨keyed,gathered⟩,⟨waited,left⟩,prompt⟩ := ih
      exact ⟨⟨step.keyed keyed,step.gathered gathered⟩,
        ⟨step.waited keyed waited,(step.sameSettlement.untouched).leftBefore left⟩,
        step.prompt whole.regular whole.gathered onTime waited left keyed gathered prompt⟩
  obtain ⟨⟨keyed,gathered⟩,⟨waited,left⟩,prompt⟩ := along
  obtain ⟨gathered',all,synced⟩ := gatherRewards_gathered settings outside regular gathered prompt
  have left' : LeftBefore start (reconcile settings outside now repo).2 :=
    (reconcile_untouched outside now repo).leftBefore ongoing.left
  rw [run] at left' ⊢
  refine ⟨{ regular := ?_, gathered := gathered', all := all, waited := ?_, left := left' },synced⟩
  · exact gatherRewards_keeps settings outside (fun _ _ _ _ _ regular stamped => stamped.regular regular)
      (fun _ _ same regular => same.regular regular) keyed regular
  · refine gatherRewards_keeps settings outside (fun _ _ _ _ _ waited stamped => stamped.waited waited) ?_ keyed waited
    intro before after same waited
    unfold SameIntake Repository.intakeSide at same
    simp only [Prod.mk.injEq] at same
    exact waited.ofSame same.2.1 same.2.2.1

theorem Gathered.updateBatch (gathered : Gathered repo) (id : String) {update : SettlementBatch → SettlementBatch}
    (same : ∀ batch, (update batch).lane = batch.lane ∧ (update batch).rewardWindowIDs = batch.rewardWindowIDs ∧
      (update batch).totalRewardAmount = batch.totalRewardAmount)
    (paid : ∀ batch windowID, repo.settlementBatches.get? id = some batch → batch.lane = .forecast15m →
      (update batch).Left → batch.rewardWindowIDs = [windowID] →
        (batch.totalRewardAmount : Int) = windowReward repo windowID) : Gathered (repo.updateSettlementBatch id update) := by
  refine { gathered with batches := ?_, paid := ?_ }
  · intro other batch found forecast
    obtain ⟨old,held,rfl⟩ := OrdMap.of_get?_modifyAt found
    split_ifs at forecast ⊢
    · rw [(same old).2.1]
      exact gathered.batches other old held ((same old).1 ▸ forecast)
    · exact gathered.batches other old held forecast
  · intro other batch windowID found forecast left listed
    obtain ⟨old,held,rfl⟩ := OrdMap.of_get?_modifyAt found
    split_ifs at forecast left listed ⊢ with own
    · rw [(same old).2.2]
      exact paid old windowID (own ▸ held) ((same old).1 ▸ forecast) left ((same old).2.1 ▸ listed)
    · exact gathered.paid other old windowID held forecast left listed

theorem Ongoing.ofSame {after : Repository} (ongoing : Ongoing start repo) (same : SameIntake repo after)
    (windows : after.rewardWindows = repo.rewardWindows) (batches : after.settlementBatches = repo.settlementBatches) :
    Ongoing start after := by
  have regular := same.regular ongoing.regular
  unfold SameIntake Repository.intakeSide at same
  simp only [Prod.mk.injEq] at same
  obtain ⟨-,tasks,submissions,-⟩ := same
  constructor
  · refine ⟨regular,ongoing.gathered.ofSame tasks submissions windows batches,?_⟩
    unfold AllGathered
    rw [tasks,submissions]
    exact ongoing.all
  · exact ongoing.waited.ofSame tasks submissions
  · unfold LeftBefore
    rw [batches]
    exact ongoing.left

theorem Ongoing.updateBatch (ongoing : Ongoing start repo) (id : String) {update : SettlementBatch → SettlementBatch}
    (same : ∀ batch, (update batch).lane = batch.lane ∧ (update batch).rewardWindowIDs = batch.rewardWindowIDs ∧
      (update batch).totalRewardAmount = batch.totalRewardAmount)
    (left : ∀ batch, repo.settlementBatches.get? id = some batch → (update batch).Left → batch.Left) :
    Ongoing start (repo.updateSettlementBatch id update) := by
  have intake : SameIntake repo (repo.updateSettlementBatch id update) := rfl
  constructor
  · refine ⟨intake.regular ongoing.regular,ongoing.gathered.updateBatch id same ?_,ongoing.all⟩
    intro batch windowID found forecast isLeft listed
    exact ongoing.gathered.paid id batch windowID found forecast (left batch found isLeft) listed
  · exact ongoing.waited.ofSame rfl rfl
  · intro other batch found isLeft
    obtain ⟨old,held,rfl⟩ := OrdMap.of_get?_modifyAt found
    split_ifs at isLeft with own
    · exact ongoing.left other old held (left old (own ▸ held) isLeft)
    · exact ongoing.left other old held isLeft

end Calls

/-- The terms of a call that only reconciles, and resolves nothing late, beside what it does with jobs. -/
def timely (now : Time) (start : Repository) : Terms where
  allowed _ := True
  live _ _ := trivial
  trusted _ := True
  prepares := True
  fixes := SettlementBatch.Left
  refixes _ left := left
  admits
    | .reconcile outside => ¬Late now outside start
    | .registerMiner .. | .commitSubmission .. | .revealSubmission .. | .buildPokerMttRewardWindow ..
    | .rebuildRewardWindow .. => False
    | _ => True

theorem Step.ongoing (whole : Whole start) (tidy : Tidy before) (ongoing : Ongoing start before)
    (step : Step settings (timely now start) now before after) :
    Ongoing start after := by
  have ended {job : AnchorJob} {update : AnchorJob → AnchorJob} {batchState : BatchState}
      (found : before.anchorJobs.get? job.id = some job) : Ongoing start (before.endAnchorJob job update batchState) := by
    have updated : Ongoing start (before.updateAnchorJob job.id update) := ongoing.ofSame rfl rfl rfl
    apply updated.updateBatch
    · intro batch
      split_ifs <;> exact ⟨rfl,rfl,rfl⟩
    · intro batch held _
      obtain ⟨same,held',left⟩ := tidy.enlisted _ job found
      cases held.symm.trans held'
      exact left
  cases step with
  | @plain operation _ plain admitted =>
    cases operation with
    | reconcile outside => exact (reconcile_ongoing whole admitted ongoing).1
    | registerMiner | commitSubmission | revealSubmission | buildPokerMttRewardWindow => exact False.elim admitted
    | _ => cases plain
  | recount prepares admitted found => exact False.elim admitted
  | rearchive prepares found stored => exact ongoing.ofSame rfl rfl rfl
  | @fix id batch payload pages _ prepares may found kept pays computed fixable =>
    have stored : Ongoing start (before.upsertSettlementAnchorArtifact id payload pages) := ongoing.ofSame rfl rfl rfl
    apply stored.updateBatch
    · exact fun _ => ⟨rfl,rfl,rfl⟩
    · intro same held _
      cases found.symm.trans held
      exact may
  | @enlist batchID payloadHash batch _ prepares found ready hashed =>
    have listed : Ongoing start (before.saveAnchorJob (newAnchorJob now batchID payloadHash batch.lane before)) :=
      ongoing.ofSame rfl rfl rfl
    apply listed.updateBatch
    · exact fun _ => ⟨rfl,rfl,rfl⟩
    · intro same held _
      cases found.symm.trans held
      exact ⟨by simp [ready],by simp [ready]⟩
  | broadcast prepares txHash found allowed => exact ongoing.ofSame rfl rfl rfl
  | judge status => exact ongoing.ofSame rfl rfl rfl
  | anchor found batched trusted sent answered confirmed => exact ended found
  | fail reason found allowed => exact ended found

theorem Whole.ofSame (whole : Whole repo) (same : SameIntake repo after)
    (windows : after.rewardWindows = repo.rewardWindows) (batches : after.settlementBatches = repo.settlementBatches) :
    Whole after := (whole.ongoing.ofSame same windows batches).toWhole

theorem retryAnchorSettlementBatch_whole {outside : Outside} (whole : Whole repo) (onTime : ¬Late now outside repo)
    (id : String) :
    Whole (retryAnchorSettlementBatch settings outside now id repo).2 := by
  obtain ⟨ongoing,synced⟩ : Ongoing repo (reconcile settings outside now repo).2 ∧
      ((reconcile settings outside now repo).1 = .ok () → Synced (reconcile settings outside now repo).2) :=
    reconcile_ongoing whole onTime whole.ongoing
  unfold retryAnchorSettlementBatch
  cases ran : reconcile settings outside now repo with
  | mk result middle =>
    rw [ran] at ongoing synced
    cases result with
    | error failure =>
      rw [bind_of_error _ ran]
      exact ongoing.toWhole
    | ok _ =>
      have follows : Synced middle := synced rfl
      rw [bind_of_ok _ ran,getSettlementBatch,require_bind]
      cases found : middle.settlementBatches.get? id with
      | none => exact ongoing.toWhole
      | some batch =>
        dsimp only
        split_ifs with dead disabled
        · exact ongoing.toWhole
        · exact ongoing.toWhole
        · rw [read_run]
          cases computed : anchorPayload settings middle batch with
          | error message => exact ongoing.toWhole
          | ok parts =>
            dsimp only
            unfold fixAnchorPayload
            split_ifs with conflict fixed
            · exact ongoing.toWhole
            · cases batch.anchorPayloadJSON with
              | none => exact ongoing.toWhole
              | some payload => exact ongoing.toWhole.ofSame rfl rfl rfl
            · have stored : Whole (middle.upsertSettlementAnchorArtifact id parts.1 parts.2) :=
                ongoing.toWhole.ofSame rfl rfl rfl
              have intake : SameIntake middle (middle.fixAnchor settings id parts.1 parts.2) := rfl
              refine ⟨intake.regular ongoing.regular,stored.gathered.updateBatch id (fun _ => ⟨rfl,rfl,rfl⟩) ?_,ongoing.all⟩
              intro same windowID held forecast _ listed
              cases found.symm.trans held
              by_cases isOpen : batch.state = .opened
              · exact follows id batch windowID found forecast isOpen listed
              · exact ongoing.gathered.paid id batch windowID found forecast ⟨isOpen,fun gone => dead (.inl gone)⟩ listed

def Operation.regular : Operation → Bool
  | .buildPokerMttRewardWindow .. | .rebuildRewardWindow .. => false
  | _ => true

theorem saveSubmission_allGathered {row : Submission} (all : AllGathered repo)
    (settled : row.state = .resolved → ∃ old, repo.submissions.get? row.key = some old ∧ old.state = .resolved ∧
      old.taskRunID = row.taskRunID ∧ old.rewardWindowID = row.rewardWindowID)
    : AllGathered (repo.saveSubmission row) := by
  intro key submission task found resolved held forecast
  rw [saveSubmission_tasks] at held
  rcases saveSubmission_cases row repo with ⟨same,-⟩ | ⟨-,written,-⟩
  · rw [same] at found
    exact all key submission task found resolved held forecast
  · rw [written,OrdMap.get?_insert] at found
    split_ifs at found
    · cases found
      obtain ⟨old,stored,ended,own,window⟩ := settled resolved
      rw [← window]
      exact all _ old task stored ended (own ▸ held) forecast
    · exact all key submission task found resolved held forecast

theorem Taking.allGathered (step : Taking before after) (all : AllGathered before) :
    AllGathered after := by
  cases step with
  | register | refresh | count => exact all
  | @commit submission unit request commitHash _ earlier task miner =>
    apply saveSubmission_allGathered all
    intro resolved
    rcases earlier with stored | ⟨-,taskRunID,minerAddress,unit,rfl⟩
    · exact ⟨submission,stored,resolved,rfl,rfl⟩
    · cases resolved
  | reveal stored unrevealed =>
    apply saveSubmission_allGathered all
    intro resolved
    cases resolved

theorem Takes.whole (takes : Takes before after) (whole : Whole before) : Whole after := by
  have path := takes whole.regular
  clear takes
  induction path with
  | refl => exact whole
  | tail _ step ih =>
    exact ⟨step.regular ih.regular,step.gathered ih.gathered,step.allGathered ih.all⟩

theorem call_whole {call : Call} (tidy : Tidy repo) (whole : Whole repo) (listed : call.2.regular = true)
    (onTime : ∀ outside, call.2.Tells outside → ¬Late call.1 outside repo) :
    Whole (call.after settings repo) := by
  obtain ⟨now,operation⟩ := call
  have others (admitted : (timely now repo).admits operation) (meets : operation.Meets (timely now repo) repo) :
      Whole (operation.run settings now repo).2 := by
    have path : Path settings (timely now repo) now repo (operation.run settings now repo).2 :=
      run_drives ⟨admitted,onTime⟩ meets tidy
    generalize (operation.run settings now repo).2 = last at path
    have along : Tidy last ∧ Ongoing repo last := by
      induction path with
      | refl => exact ⟨tidy,whole.ongoing⟩
      | tail _ step ih => exact ⟨step.tidy ih.1,step.ongoing whole ih.1 ih.2⟩
    exact along.2.toWhole
  cases operation with
  | registerMiner address version ip agent => exact (registerMiner_takes _ _ _ _ repo).whole whole
  | commitSubmission task miner request commit ip agent => exact (commitSubmission_takes _ _ _ _ _ _ repo).whole whole
  | revealSubmission task miner request bps nonce ip agent =>
    exact (revealSubmission_takes _ _ _ _ _ _ _ repo).whole whole
  | retryAnchorSettlementBatch outside id => exact retryAnchorSettlementBatch_whole whole (onTime outside rfl) id
  | reconcile outside => exact others (onTime outside rfl) trivial
  | buildPokerMttRewardWindow | rebuildRewardWindow => cases listed
  | submitAnchorJob outside id => exact others trivial trivial
  | broadcastChainTx answers id => exact others trivial ⟨trivial,.inr fun _ _ => trivial⟩
  | retryFailedAnchorJobBroadcast answers id => exact others trivial trivial
  | confirmAnchorJobOnChain answers id => exact others trivial fun _ => trivial
  | reconcilePendingAnchorJobsOnChain answers => exact others trivial fun _ _ => trivial
  | markAnchorJobFailed outside reason id => exact others trivial fun _ _ => trivial

theorem whole_empty : Whole {} where
  regular := regular_empty
  gathered := gathered_empty
  all _ _ _ found := by cases found

def gatheredReward (repo : Repository) (rewardWindowIDs : List String) : Int := repo.submissions.sumBy fun _ submission =>
  if submission.state = .resolved ∧ ∃ id ∈ rewardWindowIDs, submission.rewardWindowID = some id then
    (submission.rewardAmount : Int)
  else 0

/-- A batch that is promised to the chain has what its windows gathered, as long as no reward comes after the batch of its
hour has left the open state. -/
theorem promised_gathered (settings : Settings) (calls : List Call) (listed : ∀ call ∈ calls, call.2.regular = true)
    (onTime : Throughout settings (fun repo call => ∀ outside, call.2.Tells outside → ¬Late call.1 outside repo) calls {})
    (id : String) (batch : SettlementBatch) (found : (finish settings calls {}).settlementBatches.get? id = some batch)
    (forecast : batch.lane = .forecast15m)
    (promised : batch.state ∈ [.anchorReady,.anchorSubmitted,.anchored]) :
    (batch.totalRewardAmount : Int) = gatheredReward (finish settings calls {}) batch.rewardWindowIDs := by
  have run {calls : List Call} {repo : Repository} (tidy : Tidy repo) (whole : Whole repo)
      (listed : ∀ call ∈ calls, call.2.regular = true)
      (onTime : Throughout settings (fun repo call => ∀ outside, call.2.Tells outside → ¬Late call.1 outside repo) calls repo) :
      Whole (finish settings calls repo) := by
    induction calls generalizing repo with
    | nil => exact whole
    | cons call rest ih =>
      obtain ⟨here,later⟩ := onTime
      have tidy' : Tidy (call.after settings repo) :=
        Path.tidy (run_drives call.2.admitted_any (call.2.meets_any repo) tidy) tidy
      exact ih tidy' (call_whole tidy whole (listed call List.mem_cons_self) here)
        (fun other member => listed other (List.mem_cons_of_mem _ member)) later
  have whole := run tidy_empty whole_empty listed onTime
  have left : batch.Left := by
    simp only [List.mem_cons,List.not_mem_nil,or_false] at promised
    rcases promised with state | state | state <;> exact ⟨by simp [state],by simp [state]⟩
  obtain ⟨windowID,-,-,-,only⟩ := whole.gathered.batches id batch found forecast
  rw [whole.gathered.paid id batch windowID found forecast left only,only]
  unfold windowReward gatheredReward
  apply OrdMap.sumBy_congr
  intro key submission _
  by_cases inside : submission.rewardWindowID = some windowID <;> simp [Submission.earned,inside]

def hourBatchID : String := "sb_2026030100"

def timelyCalls : List Call := forecastCalls [.btc,.eth] ++
  [(later 900,.reconcile (knowing [fastTask .btc,fastTask .eth])),(later 900,.retryAnchorSettlementBatch (knowing []) hourBatchID)]

theorem promised_gathered_timely : ∃ batch,
    (finish plainSettings timelyCalls {}).settlementBatches.get? hourBatchID = some batch ∧ batch.totalRewardAmount = 200 ∧
      (batch.totalRewardAmount : Int) = gatheredReward (finish plainSettings timelyCalls {}) batch.rewardWindowIDs := by
  have ended : ((finish plainSettings timelyCalls {}).settlementBatches.get? hourBatchID).map
      (fun batch => (batch.totalRewardAmount,batch.lane,batch.state)) = some (200,.forecast15m,.anchorReady) := by
    decide +kernel
  have opened : Throughout plainSettings
      (fun repo _ => repo.settlementBatches.entries.all fun entry => entry.2.state = .opened) timelyCalls {} := by
    decide +kernel
  obtain ⟨batch,found,figures⟩ := Option.map_eq_some_iff.mp ended
  simp only [Prod.mk.injEq] at figures
  refine ⟨batch,found,figures.1,promised_gathered plainSettings timelyCalls (by decide) ?_ hourBatchID batch found figures.2.1
    (by simp [figures.2.2])⟩
  apply opened.mono
  rintro repo call allOpen outside - ⟨task,submission,batch,-,-,-,held,left,-⟩
  have state := List.all_eq_true.mp allOpen _ (OrdMap.get?_eq_some_iff.mp held)
  exact left.1 (by simpa using state)

def lateCalls : List Call := forecastCalls [.btc,.eth] ++
  [(later 900,.reconcile (knowing [fastTask .btc])),(later 900,.retryAnchorSettlementBatch (knowing []) hourBatchID),
    (later 2000,.reconcile (knowing [fastTask .eth]))]

theorem lateCalls_missed : ∃ batch, (finish plainSettings lateCalls {}).settlementBatches.get? hourBatchID = some batch ∧
    batch.lane = .forecast15m ∧ batch.state = .anchorReady ∧ batch.totalRewardAmount = 100 ∧
      gatheredReward (finish plainSettings lateCalls {}) batch.rewardWindowIDs = 200 := by
  have ended : ((finish plainSettings lateCalls {}).settlementBatches.get? hourBatchID).map
      (fun batch => (batch.lane,batch.state,batch.totalRewardAmount,
        gatheredReward (finish plainSettings lateCalls {}) batch.rewardWindowIDs)) =
          some (.forecast15m,.anchorReady,100,200) := by
    decide +kernel
  obtain ⟨batch,found,figures⟩ := Option.map_eq_some_iff.mp ended
  simp only [Prod.mk.injEq] at figures
  exact ⟨batch,found,figures⟩

end Clawchain.Mining
