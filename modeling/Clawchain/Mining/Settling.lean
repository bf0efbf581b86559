import Clawchain.Mining.Filing
import Mathlib.Logic.Relation

/-! What a reconcile does before it builds windows, write by write. With the rows filed as they are it cannot fail
before that. -/
namespace Clawchain.Mining
open Clawchain.Lib Clawchain.Lib.Faulty

section Settled
variable (settings : Settings) (now : Time) (assess : Task → Submission → Assessment) (task : Task)
  (submission : Submission) (miner : Miner)

def rewardOf : Nat := if submission.eligibilityStatus = .eligible then (assess task submission).rewardAmount else 0

def releasedPart : Nat := (splitRewardByAdmission settings now miner (rewardOf assess task submission)).1

def heldPart : Nat := (splitRewardByAdmission settings now miner (rewardOf assess task submission)).2.1

theorem parts_add : releasedPart settings now assess task submission miner + heldPart settings now assess task submission miner =
    rewardOf assess task submission := by
  unfold releasedPart heldPart splitRewardByAdmission
  dsimp only
  split_ifs
  · omega
  · have := settings.released_le (rewardOf assess task submission)
    omega

def settledRow : Submission :=
  { submission with
    state := .resolved
    rewardAmount := rewardOf assess task submission
    releasedRewardAmount := some (releasedPart settings now assess task submission miner)
    heldRewardAmount := some (heldPart settings now assess task submission miner)
    components := some (assess task submission).components
    score := some (assess task submission).score }

def creditedRow (row : Miner) : Miner :=
  { row with
    totalRewards := row.totalRewards + releasedPart settings now assess task submission miner
    heldRewards := row.heldRewards + heldPart settings now assess task submission miner
    settledTasks := row.settledTasks + 1
    admissionState := admissionState settings now miner }

def keepHold (repo : Repository) : Repository :=
  if 0 < heldPart settings now assess task submission miner then
    repo.saveHoldEntry (holdOf now task submission (heldPart settings now assess task submission miner))
  else repo

theorem settleSubmission_run {repo : Repository} (revealed : submission.pYesBps.isSome)
    (owner : repo.miners.get? submission.minerAddress = some miner) :
    settleSubmission settings now assess task submission repo = (.ok (),
      (keepHold settings now assess task submission miner
        (repo.saveSubmission (settledRow settings now assess task submission miner))).updateMiner submission.minerAddress
          (creditedRow settings now assess task submission miner)) := by
  unfold settleSubmission
  rw [given_of revealed,read_run,owner]
  rfl

theorem settleSubmission_unrevealed {repo : Repository} (unrevealed : ¬submission.pYesBps.isSome) :
    settleSubmission settings now assess task submission repo = (.ok (),repo) := by
  unfold settleSubmission
  rw [given_of_not unrevealed]
  rfl

end Settled

structure Due (now : Time) (lane : Lane) (repo : Repository) (task : Task) : Prop where
  stored : repo.tasks.get? task.taskRunID = some task
  lane : task.lane = lane
  unresolved : task.state ≠ .resolved
  past : task.resolveAt ≤ isoformatZ now

structure Waiting (repo : Repository) (task : Task) (submission : Submission) : Prop where
  stored : repo.submissions.get? submission.key = some submission
  own : submission.taskRunID = task.taskRunID
  revealed : submission.pYesBps.isSome
  unsettled : submission.state ≠ .resolved

def AllSettled (repo : Repository) (task : Task) : Prop := ∀ key submission,
  repo.submissions.get? key = some submission → submission.taskRunID = task.taskRunID → submission.pYesBps.isSome →
    submission.state = .resolved

inductive Settling (settings : Settings) (outside : Outside) (now : Time) : Repository → Repository → Prop
  | create {task : Task} {repo : Repository} (new : task ∈ newTasks settings now)
    (fresh : repo.tasks.get? task.taskRunID = none) : Settling settings outside now repo (repo.upsertTask task)
  | pend {task : Task} {submission : Submission} {repo : Repository} (due : Due now .forecast15m repo task)
    (unknown : outside.resolveFastTask task = none) (waiting : Waiting repo task submission) :
    Settling settings outside now repo (repo.saveSubmission { submission with state := .pendingResolution })
  | wait {task : Task} {repo : Repository} (due : Due now .forecast15m repo task)
    (unknown : outside.resolveFastTask task = none) :
    Settling settings outside now repo (repo.upsertTask { task with outcome := none, state := .awaitingResolution })
  | settle {task : Task} {submission : Submission} {miner : Miner} {repo : Repository}
    (due : Due now .forecast15m repo task) (known : (outside.resolveFastTask task).isSome)
    (waiting : Waiting repo task submission) (owner : repo.miners.get? submission.minerAddress = some miner) :
    Settling settings outside now repo (settleSubmission settings now outside.assess task submission repo).2
  | resolve {task : Task} {outcome : Bool} {repo : Repository} (due : Due now .forecast15m repo task)
    (known : outside.resolveFastTask task = some outcome) (settled : AllSettled repo task) :
    Settling settings outside now repo (repo.upsertTask { task with outcome := some outcome, state := .resolved })
  | settleDaily {task : Task} {submission : Submission} {repo : Repository} (due : Due now .dailyAnchor repo task)
    (waiting : Waiting repo task submission) {score : ℚ} : Settling settings outside now repo
      (repo.saveSubmission { submission with state := .resolved, score := some score, rewardAmount := 0 })
  | waitDaily {task : Task} {repo : Repository} (due : Due now .dailyAnchor repo task) :
    Settling settings outside now repo (repo.upsertTask { task with state := .awaitingResolution })
  | resolveDaily {task : Task} {outcome : Bool} {repo : Repository} (due : Due now .dailyAnchor repo task)
    (settled : AllSettled repo task) :
    Settling settings outside now repo (repo.upsertTask { task with outcome := some outcome, state := .resolved })
  | release {miner : Miner} {repo : Repository} (owner : repo.miners.get? miner.address = some miner) :
    Settling settings outside now repo (releaseMinerHolds settings now miner repo)

section Keeps
variable {settings : Settings} {outside : Outside} {now : Time}

theorem saveHolds_shape (holds : List HoldEntry) (update : HoldEntry → HoldEntry) (repo : Repository) :
    ∃ entries, holds.foldl (fun repo hold => repo.saveHoldEntry (update hold)) repo = { repo with holdEntries := entries } := by
  induction holds generalizing repo with
  | nil => exact ⟨repo.holdEntries,rfl⟩
  | cons hold rest ih =>
    obtain ⟨entries,written⟩ := ih (repo.saveHoldEntry (update hold))
    exact ⟨entries,written⟩

def Miner.cluster (miner : Miner) : String × String × Option String × Option String :=
  (miner.address,miner.economicUnitID,miner.ipAddress,miner.userAgentHash)

variable (settings now) in
theorem releaseMinerHolds_shape (miner : Miner) (repo : Repository) : ∃ entries update,
    (∀ row : Miner, (update row).cluster = row.cluster) ∧
      releaseMinerHolds settings now miner repo = { repo with holdEntries := entries }.updateMiner miner.address update := by
  unfold releaseMinerHolds
  obtain ⟨entries,written⟩ := saveHolds_shape (dueHolds now miner.address repo)
    (fun hold => { hold with amountReleased := hold.amountHeld, state := .released }) repo
  dsimp only
  rw [written]
  split_ifs
  all_goals
    refine ⟨_,_,?_,rfl⟩
    exact fun _ => rfl

theorem Keyed.holds {repo : Repository} (keyed : Keyed repo) (entries : OrdMap String HoldEntry) :
    Keyed { repo with holdEntries := entries } :=
  ⟨keyed.tasks,keyed.miners,fun key submission found =>
    have before := keyed.submissions key submission found
    ⟨before.toFits.wider (fun _ known => known) fun _ known => known,before.keyed,before.indexed⟩⟩

theorem Due.colonless {lane : Lane} {repo : Repository} {task : Task} (due : Due now lane repo task) (keyed : Keyed repo) :
    ':' ∉ task.taskRunID.toList := (keyed.tasks _ task due.stored).2

theorem Waiting.fits {repo : Repository} {task : Task} {submission : Submission} (waiting : Waiting repo task submission)
    (keyed : Keyed repo) : submission.Fits repo := (keyed.submissions _ _ waiting.stored).toFits

theorem newTasks_colonless {task : Task} (new : task ∈ newTasks settings now) : ':' ∉ task.taskRunID.toList := by
  simp only [newTasks,List.mem_append,List.mem_flatMap,List.mem_map] at new
  rcases new with ⟨publishAt,-,asset,-,rfl⟩ | ⟨asset,-,rfl⟩
  · exact colon_notMem_fastTaskID publishAt asset
  · exact colon_notMem_dailyTaskID _ asset

theorem Settling.keyed {before after : Repository} (step : Settling settings outside now before after)
    (keyed : Keyed before) : Keyed after := by
  cases step with
  | create new fresh => exact keyed.upsertTask (newTasks_colonless new)
  | pend due unknown waiting =>
    have fits := waiting.fits keyed
    exact saveSubmission_keyed keyed { fits with
      unpaid := fun _ => fits.unpaid waiting.unsettled
      revealed := fun _ => waiting.revealed }
  | wait due unknown => exact keyed.upsertTask (due.colonless keyed)
  | @settle task submission miner _ due known waiting owner =>
    rw [settleSubmission_run settings now outside.assess task submission miner waiting.revealed owner]
    have saved : Keyed (before.saveSubmission (settledRow settings now outside.assess task submission miner)) := by
      have fits := waiting.fits keyed
      exact saveSubmission_keyed keyed
        { named := fits.named
          task := fits.task
          miner := fits.miner
          unpaid := fun unsettled => absurd rfl unsettled
          split := parts_add settings now outside.assess task submission miner
          revealed := fun _ => waiting.revealed }
    have kept : Keyed (keepHold settings now outside.assess task submission miner
        (before.saveSubmission (settledRow settings now outside.assess task submission miner))) := by
      unfold keepHold
      split_ifs
      · exact saved.holds _
      · exact saved
    exact kept.updateMiner _ fun _ => rfl
  | resolve due known settled => exact keyed.upsertTask (due.colonless keyed)
  | settleDaily due waiting =>
    have fits := waiting.fits keyed
    obtain ⟨-,released,held⟩ := fits.unpaid waiting.unsettled
    exact saveSubmission_keyed keyed
      { named := fits.named
        task := fits.task
        miner := fits.miner
        unpaid := fun unsettled => absurd rfl unsettled
        split := by simp [released,held]
        revealed := fun _ => waiting.revealed }
  | waitDaily due => exact keyed.upsertTask (due.colonless keyed)
  | resolveDaily due settled => exact keyed.upsertTask (due.colonless keyed)
  | @release miner _ owner =>
    obtain ⟨entries,update,same,written⟩ := releaseMinerHolds_shape settings now miner before
    rw [written]
    exact (keyed.holds entries).updateMiner _ fun row => congrArg Prod.fst (same row)

end Keeps

/-! Between the tasks, every submission of an open task waits. -/

structure Regular (repo : Repository) : Prop extends Keyed repo where
  open_ : ∀ key submission task, repo.submissions.get? key = some submission →
    repo.tasks.get? submission.taskRunID = some task → task.state ≠ .resolved → submission.state ≠ .resolved

abbrev Settles (settings : Settings) (outside : Outside) (now : Time) : Repository → Repository → Prop :=
  Relation.ReflTransGen (Settling settings outside now)

theorem mem_listSubmissionsForTask {repo : Repository} (keyed : Keyed repo) {taskRunID : String} {submission : Submission} :
    submission ∈ repo.listSubmissionsForTask taskRunID ↔
      repo.submissions.get? submission.key = some submission ∧ submission.taskRunID = taskRunID := by
  unfold Repository.listSubmissionsForTask
  simp only [List.mem_filter,List.mem_map,decide_eq_true_eq]
  constructor
  · rintro ⟨⟨⟨key,same⟩,inside,rfl⟩,own⟩
    have found := OrdMap.get?_eq_some_iff.mpr inside
    exact ⟨(keyed.submissions key same found).keyed ▸ found,own⟩
  · rintro ⟨found,own⟩
    exact ⟨⟨(submission.key,submission),OrdMap.get?_eq_some_iff.mp found,rfl⟩,own⟩

theorem listSubmissionsForTask_nodup {repo : Repository} (keyed : Keyed repo) (taskRunID : String) :
    ((repo.listSubmissionsForTask taskRunID).map (·.key)).Nodup := by
  have keys : (repo.submissions.entries.map Prod.snd).map (·.key) = repo.submissions.keys := by
    unfold OrdMap.keys
    rw [List.map_map]
    apply List.map_congr_left
    intro entry inside
    exact (keyed.submissions _ _ (OrdMap.get?_eq_some_iff.mpr inside)).keyed
  have all : ((repo.submissions.entries.map Prod.snd).map (·.key)).Nodup := by
    rw [keys]
    exact OrdMap.keys_nodup _
  exact all.sublist (List.filter_sublist.map _)

section Traversal
variable {settings : Settings} {outside : Outside} {now : Time}

/-- A task in the middle of its submissions: those to come wait, the others are as they are to be. -/
structure Midway (settings : Settings) (outside : Outside) (now : Time) (lane : Lane) (start : Repository) (task : Task)
    (done : Submission → Prop) (rest : List Submission) (repo : Repository) : Prop where
  path : Settles settings outside now start repo
  keyed : Keyed repo
  tasks : repo.tasks = start.tasks
  due : Due now lane repo task
  others : ∀ key submission other, repo.submissions.get? key = some submission →
    repo.tasks.get? submission.taskRunID = some other → submission.taskRunID ≠ task.taskRunID → other.state ≠ .resolved →
      submission.state ≠ .resolved
  distinct : (rest.map (·.key)).Nodup
  coming : ∀ submission ∈ rest, repo.submissions.get? submission.key = some submission ∧
    submission.taskRunID = task.taskRunID ∧ submission.state ≠ .resolved
  past : ∀ key submission, repo.submissions.get? key = some submission → submission.taskRunID = task.taskRunID →
    submission ∉ rest → submission.pYesBps.isSome → done submission

def WritesRow (settings : Settings) (outside : Outside) (now : Time) (lane : Lane) (task : Task)
    (done : Submission → Prop) (f : Submission → Service Unit) : Prop :=
  ∀ repo submission, Keyed repo → Due now lane repo task →
    (¬submission.pYesBps.isSome → f submission repo = (.ok (),repo)) ∧
    (Waiting repo task submission → ∃ after last, f submission repo = (.ok (),after) ∧
      Settling settings outside now repo after ∧ after.tasks = repo.tasks ∧
      after.submissions = repo.submissions.insert submission.key last ∧ last.key = submission.key ∧ done last)

theorem Midway.next {lane : Lane} {start repo : Repository} {task : Task} {done : Submission → Prop}
    {f : Submission → Service Unit} (writes : WritesRow settings outside now lane task done f)
    {submission : Submission} {rest : List Submission}
    (midway : Midway settings outside now lane start task done (submission :: rest) repo) :
    ∃ after, f submission repo = (.ok (),after) ∧ Midway settings outside now lane start task done rest after := by
  obtain ⟨fresh,distinct⟩ := List.nodup_cons.mp midway.distinct
  obtain ⟨stored,own,unsettled⟩ := midway.coming submission List.mem_cons_self
  obtain ⟨unrevealed,write⟩ := writes repo submission midway.keyed midway.due
  by_cases revealed : submission.pYesBps.isSome
  · obtain ⟨after,last,run,step,tasks,written,sameKey,finished⟩ := write ⟨stored,own,revealed,unsettled⟩
    refine ⟨after,run,midway.path.tail step,step.keyed midway.keyed,tasks.trans midway.tasks,
      ⟨tasks ▸ midway.due.stored,midway.due.lane,midway.due.unresolved,midway.due.past⟩,?_,distinct,?_,?_⟩
    · intro key other task' found held foreign
      rw [written,OrdMap.get?_insert] at found
      split_ifs at found with same
      · cases found
        have sameTask : last.taskRunID = submission.taskRunID := congrArg (fun key => (ofLex key).1) sameKey
        exact absurd (sameTask.trans own) foreign
      · exact midway.others key other task' found (tasks ▸ held) foreign
    · intro other member
      obtain ⟨found,rest⟩ := midway.coming other (List.mem_cons_of_mem _ member)
      refine ⟨?_,rest⟩
      rw [written,OrdMap.get?_insert_of_ne _ _ ?_]
      · exact found
      · intro same
        exact fresh (List.mem_map.mpr ⟨other,member,same⟩)
    · intro key other found own' passed revealed'
      rw [written,OrdMap.get?_insert] at found
      split_ifs at found with same
      · cases found
        exact finished
      · apply midway.past key other found own' _ revealed'
        intro member
        rcases List.mem_cons.mp member with rfl | member
        · exact same (midway.keyed.submissions _ _ found).keyed.symm
        · exact passed member
  · refine ⟨repo,unrevealed revealed,midway.path,midway.keyed,midway.tasks,midway.due,midway.others,distinct,?_,?_⟩
    · exact fun other member => midway.coming other (List.mem_cons_of_mem _ member)
    · intro key other found own' passed revealed'
      apply midway.past key other found own' _ revealed'
      intro member
      rcases List.mem_cons.mp member with rfl | member
      · exact revealed revealed'
      · exact passed member

theorem each_midway {lane : Lane} {repo : Repository} {task : Task} {done : Submission → Prop}
    {f : Submission → Service Unit} (writes : WritesRow settings outside now lane task done f) (regular : Regular repo)
    (due : Due now lane repo task) : ∃ after, each f (repo.listSubmissionsForTask task.taskRunID) repo = (.ok (),after) ∧
      Midway settings outside now lane repo task done [] after := by
  have loop (rest : List Submission) (middle : Repository)
      (midway : Midway settings outside now lane repo task done rest middle) :
      ∃ after, each f rest middle = (.ok (),after) ∧ Midway settings outside now lane repo task done [] after := by
    induction rest generalizing middle with
    | nil => exact ⟨middle,rfl,midway⟩
    | cons submission rest ih =>
      obtain ⟨next,run,midway⟩ := midway.next writes
      obtain ⟨after,later,midway⟩ := ih next midway
      refine ⟨after,?_,midway⟩
      rw [each,bind_of_ok _ run]
      exact later
  apply loop
  refine ⟨.refl,regular.toKeyed,rfl,due,?_,listSubmissionsForTask_nodup regular.toKeyed _,?_,?_⟩
  · exact fun key submission other found held _ unresolved => regular.open_ key submission other found held unresolved
  · intro submission member
    obtain ⟨found,own⟩ := (mem_listSubmissionsForTask regular.toKeyed).mp member
    exact ⟨found,own,regular.open_ _ submission task found (own ▸ due.stored) due.unresolved⟩
  · intro key submission found own missing
    have inside := (mem_listSubmissionsForTask regular.toKeyed).mpr
      ⟨(regular.submissions key submission found).keyed ▸ found,own⟩
    exact absurd inside missing

theorem pend_writesRow {task : Task} (unknown : outside.resolveFastTask task = none) :
    WritesRow settings outside now .forecast15m task (·.state ≠ .resolved) fun submission =>
      .given submission.pYesBps.isSome <| .modify (·.saveSubmission { submission with state := .pendingResolution }) := by
  intro repo submission keyed due
  refine ⟨fun unrevealed => congrFun (given_of_not unrevealed) repo,fun waiting => ?_⟩
  refine ⟨_,{ submission with state := .pendingResolution },congrFun (given_of waiting.revealed) repo,
    .pend due unknown waiting,saveSubmission_tasks _ repo,?_,rfl,by simp⟩
  exact saveSubmission_again keyed waiting.stored rfl

theorem settleSubmission_rows {assess : Task → Submission → Assessment} {repo : Repository} {task : Task}
    {submission : Submission} {miner : Miner} (keyed : Keyed repo) (waiting : Waiting repo task submission)
    (owner : repo.miners.get? submission.minerAddress = some miner) {after : Repository}
    (run : settleSubmission settings now assess task submission repo = (.ok (),after)) :
    after.tasks = repo.tasks ∧
      after.submissions = repo.submissions.insert submission.key (settledRow settings now assess task submission miner) ∧
      after.miners = repo.miners.modifyAt submission.minerAddress (creditedRow settings now assess task submission miner) ∧
      after.holdEntries = if 0 < heldPart settings now assess task submission miner then
        repo.holdEntries.insert ("hold:" ++ submission.id)
          (holdOf now task submission (heldPart settings now assess task submission miner))
        else repo.holdEntries := by
  rw [settleSubmission_run settings now assess task submission miner waiting.revealed owner] at run
  cases run
  let row := settledRow settings now assess task submission miner
  have saved : (repo.saveSubmission row).submissions = repo.submissions.insert submission.key row :=
    saveSubmission_again keyed waiting.stored rfl
  have tasks := saveSubmission_tasks row repo
  have miners := congrArg (OrdMap.modifyAt submission.minerAddress
    (creditedRow settings now assess task submission miner)) (saveSubmission_miners row repo)
  have holds := saveSubmission_holdEntries row repo
  unfold keepHold
  split_ifs
  · exact ⟨tasks,saved,miners,congrArg (OrdMap.insert · _ _) holds⟩
  · exact ⟨tasks,saved,miners,holds⟩

theorem settle_writesRow {task : Task} (known : (outside.resolveFastTask task).isSome) :
    WritesRow settings outside now .forecast15m task (·.state = .resolved)
      (settleSubmission settings now outside.assess task) := by
  intro repo submission keyed due
  refine ⟨settleSubmission_unrevealed settings now outside.assess task submission,fun waiting => ?_⟩
  obtain ⟨miner,owner⟩ := Option.isSome_iff_exists.mp (waiting.fits keyed).miner
  have run := settleSubmission_run settings now outside.assess task submission miner waiting.revealed owner
  have step : Settling settings outside now repo _ := .settle due known waiting owner
  rw [run] at step
  obtain ⟨tasks,submissions,-,-⟩ := settleSubmission_rows keyed waiting owner run
  exact ⟨_,settledRow settings now outside.assess task submission miner,run,step,tasks,submissions,rfl,rfl⟩

theorem settleDaily_writesRow {task : Task} (outcome : Bool) :
    WritesRow settings outside now .dailyAnchor task (·.state = .resolved) (settleDailySubmission settings outcome) := by
  intro repo submission keyed due
  refine ⟨fun unrevealed => congrFun (given_of_not unrevealed) repo,fun waiting => ?_⟩
  obtain ⟨score,scored⟩ : ∃ score, submission.pYesBps.map (fun pYesBps =>
      round6 (dailyAnchorMultiplier settings pYesBps outcome - 1)) = some score := by
    obtain ⟨pYesBps,revealed⟩ := Option.isSome_iff_exists.mp waiting.revealed
    exact ⟨_,by rw [revealed]; rfl⟩
  let row : Submission := { submission with state := .resolved, score := some score, rewardAmount := 0 }
  refine ⟨repo.saveSubmission row,row,?_,.settleDaily due waiting,saveSubmission_tasks _ repo,?_,rfl,rfl⟩
  · rw [settleDailySubmission,given_of waiting.revealed,scored,modify_bind,read_run,saveSubmission_miners,if_neg]
    · rfl
    · simpa using Option.isSome_iff_ne_none.mp (waiting.fits keyed).miner
  · exact saveSubmission_again keyed waiting.stored rfl

structure Rounds (settings : Settings) (outside : Outside) (now : Time) (lane : Lane) (start : Repository)
    (rest : List Task) (repo : Repository) : Prop where
  path : Settles settings outside now start repo
  regular : Regular repo
  distinct : (rest.map (·.taskRunID)).Nodup
  coming : ∀ task ∈ rest, Due now lane repo task

theorem Rounds.next {lane : Lane} {start repo middle : Repository} {task last : Task} {rest : List Task}
    {done : Submission → Prop} (rounds : Rounds settings outside now lane start (task :: rest) repo)
    (midway : Midway settings outside now lane repo task done [] middle) (sameID : last.taskRunID = task.taskRunID)
    (step : Settling settings outside now middle (middle.upsertTask last))
    (ends : last.state = .resolved ∨ ∀ submission, done submission → submission.state ≠ .resolved) :
    Rounds settings outside now lane start rest (middle.upsertTask last) := by
  obtain ⟨fresh,distinct⟩ := List.nodup_cons.mp rounds.distinct
  refine ⟨(rounds.path.trans midway.path).tail step,⟨step.keyed midway.keyed,?_⟩,distinct,?_⟩
  · intro key submission other found held unresolved settled
    change (middle.tasks.insert last.taskRunID last).get? submission.taskRunID = some other at held
    rw [OrdMap.get?_insert,sameID] at held
    split_ifs at held with own
    · cases held
      rcases ends with ends | ends
      · exact unresolved ends
      · have revealed := (midway.keyed.submissions key submission found).revealed settled
        exact ends submission (midway.past key submission found own List.not_mem_nil revealed) settled
    · exact midway.others key submission other found held own unresolved settled
  · intro other member
    have due := rounds.coming other (List.mem_cons_of_mem _ member)
    refine ⟨?_,due.lane,due.unresolved,due.past⟩
    change (middle.tasks.insert last.taskRunID last).get? other.taskRunID = some other
    rw [OrdMap.get?_insert_of_ne,midway.tasks]
    · exact due.stored
    · rw [sameID]
      intro same
      exact fresh (List.mem_map.mpr ⟨other,member,same⟩)

theorem Midway.allSettled {lane : Lane} {start repo : Repository} {task : Task}
    (midway : Midway settings outside now lane start task (·.state = .resolved) [] repo) : AllSettled repo task :=
  fun key submission found own revealed => midway.past key submission found own List.not_mem_nil revealed

theorem settleFastTask_next {start repo : Repository} {task : Task} {rest : List Task}
    (rounds : Rounds settings outside now .forecast15m start (task :: rest) repo) : ∃ after,
      settleFastTask settings now outside.resolveFastTask outside.assess task repo = (.ok (),after) ∧
        Rounds settings outside now .forecast15m start rest after := by
  have due := rounds.coming task List.mem_cons_self
  unfold settleFastTask
  rw [read_run]
  cases known : outside.resolveFastTask task with
  | none =>
    obtain ⟨middle,run,midway⟩ := each_midway (pend_writesRow known) rounds.regular due
    refine ⟨_,by dsimp only; rw [bind_of_ok _ run]; rfl,?_⟩
    exact rounds.next midway rfl (.wait midway.due known) (.inr fun _ pending => pending)
  | some outcome =>
    have resolved : (outside.resolveFastTask task).isSome := by
      rw [known]
      rfl
    obtain ⟨middle,run,midway⟩ := each_midway (settle_writesRow resolved) rounds.regular due
    refine ⟨_,by dsimp only; rw [bind_of_ok _ run]; rfl,?_⟩
    exact rounds.next midway rfl (.resolve midway.due known midway.allSettled) (.inl rfl)

theorem settleDailyTask_next {start repo : Repository} {task : Task} {rest : List Task}
    (rounds : Rounds settings outside now .dailyAnchor start (task :: rest) repo) : ∃ after,
      settleDailyTask settings outside.resolveDailyTask task repo = (.ok (),after) ∧
        Rounds settings outside now .dailyAnchor start rest after := by
  have due := rounds.coming task List.mem_cons_self
  unfold settleDailyTask
  cases outside.resolveDailyTask task with
  | none =>
    have midway : Midway settings outside now .dailyAnchor repo task (·.state ≠ .resolved) [] repo :=
      { path := .refl
        keyed := rounds.regular.toKeyed
        tasks := rfl
        due := due
        others := fun key submission other found held _ => rounds.regular.open_ key submission other found held
        distinct := .nil
        coming := fun _ member => by cases member
        past := fun key submission found own _ _ =>
          rounds.regular.open_ key submission task found (own ▸ due.stored) due.unresolved }
    exact ⟨_,rfl,rounds.next midway rfl (.waitDaily due) (.inr fun _ pending => pending)⟩
  | some outcome =>
    obtain ⟨middle,run,midway⟩ := each_midway (settleDaily_writesRow outcome) rounds.regular due
    refine ⟨_,by dsimp only; rw [read_run,bind_of_ok _ run]; rfl,?_⟩
    exact rounds.next midway rfl (.resolveDaily midway.due midway.allSettled) (.inl rfl)

theorem each_rounds {lane : Lane} {start repo : Repository} {f : Task → Service Unit} {tasks : List Task}
    (next : ∀ repo task rest, Rounds settings outside now lane start (task :: rest) repo →
      ∃ after, f task repo = (.ok (),after) ∧ Rounds settings outside now lane start rest after)
    (rounds : Rounds settings outside now lane start tasks repo) :
    ∃ after, each f tasks repo = (.ok (),after) ∧ Settles settings outside now start after ∧ Regular after := by
  induction tasks generalizing repo with
  | nil => exact ⟨repo,rfl,rounds.path,rounds.regular⟩
  | cons task rest ih =>
    obtain ⟨middle,run,rounds⟩ := next repo task rest rounds
    obtain ⟨after,later,rest⟩ := ih rounds
    refine ⟨after,?_,rest⟩
    rw [each,bind_of_ok _ run]
    exact later

theorem rounds_start {lane : Lane} {repo : Repository} (regular : Regular repo) {p : Task → Bool}
    (picks : ∀ task, p task → task.lane = lane ∧ task.state ≠ .resolved ∧ task.resolveAt ≤ isoformatZ now) :
    Rounds settings outside now lane repo (repo.listTasks.filter p) repo := by
  have stored : ∀ task ∈ repo.listTasks, repo.tasks.get? task.taskRunID = some task := by
    intro task member
    obtain ⟨⟨id,same⟩,inside,rfl⟩ := List.mem_map.mp member
    have found := OrdMap.get?_eq_some_iff.mpr inside
    exact (regular.tasks id same found).1 ▸ found
  refine ⟨.refl,regular,?_,fun task member => ?_⟩
  · have keys : repo.listTasks.map (·.taskRunID) = repo.tasks.keys := by
      unfold Repository.listTasks OrdMap.keys
      rw [List.map_map]
      apply List.map_congr_left
      intro entry inside
      exact (regular.tasks _ _ (OrdMap.get?_eq_some_iff.mpr inside)).1
    have all : (repo.listTasks.map (·.taskRunID)).Nodup := by
      rw [keys]
      exact OrdMap.keys_nodup _
    exact all.sublist (List.filter_sublist.map _)
  · obtain ⟨inside,picked⟩ := List.mem_filter.mp member
    obtain ⟨own,unresolved,past⟩ := picks task picked
    exact ⟨stored task inside,own,unresolved,past⟩

variable (settings outside now) in
theorem settleDueTasks_settles {repo : Repository} (regular : Regular repo) : ∃ after,
    settleDueTasks settings now outside.resolveFastTask outside.assess repo = (.ok (),after) ∧
      Settles settings outside now repo after ∧ Regular after := by
  apply each_rounds fun repo task rest rounds => settleFastTask_next rounds
  apply rounds_start regular
  intro task picked
  simpa using picked

variable (settings outside now) in
theorem settleDueDailyTasks_settles {repo : Repository} (regular : Regular repo) : ∃ after,
    settleDueDailyTasks settings now outside.resolveDailyTask repo = (.ok (),after) ∧
      Settles settings outside now repo after ∧ Regular after := by
  apply each_rounds fun repo task rest rounds => settleDailyTask_next rounds
  apply rounds_start regular
  intro task picked
  obtain ⟨own,unresolved,past⟩ : task.lane = .dailyAnchor ∧ task.state ≠ .resolved ∧ parseTime task.resolveAt ≤ now := by
    simpa using picked
  exact ⟨own,unresolved,(Int.le_ediv_iff_mul_le (by decide)).mpr past⟩

variable (settings outside now) in
theorem createTasks_settles {repo : Repository} (regular : Regular repo) :
    Settles settings outside now repo ((newTasks settings now).foldl createTask repo) ∧
      Regular ((newTasks settings now).foldl createTask repo) := by
  have loop (tasks : List Task) (new : ∀ task ∈ tasks, task ∈ newTasks settings now) (middle : Repository)
      (path : Settles settings outside now repo middle) (regular : Regular middle) :
      Settles settings outside now repo (tasks.foldl createTask middle) ∧ Regular (tasks.foldl createTask middle) := by
    induction tasks generalizing middle with
    | nil => exact ⟨path,regular⟩
    | cons task rest ih =>
      have later : ∀ task ∈ rest, task ∈ newTasks settings now := fun other member =>
        new other (List.mem_cons_of_mem _ member)
      rw [List.foldl_cons]
      unfold createTask
      split_ifs with known
      · exact ih later middle path regular
      · have fresh : middle.tasks.get? task.taskRunID = none := by simpa using known
        have step : Settling settings outside now middle _ := .create (new task List.mem_cons_self) fresh
        refine ih later _ (path.tail step) ⟨step.keyed regular.toKeyed,fun key submission other found held => ?_⟩
        change (middle.tasks.insert task.taskRunID task).get? submission.taskRunID = some other at held
        rw [OrdMap.get?_insert] at held
        split_ifs at held with own
        · have stored := (regular.submissions key submission found).task
          rw [own,fresh] at stored
          cases stored
        · exact regular.open_ key submission other found held
  exact loop _ (fun _ member => member) repo .refl regular

variable (settings outside now) in
theorem releaseMaturedHolds_settles {repo : Repository} (regular : Regular repo) :
    Settles settings outside now repo (releaseMaturedHolds settings now repo) ∧
      Regular (releaseMaturedHolds settings now repo) := by
  have loop (miners : List Miner) (distinct : (miners.map (·.address)).Nodup) (middle : Repository)
      (path : Settles settings outside now repo middle) (regular : Regular middle)
      (stored : ∀ miner ∈ miners, middle.miners.get? miner.address = some miner) :
      Settles settings outside now repo (miners.foldl (fun repo miner => releaseMinerHolds settings now miner repo) middle) ∧
        Regular (miners.foldl (fun repo miner => releaseMinerHolds settings now miner repo) middle) := by
    induction miners generalizing middle with
    | nil => exact ⟨path,regular⟩
    | cons miner rest ih =>
      obtain ⟨fresh,distinct⟩ := List.nodup_cons.mp distinct
      have step : Settling settings outside now middle _ := .release (stored miner List.mem_cons_self)
      obtain ⟨entries,update,-,written⟩ := releaseMinerHolds_shape settings now miner middle
      rw [List.foldl_cons]
      refine ih distinct _ (path.tail step) ⟨step.keyed regular.toKeyed,?_⟩ fun other member => ?_
      · rw [written]
        exact regular.open_
      · rw [written]
        change (middle.miners.modifyAt miner.address update).get? other.address = some other
        rw [OrdMap.get?_modifyAt,if_neg]
        · exact stored other (List.mem_cons_of_mem _ member)
        · intro same
          exact fresh (List.mem_map.mpr ⟨other,member,same⟩)
  apply loop _ _ repo .refl regular
  · intro miner member
    obtain ⟨⟨address,same⟩,inside,rfl⟩ := List.mem_map.mp member
    have found := OrdMap.get?_eq_some_iff.mpr inside
    exact (regular.miners address same found).1 ▸ found
  · have keys : repo.listMiners.map (·.address) = repo.miners.keys := by
      unfold Repository.listMiners OrdMap.keys
      rw [List.map_map]
      apply List.map_congr_left
      intro entry inside
      exact (regular.miners _ _ (OrdMap.get?_eq_some_iff.mpr inside)).1
    rw [keys]
    exact OrdMap.keys_nodup _

def gatherRewards (settings : Settings) (outside : Outside) : Service Unit := do
  .modify (buildRewardWindows settings)
  buildPokerMttRewardWindows settings outside
  .modify (buildSettlementBatches settings)

theorem Settling.sameSettlement {before after : Repository} (step : Settling settings outside now before after) :
    SameSettlement before after := by
  cases step with
  | create | wait | resolve | waitDaily | resolveDaily => exact .refl _
  | pend | settleDaily => exact saveSubmission_sameSettlement _ _
  | settle => exact settleSubmission_sameSettlement _ _ _ _
  | release owner =>
    obtain ⟨entries,update,-,written⟩ := releaseMinerHolds_shape settings now _ before
    rw [written]
    exact .refl _

variable (settings outside now) in
theorem reconcile_settles {repo : Repository} (regular : Regular repo) : ∃ settled,
    Settles settings outside now repo settled ∧ Regular settled ∧ SameSettlement repo settled ∧
      reconcile settings outside now repo = gatherRewards settings outside settled := by
  obtain ⟨path₁,regular₁⟩ := createTasks_settles settings outside now regular
  obtain ⟨second,run₂,path₂,regular₂⟩ := settleDueTasks_settles settings outside now regular₁
  obtain ⟨third,run₃,path₃,regular₃⟩ := settleDueDailyTasks_settles settings outside now regular₂
  obtain ⟨path₄,regular₄⟩ := releaseMaturedHolds_settles settings outside now regular₃
  have path := ((path₁.trans path₂).trans path₃).trans path₄
  refine ⟨_,path,regular₄,?_,?_⟩
  · generalize releaseMaturedHolds settings now third = last at path
    induction path with
    | refl => exact .refl repo
    | tail _ step ih => exact .trans _ _ _ ih step.sameSettlement
  · unfold reconcile
    rw [modify_bind,bind_of_ok _ run₂,bind_of_ok _ run₃,modify_bind]
    rfl

end Traversal

end Clawchain.Mining
