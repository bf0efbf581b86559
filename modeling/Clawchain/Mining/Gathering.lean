import Clawchain.Mining.Settling

/-! What gathering the rewards does to tasks and submissions: they get the window of their hour, and nothing else of
them changes. -/
namespace Clawchain.Mining
open Clawchain.Lib Clawchain.Lib.Faulty

/-! The rows that miners and tasks have. -/

def Repository.intakeSide (repo : Repository) :=
  (repo.miners,repo.tasks,repo.submissions,repo.requestIndex,repo.holdEntries)

def SameIntake (before after : Repository) : Prop := after.intakeSide = before.intakeSide

theorem SameIntake.refl (repo : Repository) : SameIntake repo repo := rfl

theorem SameIntake.trans (a b c : Repository) (first : SameIntake a b) (next : SameIntake b c) : SameIntake a c :=
  Eq.trans next first

section Batches
variable {settings : Settings}

theorem syncSettlementBatch_sameIntake (window : RewardWindow) (repo : Repository) :
    SameIntake repo (syncSettlementBatch settings window repo) := by
  unfold syncSettlementBatch
  extract_lets id figures opened synced
  have first : SameIntake repo synced := by
    unfold synced
    cases repo.settlementBatches.get? id with
    | none => rfl
    | some batch =>
      dsimp only
      split_ifs <;> rfl
  split_ifs
  · exact first
  · cases synced.rewardWindows.get? window.id with
    | none => exact first
    | some stored => exact .trans _ _ _ first rfl

theorem buildSettlementBatches_sameIntake (repo : Repository) : SameIntake repo (buildSettlementBatches settings repo) := by
  have loop (windows : List RewardWindow) (repo : Repository) : SameIntake repo (windows.foldl (fun repo window =>
      if window.state = .noPositiveWeight then repo else syncSettlementBatch settings window repo) repo) := by
    induction windows generalizing repo with
    | nil => exact .refl repo
    | cons window rest ih =>
      rw [List.foldl_cons]
      split_ifs
      · exact ih repo
      · exact .trans _ _ _ (syncSettlementBatch_sameIntake window repo) (ih _)
  exact loop _ repo

theorem cancelSettlementBatch_sameIntake (id : String) (repo : Repository) : SameIntake repo (cancelSettlementBatch id repo) := by
  unfold cancelSettlementBatch
  split_ifs <;> rfl

theorem tryPokerMttRewardWindow_sameIntake (build : Except String PokerBuild) :
    Moves SameIntake (tryPokerMttRewardWindow settings build) := by
  cases build with
  | error message => exact Moves.fail SameIntake.refl _
  | ok build =>
    intro repo
    apply buildPokerMttRewardWindow_moved SameIntake.refl
    intro projection
    apply writePokerMttRewardWindow_moves SameIntake.refl SameIntake.trans
    · exact fun id _ => cancelSettlementBatch_sameIntake id
    · exact .refl
    · exact fun _ => .refl
    · exact syncSettlementBatch_sameIntake _

end Batches

def stampTask (id : String) (taskRunIDs : List String) (task : Task) : Task :=
  if task.taskRunID ∈ taskRunIDs then { task with rewardWindowID := some id } else task

def stampSubmission (id : String) (taskRunIDs : List String) (submission : Submission) : Submission :=
  if submission.taskRunID ∈ taskRunIDs ∧ submission.pYesBps.isSome then { submission with rewardWindowID := some id }
  else submission

def moveSubmissions (id : String) (submissions : List Submission) (repo : Repository) : Repository :=
  submissions.foldl (fun repo submission =>
    if submission.rewardWindowID ≠ some id then
      repo.saveSubmission { submission with rewardWindowID := some id } else repo) repo

variable {repo : Repository}

theorem moveSubmissions_spec (id : String) (submissions : List Submission) (keyed : Keyed repo)
    (distinct : (submissions.map (·.key)).Nodup)
    (stored : ∀ submission ∈ submissions, repo.submissions.get? submission.key = some submission) :
    Keyed (moveSubmissions id submissions repo) ∧ (moveSubmissions id submissions repo).tasks = repo.tasks ∧
      (moveSubmissions id submissions repo).miners = repo.miners ∧
      (moveSubmissions id submissions repo).holdEntries = repo.holdEntries ∧
      (moveSubmissions id submissions repo).rewardWindows = repo.rewardWindows ∧
      ∀ key, (moveSubmissions id submissions repo).submissions.get? key =
        (repo.submissions.get? key).map fun submission =>
          if submission ∈ submissions then { submission with rewardWindowID := some id } else submission := by
  unfold moveSubmissions
  induction submissions generalizing repo with
  | nil => simpa using keyed
  | cons submission rest ih =>
    obtain ⟨fresh,distinct⟩ := List.nodup_cons.mp distinct
    have own := stored submission List.mem_cons_self
    let moved := { submission with rewardWindowID := some id }
    have first : ∃ middle, (if submission.rewardWindowID ≠ some id then repo.saveSubmission moved else repo) = middle ∧
        Keyed middle ∧ middle.tasks = repo.tasks ∧ middle.miners = repo.miners ∧ middle.holdEntries = repo.holdEntries ∧
        middle.rewardWindows = repo.rewardWindows ∧ middle.submissions = repo.submissions.insert submission.key moved := by
      split_ifs with elsewhere
      · have fits := (keyed.submissions _ _ own).toFits
        have fits' : moved.Fits repo := ⟨fits.named,fits.task,fits.miner,fits.unpaid,fits.split,fits.revealed⟩
        refine ⟨_,rfl,saveSubmission_keyed keyed fits',saveSubmission_tasks _ _,saveSubmission_miners _ _,
          saveSubmission_holdEntries _ _,?_,saveSubmission_again keyed own rfl⟩
        exact congrArg Prod.fst (saveSubmission_sameSettlement moved repo)
      · rw [not_not] at elsewhere
        have same : moved = submission := by
          simp only [moved,← elsewhere]
        refine ⟨repo,rfl,keyed,rfl,rfl,rfl,rfl,?_⟩
        rw [same,OrdMap.insert_of_get? own]
    obtain ⟨middle,run,keyed',tasks,miners,holds,windows,submissions⟩ := first
    rw [List.foldl_cons,run]
    have still : ∀ other ∈ rest, middle.submissions.get? other.key = some other := by
      intro other member
      rw [submissions,OrdMap.get?_insert_of_ne]
      · exact stored other (List.mem_cons_of_mem _ member)
      · intro same
        exact fresh (List.mem_map.mpr ⟨other,member,same⟩)
    obtain ⟨keyed,tasks',miners',holds',windows',later⟩ := ih keyed' distinct still
    refine ⟨keyed,tasks'.trans tasks,miners'.trans miners,holds'.trans holds,windows'.trans windows,fun key => ?_⟩
    rw [later,submissions,OrdMap.get?_insert]
    split_ifs with same
    · have gone : moved ∉ rest := fun member => fresh (List.mem_map.mpr ⟨moved,member,rfl⟩)
      rw [same,own,Option.map_some,Option.map_some,if_neg gone,if_pos List.mem_cons_self]
    · apply Option.map_congr
      intro other found
      have differs : other ≠ submission := by
        rintro rfl
        exact same (keyed'.submissions key other (by rw [submissions,OrdMap.get?_insert_of_ne _ _ same]; exact found)).keyed.symm
      simp [differs]

def moveTasks (id : String) (tasks : List Task) (repo : Repository) : Repository :=
  tasks.foldl (fun repo task =>
    if task.rewardWindowID ≠ some id then repo.upsertTask { task with rewardWindowID := some id } else repo) repo

theorem moveTasks_spec (id : String) (tasks : List Task) (keyed : Keyed repo)
    (distinct : (tasks.map (·.taskRunID)).Nodup) (stored : ∀ task ∈ tasks, repo.tasks.get? task.taskRunID = some task) :
    Keyed (moveTasks id tasks repo) ∧ (moveTasks id tasks repo).submissions = repo.submissions ∧
      (moveTasks id tasks repo).miners = repo.miners ∧ (moveTasks id tasks repo).holdEntries = repo.holdEntries ∧
      (moveTasks id tasks repo).rewardWindows = repo.rewardWindows ∧
      ∀ key, (moveTasks id tasks repo).tasks.get? key = (repo.tasks.get? key).map fun task =>
        if task ∈ tasks then { task with rewardWindowID := some id } else task := by
  unfold moveTasks
  induction tasks generalizing repo with
  | nil => simpa using keyed
  | cons task rest ih =>
    obtain ⟨fresh,distinct⟩ := List.nodup_cons.mp distinct
    have own := stored task List.mem_cons_self
    let moved := { task with rewardWindowID := some id }
    have first : ∃ middle, (if task.rewardWindowID ≠ some id then repo.upsertTask moved else repo) = middle ∧
        Keyed middle ∧ middle.submissions = repo.submissions ∧ middle.miners = repo.miners ∧
        middle.holdEntries = repo.holdEntries ∧ middle.rewardWindows = repo.rewardWindows ∧
        middle.tasks = repo.tasks.insert task.taskRunID moved := by
      split_ifs with elsewhere
      · refine ⟨_,rfl,keyed.upsertTask ?_,rfl,rfl,rfl,rfl,rfl⟩
        exact (keyed.tasks _ task own).2
      · rw [not_not] at elsewhere
        have same : moved = task := by
          simp only [moved,← elsewhere]
        refine ⟨repo,rfl,keyed,rfl,rfl,rfl,rfl,?_⟩
        rw [same,OrdMap.insert_of_get? own]
    obtain ⟨middle,run,keyed',submissions,miners,holds,windows,tasks⟩ := first
    rw [List.foldl_cons,run]
    have still : ∀ other ∈ rest, middle.tasks.get? other.taskRunID = some other := by
      intro other member
      rw [tasks,OrdMap.get?_insert_of_ne]
      · exact stored other (List.mem_cons_of_mem _ member)
      · intro same
        exact fresh (List.mem_map.mpr ⟨other,member,same⟩)
    obtain ⟨keyed'',submissions',miners',holds',windows',later⟩ := ih keyed' distinct still
    refine ⟨keyed'',submissions'.trans submissions,miners'.trans miners,holds'.trans holds,windows'.trans windows,
      fun key => ?_⟩
    rw [later,tasks,OrdMap.get?_insert]
    split_ifs with same
    · have gone : moved ∉ rest := fun member => fresh (List.mem_map.mpr ⟨moved,member,rfl⟩)
      rw [same,own,Option.map_some,Option.map_some,if_neg gone,if_pos List.mem_cons_self]
    · apply Option.map_congr
      intro other found
      have differs : other ≠ task := by
        rintro rfl
        exact same (keyed.tasks key other found).1.symm
      simp [differs]

def windowTasks (id : String) (tasks : List Task) (repo : Repository) : List String :=
  sortedIDs (((repo.rewardWindows.get? id).map (·.taskRunIDs)).getD [] ++ tasks.map (·.taskRunID))

def windowSubmissions (id : String) (tasks : List Task) (repo : Repository) : List Submission :=
  ((windowTasks id tasks repo).filterMap repo.tasks.get?).flatMap fun task =>
    (repo.listSubmissionsForTask task.taskRunID).filter (·.pYesBps.isSome)

theorem mem_windowSubmissions {id : String} {tasks : List Task} (keyed : Keyed repo) {submission : Submission}
    : submission ∈ windowSubmissions id tasks repo ↔
      repo.submissions.get? submission.key = some submission ∧ submission.taskRunID ∈ windowTasks id tasks repo ∧
        submission.pYesBps.isSome := by
  unfold windowSubmissions
  simp only [List.mem_flatMap,List.mem_filterMap,List.mem_filter]
  constructor
  · rintro ⟨task,⟨key,inside,found⟩,member,revealed⟩
    obtain ⟨stored,own⟩ := (mem_listSubmissionsForTask keyed).mp member
    rw [own,(keyed.tasks key task found).1]
    exact ⟨stored,inside,revealed⟩
  · rintro ⟨stored,inside,revealed⟩
    obtain ⟨task,found⟩ := Option.isSome_iff_exists.mp (keyed.submissions _ _ stored).task
    refine ⟨task,⟨_,inside,found⟩,?_,revealed⟩
    exact (mem_listSubmissionsForTask keyed).mpr ⟨stored,(keyed.tasks _ task found).1.symm⟩

theorem windowTasks_nodup (id : String) (tasks : List Task) (repo : Repository) : (windowTasks id tasks repo).Nodup :=
  addresses_nodup _ _

theorem listed_nodup (keyed : Keyed repo) {ids : List String} (distinct : ids.Nodup) :
    ((ids.filterMap repo.tasks.get?).map (·.taskRunID)).Nodup := by
  have sublist : ((ids.filterMap repo.tasks.get?).map (·.taskRunID)).Sublist ids := by
    clear distinct
    induction ids with
    | nil => exact .slnil
    | cons id rest ih =>
      cases found : repo.tasks.get? id with
      | none =>
        rw [List.filterMap_cons_none found]
        exact ih.cons id
      | some task =>
        rw [List.filterMap_cons_some found,List.map_cons,(keyed.tasks id task found).1]
        exact ih.cons_cons id
  exact distinct.sublist sublist

theorem windowSubmissions_nodup (id : String) (tasks : List Task) (keyed : Keyed repo) :
    ((windowSubmissions id tasks repo).map (·.key)).Nodup := by
  have distinct := listed_nodup keyed (windowTasks_nodup id tasks repo)
  unfold windowSubmissions
  generalize (windowTasks id tasks repo).filterMap repo.tasks.get? = listed at distinct
  induction listed with
  | nil => exact .nil
  | cons task rest ih =>
    obtain ⟨fresh,distinct⟩ := List.nodup_cons.mp distinct
    rw [List.flatMap_cons,List.map_append]
    refine List.Nodup.append ?_ (ih distinct) ?_
    · exact (listSubmissionsForTask_nodup keyed task.taskRunID).sublist (List.filter_sublist.map _)
    · intro key first next
      obtain ⟨submission,inside,rfl⟩ := List.mem_map.mp first
      obtain ⟨other,member,same⟩ := List.mem_map.mp next
      obtain ⟨task',held,inside'⟩ := List.mem_flatMap.mp member
      have own := ((mem_listSubmissionsForTask keyed).mp (List.mem_filter.mp inside).1).2
      have own' := ((mem_listSubmissionsForTask keyed).mp (List.mem_filter.mp inside').1).2
      have sameTask : other.taskRunID = submission.taskRunID := congrArg (fun key => (ofLex key).1) same
      exact fresh (List.mem_map.mpr ⟨task',held,own'.symm.trans (sameTask.trans own)⟩)

def windowListed (id : String) (tasks : List Task) (repo : Repository) : List Task :=
  (windowTasks id tasks repo).filterMap repo.tasks.get?

def builtWindow (id : String) (tasks : List Task) (repo : Repository) : RewardWindow where
  id := id
  lane := .forecast15m
  windowStartAt := ((tasks.head?.map (·.resolveAt)).map hourBucketStart).getD 0
  windowEndAt := ((tasks.head?.map (·.resolveAt)).map hourBucketStart).getD 0 + 3600
  taskCount := (windowTasks id tasks repo).length
  submissionCount := (windowSubmissions id tasks repo).length
  minerCount := (sortedIDs ((windowSubmissions id tasks repo).map (·.minerAddress))).length
  totalRewardAmount := totalReward (buildForecastRewardComponentRows (windowSubmissions id tasks repo))
  settlementBatchID := (repo.rewardWindows.get? id).bind (·.settlementBatchID)
  taskRunIDs := windowTasks id tasks repo
  minerAddresses := sortedIDs ((windowSubmissions id tasks repo).map (·.minerAddress))
  minerRewardRows := buildForecastRewardComponentRows (windowSubmissions id tasks repo)
  policyBundleVersion := ((repo.rewardWindows.get? id).map (·.policyBundleVersion)).getD policyBundleVersion

theorem buildRewardWindow_eq (settings : Settings) (id : String) (tasks : List Task) (repo : Repository) :
    buildRewardWindow settings id tasks repo =
      (moveTasks id (windowListed id tasks repo) (moveSubmissions id (windowSubmissions id tasks repo) repo)).storeRewardWindow
        settings (builtWindow id tasks repo) := rfl

structure Stamped (id : String) (taskRunIDs : List String) (before after : Repository) : Prop where
  keyed : Keyed after
  miners : after.miners = before.miners
  holdEntries : after.holdEntries = before.holdEntries
  tasks : ∀ key, after.tasks.get? key = (before.tasks.get? key).map (stampTask id taskRunIDs)
  submissions : ∀ key, after.submissions.get? key = (before.submissions.get? key).map (stampSubmission id taskRunIDs)

theorem Keyed.storeRewardWindow (keyed : Keyed repo) (settings : Settings) (window : RewardWindow) :
    Keyed (repo.storeRewardWindow settings window) :=
  keyed.ofMiners rfl rfl rfl keyed.miners fun _ known => known

theorem buildRewardWindow_stamped (settings : Settings) (id : String) (tasks : List Task) (keyed : Keyed repo)
    : Stamped id (windowTasks id tasks repo) repo (buildRewardWindow settings id tasks repo) ∧
      (buildRewardWindow settings id tasks repo).rewardWindows =
        repo.rewardWindows.insert id (builtWindow id tasks repo) := by
  have inside : ∀ submission ∈ windowSubmissions id tasks repo, repo.submissions.get? submission.key = some submission :=
    fun submission member => ((mem_windowSubmissions keyed).mp member).1
  have listed : ∀ task ∈ windowListed id tasks repo, repo.tasks.get? task.taskRunID = some task := by
    intro task member
    obtain ⟨key,-,found⟩ := List.mem_filterMap.mp member
    rw [(keyed.tasks key task found).1]
    exact found
  obtain ⟨keyed₁,tasks₁,miners₁,holds₁,windows₁,submissions₁⟩ :=
    moveSubmissions_spec id _ keyed (windowSubmissions_nodup id tasks keyed) inside
  obtain ⟨keyed₂,submissions₂,miners₂,holds₂,windows₂,tasks₂⟩ := moveTasks_spec id _ keyed₁
    (listed_nodup keyed (windowTasks_nodup id tasks repo)) fun task member => tasks₁ ▸ listed task member
  rw [buildRewardWindow_eq]
  refine ⟨⟨keyed₂.storeRewardWindow settings _,miners₂.trans miners₁,holds₂.trans holds₁,fun key => ?_,fun key => ?_⟩,?_⟩
  · refine (tasks₂ key).trans ?_
    rw [tasks₁]
    apply Option.map_congr
    intro task found
    have member : task ∈ windowListed id tasks repo ↔ task.taskRunID ∈ windowTasks id tasks repo := by
      rw [windowListed,List.mem_filterMap,(keyed.tasks key task found).1]
      constructor
      · rintro ⟨other,inside,held⟩
        have same := (keyed.tasks other task held).1.symm.trans (keyed.tasks key task found).1
        exact same ▸ inside
      · exact fun inside => ⟨key,inside,found⟩
    exact if_congr member rfl rfl
  · refine (congrArg (OrdMap.get? · key) submissions₂).trans ((submissions₁ key).trans ?_)
    apply Option.map_congr
    intro submission found
    have stored : repo.submissions.get? submission.key = some submission :=
      (keyed.submissions key submission found).keyed ▸ found
    refine if_congr ?_ rfl rfl
    rw [mem_windowSubmissions keyed]
    exact and_iff_right stored
  · exact congrArg (OrdMap.insert · id (builtWindow id tasks repo)) (windows₂.trans windows₁)

theorem buildRewardWindows_keeps {P : Repository → Prop} (settings : Settings)
    (stamped : ∀ id taskRunIDs before after, Keyed before → P before → Stamped id taskRunIDs before after → P after)
    (keyed : Keyed repo) (holds : P repo) : P (buildRewardWindows settings repo) := by
  have windows (ids : List String) (tasksOf : String → List Task) (repo : Repository) (keyed : Keyed repo) (holds : P repo) :
      P (ids.foldl (fun repo id => buildRewardWindow settings id (tasksOf id) repo) repo) := by
    induction ids generalizing repo with
    | nil => exact holds
    | cons id rest ih =>
      obtain ⟨built,-⟩ := buildRewardWindow_stamped settings id (tasksOf id) keyed
      exact ih _ built.keyed (stamped id _ _ _ keyed holds built)
  exact windows _ _ repo keyed holds

theorem gatherRewards_keeps {P : Repository → Prop} (settings : Settings) (outside : Outside)
    (stamped : ∀ id taskRunIDs before after, Keyed before → P before → Stamped id taskRunIDs before after → P after)
    (same : ∀ before after, SameIntake before after → P before → P after) {repo : Repository} (keyed : Keyed repo)
    (holds : P repo) : P (gatherRewards settings outside repo).2 := by
  have built := buildRewardWindows_keeps settings stamped keyed holds
  have rest : Moves SameIntake (do
      buildPokerMttRewardWindows settings outside
      Faulty.modify (buildSettlementBatches settings) : Service Unit) := by
    apply Moves.bind SameIntake.trans
    · apply Moves.each SameIntake.refl SameIntake.trans
      exact fun build _ => tryPokerMttRewardWindow_sameIntake _
    · exact fun _ => Moves.modify buildSettlementBatches_sameIntake
  exact same _ _ (rest _) built

theorem SameIntake.regular {before after : Repository} (same : SameIntake before after) (regular : Regular before) :
    Regular after := by
  unfold SameIntake Repository.intakeSide at same
  simp only [Prod.mk.injEq] at same
  obtain ⟨miners,tasks,submissions,index,-⟩ := same
  refine ⟨regular.toKeyed.ofMiners tasks submissions index (miners ▸ regular.miners) fun _ known => miners ▸ known,?_⟩
  rw [tasks,submissions]
  exact regular.open_

theorem Stamped.regular {id : String} {taskRunIDs : List String} {before after : Repository}
    (stamped : Stamped id taskRunIDs before after) (regular : Regular before) : Regular after := by
  refine ⟨stamped.keyed,fun key submission task found held unresolved => ?_⟩
  rw [stamped.submissions] at found
  rw [stamped.tasks] at held
  obtain ⟨old,oldFound,rfl⟩ := Option.map_eq_some_iff.mp found
  obtain ⟨earlier,oldHeld,rfl⟩ := Option.map_eq_some_iff.mp held
  have sameTask : (stampSubmission id taskRunIDs old).taskRunID = old.taskRunID := by
    unfold stampSubmission
    split_ifs <;> rfl
  have sameState : (stampSubmission id taskRunIDs old).state = old.state := by
    unfold stampSubmission
    split_ifs <;> rfl
  have sameState' : (stampTask id taskRunIDs earlier).state = earlier.state := by
    unfold stampTask
    split_ifs <;> rfl
  rw [sameTask] at oldHeld
  rw [sameState'] at unresolved
  rw [sameState]
  exact regular.open_ key old earlier oldFound oldHeld unresolved

theorem reconcile_keeps {P : Repository → Prop} {settings : Settings} {outside : Outside} {now : Time}
    (settling : ∀ before after, Keyed before → P before → Settling settings outside now before after → P after)
    (stamped : ∀ id taskRunIDs before after, Keyed before → P before → Stamped id taskRunIDs before after → P after)
    (same : ∀ before after, SameIntake before after → P before → P after) {repo : Repository} (regular : Regular repo)
    (holds : P repo) : Regular (reconcile settings outside now repo).2 ∧ P (reconcile settings outside now repo).2 := by
  obtain ⟨settled,path,regular',-,run⟩ := reconcile_settles settings outside now regular
  have along : Keyed settled ∧ P settled := by
    clear run regular'
    induction path with
    | refl => exact ⟨regular.toKeyed,holds⟩
    | tail _ step ih => exact ⟨step.keyed ih.1,settling _ _ ih.1 ih.2 step⟩
  rw [run]
  refine ⟨?_,gatherRewards_keeps settings outside stamped same along.1 along.2⟩
  exact gatherRewards_keeps settings outside (fun _ _ _ _ _ regular stamped => stamped.regular regular)
    (fun _ _ same regular => same.regular regular) along.1 regular'

end Clawchain.Mining
