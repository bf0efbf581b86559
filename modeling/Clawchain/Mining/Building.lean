import Clawchain.Mining.Hours
import Mathlib.Algebra.BigOperators.Ring.Finset

/-! Building the windows of the hours and of the poker lanes, and their batches. -/
namespace Clawchain.Mining
open Clawchain.Lib Clawchain.Lib.Faulty

def Prompt (repo : Repository) : Prop := ∀ key submission task batch, repo.submissions.get? key = some submission →
  submission.state = .resolved → submission.rewardWindowID = none →
  repo.tasks.get? submission.taskRunID = some task → task.lane = .forecast15m →
  repo.settlementBatches.get? (settlementBatchIDOf (forecastRewardWindowID task.resolveAt)) = some batch → batch.Left →
    submission.rewardAmount = 0

variable {repo : Repository} {id : String}

theorem mem_sortedIDs {ids : List String} : id ∈ sortedIDs ids ↔ id ∈ ids := by
  rw [sortedIDs,mem_addresses_iff]
  simp

theorem mem_windowTasks {taskRunID : String} {tasks : List Task} :
    taskRunID ∈ windowTasks id tasks repo ↔
      (∃ window, repo.rewardWindows.get? id = some window ∧ taskRunID ∈ window.taskRunIDs) ∨
        ∃ task ∈ tasks, task.taskRunID = taskRunID := by
  unfold windowTasks
  rw [mem_sortedIDs,List.mem_append,List.mem_map]
  cases repo.rewardWindows.get? id <;> simp

theorem stampTask_same (id : String) (taskRunIDs : List String) (task : Task) :
    (stampTask id taskRunIDs task).lane = task.lane ∧ (stampTask id taskRunIDs task).state = task.state ∧
      (stampTask id taskRunIDs task).resolveAt = task.resolveAt := by
  unfold stampTask
  split_ifs <;> exact ⟨rfl,rfl,rfl⟩

theorem stampSubmission_same (id : String) (taskRunIDs : List String) (submission : Submission) :
    (stampSubmission id taskRunIDs submission).taskRunID = submission.taskRunID ∧
      (stampSubmission id taskRunIDs submission).state = submission.state ∧
      (stampSubmission id taskRunIDs submission).pYesBps = submission.pYesBps ∧
      (stampSubmission id taskRunIDs submission).rewardAmount = submission.rewardAmount ∧
      (stampSubmission id taskRunIDs submission).earned = submission.earned := by
  unfold stampSubmission
  split_ifs <;> exact ⟨rfl,rfl,rfl,rfl,rfl⟩

theorem stampedRows_sameSettlement (id : String) (tasks : List Task) (repo : Repository) : SameSettlement repo
    (moveTasks id (windowListed id tasks repo) (moveSubmissions id (windowSubmissions id tasks repo) repo)) := by
  have submissions : SameSettlement repo (moveSubmissions id (windowSubmissions id tasks repo) repo) := by
    apply foldl_sameSettlement
    intro repo submission
    split_ifs
    · exact saveSubmission_sameSettlement _ repo
    · exact .refl repo
  apply SameSettlement.trans _ _ _ submissions
  apply foldl_sameSettlement
  intro repo task
  split_ifs <;> exact .refl repo

theorem buildRewardWindow_batches (settings : Settings) (id : String) (tasks : List Task) (repo : Repository) :
    (buildRewardWindow settings id tasks repo).settlementBatches = repo.settlementBatches := by
  rw [buildRewardWindow_eq]
  exact congrArg (fun side => side.2.1) (stampedRows_sameSettlement id tasks repo)

section Hour
variable {settings : Settings} {id : String} {tasks : List Task} {repo : Repository}

def OfHour (repo : Repository) (id taskRunID : String) : Prop := ∃ task, repo.tasks.get? taskRunID = some task ∧
  task.lane = .forecast15m ∧ task.state = .resolved ∧ id = forecastRewardWindowID task.resolveAt

theorem OfHour.unique {id' taskRunID : String} (first : OfHour repo id taskRunID) (second : OfHour repo id' taskRunID) :
    id = id' := by
  obtain ⟨task,held,-,-,rfl⟩ := first
  obtain ⟨other,held',-,-,rfl⟩ := second
  cases held.symm.trans held'
  rfl

theorem hour_stored (gathered : Gathered repo) (named : ∃ resolveAt, id = forecastRewardWindowID resolveAt)
    {window : RewardWindow} (found : repo.rewardWindows.get? id = some window) : Hour repo id window := by
  refine ⟨found,?_⟩
  rcases (gathered.windows id window found).lane with ⟨forecast,-⟩ | ⟨poker,windowStart,windowEnd,same⟩
  · exact forecast
  · obtain ⟨resolveAt,rfl⟩ := named
    exact absurd same (forecastRewardWindowID_ne_poker resolveAt poker windowStart windowEnd)

theorem ofHour_windowTasks (gathered : Gathered repo) (named : ∃ resolveAt, id = forecastRewardWindowID resolveAt)
    (new : ∀ task ∈ tasks, OfHour repo id task.taskRunID) {taskRunID : String} (member : taskRunID ∈ windowTasks id tasks repo) : OfHour repo id taskRunID := by
  rcases mem_windowTasks.mp member with ⟨window,found,inside⟩ | ⟨task,inside,rfl⟩
  · exact gathered.tasks id window taskRunID (hour_stored gathered named found) inside
  · exact new task inside

theorem stamped_alone (gathered : Gathered repo) (named : ∃ resolveAt, id = forecastRewardWindowID resolveAt)
    (new : ∀ task ∈ tasks, OfHour repo id task.taskRunID) {key : Lex (String × String)} {submission : Submission} {other : String}
    (found : repo.submissions.get? key = some submission) (member : submission.taskRunID ∈ windowTasks id tasks repo)
    (inside : submission.rewardWindowID = some other) : other = id := by
  obtain ⟨-,window,hour,listed⟩ := gathered.submissions key submission other found inside
  exact OfHour.unique (gathered.tasks other window _ hour listed) (ofHour_windowTasks gathered named new member)

theorem builtWindow_total (gathered : Gathered repo) (keyed : Keyed repo) : ((builtWindow id tasks repo).totalRewardAmount : Int) =
    repo.submissions.sumBy fun _ submission =>
      if (stampSubmission id (windowTasks id tasks repo) submission).rewardWindowID = some id then submission.earned else 0 := by
  have counted : (windowSubmissions id tasks repo).filter countsForReward = windowSubmissions id tasks repo := by
    rw [List.filter_eq_self]
    intro submission member
    obtain ⟨stored,-,revealed⟩ := (mem_windowSubmissions keyed).mp member
    obtain ⟨miner,owner⟩ := Option.isSome_iff_exists.mp (keyed.submissions _ submission stored).miner
    simp [countsForReward,revealed,(keyed.miners _ miner owner).2]
  have total : (builtWindow id tasks repo).totalRewardAmount = ((windowSubmissions id tasks repo).map (·.rewardAmount)).sum := by
    unfold builtWindow
    rw [buildForecastRewardComponentRows_total,counted]
  have listed := OrdMap.sum_map_eq_sumBy (fun key submission found => (keyed.submissions key submission found).keyed)
    (fun submission => (submission.rewardAmount : Int)) (windowSubmissions_nodup id tasks keyed)
    fun submission member => ((mem_windowSubmissions keyed).mp member).1
  rw [total,Nat.cast_list_sum,List.map_map]
  refine listed.trans (OrdMap.sumBy_congr _ fun key submission found => ?_)
  have stored : repo.submissions.get? submission.key = some submission :=
    (keyed.submissions key submission found).keyed ▸ found
  have member : submission ∈ windowSubmissions id tasks repo ↔
      submission.taskRunID ∈ windowTasks id tasks repo ∧ submission.pYesBps.isSome := by
    rw [mem_windowSubmissions keyed]
    exact and_iff_right stored
  unfold stampSubmission
  by_cases inside : submission.taskRunID ∈ windowTasks id tasks repo ∧ submission.pYesBps.isSome
  · rw [if_pos (member.mpr inside),if_pos inside,if_pos rfl,Submission.earned]
    split_ifs with resolved
    · rfl
    · rw [((keyed.submissions key submission found).unpaid resolved).1]
      rfl
  · rw [if_neg (mt member.mp inside),if_neg inside,if_neg]
    intro same
    obtain ⟨revealed,window,hour,listed⟩ := gathered.submissions key submission id found same
    exact inside ⟨mem_windowTasks.mpr (.inl ⟨window,hour.1,listed⟩),revealed⟩

theorem windowReward_late (gathered : Gathered repo) (named : ∃ resolveAt, id = forecastRewardWindowID resolveAt)
    (new : ∀ task ∈ tasks, OfHour repo id task.taskRunID) (prompt : Prompt repo) {batch : SettlementBatch}
    (held : repo.settlementBatches.get? (settlementBatchIDOf id) = some batch) (left : batch.Left) :
    (repo.submissions.sumBy fun _ submission =>
      if (stampSubmission id (windowTasks id tasks repo) submission).rewardWindowID = some id then submission.earned else 0) =
        windowReward repo id := by
  apply OrdMap.sumBy_congr
  intro key submission found
  unfold stampSubmission
  by_cases member : submission.taskRunID ∈ windowTasks id tasks repo ∧ submission.pYesBps.isSome
  · rw [if_pos member,if_pos rfl]
    split_ifs with own
    · rfl
    · have alone : submission.rewardWindowID = none := by
        rw [Option.eq_none_iff_forall_ne_some]
        intro other inside
        exact own (stamped_alone gathered named new found member.1 inside ▸ inside)
      obtain ⟨task,stored,forecast,-,rfl⟩ := ofHour_windowTasks gathered named new member.1
      unfold Submission.earned
      split_ifs with resolved
      · rw [prompt key submission task batch found resolved alone stored forecast held left]
        rfl
      · rfl
  · rw [if_neg member]

theorem buildRewardWindow_gathered (settings : Settings) (keyed : Keyed repo) (gathered : Gathered repo)
    (prompt : Prompt repo) (named : ∃ resolveAt, id = forecastRewardWindowID resolveAt)
    (new : ∀ task ∈ tasks, OfHour repo id task.taskRunID) :
    Gathered (buildRewardWindow settings id tasks repo) ∧ Prompt (buildRewardWindow settings id tasks repo) := by
  obtain ⟨stamped,windows⟩ := buildRewardWindow_stamped settings id tasks keyed
  have batches := buildRewardWindow_batches settings id tasks repo
  generalize buildRewardWindow settings id tasks repo = after at stamped windows batches ⊢
  have hours {id' : String} {window : RewardWindow} : Hour after id' window ↔
      if id' = id then window = builtWindow id tasks repo else Hour repo id' window := by
    unfold Hour
    rw [windows,OrdMap.get?_insert]
    split_ifs
    · constructor
      · rintro ⟨same,-⟩
        exact (Option.some.inj same).symm
      · rintro rfl
        exact ⟨rfl,rfl⟩
    · rfl
  have written : after.submissions =
      repo.submissions.mapVals fun _ => stampSubmission id (windowTasks id tasks repo) := by
    apply OrdMap.ext_get?
    intro key
    rw [stamped.submissions,OrdMap.get?_mapVals]
  have reward (id' : String) : windowReward after id' = repo.submissions.sumBy fun _ submission =>
      if (stampSubmission id (windowTasks id tasks repo) submission).rewardWindowID = some id' then submission.earned
        else 0 := by
    unfold windowReward
    rw [written,OrdMap.sumBy_mapVals]
    simp only [(stampSubmission_same id _ _).2.2.2.2]
  have others {id' : String} (differs : id' ≠ id) : windowReward after id' = windowReward repo id' := by
    rw [reward]
    apply OrdMap.sumBy_congr
    intro key submission found
    unfold stampSubmission
    by_cases member : submission.taskRunID ∈ windowTasks id tasks repo ∧ submission.pYesBps.isSome
    · rw [if_pos member,if_neg fun same => differs (Option.some.inj same).symm,if_neg]
      exact fun own => differs (stamped_alone gathered named new found member.1 own)
    · rw [if_neg member]
  constructor
  · constructor
    · intro id' window found
      rw [windows,OrdMap.get?_insert] at found
      split_ifs at found with own
      · cases found
        subst own
        refine ⟨rfl,.inl ⟨rfl,rfl,named⟩,fun batchID linked => ?_⟩
        obtain ⟨window,found,linked⟩ := Option.bind_eq_some_iff.mp linked
        exact (gathered.windows _ window found).batched batchID linked
      · exact gathered.windows id' window found
    · intro id' window taskRunID hour member
      have old : OfHour repo id' taskRunID := by
        rw [hours] at hour
        split_ifs at hour with own
        · subst own hour
          exact ofHour_windowTasks gathered named new member
        · exact gathered.tasks id' window taskRunID hour member
      obtain ⟨task,held,forecast,resolved,sameHour⟩ := old
      obtain ⟨lane,state,resolveAt⟩ := stampTask_same id (windowTasks id tasks repo) task
      refine ⟨stampTask id (windowTasks id tasks repo) task,?_,lane.trans forecast,state.trans resolved,?_⟩
      · rw [stamped.tasks,held]
        rfl
      · rw [resolveAt]
        exact sameHour
    · intro taskRunID task found windowed
      rw [stamped.tasks] at found
      obtain ⟨old,held,rfl⟩ := Option.map_eq_some_iff.mp found
      rw [(stampTask_same id _ old).2.1]
      unfold stampTask at windowed
      split_ifs at windowed with member
      · obtain ⟨other,held',-,resolved,-⟩ := ofHour_windowTasks gathered named new member
        rw [(keyed.tasks taskRunID old held).1] at held'
        cases held.symm.trans held'
        exact resolved
      · exact gathered.windowed taskRunID old held windowed
    · intro key submission id' found inside
      rw [stamped.submissions] at found
      obtain ⟨old,held,rfl⟩ := Option.map_eq_some_iff.mp found
      obtain ⟨sameTask,-,sameBps,-⟩ := stampSubmission_same id (windowTasks id tasks repo) old
      rw [sameTask,sameBps]
      unfold stampSubmission at inside
      split_ifs at inside with member
      · cases inside
        exact ⟨member.2,builtWindow id tasks repo,hours.mpr (by rw [if_pos rfl]),member.1⟩
      · obtain ⟨revealed,window,hour,listed⟩ := gathered.submissions key old id' held inside
        refine ⟨revealed,window,?_,listed⟩
        rw [hours,if_neg]
        · exact hour
        · rintro rfl
          exact member ⟨mem_windowTasks.mpr (.inl ⟨window,hour.1,listed⟩),revealed⟩
    · intro key submission task found resolved held windowed
      rw [stamped.submissions] at found
      obtain ⟨old,stored,rfl⟩ := Option.map_eq_some_iff.mp found
      obtain ⟨sameTask,sameState,-⟩ := stampSubmission_same id (windowTasks id tasks repo) old
      rw [sameTask,stamped.tasks] at held
      rw [sameState] at resolved
      obtain ⟨earlier,held',rfl⟩ := Option.map_eq_some_iff.mp held
      have revealed := (keyed.submissions key old stored).revealed resolved
      have own := (keyed.tasks _ earlier held').1
      unfold stampSubmission
      unfold stampTask at windowed
      split_ifs at windowed with member
      · rw [own] at member
        rw [if_pos ⟨member,revealed⟩]
        rfl
      · split_ifs
        · rfl
        · exact gathered.joined key old earlier stored resolved held' windowed
    · intro id' window hour
      rw [hours] at hour
      split_ifs at hour with own
      · subst own hour
        rw [reward]
        exact builtWindow_total gathered keyed
      · rw [others own]
        exact gathered.totals id' window hour
    · intro batchID batch found forecast
      rw [batches] at found
      obtain ⟨windowID,window,hour,same,listed⟩ := gathered.batches batchID batch found forecast
      by_cases own : windowID = id
      · exact ⟨windowID,builtWindow id tasks repo,hours.mpr (by rw [if_pos own]),same,listed⟩
      · exact ⟨windowID,window,hours.mpr (by rw [if_neg own]; exact hour),same,listed⟩
    · intro batchID batch windowID found forecast left listed
      rw [batches] at found
      rw [gathered.paid batchID batch windowID found forecast left listed]
      by_cases own : windowID = id
      · subst own
        obtain ⟨windowID',window,hour,rfl,listed'⟩ := gathered.batches batchID batch found forecast
        cases listed.symm.trans listed'
        rw [reward]
        exact (windowReward_late gathered named new prompt found left).symm
      · exact (others own).symm
  · intro key submission task batch found resolved alone held forecast found' left
    rw [stamped.submissions] at found
    obtain ⟨old,stored,rfl⟩ := Option.map_eq_some_iff.mp found
    obtain ⟨sameTask,sameState,-,sameReward,-⟩ := stampSubmission_same id (windowTasks id tasks repo) old
    rw [sameTask,stamped.tasks] at held
    rw [sameState] at resolved
    obtain ⟨earlier,held',rfl⟩ := Option.map_eq_some_iff.mp held
    obtain ⟨sameLane,-,sameResolveAt⟩ := stampTask_same id (windowTasks id tasks repo) earlier
    rw [sameLane] at forecast
    rw [sameResolveAt,batches] at found'
    have alone' : old.rewardWindowID = none := by
      unfold stampSubmission at alone
      split_ifs at alone
      exact alone
    rw [sameReward]
    exact prompt key old earlier batch stored resolved alone' held' forecast found' left

end Hour

def AllGathered (repo : Repository) : Prop := ∀ key submission task, repo.submissions.get? key = some submission →
  submission.state = .resolved → repo.tasks.get? submission.taskRunID = some task → task.lane = .forecast15m →
    submission.rewardWindowID.isSome

theorem AllGathered.prompt (all : AllGathered repo) : Prompt repo := by
  intro key submission task batch found resolved alone held forecast
  have inside := all key submission task found resolved held forecast
  simp [alone] at inside

theorem OfHour.stamped {id' taskRunID : String} {taskRunIDs : List String} {before after : Repository}
    (ofHour : OfHour before id' taskRunID) (stamped : Stamped id taskRunIDs before after) : OfHour after id' taskRunID := by
  obtain ⟨task,held,forecast,resolved,named⟩ := ofHour
  obtain ⟨lane,state,resolveAt⟩ := stampTask_same id taskRunIDs task
  refine ⟨stampTask id taskRunIDs task,?_,lane.trans forecast,state.trans resolved,resolveAt ▸ named⟩
  rw [stamped.tasks,held]
  rfl

def ToCome (repo : Repository) (tasksOf : String → List Task) (ids : List String) : Prop :=
  ∀ key submission task, repo.submissions.get? key = some submission → submission.state = .resolved →
    submission.rewardWindowID = none → repo.tasks.get? submission.taskRunID = some task → task.lane = .forecast15m →
      ∃ id ∈ ids, ∃ other ∈ tasksOf id, other.taskRunID = submission.taskRunID

theorem ToCome.next {settings : Settings} {tasksOf : String → List Task} {ids : List String} (keyed : Keyed repo)
    (toCome : ToCome repo tasksOf (id :: ids)) :
    ToCome (buildRewardWindow settings id (tasksOf id) repo) tasksOf ids := by
  obtain ⟨stamped,-⟩ := buildRewardWindow_stamped settings id (tasksOf id) keyed
  intro key submission task found resolved alone held forecast
  rw [stamped.submissions] at found
  obtain ⟨old,stored,rfl⟩ := Option.map_eq_some_iff.mp found
  obtain ⟨sameTask,sameState,-⟩ := stampSubmission_same id (windowTasks id (tasksOf id) repo) old
  rw [sameTask,stamped.tasks] at held
  rw [sameState] at resolved
  obtain ⟨earlier,held',rfl⟩ := Option.map_eq_some_iff.mp held
  rw [(stampTask_same id _ earlier).1] at forecast
  rw [sameTask]
  unfold stampSubmission at alone
  split_ifs at alone with member
  obtain ⟨id',inside,other,listed,same⟩ := toCome key old earlier stored resolved alone held' forecast
  rcases List.mem_cons.mp inside with rfl | later
  · have revealed := (keyed.submissions key old stored).revealed resolved
    exact absurd ⟨mem_windowTasks.mpr (.inr ⟨other,listed,same⟩),revealed⟩ member
  · exact ⟨id',later,other,listed,same⟩

theorem buildRewardWindows_loop (settings : Settings) (tasksOf : String → List Task) (ids : List String)
    (keyed : Keyed repo) (gathered : Gathered repo) (prompt : Prompt repo)
    (named : ∀ id ∈ ids, ∃ resolveAt, id = forecastRewardWindowID resolveAt)
    (new : ∀ id ∈ ids, ∀ task ∈ tasksOf id, OfHour repo id task.taskRunID) (toCome : ToCome repo tasksOf ids) :
    Gathered (ids.foldl (fun repo id => buildRewardWindow settings id (tasksOf id) repo) repo) ∧
      AllGathered (ids.foldl (fun repo id => buildRewardWindow settings id (tasksOf id) repo) repo) := by
  induction ids generalizing repo with
  | nil =>
    refine ⟨gathered,fun key submission task found resolved held forecast => ?_⟩
    by_contra alone
    obtain ⟨id,inside,-⟩ := toCome key submission task found resolved (by simpa using alone) held forecast
    cases inside
  | cons id rest ih =>
    obtain ⟨stamped,-⟩ := buildRewardWindow_stamped settings id (tasksOf id) keyed
    obtain ⟨gathered',prompt'⟩ := buildRewardWindow_gathered settings keyed gathered prompt (named id List.mem_cons_self)
      (new id List.mem_cons_self)
    apply ih stamped.keyed gathered' prompt'
    · exact fun other inside => named other (List.mem_cons_of_mem _ inside)
    · exact fun other inside task listed => (new other (List.mem_cons_of_mem _ inside) task listed).stamped stamped
    · exact toCome.next keyed

theorem buildRewardWindows_gathered (settings : Settings) (regular : Regular repo) (gathered : Gathered repo)
    (prompt : Prompt repo) :
    Gathered (buildRewardWindows settings repo) ∧ AllGathered (buildRewardWindows settings repo) := by
  have waiting {task : Task} (member : task ∈ repo.listTasks.filter Task.unwindowed) :
      OfHour repo (forecastRewardWindowID task.resolveAt) task.taskRunID := by
    obtain ⟨inside,picked⟩ := List.mem_filter.mp member
    obtain ⟨⟨id,row⟩,entry,same⟩ := List.mem_map.mp inside
    cases same
    have found := OrdMap.get?_eq_some_iff.mpr entry
    have open_ : (row.lane = .forecast15m ∧ row.state = .resolved) ∧ row.rewardWindowID = none := by
      simpa [Task.unwindowed] using picked
    exact ⟨row,(regular.tasks id row found).1 ▸ found,open_.1.1,open_.1.2,rfl⟩
  apply buildRewardWindows_loop settings _ _ regular.toKeyed gathered prompt
  · intro id inside
    unfold addresses at inside
    rw [ofList_keys,List.map_map] at inside
    obtain ⟨task,-,rfl⟩ := List.mem_map.mp inside
    exact ⟨task.resolveAt,rfl⟩
  · intro id inside task listed
    obtain ⟨member,own⟩ := List.mem_filter.mp listed
    have same : forecastRewardWindowID task.resolveAt = id := by simpa using own
    exact same ▸ waiting member
  · intro key submission task found resolved alone held forecast
    have ended : task.state = .resolved := by
      by_contra open_
      exact regular.open_ key submission task found held open_ resolved
    have unwindowed : task.rewardWindowID = none := by
      by_contra windowed
      have inside := gathered.joined key submission task found resolved held (Option.isSome_iff_ne_none.mpr windowed)
      simp [alone] at inside
    have member : task ∈ repo.listTasks.filter Task.unwindowed := by
      refine List.mem_filter.mpr ⟨List.mem_map.mpr ⟨(submission.taskRunID,task),OrdMap.get?_eq_some_iff.mp held,rfl⟩,?_⟩
      simp [Task.unwindowed,forecast,ended,unwindowed]
    refine ⟨forecastRewardWindowID task.resolveAt,mem_addresses (fun task : Task => forecastRewardWindowID task.resolveAt) member,
      task,?_,(regular.tasks _ task held).1⟩
    exact List.mem_filter.mpr ⟨member,by simp⟩

end Clawchain.Mining
