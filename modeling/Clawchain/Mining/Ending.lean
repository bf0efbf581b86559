import Clawchain.Mining.Building
import Clawchain.Mining.Earned
import Clawchain.Mining.Openings

/-! Reveals end when a task is settled: what is revealed for a task that is resolved is resolved and scored, as long as no
reveal comes at the very instant of the deadline of a task that is already settled. -/
namespace Clawchain.Mining
open Clawchain.Lib Clawchain.Lib.Faulty

def Ended (repo : Repository) : Prop := ∀ key submission task, repo.submissions.get? key = some submission →
  repo.tasks.get? submission.taskRunID = some task → task.state = .resolved → submission.pYesBps.isSome →
    submission.state = .resolved ∧ submission.score.isSome

structure Ending (now : Time) (repo : Repository) : Prop where
  ended : Ended repo
  scored : ∀ key submission, repo.submissions.get? key = some submission → submission.state = .resolved → submission.score.isSome
  elapsed : ∀ id task, repo.tasks.get? id = some task → task.state = .resolved → parseTime task.resolveAt ≤ now
  timed : ∀ id task, repo.tasks.get? id = some task → task.revealDeadline ≤ task.resolveAt

section Ending
variable {settings : Settings} {now later : Time} {repo before after : Repository}
variable {task : Task}

theorem ending_empty : Ending now {} where
  ended _ _ _ found := by cases found
  scored _ _ found := by cases found
  elapsed _ _ found := by cases found
  timed _ _ found := by cases found

theorem Ending.mono (ending : Ending now repo) (order : now ≤ later) : Ending later repo :=
  ⟨ending.ended,ending.scored,fun id task found resolved => (ending.elapsed id task found resolved).trans order,ending.timed⟩

theorem Ending.ofSame (ending : Ending now before) (tasks : after.tasks = before.tasks)
    (submissions : after.submissions = before.submissions) : Ending now after where
  ended := by
    unfold Ended
    rw [tasks,submissions]
    exact ending.ended
  scored := by
    rw [submissions]
    exact ending.scored
  elapsed := by
    rw [tasks]
    exact ending.elapsed
  timed := by
    rw [tasks]
    exact ending.timed

theorem Ending.insert (ending : Ending now before) {key : Lex (String × String)} {row : Submission}
    (tasks : after.tasks = before.tasks) (written : after.submissions = before.submissions.insert key row)
    (scored : row.state = .resolved → row.score.isSome)
    (settled : ∀ task, before.tasks.get? row.taskRunID = some task → task.state = .resolved → row.pYesBps.isSome →
      row.state = .resolved) : Ending now after where
  ended other submission task found held resolved revealed := by
    rw [written,OrdMap.get?_insert] at found
    rw [tasks] at held
    split_ifs at found with own
    · cases found
      have done := settled task held resolved revealed
      exact ⟨done,scored done⟩
    · exact ending.ended other submission task found held resolved revealed
  scored other submission found resolved := by
    rw [written,OrdMap.get?_insert] at found
    split_ifs at found with own
    · cases found
      exact scored resolved
    · exact ending.scored other submission found resolved
  elapsed := by
    rw [tasks]
    exact ending.elapsed
  timed := by
    rw [tasks]
    exact ending.timed

theorem Ending.saveSubmission (ending : Ending now repo) {row : Submission} (scored : row.state = .resolved → row.score.isSome)
    (settled : ∀ task, repo.tasks.get? row.taskRunID = some task → task.state = .resolved → row.pYesBps.isSome →
      row.state = .resolved) : Ending now (repo.saveSubmission row) := by
  rcases saveSubmission_cases row repo with ⟨same,-⟩ | ⟨-,written,-⟩
  · rw [same]
    exact ending
  · exact ending.insert (saveSubmission_tasks row repo) written scored settled

theorem Ending.upsertTask (ending : Ending now repo) (timed : task.revealDeadline ≤ task.resolveAt)
    (elapsed : task.state = .resolved → parseTime task.resolveAt ≤ now)
    (settled : task.state = .resolved → AllSettled repo task) : Ending now (repo.upsertTask task) where
  ended key submission other found held resolved revealed := by
    change (repo.tasks.insert task.taskRunID task).get? submission.taskRunID = some other at held
    rw [OrdMap.get?_insert] at held
    split_ifs at held with own
    · cases held
      have done := settled resolved key submission found own revealed
      exact ⟨done,ending.scored key submission found done⟩
    · exact ending.ended key submission other found held resolved revealed
  scored := ending.scored
  elapsed id other held resolved := by
    change (repo.tasks.insert task.taskRunID task).get? id = some other at held
    rw [OrdMap.get?_insert] at held
    split_ifs at held with own
    · cases held
      exact elapsed resolved
    · exact ending.elapsed id other held resolved
  timed id other held := by
    change (repo.tasks.insert task.taskRunID task).get? id = some other at held
    rw [OrdMap.get?_insert] at held
    split_ifs at held with own
    · cases held
      exact timed
    · exact ending.timed id other held

theorem stampTask_times (id : String) (taskRunIDs : List String) (task : Task) :
    (stampTask id taskRunIDs task).revealDeadline = task.revealDeadline := by
  unfold stampTask
  split_ifs <;> rfl

theorem stampSubmission_score (id : String) (taskRunIDs : List String) (submission : Submission) :
    (stampSubmission id taskRunIDs submission).score = submission.score := by
  unfold stampSubmission
  split_ifs <;> rfl

theorem Stamped.ending {id : String} {taskRunIDs : List String} (stamped : Stamped id taskRunIDs before after)
    (ending : Ending now before) : Ending now after := by
  have task {key : String} {task : Task} (found : after.tasks.get? key = some task) :
      ∃ old, before.tasks.get? key = some old ∧ task = stampTask id taskRunIDs old := by
    rw [stamped.tasks] at found
    obtain ⟨old,held,same⟩ := Option.map_eq_some_iff.mp found
    exact ⟨old,held,same.symm⟩
  have submission {key : Lex (String × String)} {row : Submission} (found : after.submissions.get? key = some row) :
      ∃ old, before.submissions.get? key = some old ∧ row = stampSubmission id taskRunIDs old := by
    rw [stamped.submissions] at found
    obtain ⟨old,held,same⟩ := Option.map_eq_some_iff.mp found
    exact ⟨old,held,same.symm⟩
  refine ⟨?_,?_,?_,?_⟩
  · intro key row other found held resolved revealed
    obtain ⟨old,stored,rfl⟩ := submission found
    obtain ⟨same,state,forecast,-⟩ := stampSubmission_same id taskRunIDs old
    rw [same] at held
    obtain ⟨old',stored',rfl⟩ := task held
    rw [(stampTask_same id taskRunIDs old').2.1] at resolved
    rw [forecast] at revealed
    rw [state,stampSubmission_score]
    exact ending.ended key old old' stored stored' resolved revealed
  · intro key row found resolved
    obtain ⟨old,stored,rfl⟩ := submission found
    rw [(stampSubmission_same id taskRunIDs old).2.1] at resolved
    rw [stampSubmission_score]
    exact ending.scored key old stored resolved
  · intro key other held resolved
    obtain ⟨old,stored,rfl⟩ := task held
    rw [(stampTask_same id taskRunIDs old).2.1] at resolved
    rw [(stampTask_same id taskRunIDs old).2.2]
    exact ending.elapsed key old stored resolved
  · intro key other held
    obtain ⟨old,stored,rfl⟩ := task held
    rw [stampTask_times,(stampTask_same id taskRunIDs old).2.2]
    exact ending.timed key old stored

theorem newTasks_timed (short : settings.revealWindowSeconds ≤ settings.fastTaskSeconds)
    (new : task ∈ newTasks settings now) : task.revealDeadline ≤ task.resolveAt ∧ task.state ≠ .resolved := by
  simp only [newTasks,List.mem_append,List.mem_flatMap,List.mem_map] at new
  rcases new with ⟨publishAt,-,asset,-,rfl⟩ | ⟨asset,-,rfl⟩
  · exact ⟨Int.add_le_add_left short publishAt,fun resolved => by cases resolved⟩
  · exact ⟨le_rfl,fun resolved => by cases resolved⟩

theorem Settling.ending (short : settings.revealWindowSeconds ≤ settings.fastTaskSeconds) {outside : Outside}
    (step : Settling settings outside now before after) (ending : Ending now before) : Ending now after := by
  -- a task that is due is stored, its time has come, and it is not resolved
  have again {lane : Lane} {task row : Task} (due : Due now lane before task) (deadline : row.revealDeadline = task.revealDeadline)
      (resolve : row.resolveAt = task.resolveAt) (settled : row.state = .resolved → AllSettled before row) :
      Ending now (before.upsertTask row) := by
    apply ending.upsertTask
    · rw [deadline,resolve]
      exact ending.timed _ task due.stored
    · intro _
      rw [resolve]
      exact (Int.le_ediv_iff_mul_le (by decide)).mp due.past
    · exact settled
  have waits {lane : Lane} {task : Task} {submission row : Submission} (due : Due now lane before task)
      (waiting : Waiting before task submission) (own : row.taskRunID = submission.taskRunID)
      (scored : row.state = .resolved → row.score.isSome) : Ending now (before.saveSubmission row) := by
    apply ending.saveSubmission scored
    intro other held resolved
    rw [own,waiting.own] at held
    cases due.stored.symm.trans held
    exact absurd resolved due.unresolved
  cases step with
  | create new fresh =>
    obtain ⟨timed,unresolved⟩ := newTasks_timed short new
    exact ending.upsertTask timed (fun resolved => absurd resolved unresolved) fun resolved => absurd resolved unresolved
  | pend due unknown waiting => exact waits due waiting rfl fun resolved => by cases resolved
  | wait due => exact again due rfl rfl fun resolved => by cases resolved
  | @settle task submission miner _ due known waiting owner =>
    rw [settleSubmission_run settings now outside.assess task submission miner waiting.revealed owner]
    have saved : Ending now (before.saveSubmission (settledRow settings now outside.assess task submission miner)) :=
      waits due waiting rfl fun _ => rfl
    refine saved.ofSame ?_ ?_ <;> unfold keepHold <;> split_ifs <;> rfl
  | resolve due known settled => exact again due rfl rfl fun _ => settled
  | settleDaily due waiting => exact waits due waiting rfl fun _ => rfl
  | waitDaily due => exact again due rfl rfl fun resolved => by cases resolved
  | resolveDaily due settled => exact again due rfl rfl fun _ => settled
  | @release miner _ owner =>
    obtain ⟨entries,update,-,written⟩ := releaseMinerHolds_shape settings now miner before
    rw [written]
    exact ending.ofSame rfl rfl

theorem SameIntake.ending (same : SameIntake before after) (ending : Ending now before) : Ending now after := by
  unfold SameIntake Repository.intakeSide at same
  simp only [Prod.mk.injEq] at same
  exact ending.ofSame same.2.1 same.2.2.1

theorem getTask_isOk {deadline : Task → Int} {closed taskRunID : String}
    (done : (getTask now deadline closed taskRunID repo).1.isOk = true) :
    ∃ task, repo.tasks.get? taskRunID = some task ∧ now ≤ parseTime (deadline task) := by
  unfold getTask at done
  rw [read_run] at done
  cases found : repo.tasks.get? taskRunID with
  | none =>
    rw [found] at done
    cases done
  | some task =>
    rw [found] at done
    dsimp only at done
    split_ifs at done with early late
    · cases done
    · cases done
    · exact ⟨task,rfl,not_lt.mp late⟩

theorem Ending.refuses (ending : Ending now repo) {taskRunID address requestID revealNonce : String} {pYesBps : Int}
    {ip agent : Option String} (found : repo.tasks.get? taskRunID = some task) (resolved : task.state = .resolved)
    (punctual : now ≠ parseTime task.revealDeadline) :
    (revealSubmission settings now taskRunID address requestID pYesBps revealNonce ip agent repo).1.isOk = false ∧
      (revealSubmission settings now taskRunID address requestID pYesBps revealNonce ip agent repo).2 = repo := by
  have closed : (getTask now (·.revealDeadline) "reveal window closed" taskRunID repo).1.isOk ≠ true := by
    intro done
    obtain ⟨other,held,before⟩ := getTask_isOk done
    cases found.symm.trans held
    have timed : parseTime task.revealDeadline ≤ parseTime task.resolveAt :=
      Int.mul_le_mul_of_nonneg_right (ending.timed _ task found) (by decide)
    exact punctual (le_antisymm before (timed.trans (ending.elapsed _ task found resolved)))
  unfold revealSubmission
  rcases request_cases settings now _ repo rfl with ⟨-,failed,same⟩ | ⟨done,-⟩
  · exact ⟨failed,same⟩
  · exact absurd done closed

/-- No reveal for a task that is resolved comes at the instant of its `reveal_deadline`. -/
def Punctual (repo : Repository) (call : Call) : Prop :=
  match call.2 with
  | .revealSubmission taskRunID .. =>
    ∀ task, repo.tasks.get? taskRunID = some task → task.state = .resolved → call.1 ≠ parseTime task.revealDeadline
  | _ => True

def RevealsEnd (settings : Settings) (repo : Repository) (call : Call) : Prop :=
  (match call.2 with
    | .revealSubmission taskRunID .. => ∀ task, repo.tasks.get? taskRunID = some task → task.state = .resolved →
      (call.2.run settings call.1 repo).1.isOk = false
    | _ => True) ∧ Ended (call.after settings repo)

theorem Takes.tasks (takes : Takes before after) (regular : Regular before) : after.tasks = before.tasks := by
  have path := takes regular
  clear takes
  induction path with
  | refl => rfl
  | tail _ step ih =>
    rw [← ih]
    cases step with
    | register | refresh | count => rfl
    | commit | reveal => exact saveSubmission_tasks _ _

theorem commitSubmission_ending (taskRunID address requestID commitHash : String) (ip agent : Option String)
    (ending : Ending now repo) (regular : Regular repo) :
    Ending now (commitSubmission settings now taskRunID address requestID commitHash ip agent repo).2 := by
  have tasks : (commitSubmission settings now taskRunID address requestID commitHash ip agent repo).2.tasks = repo.tasks :=
    (commitSubmission_takes taskRunID address requestID commitHash ip agent repo).tasks regular
  rcases commitSubmission_commits taskRunID address requestID commitHash ip agent regular.toKeyed with same | ⟨unit,commits⟩
  · exact ending.ofSame tasks same
  · apply ending.insert tasks commits.written
    · unfold committedRow
      cases held : getSubmission taskRunID address repo with
      | none => exact fun resolved => by cases resolved
      | some old => exact ending.scored _ old held
    · unfold committedRow
      cases held : getSubmission taskRunID address repo with
      | none => exact fun _ _ _ revealed => by cases revealed
      | some old => exact fun task found resolved revealed => (ending.ended _ old task held found resolved revealed).1

theorem revealSubmission_ending (taskRunID address requestID revealNonce : String) (pYesBps : Int) (ip agent : Option String)
    (ending : Ending now repo) (regular : Regular repo)
    (punctual : ∀ task, repo.tasks.get? taskRunID = some task → task.state = .resolved → now ≠ parseTime task.revealDeadline) :
    Ending now (revealSubmission settings now taskRunID address requestID pYesBps revealNonce ip agent repo).2 := by
  by_cases gone : ∃ task, repo.tasks.get? taskRunID = some task ∧ task.state = .resolved
  · obtain ⟨task,found,resolved⟩ := gone
    rw [(ending.refuses found resolved (punctual task found resolved)).2]
    exact ending
  · have tasks : (revealSubmission settings now taskRunID address requestID pYesBps revealNonce ip agent repo).2.tasks =
        repo.tasks := (revealSubmission_takes taskRunID address requestID pYesBps revealNonce ip agent repo).tasks regular
    rcases revealSubmission_cases settings now taskRunID address requestID revealNonce pYesBps ip agent regular.toKeyed
      with ⟨unit,submission,accepts⟩ | ⟨same,-⟩
    · apply ending.insert tasks accepts.written
      · exact fun resolved => by cases resolved
      · intro task found resolved
        have own : submission.key = toLex (taskRunID,address) := (regular.submissions _ _ accepts.stored).keyed
        have id : submission.taskRunID = taskRunID := congrArg (fun key => (ofLex key).1) own
        exact absurd ⟨task,id ▸ found,resolved⟩ gone
    · exact ending.ofSame tasks same

theorem call_ending (short : settings.revealWindowSeconds ≤ settings.fastTaskSeconds) {call : Call} (tidy : Tidy repo)
    (regular : Regular repo) (ending : Ending call.1 repo) (punctual : Punctual repo call) :
    Ending call.1 (call.after settings repo) := by
  obtain ⟨now,operation⟩ := call
  cases other : operation.ofMiner with
  | true =>
    cases operation with
    | registerMiner address version ip agent =>
      exact ending.ofSame ((registerMiner_takes address version ip agent repo).tasks regular)
        (registerMiner_submissions address version ip agent repo)
    | commitSubmission taskRunID address request commitHash ip agent =>
      exact commitSubmission_ending taskRunID address request commitHash ip agent ending regular
    | revealSubmission taskRunID address request bps nonce ip agent =>
      exact revealSubmission_ending taskRunID address request nonce bps ip agent ending regular punctual
    | _ => cases other
  | false =>
    have kept : Ending now repo → Ending now (operation.run settings now repo).2 :=
      servicing_frames (R := fun before after => Ending now before → Ending now after) (fun _ ending => ending)
        (fun _ _ _ first next ending => next (first ending)) (fun _ _ _ _ step => step.ending short)
        (fun _ _ _ _ stamped => stamped.ending) (fun _ _ same => same.ending) other tidy regular
    exact kept ending

theorem call_refuses {call : Call} (ending : Ending call.1 repo) (punctual : Punctual repo call)
    (ended : Ended (call.after settings repo)) : RevealsEnd settings repo call := by
  obtain ⟨now,operation⟩ := call
  refine ⟨?_,ended⟩
  cases operation with
  | revealSubmission taskRunID address request bps nonce ip agent =>
    exact fun task found resolved => (ending.refuses found resolved (punctual task found resolved)).1
  | _ => trivial

end Ending

/-- No reveal is accepted once its task is resolved, as long as the reveal window is not longer than a fast task and no reveal
for a resolved task comes at the very instant of its `reveal_deadline`. -/
theorem reveals_end (settings : Settings) (short : settings.revealWindowSeconds ≤ settings.fastTaskSeconds) (calls : List Call)
    (ordered : (calls.map Prod.fst).Pairwise (· ≤ ·)) (punctual : Throughout settings Punctual calls {}) :
    Throughout settings (RevealsEnd settings) calls {} := by
  have run {calls : List Call} {repo : Repository} {now : Time} (tidy : Tidy repo) (regular : Regular repo) (ending : Ending now repo)
      (after : ∀ call ∈ calls, now ≤ call.1) (ordered : (calls.map Prod.fst).Pairwise (· ≤ ·))
      (punctual : Throughout settings Punctual calls repo) : Throughout settings (RevealsEnd settings) calls repo := by
    induction calls generalizing repo now with
    | nil => trivial
    | cons call rest ih =>
      obtain ⟨tidy',regular'⟩ := @call_regular settings call repo tidy regular
      have here := ending.mono (after call List.mem_cons_self)
      have next := call_ending short tidy regular here punctual.1
      obtain ⟨first,later⟩ := List.pairwise_cons.mp ordered
      exact ⟨call_refuses here punctual.1 next.ended,
        ih tidy' regular' next (fun other member => first _ (List.mem_map_of_mem member)) later punctual.2⟩
  cases calls with
  | nil => trivial
  | cons call rest =>
    obtain ⟨first,-⟩ := List.pairwise_cons.mp ordered
    refine run tidy_empty regular_empty (@ending_empty call.1) (fun other member => ?_) ordered punctual
    rcases List.mem_cons.mp member with rfl | later
    · exact le_rfl
    · exact first _ (List.mem_map_of_mem later)

/-! A daily task that is settled when it is due, and revealed before that or at that instant. -/

def dayEnd : Time := 1772409600000000

def dailyTask : String := dailyTaskID 1772323200 .btc

def dayOutside : Outside := { knowing [] with resolveDailyTask := fun _ => some true }

instance : ∀ repo call, Decidable (Punctual repo call)
  | repo,(now,.revealSubmission taskRunID ..) => decidable_of_iff ((repo.tasks.get? taskRunID).all fun task =>
      task.state ≠ .resolved || now ≠ parseTime task.revealDeadline) (by simp [Punctual,Option.all_eq_true,imp_iff_not_or])
  | _,(_,.registerMiner ..) | _,(_,.commitSubmission ..) | _,(_,.reconcile _) | _,(_,.buildPokerMttRewardWindow _)
  | _,(_,.rebuildRewardWindow ..) | _,(_,.retryAnchorSettlementBatch ..) | _,(_,.submitAnchorJob ..) | _,(_,.broadcastChainTx ..)
  | _,(_,.retryFailedAnchorJobBroadcast ..) | _,(_,.confirmAnchorJobOnChain ..) | _,(_,.reconcilePendingAnchorJobsOnChain _)
  | _,(_,.markAnchorJobFailed ..) => isTrue trivial

def dailyCommits : List Call := (opening,.reconcile dayOutside) :: ["claw1a","claw1b"].flatMap fun address =>
  [(opening,.registerMiner address "0.4.0" none none),
    (opening,.commitSubmission dailyTask address ("commit/" ++ address)
      (computeCommitHash plainSettings dailyTask address 6000 "nonce") none none)]

def revealDaily (now : Time) (address : String) : Call :=
  (now,.revealSubmission dailyTask address ("reveal/" ++ address) 6000 "nonce" none none)

def dailySettled : List Call := dailyCommits ++ [revealDaily opening "claw1a",(dayEnd,.reconcile dayOutside)]

/-- The other reveals a second after that. -/
theorem reveals_end_late : Throughout plainSettings (RevealsEnd plainSettings)
    (dailySettled ++ [revealDaily (dayEnd + 1000000) "claw1b"]) {} :=
  reveals_end plainSettings (by decide) _ (by decide) (by decide +kernel)

/-- The other reveals at the instant at which the task is settled. -/
theorem reveals_overlap : ¬∀ settings calls, settings.revealWindowSeconds ≤ settings.fastTaskSeconds →
    (calls.map Prod.fst).Pairwise (· ≤ ·) → Throughout settings (RevealsEnd settings) calls {} := by
  intro all
  obtain ⟨-,⟨refused,-⟩,-⟩ := (all plainSettings (dailySettled ++ [revealDaily dayEnd "claw1b"]) (by decide) (by decide)).append
  have settled : ((finish plainSettings dailySettled {}).tasks.get? dailyTask).any (fun task => task.state = .resolved) := by
    decide +kernel
  have accepted : ((revealDaily dayEnd "claw1b").2.run plainSettings dayEnd (finish plainSettings dailySettled {})).1.isOk = true := by
    decide +kernel
  obtain ⟨task,found,resolved⟩ := (Option.any_eq_true _ _).mp settled
  exact Bool.false_ne_true ((refused task found (of_decide_eq_true resolved)).symm.trans accepted)

/-! What is settled stays settled. -/

def Submission.verdict (submission : Submission) :=
  (submission.state,submission.pYesBps,submission.eligibilityStatus,submission.score,submission.rewardAmount,
    submission.releasedRewardAmount,submission.heldRewardAmount,submission.components)

def Settled (key : Lex (String × String)) (given : Submission) (repo : Repository) : Prop :=
  ∃ row, repo.submissions.get? key = some row ∧ row.state = .resolved ∧ row.verdict = given.verdict

section Verdicts
variable {settings : Settings} {now : Time} {key : Lex (String × String)} {given row : Submission} {repo : Repository}

theorem Settled.save (settled : Settled key given repo) (same : ∀ old, repo.submissions.get? row.key = some old →
    old.state = .resolved → row.verdict = old.verdict) : Settled key given (repo.saveSubmission row) := by
  obtain ⟨old,found,resolved,verdict⟩ := settled
  rcases saveSubmission_cases row repo with ⟨unchanged,-⟩ | ⟨-,written,-⟩
  · rw [unchanged]
    exact ⟨old,found,resolved,verdict⟩
  · unfold Settled
    rw [written]
    by_cases own : key = row.key
    · have kept := same old (own ▸ found) resolved
      exact ⟨row,own ▸ OrdMap.get?_insert_self _ _ _,(congrArg Prod.fst kept).trans resolved,kept.trans verdict⟩
    · exact ⟨old,(OrdMap.get?_insert_of_ne _ _ own).trans found,resolved,verdict⟩

theorem kept_settled (settings : Settings) (now : Time) (key : Lex (String × String)) (given : Submission) :
    Kept settings now (Settled key given) where
  taking before after keyed settled step := by
    cases step with
    | register | refresh | count => exact settled
    | @commit submission unit request commitHash _ earlier task miner =>
      refine settled.save fun old found resolved => ?_
      rcases earlier with stored | ⟨absent,-⟩
      · cases stored.symm.trans found
        rfl
      · cases absent.symm.trans found
    | @reveal submission unit request bps eligibility _ stored unrevealed =>
      refine settled.save fun old found resolved => ?_
      cases stored.symm.trans found
      have revealed := (keyed.submissions _ _ stored).toFits.revealed resolved
      simp [unrevealed] at revealed
  settling outside before after keyed settled step := by
    have waits {task : Task} {submission row : Submission} (waiting : Waiting before task submission)
        (own : row.key = submission.key) : Settled key given (before.saveSubmission row) := by
      refine settled.save fun old found resolved => ?_
      cases waiting.stored.symm.trans (own ▸ found)
      exact absurd resolved waiting.unsettled
    cases step with
    | create | wait | resolve | waitDaily | resolveDaily => exact settled
    | pend due unknown waiting => exact waits waiting rfl
    | settleDaily due waiting => exact waits waiting rfl
    | @settle task submission miner _ due known waiting owner =>
      rw [settleSubmission_run settings now outside.assess task submission miner waiting.revealed owner]
      have saved := @waits task submission (settledRow settings now outside.assess task submission miner) waiting rfl
      unfold keepHold
      split_ifs <;> exact saved
    | release owner =>
      obtain ⟨entries,update,-,released⟩ := releaseMinerHolds_shape settings now _ before
      rw [released]
      exact settled
  stamped id taskRunIDs before after keyed settled stamped := by
    obtain ⟨row,found,resolved,verdict⟩ := settled
    have same : (stampSubmission id taskRunIDs row).verdict = row.verdict := by
      unfold stampSubmission
      split_ifs <;> rfl
    exact ⟨_,by rw [stamped.submissions,found]; rfl,(congrArg Prod.fst same).trans resolved,same.trans verdict⟩
  same before after same settled := by
    have submissions : after.submissions = before.submissions := congrArg (·.2.2.1) same
    unfold Settled
    rwa [submissions]

end Verdicts

/-- The repository is whole after any calls: rows stand under their names, no submission or job refers to what is not
there, a reward is owed once it is settled only, and a batch under way has the payload that its fields were taken from. -/
theorem repository_whole (settings : Settings) (calls : List Call) : Tidy (finish settings calls {}) ∧
    Regular (finish settings calls {}) ∧ Fixed settings (finish settings calls {}) :=
  ⟨(finish_regular settings calls).1,(finish_regular settings calls).2,(finish_fixed settings calls).2⟩

end Clawchain.Mining
