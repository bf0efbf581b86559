import Clawchain.Mining.Frames

/-! Rows are filed under their keys, name rows that exist, and have figures that fit each other. -/
namespace Clawchain.Mining
open Clawchain.Lib Clawchain.Lib.Faulty

structure Submission.Fits (repo : Repository) (submission : Submission) : Prop where
  named : submission.id = submissionID submission.taskRunID submission.minerAddress
  task : (repo.tasks.get? submission.taskRunID).isSome
  miner : (repo.miners.get? submission.minerAddress).isSome
  unpaid : submission.state ≠ .resolved → submission.rewardAmount = 0 ∧ submission.releasedRewardAmount = none ∧
    submission.heldRewardAmount = none
  split : submission.releasedRewardAmount.getD 0 + submission.heldRewardAmount.getD 0 = submission.rewardAmount
  revealed : submission.state = .resolved → submission.pYesBps.isSome

structure Filed (repo : Repository) (key : Lex (String × String)) (submission : Submission) : Prop
    extends submission.Fits repo where
  keyed : submission.key = key
  indexed : ∀ id ∈ submission.requestIDs, ∃ other, repo.requestIndex.get? id = some other ∧ other.key = key

structure Keyed (repo : Repository) : Prop where
  tasks : ∀ id task, repo.tasks.get? id = some task → task.taskRunID = id ∧ ':' ∉ id.toList
  miners : ∀ address miner, repo.miners.get? address = some miner → miner.address = address ∧ address ≠ ""
  submissions : ∀ key submission, repo.submissions.get? key = some submission → Filed repo key submission

section Save
variable (submission : Submission) (repo : Repository)

@[simp] theorem saveSubmission_tasks : (repo.saveSubmission submission).tasks = repo.tasks := by
  unfold Repository.saveSubmission
  split_ifs <;> rfl

@[simp] theorem saveSubmission_miners : (repo.saveSubmission submission).miners = repo.miners := by
  unfold Repository.saveSubmission
  split_ifs <;> rfl

@[simp] theorem saveSubmission_holdEntries : (repo.saveSubmission submission).holdEntries = repo.holdEntries := by
  unfold Repository.saveSubmission
  split_ifs <;> rfl

theorem index_get? (ids : List String) (index : OrdMap String Submission) (id : String) :
    (ids.foldl (fun index id => index.insert id submission) index).get? id =
      if id ∈ ids then some submission else index.get? id := by
  induction ids generalizing index with
  | nil => rfl
  | cons first rest ih =>
    rw [List.foldl_cons,ih,OrdMap.get?_insert]
    by_cases own : id = first
    · simp [own]
    · simp [own]

theorem saveSubmission_cases :
    repo.saveSubmission submission = repo ∧ (∃ id ∈ submission.requestIDs, ∃ other, repo.requestIndex.get? id = some other ∧
        other.key ≠ submission.key) ∨
      (∀ id ∈ submission.requestIDs, ∀ other, repo.requestIndex.get? id = some other → other.key = submission.key) ∧
        (repo.saveSubmission submission).submissions = repo.submissions.insert submission.key submission ∧
        ∀ id, (repo.saveSubmission submission).requestIndex.get? id =
          if id ∈ submission.requestIDs then some submission else repo.requestIndex.get? id := by
  unfold Repository.saveSubmission
  split_ifs with taken
  · left
    obtain ⟨other,inside,differs⟩ := List.any_eq_true.mp taken
    obtain ⟨id,own,found⟩ := List.mem_filterMap.mp inside
    exact ⟨rfl,id,own,other,found,by simpa using differs⟩
  · right
    refine ⟨fun id own other found => ?_,rfl,index_get? submission _ _⟩
    by_contra differs
    exact taken (List.any_eq_true.mpr ⟨other,List.mem_filterMap.mpr ⟨id,own,found⟩,by simpa using differs⟩)

variable {submission repo}

theorem Submission.Fits.wider {after : Repository} (fits : submission.Fits repo)
    (tasks : ∀ id, (repo.tasks.get? id).isSome → (after.tasks.get? id).isSome)
    (miners : ∀ address, (repo.miners.get? address).isSome → (after.miners.get? address).isSome) :
    submission.Fits after :=
  { fits with
    task := tasks _ fits.task
    miner := miners _ fits.miner }

theorem saveSubmission_keyed (keyed : Keyed repo) (fits : submission.Fits repo) :
    Keyed (repo.saveSubmission submission) := by
  rcases saveSubmission_cases submission repo with ⟨same,-⟩ | ⟨free,stored,indexed⟩
  · rw [same]
    exact keyed
  · have still {other : Submission} (fits : other.Fits repo) : other.Fits (repo.saveSubmission submission) := by
      apply fits.wider
      · rw [saveSubmission_tasks]
        exact fun _ known => known
      · rw [saveSubmission_miners]
        exact fun _ known => known
    refine ⟨?_,?_,fun key other found => ?_⟩
    · rw [saveSubmission_tasks]
      exact keyed.tasks
    · rw [saveSubmission_miners]
      exact keyed.miners
    · rw [stored,OrdMap.get?_insert] at found
      split_ifs at found with own
      · cases found
        refine ⟨still fits,own.symm,fun id member => ?_⟩
        rw [indexed,if_pos member]
        exact ⟨_,rfl,own.symm⟩
      · have before := keyed.submissions key other found
        refine ⟨still before.toFits,before.keyed,fun id member => ?_⟩
        obtain ⟨holder,held,same⟩ := before.indexed id member
        rw [indexed,if_neg]
        · exact ⟨holder,held,same⟩
        · intro shared
          exact own (same.symm.trans (free id shared holder held))

theorem saveSubmission_again (keyed : Keyed repo) {old : Submission}
    (stored : repo.submissions.get? submission.key = some old) (same : submission.requestIDs = old.requestIDs) :
    (repo.saveSubmission submission).submissions = repo.submissions.insert submission.key submission := by
  rcases saveSubmission_cases submission repo with ⟨-,id,member,other,found,differs⟩ | ⟨-,written,-⟩
  · rw [same] at member
    obtain ⟨holder,held,own⟩ := (keyed.submissions _ old stored).indexed id member
    cases held.symm.trans found
    exact absurd own differs
  · exact written

end Save

theorem Keyed.upsertTask {repo : Repository} (keyed : Keyed repo) {task : Task} (colonless : ':' ∉ task.taskRunID.toList) :
    Keyed (repo.upsertTask task) := by
  refine ⟨fun id other found => ?_,keyed.miners,fun key submission found => ?_⟩
  · change (repo.tasks.insert task.taskRunID task).get? id = some other at found
    rw [OrdMap.get?_insert] at found
    split_ifs at found with own
    · cases found
      exact ⟨own.symm,own ▸ colonless⟩
    · exact keyed.tasks id other found
  · have before := keyed.submissions key submission found
    refine ⟨before.toFits.wider (fun id known => ?_) (fun _ known => known),before.keyed,before.indexed⟩
    change ((repo.tasks.insert task.taskRunID task).get? id).isSome
    rw [OrdMap.get?_insert]
    split_ifs
    · rfl
    · exact known

theorem Keyed.ofMiners {repo after : Repository} (keyed : Keyed repo) (tasks : after.tasks = repo.tasks)
    (submissions : after.submissions = repo.submissions) (index : after.requestIndex = repo.requestIndex)
    (named : ∀ address miner, after.miners.get? address = some miner → miner.address = address ∧ address ≠ "")
    (kept : ∀ address, (repo.miners.get? address).isSome → (after.miners.get? address).isSome) : Keyed after := by
  refine ⟨tasks ▸ keyed.tasks,named,fun key submission found => ?_⟩
  have before := keyed.submissions key submission (submissions ▸ found)
  exact ⟨before.toFits.wider (fun id known => tasks ▸ known) kept,before.keyed,index ▸ before.indexed⟩

theorem Keyed.updateMiner {repo : Repository} (keyed : Keyed repo) (address : String) {update : Miner → Miner}
    (same : ∀ miner, (update miner).address = miner.address) : Keyed (repo.updateMiner address update) := by
  refine @Keyed.ofMiners repo (repo.updateMiner address update) keyed rfl rfl rfl ?_ ?_
  · intro other miner found
    obtain ⟨old,held,rfl⟩ := OrdMap.of_get?_modifyAt found
    split_ifs
    · rw [same]
      exact keyed.miners other old held
    · exact keyed.miners other old held
  · intro other known
    change ((repo.miners.modifyAt address update).get? other).isSome
    rw [OrdMap.get?_modifyAt]
    split_ifs
    · rwa [Option.isSome_map]
    · exact known

end Clawchain.Mining
