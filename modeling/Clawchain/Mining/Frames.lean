import Clawchain.Mining.Anchor
import Clawchain.Mining.Intake

/-! What the parts of a reconcile leave alone: settling touches no window and no batch, and no part of it touches a
job or a batch that has left the open state. -/
namespace Clawchain.Mining
open Clawchain.Lib Clawchain.Lib.Faulty

def Repository.settlementSide (repo : Repository) :=
  (repo.rewardWindows,repo.settlementBatches,repo.anchorJobs,repo.memberships,repo.projections,repo.anchorArtifacts)

def SameSettlement (before after : Repository) : Prop := after.settlementSide = before.settlementSide

theorem SameSettlement.refl (repo : Repository) : SameSettlement repo repo := rfl

theorem SameSettlement.trans (a b c : Repository) (first : SameSettlement a b) (next : SameSettlement b c) :
    SameSettlement a c := Eq.trans next first

theorem foldl_sameSettlement {α : Type} {step : Repository → α → Repository}
    (one : ∀ repo item, SameSettlement repo (step repo item)) (items : List α) (repo : Repository) :
    SameSettlement repo (items.foldl step repo) := by
  induction items generalizing repo with
  | nil => exact .refl repo
  | cons item rest ih => exact .trans _ _ _ (one repo item) (ih _)

theorem saveSubmission_sameSettlement (submission : Submission) (repo : Repository) :
    SameSettlement repo (repo.saveSubmission submission) := by
  unfold Repository.saveSubmission
  split_ifs <;> exact .refl _

section Settling
variable {settings : Settings} {now : Time}

theorem settleSubmission_sameSettlement (assess : Task → Submission → Assessment) (task : Task) (submission : Submission) :
    Moves SameSettlement (settleSubmission settings now assess task submission) := by
  apply Moves.given SameSettlement.refl
  apply Moves.read
  intro repo
  cases repo.miners.get? submission.minerAddress with
  | none => exact Moves.fail SameSettlement.refl _
  | some miner =>
    apply Moves.modify
    intro repo
    have saved (submission : Submission) : SameSettlement repo (repo.saveSubmission submission) :=
      saveSubmission_sameSettlement submission repo
    dsimp only
    split_ifs <;> exact .trans _ _ _ (saved _) (.refl _)

theorem settleFastTask_sameSettlement (resolve : Task → Option Bool) (assess : Task → Submission → Assessment)
    (task : Task) : Moves SameSettlement (settleFastTask settings now resolve assess task) := by
  apply Moves.read
  intro repo
  cases resolve task with
  | none =>
    apply Moves.bind SameSettlement.trans
    · apply Moves.each SameSettlement.refl SameSettlement.trans
      intro submission _
      apply Moves.given SameSettlement.refl
      exact Moves.modify (saveSubmission_sameSettlement _)
    · exact fun _ => Moves.modify fun repo => .refl _
  | some outcome =>
    apply Moves.bind SameSettlement.trans
    · apply Moves.each SameSettlement.refl SameSettlement.trans
      exact fun submission _ => settleSubmission_sameSettlement assess task submission
    · exact fun _ => Moves.modify fun repo => .refl _

theorem settleDueTasks_sameSettlement (resolve : Task → Option Bool) (assess : Task → Submission → Assessment) :
    Moves SameSettlement (settleDueTasks settings now resolve assess) := by
  apply Moves.read
  intro repo
  apply Moves.each SameSettlement.refl SameSettlement.trans
  exact fun task _ => settleFastTask_sameSettlement resolve assess task

theorem settleDailySubmission_sameSettlement (outcome : Bool) (submission : Submission) :
    Moves SameSettlement (settleDailySubmission settings outcome submission) := by
  apply Moves.given SameSettlement.refl
  apply Moves.bind SameSettlement.trans
  · exact Moves.modify (saveSubmission_sameSettlement _)
  · intro _
    apply Moves.read
    intro repo
    split_ifs
    · exact Moves.fail SameSettlement.refl _
    · exact Moves.pure SameSettlement.refl _

theorem settleDueDailyTasks_sameSettlement (resolveDaily : Task → Option Bool) :
    Moves SameSettlement (settleDueDailyTasks settings now resolveDaily) := by
  apply Moves.read
  intro repo
  apply Moves.each SameSettlement.refl SameSettlement.trans
  intro task _
  unfold settleDailyTask
  cases resolveDaily task with
  | none => exact Moves.modify fun repo => .refl _
  | some outcome =>
    apply Moves.read
    intro repo
    apply Moves.bind SameSettlement.trans
    · apply Moves.each SameSettlement.refl SameSettlement.trans
      exact fun submission _ => settleDailySubmission_sameSettlement outcome submission
    · exact fun _ => Moves.modify fun repo => .refl _

theorem releaseMaturedHolds_sameSettlement (repo : Repository) :
    SameSettlement repo (releaseMaturedHolds settings now repo) := by
  apply foldl_sameSettlement
  intro repo miner
  have released (holds : List HoldEntry) (repo : Repository) : SameSettlement repo (holds.foldl (fun repo hold =>
      repo.saveHoldEntry { hold with amountReleased := hold.amountHeld, state := .released }) repo) := by
    apply foldl_sameSettlement
    intro repo hold
    rfl
  unfold releaseMinerHolds
  dsimp only
  split_ifs
  · exact .trans _ _ _ (released _ repo) (.refl _)
  · exact .trans _ _ _ (released _ repo) (.refl _)
  · exact .trans _ _ _ (released _ repo) (.refl _)
  · exact .refl _

end Settling

/-- A batch that was never anchored has nothing of an anchor. -/
def SettlementBatch.Blank (batch : SettlementBatch) : Prop :=
  batch.anchorJobID = none ∧ batch.anchorSchemaVersion = none ∧ batch.canonicalRoot = none ∧
    batch.anchorPayloadJSON = none ∧ batch.anchorPayloadHash = none

def BatchMove (before after : Option SettlementBatch) : Prop :=
  after = before ∨ before.all (·.state = .opened) ∧ ∃ batch, after = some batch ∧
    (batch.state = .opened ∨ batch.state = .cancelled) ∧ ((∀ old ∈ before, old.Blank) → batch.Blank)

theorem BatchMove.trans {a b c : Option SettlementBatch} (first : BatchMove a b) (next : BatchMove b c) :
    BatchMove a c := by
  rcases first with rfl | ⟨open_,middle,rfl,middleEnds,blank⟩
  · exact next
  · rcases next with rfl | ⟨-,last,rfl,ends,blank'⟩
    · exact .inr ⟨open_,middle,rfl,middleEnds,blank⟩
    · refine .inr ⟨open_,last,rfl,ends,fun all => blank' ?_⟩
      rintro old ⟨⟩
      exact blank all

def BatchesNamed (repo : Repository) : Prop := ∀ id batch, repo.settlementBatches.get? id = some batch → batch.id = id

structure Untouched (before after : Repository) : Prop where
  jobs : after.anchorJobs = before.anchorJobs
  artifacts : after.anchorArtifacts = before.anchorArtifacts
  batches : ∀ id, BatchMove (before.settlementBatches.get? id) (after.settlementBatches.get? id)
  named : BatchesNamed before → BatchesNamed after

theorem Untouched.refl (repo : Repository) : Untouched repo repo := ⟨rfl,rfl,fun _ => .inl rfl,fun named => named⟩

theorem Untouched.trans (a b c : Repository) (first : Untouched a b) (next : Untouched b c) : Untouched a c :=
  ⟨next.jobs.trans first.jobs,next.artifacts.trans first.artifacts,fun id => (first.batches id).trans (next.batches id),
    next.named ∘ first.named⟩

theorem SameSettlement.untouched {before after : Repository} (same : SameSettlement before after) :
    Untouched before after := by
  unfold SameSettlement Repository.settlementSide at same
  simp only [Prod.mk.injEq] at same
  exact ⟨same.2.2.1,same.2.2.2.2.2,fun id => .inl (by rw [same.2.1]),fun named => by rwa [BatchesNamed,same.2.1]⟩

theorem foldl_untouched {α : Type} {step : Repository → α → Repository}
    (one : ∀ repo item, Untouched repo (step repo item)) (items : List α) (repo : Repository) :
    Untouched repo (items.foldl step repo) := by
  induction items generalizing repo with
  | nil => exact .refl repo
  | cons item rest ih => exact .trans _ _ _ (one repo item) (ih _)

section Batches
variable {settings : Settings}

theorem buildRewardWindow_untouched (id : String) (tasks : List Task) (repo : Repository) :
    Untouched repo (buildRewardWindow settings id tasks repo) := by
  have moved (submissions : List Submission) (repo : Repository) : SameSettlement repo (submissions.foldl
      (fun repo submission => if submission.rewardWindowID ≠ some id then
        repo.saveSubmission { submission with rewardWindowID := some id } else repo) repo) := by
    apply foldl_sameSettlement
    intro repo submission
    split_ifs
    · exact saveSubmission_sameSettlement _ repo
    · exact .refl _
  have stamped (tasks : List Task) (repo : Repository) : SameSettlement repo (tasks.foldl (fun repo task =>
      if task.rewardWindowID ≠ some id then repo.upsertTask { task with rewardWindowID := some id } else repo) repo) := by
    apply foldl_sameSettlement
    intro repo task
    split_ifs <;> exact .refl _
  exact .trans _ _ _ (moved _ repo).untouched (.trans _ _ _ (stamped _ _).untouched ⟨rfl,rfl,fun _ => .inl rfl,fun named => named⟩)

theorem buildRewardWindows_untouched (repo : Repository) : Untouched repo (buildRewardWindows settings repo) :=
  foldl_untouched (fun repo id => buildRewardWindow_untouched id _ repo) _ repo

theorem saveSettlementBatch_untouched {repo : Repository} {batch : SettlementBatch}
    (open_ : (repo.settlementBatches.get? batch.id).all (·.state = .opened))
    (ends : batch.state = .opened ∨ batch.state = .cancelled)
    (blank : (∀ old ∈ repo.settlementBatches.get? batch.id, old.Blank) → batch.Blank) :
    Untouched repo (repo.saveSettlementBatch batch) := by
  refine ⟨rfl,rfl,fun id => ?_,fun named id other found => ?_⟩
  · change BatchMove _ ((repo.settlementBatches.insert batch.id batch).get? id)
    rw [OrdMap.get?_insert]
    split_ifs with same
    · exact .inr (same ▸ ⟨open_,batch,rfl,ends,blank⟩)
    · exact .inl rfl
  · change (repo.settlementBatches.insert batch.id batch).get? id = some other at found
    rw [OrdMap.get?_insert] at found
    split_ifs at found with same
    · cases found
      exact same.symm
    · exact named id other found

theorem syncSettlementBatch_untouched (window : RewardWindow) (repo : Repository) :
    Untouched repo (syncSettlementBatch settings window repo) := by
  unfold syncSettlementBatch
  extract_lets id figures opened synced
  have first : Untouched repo synced := by
    unfold synced
    cases found : repo.settlementBatches.get? id with
    | none =>
      apply saveSettlementBatch_untouched
      · rw [show opened.id = id from rfl,found]
        rfl
      · exact .inl rfl
      · exact fun _ => ⟨rfl,rfl,rfl,rfl,rfl⟩
    | some batch =>
      dsimp only
      split_ifs with isOpen
      · apply saveSettlementBatch_untouched
        · rw [show (figures batch).id = id from rfl,found]
          simpa using isOpen
        · exact .inl isOpen
        · exact fun blank => blank batch found
      · exact .refl repo
  split_ifs
  · exact first
  · cases synced.rewardWindows.get? window.id with
    | none => exact first
    | some stored => exact .trans _ _ _ first ⟨rfl,rfl,fun _ => .inl rfl,fun named => named⟩

theorem buildSettlementBatches_untouched (repo : Repository) : Untouched repo (buildSettlementBatches settings repo) := by
  apply foldl_untouched
  intro repo window
  split_ifs
  · exact .refl repo
  · exact syncSettlementBatch_untouched window repo

theorem cancelSettlementBatch_untouched (id : String) (repo : Repository) :
    Untouched repo (cancelSettlementBatch id repo) := by
  unfold cancelSettlementBatch
  split_ifs with left
  · exact .refl repo
  · refine ⟨rfl,rfl,fun other => ?_,fun named other last found => ?_⟩
    · change BatchMove _ ((repo.settlementBatches.modifyAt id _).get? other)
      rw [OrdMap.get?_modifyAt]
      split_ifs with same
      · subst same
        cases found : repo.settlementBatches.get? other with
        | none => exact .inl rfl
        | some batch =>
          rw [found] at left
          exact .inr ⟨by simpa using left,_,rfl,.inr rfl,fun _ => ⟨rfl,rfl,rfl,rfl,rfl⟩⟩
      · exact .inl rfl
    · change (repo.settlementBatches.modifyAt id _).get? other = some last at found
      rw [OrdMap.get?_modifyAt] at found
      split_ifs at found
      · obtain ⟨batch,held,rfl⟩ := Option.map_eq_some_iff.mp found
        exact named other batch held
      · exact named other last found

theorem storeRewardWindow_untouched (window : RewardWindow) (repo : Repository) :
    Untouched repo (repo.storeRewardWindow settings window) := ⟨rfl,rfl,fun _ => .inl rfl,fun named => named⟩

theorem writePokerMttRewardWindow_moves {R : Repository → Repository → Prop} (refl : ∀ repo, R repo repo)
    (trans : ∀ a b c, R a b → R b c → R a c) {build : PokerBuild} {existing : Option RewardWindow} {projection : Option Projection}
    (cancel : ∀ id, existing.bind (·.settlementBatchID) = some id → ∀ repo, R repo (cancelSettlementBatch id repo))
    (store : ∀ repo : Repository, R repo (repo.storeRewardWindow settings (build.window existing)))
    (project : ∀ projection (repo : Repository), R repo { repo with projections := repo.projections.insert build.id projection })
    (sync : ∀ repo, R repo (syncSettlementBatch settings (build.window existing) repo)) :
    Moves R (writePokerMttRewardWindow settings build existing projection) := by
  apply Moves.bind trans
  · unfold cancelUnpaidBatch
    cases linked : existing.bind (·.settlementBatchID) with
    | none => exact Moves.pure refl ()
    | some id => exact Moves.given refl (Moves.modify (cancel id linked))
  · intro _
    unfold storePokerMttRewardWindow
    cases build.budget with
    | error message => exact Moves.fail refl _
    | ok _ =>
      cases buildPagedPayload settings.hash settings.pokerMttProjectionArtifactPageSize build.minerRewardRows with
      | error message => exact Moves.bind trans (Moves.modify store) fun _ => Moves.fail refl _
      | ok parts =>
        apply Moves.bind trans (Moves.modify store)
        intro _
        apply Moves.bind trans (Moves.modify (project _))
        exact fun _ => Moves.given refl (Moves.modify sync)

theorem buildPokerMttRewardWindow_moved {R : Repository → Repository → Prop} (refl : ∀ repo, R repo repo) {build : PokerBuild}
    {repo : Repository} (write : ∀ projection,
      R repo (writePokerMttRewardWindow settings build (repo.rewardWindows.get? build.id) projection repo).2) :
    R repo (buildPokerMttRewardWindow settings build repo).2 := by
  unfold buildPokerMttRewardWindow
  rw [read_run]
  split_ifs
  · exact refl repo
  · exact refl repo
  · exact write _

theorem buildPokerMttRewardWindow_untouched (build : PokerBuild) :
    Moves Untouched (buildPokerMttRewardWindow settings build) := by
  intro repo
  apply buildPokerMttRewardWindow_moved Untouched.refl
  intro projection
  apply writePokerMttRewardWindow_moves Untouched.refl Untouched.trans
  · exact fun id _ => cancelSettlementBatch_untouched id
  · exact storeRewardWindow_untouched _
  · exact fun _ repo => ⟨rfl,rfl,fun _ => .inl rfl,fun named => named⟩
  · exact syncSettlementBatch_untouched _

theorem tryPokerMttRewardWindow_untouched (build : Except String PokerBuild) :
    Moves Untouched (tryPokerMttRewardWindow settings build) := by
  cases build with
  | error message => exact Moves.fail Untouched.refl _
  | ok build => exact buildPokerMttRewardWindow_untouched build

theorem buildPokerMttRewardWindows_untouched (outside : Outside) :
    Moves Untouched (buildPokerMttRewardWindows settings outside) := by
  apply Moves.each Untouched.refl Untouched.trans
  exact fun build _ => tryPokerMttRewardWindow_untouched _

theorem createTask_sameSettlement (repo : Repository) (task : Task) : SameSettlement repo (createTask repo task) := by
  unfold createTask
  split_ifs <;> rfl

theorem reconcile_untouched (outside : Outside) (now : Time) : Moves Untouched (reconcile settings outside now) := by
  have quiet {x : Service Unit} (same : Moves SameSettlement x) : Moves Untouched x := fun repo => (same repo).untouched
  apply Moves.bind Untouched.trans
  · exact Moves.modify fun repo => (foldl_sameSettlement createTask_sameSettlement _ repo).untouched
  intro _
  apply Moves.bind Untouched.trans (quiet (settleDueTasks_sameSettlement _ _))
  intro _
  apply Moves.bind Untouched.trans (quiet (settleDueDailyTasks_sameSettlement _))
  intro _
  apply Moves.bind Untouched.trans
  · exact Moves.modify fun repo => (releaseMaturedHolds_sameSettlement repo).untouched
  intro _
  apply Moves.bind Untouched.trans (Moves.modify buildRewardWindows_untouched)
  intro _
  apply Moves.bind Untouched.trans (buildPokerMttRewardWindows_untouched outside)
  exact fun _ => Moves.modify buildSettlementBatches_untouched

end Batches
section Intake
variable {settings : Settings}

theorem refreshMinerCluster_sameSettlement (address : String) (ipAddress userAgent : Option String) :
    Moves SameSettlement (refreshMinerCluster settings address ipAddress userAgent) := by
  apply Moves.read
  intro repo
  cases repo.miners.get? address with
  | none => exact Moves.fail SameSettlement.refl _
  | some current =>
    dsimp only
    split_ifs
    · exact Moves.pure SameSettlement.refl _
    · apply Moves.bind SameSettlement.trans
      · exact Moves.modify fun _ => rfl
      · exact fun _ => Moves.read fun _ => Moves.pure SameSettlement.refl _

theorem getTask_sameSettlement (now : Time) (deadline : Task → Int) (closed taskRunID : String) :
    Moves SameSettlement (getTask now deadline closed taskRunID) := by
  apply Moves.read
  intro repo
  cases repo.tasks.get? taskRunID with
  | none => exact Moves.fail SameSettlement.refl _
  | some task =>
    dsimp only
    split_ifs
    · exact Moves.fail SameSettlement.refl _
    · exact Moves.fail SameSettlement.refl _
    · exact Moves.pure SameSettlement.refl _

theorem requireMiner_sameSettlement (address : String) : Moves SameSettlement (requireMiner address) := by
  apply Moves.read
  intro repo
  split_ifs
  · exact Moves.fail SameSettlement.refl _
  · exact Moves.pure SameSettlement.refl _

theorem registerMiner_sameSettlement (now : Time) (address version : String) (ipAddress userAgent : Option String) :
    Moves SameSettlement (registerMiner settings now address version ipAddress userAgent) := by
  unfold registerMiner
  split_ifs
  · exact Moves.fail SameSettlement.refl _
  · exact Moves.fail SameSettlement.refl _
  · apply Moves.read
    intro repo
    dsimp only
    split_ifs
    · exact Moves.fail SameSettlement.refl _
    · exact Moves.modify fun _ => rfl

theorem commitSubmission_sameSettlement (now : Time) (taskRunID minerAddress requestID commitHash : String)
    (ipAddress userAgent : Option String) :
    Moves SameSettlement (commitSubmission settings now taskRunID minerAddress requestID commitHash ipAddress userAgent) := by
  apply Moves.bind SameSettlement.trans (getTask_sameSettlement _ _ _ _)
  intro _
  apply Moves.bind SameSettlement.trans (requireMiner_sameSettlement _)
  intro _
  apply Moves.bind SameSettlement.trans (refreshMinerCluster_sameSettlement _ _ _)
  intro miner
  apply Moves.read
  intro repo
  dsimp only
  split_ifs
  · exact Moves.fail SameSettlement.refl _
  · apply Moves.bind SameSettlement.trans (Moves.modify (saveSubmission_sameSettlement _))
    exact fun _ => Moves.modify fun _ => rfl

theorem revealSubmission_sameSettlement (now : Time) (taskRunID minerAddress requestID : String) (pYesBps : Int)
    (revealNonce : String) (ipAddress userAgent : Option String) :
    Moves SameSettlement
      (revealSubmission settings now taskRunID minerAddress requestID pYesBps revealNonce ipAddress userAgent) := by
  apply Moves.bind SameSettlement.trans (getTask_sameSettlement _ _ _ _)
  intro _
  apply Moves.bind SameSettlement.trans (requireMiner_sameSettlement _)
  intro _
  apply Moves.bind SameSettlement.trans (refreshMinerCluster_sameSettlement _ _ _)
  intro miner
  apply Moves.read
  intro repo
  cases getSubmission taskRunID minerAddress repo with
  | none => exact Moves.fail SameSettlement.refl _
  | some submission =>
    dsimp only
    split
    · exact Moves.fail SameSettlement.refl _
    split
    · exact Moves.fail SameSettlement.refl _
    split
    · exact Moves.fail SameSettlement.refl _
    · apply Moves.bind SameSettlement.trans (Moves.modify (saveSubmission_sameSettlement _))
      exact fun _ => Moves.modify fun _ => rfl

end Intake
end Clawchain.Mining
