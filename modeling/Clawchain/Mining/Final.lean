import Clawchain.Mining.Steps

/-! An anchored job and an anchored batch stay what they are, unless a broadcast or a failure is reported for a job
that is already anchored. -/
namespace Clawchain.Mining
open Clawchain.Lib

structure Final (before after : Repository) : Prop where
  jobs : ∀ id job, before.anchorJobs.get? id = some job → job.state = .anchored →
    ∃ later, after.anchorJobs.get? id = some later ∧ later.state = .anchored
  batches : ∀ id batch, before.settlementBatches.get? id = some batch → batch.state = .anchored →
    ∃ later, after.settlementBatches.get? id = some later ∧ later.state = .anchored ∧
      later.canonicalRoot = batch.canonicalRoot ∧ later.anchorPayloadHash = batch.anchorPayloadHash ∧
      later.anchorJobID = batch.anchorJobID

theorem Final.refl (repo : Repository) : Final repo repo where
  jobs _ job found anchored := ⟨job,found,anchored⟩
  batches _ batch found anchored := ⟨batch,found,anchored,rfl,rfl,rfl⟩

theorem Final.trans {a b c : Repository} (first : Final a b) (next : Final b c) : Final a c where
  jobs id job found anchored := by
    obtain ⟨middle,found,anchored⟩ := first.jobs id job found anchored
    exact next.jobs id middle found anchored
  batches id batch found anchored := by
    obtain ⟨middle,found,anchored,root,hash,own⟩ := first.batches id batch found anchored
    obtain ⟨later,found,anchored,root',hash',own'⟩ := next.batches id middle found anchored
    exact ⟨later,found,anchored,root'.trans root,hash'.trans hash,own'.trans own⟩

structure SoundBatch (jobs : OrdMap String AnchorJob) (batch : SettlementBatch) : Prop where
  rooted : batch.Left → batch.canonicalRoot.isSome
  anchored : batch.state = .anchored → ∃ id job, batch.anchorJobID = some id ∧ jobs.get? id = some job ∧ job.state = .anchored

def Sound (repo : Repository) : Prop :=
  ∀ id batch, repo.settlementBatches.get? id = some batch → SoundBatch repo.anchorJobs batch

theorem sound_empty : Sound {} := fun _ _ found => by cases found

theorem Untouched.final {before after : Repository} (move : Untouched before after) (tidy : Tidy before)
    (sound : Sound before) : Sound after ∧ Final before after := by
  refine ⟨fun id batch found => ?_,⟨fun id job found anchored => ⟨job,move.jobs ▸ found,anchored⟩,?_⟩⟩
  · rw [move.jobs]
    rcases move.batches id with same | ⟨open_,last,found',ends,-⟩
    · exact sound id batch (same ▸ found)
    · cases found'.symm.trans found
      rcases ends with ends | ends
      · exact ⟨fun left => absurd ends left.1,by simp [ends]⟩
      · exact ⟨fun left => absurd ends left.2,by simp [ends]⟩
  · intro id batch found anchored
    exact ⟨batch,move.left found ⟨by simp [anchored],by simp [anchored]⟩,anchored,rfl,rfl,rfl⟩

variable {repo : Repository}

theorem updateAnchorJob_final (id : String) {update : AnchorJob → AnchorJob} (sound : Sound repo)
    (kept : ∀ job, repo.anchorJobs.get? id = some job → job.state = .anchored → (update job).state = .anchored) :
    Sound (repo.updateAnchorJob id update) ∧ Final repo (repo.updateAnchorJob id update) := by
  have final : Final repo (repo.updateAnchorJob id update) := by
    refine ⟨fun other job found anchored => ?_,fun other batch found anchored => ⟨batch,found,anchored,rfl,rfl,rfl⟩⟩
    change ∃ later, (repo.anchorJobs.modifyAt id update).get? other = some later ∧ later.state = .anchored
    rw [OrdMap.get?_modifyAt,found]
    split_ifs with own
    · exact ⟨update job,rfl,kept job (own ▸ found) anchored⟩
    · exact ⟨job,rfl,anchored⟩
  refine ⟨fun other batch found => ?_,final⟩
  have before := sound other batch found
  refine ⟨before.rooted,fun anchored => ?_⟩
  obtain ⟨jobID,job,own,held,done⟩ := before.anchored anchored
  obtain ⟨later,found',done'⟩ := final.jobs jobID job held done
  exact ⟨jobID,later,own,found',done'⟩

theorem updateSettlementBatch_final (id : String) {update : SettlementBatch → SettlementBatch} (sound : Sound repo)
    (next : ∀ batch, repo.settlementBatches.get? id = some batch → SoundBatch repo.anchorJobs batch →
      SoundBatch repo.anchorJobs (update batch))
    (kept : ∀ batch, repo.settlementBatches.get? id = some batch → SoundBatch repo.anchorJobs batch →
      batch.state = .anchored → update batch = batch) :
    Sound (repo.updateSettlementBatch id update) ∧ Final repo (repo.updateSettlementBatch id update) := by
  refine ⟨fun other batch found => ?_,⟨fun other job found anchored => ⟨job,found,anchored⟩,?_⟩⟩
  · change (repo.settlementBatches.modifyAt id update).get? other = some batch at found
    rw [OrdMap.get?_modifyAt] at found
    split_ifs at found with own
    · obtain ⟨old,held,rfl⟩ := Option.map_eq_some_iff.mp found
      exact next old (own ▸ held) (sound other old held)
    · exact sound other batch found
  · intro other batch found anchored
    change ∃ later, (repo.settlementBatches.modifyAt id update).get? other = some later ∧ _
    rw [OrdMap.get?_modifyAt,found]
    split_ifs with own
    · have same := kept batch (own ▸ found) (sound other batch found) anchored
      exact ⟨update batch,rfl,by rw [same]; exact ⟨anchored,rfl,rfl,rfl⟩⟩
    · exact ⟨batch,rfl,anchored,rfl,rfl,rfl⟩

theorem saveAnchorJob_final {job : AnchorJob} (sound : Sound repo) (fresh : repo.anchorJobs.get? job.id = none) :
    Sound (repo.saveAnchorJob job) ∧ Final repo (repo.saveAnchorJob job) := by
  have stays {id : String} {old : AnchorJob} (held : repo.anchorJobs.get? id = some old) :
      (repo.anchorJobs.insert job.id job).get? id = some old := by
    rw [OrdMap.get?_insert,if_neg,held]
    rintro rfl
    cases fresh.symm.trans held
  refine ⟨fun id batch found => ?_,⟨fun id old held anchored => ⟨old,stays held,anchored⟩,(Final.refl repo).batches⟩⟩
  have before := sound id batch found
  refine ⟨before.rooted,fun anchored => ?_⟩
  obtain ⟨jobID,old,own,held,done⟩ := before.anchored anchored
  exact ⟨jobID,old,own,stays held,done⟩

theorem endAnchorJob_final {job : AnchorJob} {update : AnchorJob → AnchorJob} {batchState : BatchState}
    (tidy : Tidy repo) (sound : Sound repo) (held : repo.anchorJobs.get? job.id = some job)
    (ends : batchState = .anchored ∧ (∀ job, (update job).state = .anchored) ∨
      batchState = .anchorFailed ∧ job.state ≠ .anchored ∧ (update job).state ≠ .anchored) :
    Sound (repo.endAnchorJob job update batchState) ∧ Final repo (repo.endAnchorJob job update batchState) := by
  have written : (repo.updateAnchorJob job.id update).anchorJobs.get? job.id = some (update job) := by
    change (repo.anchorJobs.modifyAt job.id update).get? job.id = _
    rw [OrdMap.get?_modifyAt,if_pos rfl,held]
    rfl
  have first : Sound (repo.updateAnchorJob job.id update) ∧ Final repo (repo.updateAnchorJob job.id update) := by
    apply updateAnchorJob_final job.id sound
    intro same found anchored
    cases held.symm.trans found
    rcases ends with ⟨-,ends⟩ | ⟨-,open_,-⟩
    · exact ends job
    · exact absurd anchored open_
  have last : Sound (repo.endAnchorJob job update batchState) ∧
      Final (repo.updateAnchorJob job.id update) (repo.endAnchorJob job update batchState) := by
    apply updateSettlementBatch_final _ first.1
    · intro batch found sound
      split_ifs with own
      · have left : batch.Left := by
          by_contra open_
          have blank := tidy.blank _ batch found open_
          simp [blank.1] at own
        rcases ends with ⟨rfl,ends⟩ | ⟨rfl,-⟩
        · exact ⟨fun _ => sound.rooted left,fun _ => ⟨job.id,_,own,written,ends job⟩⟩
        · exact ⟨fun _ => sound.rooted left,by simp⟩
      · exact sound
    · intro batch found sound anchored
      split_ifs with own
      · obtain ⟨id,later,own',found',done⟩ := sound.anchored anchored
        cases own.symm.trans own'
        cases written.symm.trans found'
        rcases ends with ⟨rfl,-⟩ | ⟨-,-,open_⟩
        · rw [← anchored]
        · exact absurd done open_
      · rfl
  exact ⟨last.1,first.2.trans last.2⟩

def sparing : Terms where
  allowed job := job.state ≠ .anchored
  live _ open_ := open_
  trusted _ := True
  prepares := True

theorem Step.final {settings : Settings} {now : Time} {before after : Repository} (tidy : Tidy before)
    (sound : Sound before) (step : Step settings sparing now before after) : Sound after ∧ Final before after := by
  cases step with
  | plain plain admitted => exact (plain_untouched plain before).final tidy sound
  | recount prepares admitted found => exact (storeRewardWindow_untouched _ before).final tidy sound
  | rearchive prepares found stored => exact ⟨sound,⟨(Final.refl before).jobs,(Final.refl before).batches⟩⟩
  | @fix id batch payload pages _ prepares may found kept pays computed fixable =>
    let middle := before.upsertSettlementAnchorArtifact id payload pages
    have last : Sound (before.fixAnchor settings id payload pages) ∧ Final middle (before.fixAnchor settings id payload pages) :=
      updateSettlementBatch_final id sound (fun _ _ _ => ⟨fun _ => rfl,by simp [SettlementBatch.fix]⟩) ?_
    · exact ⟨last.1,⟨last.2.jobs,last.2.batches⟩⟩
    · intro batch held sound anchored
      cases found.symm.trans held
      rcases fixable with none | ⟨-,-,free⟩
      · have rooted := sound.rooted ⟨by simp [anchored],by simp [anchored]⟩
        simp [none] at rooted
      · simp [anchored] at free
  | @enlist batchID payloadHash batch _ prepares found ready hashed =>
    let job := newAnchorJob now batchID payloadHash batch.lane before
    have first : Sound (before.saveAnchorJob job) ∧ Final before (before.saveAnchorJob job) :=
      saveAnchorJob_final sound (freshAnchorJobID_fresh before.anchorJobs (anchorJobIDs_injective batchID now))
    have last : Sound (before.enlistAnchorJob job) ∧ Final (before.saveAnchorJob job) (before.enlistAnchorJob job) :=
      updateSettlementBatch_final batchID first.1 ?_ ?_
    · exact ⟨last.1,first.2.trans last.2⟩
    · intro same held sound
      cases found.symm.trans held
      exact ⟨fun _ => sound.rooted ⟨by simp [ready],by simp [ready]⟩,by simp⟩
    · intro same held _ anchored
      cases found.symm.trans held
      cases ready.symm.trans anchored
  | broadcast prepares txHash found allowed =>
    apply updateAnchorJob_final _ sound
    intro job held anchored
    cases found.symm.trans held
    exact absurd anchored allowed
  | judge status => exact updateAnchorJob_final _ sound fun _ _ anchored => anchored
  | anchor found batched trusted sent answered confirmed =>
    exact endAnchorJob_final tidy sound found (.inl ⟨rfl,fun _ => rfl⟩)
  | fail reason found allowed =>
    exact endAnchorJob_final tidy sound found (.inr ⟨rfl,allowed,by simp [AnchorJob.fail]⟩)

def Operation.Spares (repo : Repository) : Operation → Prop
  | .broadcastChainTx answers id =>
    (∀ message, answers.broadcast message = .otherError) ∨
      ∀ job, repo.anchorJobs.get? id = some job → job.state ≠ .anchored
  | .markAnchorJobFailed _ _ id => ∀ job, jobOf id repo = some job → job.state ≠ .anchored
  | _ => True

theorem Operation.Spares.meets {operation : Operation} (spares : operation.Spares repo) :
    operation.Meets sparing repo := by
  cases operation with
  | retryAnchorSettlementBatch outside id => exact ⟨trivial,fun _ => trivial⟩
  | broadcastChainTx answers id => exact ⟨trivial,spares⟩
  | markAnchorJobFailed outside reason id => exact spares
  | confirmAnchorJobOnChain answers id => exact fun _ => trivial
  | reconcilePendingAnchorJobsOnChain answers => exact fun _ _ => trivial
  | _ => exact trivial

/-- What is anchored at some moment of a run is anchored, with the same root, hash and job, at every later one. -/
theorem anchored_final (settings : Settings) (calls next : List Call)
    (spared : Throughout settings (fun repo call => call.2.Spares repo) (calls ++ next) {}) :
    Final (finish settings calls {}) (finish settings (calls ++ next) {}) := by
  have meets {calls : List Call} {repo : Repository}
      (spared : Throughout settings (fun repo call => call.2.Spares repo) calls repo) :
      Throughout settings (fun repo call => call.2.Meets sparing repo) calls repo :=
    Throughout.mono (fun _ _ spares => Operation.Spares.meets spares) spared
  have along {calls : List Call} {repo : Repository} (tidy : Tidy repo) (sound : Sound repo)
      (meets : Throughout settings (fun repo call => call.2.Meets sparing repo) calls repo) :=
    finish_induction settings sparing Sound Final Final.refl (fun _ _ _ => Final.trans) (fun _ _ _ tidy sound step => step.final tidy sound)
      (fun _ => ⟨trivial,fun _ _ => trivial⟩) tidy sound meets
  obtain ⟨here,later⟩ := spared.append
  obtain ⟨tidy,sound,-⟩ := along tidy_empty sound_empty (meets here)
  unfold finish
  rw [List.foldl_append]
  exact (along tidy sound (meets later)).2.2

theorem anchored_final_retried :
    Final (finish plainSettings anchoringCalls {}) (finish plainSettings (anchoringCalls ++
      [(plainNow,.retryAnchorSettlementBatch plainOutside plainBatchID)]) {}) := by
  apply anchored_final plainSettings anchoringCalls [(plainNow,.retryAnchorSettlementBatch plainOutside plainBatchID)]
  have submitted : ((finish plainSettings (anchoringCalls.take 3) {}).anchorJobs.get? plainJobID).map (·.state) =
      some .anchorSubmitted := by decide +kernel
  refine ⟨trivial,trivial,trivial,.inr fun job found => ?_,trivial,trivial,trivial⟩
  change (finish plainSettings (anchoringCalls.take 3) {}).anchorJobs.get? plainJobID = some job at found
  rw [found] at submitted
  simp only [Option.map_some,Option.some.injEq] at submitted
  simp [submitted]

def refusedAgain : Call :=
  (plainNow,.broadcastChainTx { plainAnswers with broadcast := fun _ => .valueError "tx already in mempool" } plainJobID)

theorem refusedAgain_fails :
    ((finish plainSettings anchoringCalls {}).anchorJobs.get? plainJobID).map (·.state) = some .anchored ∧
      ((finish plainSettings (anchoringCalls ++ [refusedAgain]) {}).anchorJobs.get? plainJobID).map (·.state) =
        some .anchorFailed := by
  decide +kernel

/-- A broadcast that is refused takes the anchor back. -/
theorem anchored_reopened :
    ¬∀ settings calls next, Final (finish settings calls {}) (finish settings (calls ++ next) {}) := by
  intro all
  obtain ⟨anchored,failed⟩ := refusedAgain_fails
  obtain ⟨job,found,state⟩ := Option.map_eq_some_iff.mp anchored
  obtain ⟨later,found',state'⟩ := (all plainSettings anchoringCalls [refusedAgain]).jobs plainJobID job found state
  rw [found'] at failed
  simp [state'] at failed

end Clawchain.Mining
