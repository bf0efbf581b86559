import Clawchain.Mining.Frames
import Clawchain.Mining.Operations
import Mathlib.Logic.Relation

/-! What one step of an operation can do to the repository, and that every operation is a path of steps. -/
namespace Clawchain.Mining
open Clawchain.Lib Clawchain.Lib.Faulty

def SettlementBatch.Left (batch : SettlementBatch) : Prop := batch.state ≠ .opened ∧ batch.state ≠ .cancelled

structure Tidy (repo : Repository) : Prop where
  keyed : ∀ id job, repo.anchorJobs.get? id = some job → job.id = id
  named : BatchesNamed repo
  blank : ∀ id batch, repo.settlementBatches.get? id = some batch → ¬batch.Left → batch.Blank
  enlisted : ∀ id job, repo.anchorJobs.get? id = some job →
    ∃ batch, repo.settlementBatches.get? job.settlementBatchID = some batch ∧ batch.Left

theorem tidy_empty : Tidy {} where
  keyed _ _ found := by cases found
  named _ _ found := by cases found
  blank _ _ found := by cases found
  enlisted _ _ found := by cases found

variable {repo before after : Repository} {job : AnchorJob} {id : String}

theorem Untouched.left (move : Untouched before after) {batch : SettlementBatch}
    (found : before.settlementBatches.get? id = some batch) (left : batch.Left) :
    after.settlementBatches.get? id = some batch := by
  rcases move.batches id with same | ⟨open_,-⟩
  · exact same.trans found
  · rw [found] at open_
    exact absurd (by simpa using open_) left.1

theorem Untouched.tidy (move : Untouched before after) (tidy : Tidy before) : Tidy after where
  keyed := by
    rw [move.jobs]
    exact tidy.keyed
  named := move.named tidy.named
  blank id batch found left := by
    rcases move.batches id with same | ⟨open_,last,found',-,blank⟩
    · exact tidy.blank id batch (same ▸ found) left
    · cases found'.symm.trans found
      apply blank
      intro old inside
      rw [Option.mem_def] at inside
      rw [inside] at open_
      have state : old.state = .opened := by simpa using open_
      exact tidy.blank id old inside fun left => left.1 state
  enlisted id job found := by
    rw [move.jobs] at found
    obtain ⟨batch,held,left⟩ := tidy.enlisted id job found
    exact ⟨batch,move.left held left,left⟩

theorem updateAnchorJob_tidy (id : String) {update : AnchorJob → AnchorJob} (tidy : Tidy repo)
    (same : ∀ job, (update job).id = job.id ∧ (update job).settlementBatchID = job.settlementBatchID) :
    Tidy (repo.updateAnchorJob id update) := by
  have origin {other : String} {job : AnchorJob} (found : (repo.updateAnchorJob id update).anchorJobs.get? other = some job) :
      ∃ old, repo.anchorJobs.get? other = some old ∧ job.id = old.id ∧ job.settlementBatchID = old.settlementBatchID := by
    change (repo.anchorJobs.modifyAt id update).get? other = some job at found
    rw [OrdMap.get?_modifyAt] at found
    split_ifs at found
    · obtain ⟨old,held,rfl⟩ := Option.map_eq_some_iff.mp found
      exact ⟨old,held,same old⟩
    · exact ⟨job,found,rfl,rfl⟩
  refine ⟨fun other job found => ?_,tidy.named,tidy.blank,fun other job found => ?_⟩
  · obtain ⟨old,held,sameID,-⟩ := origin found
    exact sameID.trans (tidy.keyed other old held)
  · obtain ⟨old,held,-,sameBatch⟩ := origin found
    rw [sameBatch]
    exact tidy.enlisted other old held

theorem updateSettlementBatch_tidy (id : String) {update : SettlementBatch → SettlementBatch} (tidy : Tidy repo)
    (sameID : ∀ batch, (update batch).id = batch.id)
    (left : ∀ batch, repo.settlementBatches.get? id = some batch → (update batch).Left ∨ update batch = batch) :
    Tidy (repo.updateSettlementBatch id update) := by
  refine ⟨tidy.keyed,fun other batch found => ?_,fun other batch found open_ => ?_,fun other job found => ?_⟩
  · change (repo.settlementBatches.modifyAt id update).get? other = some batch at found
    rw [OrdMap.get?_modifyAt] at found
    split_ifs at found
    · obtain ⟨old,held,rfl⟩ := Option.map_eq_some_iff.mp found
      exact (sameID old).trans (tidy.named other old held)
    · exact tidy.named other batch found
  · change (repo.settlementBatches.modifyAt id update).get? other = some batch at found
    rw [OrdMap.get?_modifyAt] at found
    split_ifs at found with own
    · obtain ⟨old,held,rfl⟩ := Option.map_eq_some_iff.mp found
      rcases left old (own ▸ held) with left | same
      · exact absurd left open_
      · rw [same] at open_ ⊢
        exact tidy.blank other old held open_
    · exact tidy.blank other batch found open_
  · obtain ⟨batch,held,isLeft⟩ := tidy.enlisted other job found
    change ∃ batch, (repo.settlementBatches.modifyAt id update).get? job.settlementBatchID = some batch ∧ batch.Left
    rw [OrdMap.get?_modifyAt,held]
    split_ifs with own
    · refine ⟨update batch,rfl,?_⟩
      rcases left batch (own ▸ held) with left | same
      · exact left
      · rw [same]
        exact isLeft
    · exact ⟨batch,rfl,isLeft⟩

theorem saveAnchorJob_tidy {batch : SettlementBatch} (tidy : Tidy repo)
    (found : repo.settlementBatches.get? job.settlementBatchID = some batch) (left : batch.Left) :
    Tidy (repo.saveAnchorJob job) := by
  have origin {id : String} {new : AnchorJob} (held : (repo.saveAnchorJob job).anchorJobs.get? id = some new) :
      id = job.id ∧ new = job ∨ repo.anchorJobs.get? id = some new := by
    change (repo.anchorJobs.insert job.id job).get? id = some new at held
    rw [OrdMap.get?_insert] at held
    split_ifs at held with own
    · exact .inl ⟨own,(Option.some.inj held).symm⟩
    · exact .inr held
  refine ⟨fun id new held => ?_,tidy.named,tidy.blank,fun id new held => ?_⟩
  · rcases origin held with ⟨own,rfl⟩ | earlier
    · exact own.symm
    · exact tidy.keyed id new earlier
  · rcases origin held with ⟨-,rfl⟩ | earlier
    · exact ⟨batch,found,left⟩
    · exact tidy.enlisted id new earlier

theorem endAnchorJob_tidy {update : AnchorJob → AnchorJob} {batchState : BatchState} (tidy : Tidy repo)
    (same : ∀ job, (update job).id = job.id ∧ (update job).settlementBatchID = job.settlementBatchID)
    (ends : batchState ≠ .opened ∧ batchState ≠ .cancelled) : Tidy (repo.endAnchorJob job update batchState) := by
  apply updateSettlementBatch_tidy _ (updateAnchorJob_tidy _ tidy same)
  · intro batch
    split_ifs <;> rfl
  · intro batch _
    split_ifs
    · exact .inl ends
    · exact .inr rfl

theorem jobOf_held (tidy : Tidy repo) (resolved : jobOf id repo = some job) : repo.anchorJobs.get? job.id = some job := by
  have stored : ∃ key, repo.anchorJobs.get? key = some job := by
    unfold jobOf at resolved
    cases direct : repo.anchorJobs.get? id with
    | some other =>
      rw [direct] at resolved
      exact ⟨id,direct.trans resolved⟩
    | none =>
      rw [direct] at resolved
      obtain ⟨key,-,found⟩ := Option.bind_eq_some_iff.mp resolved
      exact ⟨key,found⟩
  obtain ⟨key,found⟩ := stored
  rw [tidy.keyed key job found]
  exact found

theorem jobOf_direct (found : repo.anchorJobs.get? id = some job) :
    jobOf id repo = some job := by
  unfold jobOf
  rw [found]
  rfl

theorem Untouched.jobOf (move : Untouched before after) (tidy : Tidy before) (id : String) :
    jobOf id after = jobOf id before := by
  have own : (after.settlementBatches.get? id).bind (·.anchorJobID) =
      (before.settlementBatches.get? id).bind (·.anchorJobID) := by
    rcases move.batches id with same | ⟨open_,last,found,-,blank⟩
    · rw [same]
    · have empty : ∀ old ∈ before.settlementBatches.get? id, old.Blank := by
        intro old inside
        rw [Option.mem_def] at inside
        rw [inside] at open_
        have state : old.state = .opened := by simpa using open_
        exact tidy.blank id old inside fun left => left.1 state
      rw [found]
      refine (blank empty).1.trans ?_
      cases held : before.settlementBatches.get? id with
      | none => rfl
      | some batch => exact (empty batch held).1.symm
  unfold Mining.jobOf
  rw [own,move.jobs]

/-- The jobs whose broadcasts and failures a run admits, the confirmers it uses, whether it recounts windows, fixes
payloads, and submits and broadcasts jobs, the batches whose payloads it fixes, and the operations it is made of. -/
structure Terms where
  allowed : AnchorJob → Prop
  live : ∀ job, job.state ≠ .anchored → allowed job
  trusted : (String → String → Except ServiceError Receipt) → Prop
  prepares : Prop
  fixes : SettlementBatch → Prop := fun _ => True
  refixes : ∀ batch, batch.Left → fixes batch := by exact fun _ _ => trivial
  admits : Operation → Prop := fun _ => True

def anyTerms : Terms where
  allowed _ := True
  live _ _ := trivial
  trusted _ := True
  prepares := True

def Operation.Tells (outside : Outside) : Operation → Prop
  | .reconcile told | .rebuildRewardWindow told _ | .retryAnchorSettlementBatch told _ | .submitAnchorJob told _
  | .markAnchorJobFailed told _ _ => told = outside
  | .broadcastChainTx answers _ => answers.toOutside = outside
  | .retryFailedAnchorJobBroadcast answers _ | .confirmAnchorJobOnChain answers _ =>
    ∃ k, (answers k).toOutside = outside
  | .reconcilePendingAnchorJobsOnChain answers => ∃ j k, (answers j k).toOutside = outside
  | _ => False

/-- An operation is admitted, and so is every reconcile that is part of it. -/
def Operation.Admitted (terms : Terms) (operation : Operation) : Prop :=
  terms.admits operation ∧ ∀ outside, operation.Tells outside → terms.admits (.reconcile outside)

def Operation.plain : Operation → Bool
  | .registerMiner .. | .commitSubmission .. | .revealSubmission .. | .reconcile .. | .buildPokerMttRewardWindow .. => true
  | _ => false

section Steps
variable (settings : Settings) (terms : Terms) (now : Time)

/-- A new payload is admitted: there is none, or it is the same again for a batch whose job has failed. -/
def Fixable (batch : SettlementBatch) (payload : AnchorPayload) : Prop :=
  batch.canonicalRoot = none ∨
    batch.canonicalRoot = some payload.canonicalRoot ∧ batch.anchorPayloadHash = some (settings.hash.payload payload) ∧
      batch.state ∉ [.anchorReady,.anchorSubmitted,.anchored]

def Repository.fixAnchor (id : String) (payload : AnchorPayload) (pages : List Page) (repo : Repository) : Repository :=
  (repo.upsertSettlementAnchorArtifact id payload pages).updateSettlementBatch id
    (SettlementBatch.fix payload (settings.hash.payload payload))

inductive Step : Repository → Repository → Prop
  | plain {operation : Operation} {repo : Repository} (plain : operation.plain = true) (admitted : terms.admits operation) :
    Step repo (operation.run settings now repo).2
  | recount {outside : Outside} {id : String} {window : RewardWindow} {repo : Repository} (prepares : terms.prepares)
    (admitted : terms.admits (.rebuildRewardWindow outside id)) (found : repo.rewardWindows.get? id = some window) :
    Step repo (repo.storeRewardWindow settings (recountRewardWindow window repo))
  | rearchive {id : String} {batch : SettlementBatch} {payload : AnchorPayload} {repo : Repository}
    (prepares : terms.prepares) (found : repo.settlementBatches.get? id = some batch) (stored : batch.anchorPayloadJSON = some payload) :
    Step repo (repo.upsertSettlementAnchorArtifact id payload [])
  | fix {id : String} {batch : SettlementBatch} {payload : AnchorPayload} {pages : List Page} {repo : Repository}
    (prepares : terms.prepares) (may : terms.fixes batch) (found : repo.settlementBatches.get? id = some batch)
    (kept : batch.state ≠ .cancelled)
    (pays : batch.totalRewardAmount ≠ 0) (computed : anchorPayload settings repo batch = .ok (payload,pages))
    (fixable : Fixable settings batch payload) : Step repo (repo.fixAnchor settings id payload pages)
  | enlist {batchID payloadHash : String} {batch : SettlementBatch} {repo : Repository} (prepares : terms.prepares)
    (found : repo.settlementBatches.get? batchID = some batch) (ready : batch.state = .anchorReady)
    (hashed : batch.anchorPayloadHash = some payloadHash) :
    Step repo (repo.enlistAnchorJob (newAnchorJob now batchID payloadHash batch.lane repo))
  | broadcast {id : String} {job : AnchorJob} {repo : Repository} (prepares : terms.prepares) (txHash : Option String)
    (found : repo.anchorJobs.get? id = some job) (allowed : terms.allowed job) :
    Step repo (repo.updateAnchorJob id fun job => { job with state := .anchorSubmitted, broadcastTxHash := txHash })
  | judge {id : String} {repo : Repository} (status : ConfirmationStatus) :
    Step repo (repo.updateAnchorJob id fun job => { job with chainConfirmationStatus := some status })
  | anchor {job : AnchorJob} {batch : SettlementBatch} {confirm : String → String → Except ServiceError Receipt}
    {txHash : String} {receipt : Receipt} {repo : Repository} (found : repo.anchorJobs.get? job.id = some job)
    (batched : repo.settlementBatches.get? job.settlementBatchID = some batch) (trusted : terms.trusted confirm)
    (sent : job.broadcastTxHash = some txHash) (answered : confirm txHash batch.id = .ok receipt)
    (confirmed : normalizeChainConfirmationStatus (verdict settings repo job batch receipt).1 = .confirmed) :
    Step repo (repo.endAnchorJob job (AnchorJob.anchor now) .anchored)
  | fail {job : AnchorJob} {repo : Repository} (reason : String) (found : repo.anchorJobs.get? job.id = some job)
    (allowed : terms.allowed job) : Step repo (repo.endAnchorJob job (AnchorJob.fail reason) .anchorFailed)

abbrev Path : Repository → Repository → Prop := Relation.ReflTransGen (Step settings terms now)

variable {settings terms now}
variable {repo after before : Repository} {outside : Outside} {id : String}

theorem plain_untouched {operation : Operation} (plain : operation.plain = true) :
    Moves Untouched (operation.run settings now) := by
  have quiet {x : Service Unit} (same : Moves SameSettlement x) : Moves Untouched x := fun repo => (same repo).untouched
  cases operation with
  | registerMiner address version ip agent => exact quiet (registerMiner_sameSettlement _ _ _ _ _)
  | commitSubmission task miner request commit ip agent => exact quiet (commitSubmission_sameSettlement _ _ _ _ _ _ _)
  | revealSubmission task miner request bps nonce ip agent =>
    exact quiet (revealSubmission_sameSettlement _ _ _ _ _ _ _ _)
  | reconcile outside => exact reconcile_untouched outside now
  | buildPokerMttRewardWindow build => exact tryPokerMttRewardWindow_untouched build
  | _ => cases plain

theorem Step.tidy (step : Step settings terms now before after) (tidy : Tidy before) :
    Tidy after := by
  cases step with
  | plain plain admitted => exact (plain_untouched plain before).tidy tidy
  | recount prepares admitted found => exact (storeRewardWindow_untouched _ before).tidy tidy
  | rearchive prepares found stored => exact ⟨tidy.keyed,tidy.named,tidy.blank,tidy.enlisted⟩
  | fix prepares may found kept pays computed fixable =>
    apply updateSettlementBatch_tidy
    · exact ⟨tidy.keyed,tidy.named,tidy.blank,tidy.enlisted⟩
    · exact fun _ => rfl
    · exact fun _ _ => .inl ⟨by simp [SettlementBatch.fix],by simp [SettlementBatch.fix]⟩
  | enlist prepares found ready hashed =>
    apply updateSettlementBatch_tidy
    · exact saveAnchorJob_tidy tidy found ⟨by simp [ready],by simp [ready]⟩
    · exact fun _ => rfl
    · exact fun _ _ => .inl ⟨by simp,by simp⟩
  | broadcast prepares txHash found allowed => exact updateAnchorJob_tidy _ tidy fun _ => ⟨rfl,rfl⟩
  | judge status => exact updateAnchorJob_tidy _ tidy fun _ => ⟨rfl,rfl⟩
  | anchor found batched trusted sent answered confirmed =>
    exact endAnchorJob_tidy tidy (fun _ => ⟨rfl,rfl⟩) ⟨by simp,by simp⟩
  | fail reason found allowed => exact endAnchorJob_tidy tidy (fun _ => ⟨rfl,rfl⟩) ⟨by simp,by simp⟩

theorem Path.tidy (path : Path settings terms now before after) (tidy : Tidy before) :
    Tidy after := by
  induction path with
  | refl => exact tidy
  | tail _ step ih => exact step.tidy ih

def Drives (settings : Settings) (terms : Terms) (now : Time) (before after : Repository) : Prop :=
  Tidy before → Path settings terms now before after

theorem Drives.refl (repo : Repository) : Drives settings terms now repo repo := fun _ => .refl

theorem Drives.trans (a b c : Repository) (first : Drives settings terms now a b) (next : Drives settings terms now b c) :
    Drives settings terms now a c := by
  intro tidy
  have path := first tidy
  exact Relation.ReflTransGen.trans path (next (Path.tidy path tidy))

theorem Step.drives (step : Step settings terms now before after) :
    Drives settings terms now before after := fun _ => .single step

theorem reconcile_drives (told : terms.admits (.reconcile outside)) :
    Moves (Drives settings terms now) (reconcile settings outside now) :=
  fun repo => Step.drives (@Step.plain settings terms now (.reconcile outside) repo rfl told)

theorem rebuildRewardWindow_drives (prepares : terms.prepares)
    (admitted : terms.admits (.rebuildRewardWindow outside id)) (told : terms.admits (.reconcile outside)) :
    Moves (Drives settings terms now) (rebuildRewardWindow settings outside now id) := by
  apply Moves.bind Drives.trans (reconcile_drives told)
  intro _ repo
  rw [read_run]
  cases found : repo.rewardWindows.get? id with
  | none => exact .refl repo
  | some window => exact Step.drives (.recount prepares admitted found)

theorem fixAnchorPayload_drives {batch : SettlementBatch} {payload : AnchorPayload} {pages : List Page}
    (prepares : terms.prepares) (may : terms.fixes batch) (found : repo.settlementBatches.get? id = some batch)
    (kept : batch.state ≠ .cancelled) (pays : batch.totalRewardAmount ≠ 0)
    (computed : anchorPayload settings repo batch = .ok (payload,pages))
    : Drives settings terms now repo (fixAnchorPayload settings id batch payload pages repo).2 := by
  unfold fixAnchorPayload
  split_ifs with conflict fixed
  · exact .refl repo
  · cases stored : batch.anchorPayloadJSON with
    | none => exact .refl repo
    | some payload => exact Step.drives (.rearchive prepares found stored)
  · apply Step.drives
    refine .fix prepares may found kept pays computed ?_
    cases root : batch.canonicalRoot with
    | none => exact .inl root
    | some value =>
      simp only [root,Option.isSome_some,true_and,not_or,not_not] at conflict fixed
      exact .inr ⟨root.trans conflict.1,conflict.2,fixed⟩

theorem retryAnchorSettlementBatch_drives (prepares : terms.prepares) (told : terms.admits (.reconcile outside))
    (may : (∀ batch, terms.fixes batch) ∨ ∃ batch, repo.settlementBatches.get? id = some batch ∧ batch.Left) :
    Drives settings terms now repo (retryAnchorSettlementBatch settings outside now id repo).2 := by
  have reconciled : Untouched repo (reconcile settings outside now repo).2 := reconcile_untouched outside now repo
  apply bind_related Drives.trans (reconcile_drives told repo)
  intro _ middle run
  rw [run] at reconciled
  rw [getSettlementBatch,require_bind]
  cases found : middle.settlementBatches.get? id with
  | none => exact .refl middle
  | some batch =>
    have may' : terms.fixes batch := by
      rcases may with any | ⟨old,held,left⟩
      · exact any batch
      · cases (reconciled.left held left).symm.trans found
        exact terms.refixes _ left
    dsimp only
    split_ifs with dead disabled
    · exact .refl middle
    · exact .refl middle
    · rw [not_or] at dead
      rw [read_run]
      cases computed : anchorPayload settings middle batch with
      | error message => exact .refl middle
      | ok parts => exact fixAnchorPayload_drives prepares may' found dead.1 dead.2 computed

theorem submitAnchorJob_drives (prepares : terms.prepares) (told : terms.admits (.reconcile outside)) (batchID : String)
    : Moves (Drives settings terms now) (submitAnchorJob settings outside now batchID) := by
  apply Moves.bind Drives.trans (reconcile_drives told)
  intro _
  apply require_moves Drives.refl
  intro repo batch found
  split_ifs with notReady
  · exact .refl repo
  · rw [not_not] at notReady
    cases hashed : batch.anchorPayloadHash with
    | none => exact .refl repo
    | some payloadHash =>
      cases batch.anchorPayloadJSON with
      | none => exact .refl repo
      | some payload => exact Step.drives (.enlist prepares found notReady hashed)

theorem submitAnchorJob_ok {now : Time} {batchID jobID : String}
    (done : submitAnchorJob settings outside now batchID repo = (.ok jobID,after)) :
    ∃ middle batch payloadHash, middle = (reconcile settings outside now repo).2 ∧
      middle.settlementBatches.get? batchID = some batch ∧ batch.state = .anchorReady ∧
      batch.anchorPayloadHash = some payloadHash ∧
      jobID = (newAnchorJob now batchID payloadHash batch.lane middle).id ∧
      after = middle.enlistAnchorJob (newAnchorJob now batchID payloadHash batch.lane middle) := by
  unfold submitAnchorJob at done
  obtain ⟨_,middle,reconciled,rest⟩ := bind_ok done
  obtain ⟨batch,_,looked,last⟩ := bind_ok rest
  obtain ⟨found,rfl⟩ := require_ok looked
  split_ifs at last with notReady
  · cases last
  · rw [not_not] at notReady
    cases hashed : batch.anchorPayloadHash with
    | none =>
      rw [hashed] at last
      cases last
    | some payloadHash =>
      cases stored : batch.anchorPayloadJSON with
      | none =>
        rw [hashed,stored] at last
        cases last
      | some payload =>
        rw [hashed,stored] at last
        cases last
        exact ⟨_,batch,payloadHash,by rw [reconciled],found,notReady,hashed,rfl,rfl⟩

theorem submitAnchorJob_submitted {now : Time} {batchID jobID : String}
    (done : submitAnchorJob settings outside now batchID repo = (.ok jobID,after)) :
    ∃ job, after.anchorJobs.get? jobID = some job ∧ job.state = .anchorSubmitted := by
  obtain ⟨middle,batch,payloadHash,-,-,-,-,rfl,rfl⟩ := submitAnchorJob_ok done
  exact ⟨_,OrdMap.get?_insert_self _ _ _,rfl⟩

theorem markAnchorJobFailed_drives {reason : String} (told : terms.admits (.reconcile outside))
    (allowed : ∀ job, jobOf id repo = some job → terms.allowed job) :
    Drives settings terms now repo (markAnchorJobFailed settings outside now reason id repo).2 := by
  intro tidy
  have reconciled : Untouched repo (reconcile settings outside now repo).2 := reconcile_untouched outside now repo
  refine bind_related Drives.trans (reconcile_drives told repo) ?_ tidy
  intro _ middle run
  rw [run] at reconciled
  rw [resolveAnchorJob,require_bind]
  cases resolved : jobOf id middle with
  | none => exact .refl middle
  | some job =>
    have may := allowed job (reconciled.jobOf tidy id ▸ resolved)
    exact Step.drives (.fail reason (jobOf_held (reconciled.tidy tidy) resolved) may)

theorem buildChainTxPlan_same (id : String) : Moves (fun before after => after = before) (buildChainTxPlan id) := by
  apply require_moves (R := fun before after => after = before) fun _ => rfl
  intro repo job _
  rw [getSettlementBatch,require_bind]
  cases repo.settlementBatches.get? job.settlementBatchID with
  | none => rfl
  | some batch =>
    dsimp only
    split_ifs <;> rfl

theorem broadcastChainTx_drives {answers : Answers} (prepares : terms.prepares)
    (told : terms.admits (.reconcile answers.toOutside))
    (allowed : (∀ message, answers.broadcast message = .otherError) ∨
      ∀ job, repo.anchorJobs.get? id = some job → terms.allowed job) :
    Drives settings terms now repo (broadcastChainTx settings answers now id repo).2 := by
  apply bind_related Drives.trans
  · rw [buildChainTxPlan_same id repo]
    exact .refl repo
  · intro plan middle planned
    have same : middle = repo := by
      have unchanged := buildChainTxPlan_same id repo
      rw [planned] at unchanged
      exact unchanged
    rw [same,getAnchorJob,require_bind]
    cases held : repo.anchorJobs.get? id with
    | none => exact .refl repo
    | some job =>
      have may (answered : answers.broadcast plan ≠ .otherError) : terms.allowed job := by
        rcases allowed with silent | allowed
        · exact absurd (silent plan) answered
        · exact allowed job held
      dsimp only
      cases answered : answers.broadcast plan with
      | otherError => exact .refl repo
      | valueError message =>
        have failing : ∀ same, jobOf id repo = some same → terms.allowed same := by
          intro same resolved
          cases (jobOf_direct held).symm.trans resolved
          exact may (by simp [answered])
        exact bind_related Drives.trans (markAnchorJobFailed_drives told failing) fun _ after _ => .refl after
      | receipt txHash => exact Step.drives (.broadcast prepares txHash held (may (by simp [answered])))

theorem retryFailedAnchorJobBroadcast_drives {answers : Nat → Answers} (prepares : terms.prepares)
    (told : ∀ k, terms.admits (.reconcile (answers k).toOutside)) (id : String) :
    Moves (Drives settings terms now) (retryFailedAnchorJobBroadcast settings answers now id) := by
  apply Moves.bind Drives.trans (reconcile_drives (told 0))
  intro _
  apply require_moves Drives.refl
  intro repo job resolved
  split_ifs
  · exact .refl repo
  · intro tidy
    have enlisted := tidy.enlisted job.id job (jobOf_held tidy resolved)
    refine bind_related Drives.trans (retryAnchorSettlementBatch_drives prepares (told 1) (.inr enlisted)) ?_ tidy
    intro _ middle _
    apply bind_related Drives.trans (submitAnchorJob_drives prepares (told 2) _ middle)
    intro jobID last submitted
    apply broadcastChainTx_drives prepares (told 3)
    right
    intro new held
    obtain ⟨job,found,state⟩ := submitAnchorJob_submitted submitted
    cases found.symm.trans held
    exact terms.live _ (by simp [state])

theorem verdict_congr {repo' : Repository} {job job' : AnchorJob} (batch : SettlementBatch) (receipt : Receipt)
    (sameID : job'.id = job.id) (sameArtifacts : repo'.anchorArtifacts = repo.anchorArtifacts) :
    verdict settings repo' job' batch receipt = verdict settings repo job batch receipt := by
  have expected : expectedSettlementAnchor job' batch = expectedSettlementAnchor job batch := by
    funext field
    cases field <;> simp [expectedSettlementAnchor,sameID]
  unfold verdict
  rw [expected,sameArtifacts]

theorem markAnchorJobAnchored_drives {outside : Outside} {repo : Repository} {job : AnchorJob} {batch : SettlementBatch}
    {confirm : String → String → Except ServiceError Receipt} {txHash : String} {receipt : Receipt}
    (told : terms.admits (.reconcile outside)) (held : repo.anchorJobs.get? job.id = some job)
    (batched : repo.settlementBatches.get? job.settlementBatchID = some batch) (trusted : terms.trusted confirm)
    (sent : job.broadcastTxHash = some txHash) (answered : confirm txHash batch.id = .ok receipt)
    (confirmed : normalizeChainConfirmationStatus (verdict settings repo job batch receipt).1 = .confirmed) :
    Drives settings terms now repo (markAnchorJobAnchored settings outside now job.id repo).2 := by
  intro tidy
  have reconciled : Untouched repo (reconcile settings outside now repo).2 := reconcile_untouched outside now repo
  refine bind_related Drives.trans (reconcile_drives told repo) ?_ tidy
  intro _ middle run
  rw [run] at reconciled
  have resolved : jobOf job.id middle = some job := (reconciled.jobOf tidy job.id).trans (jobOf_direct held)
  rw [resolveAnchorJob,require_bind,resolved]
  obtain ⟨same,found,left⟩ := tidy.enlisted job.id job held
  cases batched.symm.trans found
  have sameVerdict : verdict settings middle job batch receipt = verdict settings repo job batch receipt :=
    verdict_congr batch receipt rfl reconciled.artifacts
  exact Step.drives (.anchor (jobOf_held (reconciled.tidy tidy) resolved) (reconciled.left batched left) trusted sent answered
    (by rw [sameVerdict]; exact confirmed))

theorem closeAnchorJob_drives {job : AnchorJob} {batch : SettlementBatch}
    {confirm : String → String → Except ServiceError Receipt} {txHash : String} {receipt : Receipt}
    (told : terms.admits (.reconcile outside)) (held : repo.anchorJobs.get? job.id = some job)
    (batched : repo.settlementBatches.get? job.settlementBatchID = some batch) (trusted : terms.trusted confirm)
    (sent : job.broadcastTxHash = some txHash) (answered : confirm txHash batch.id = .ok receipt)
    (open_ : job.state ≠ .anchored) :
    Drives settings terms now repo (closeAnchorJob settings outside now job.id (verdict settings repo job batch receipt).1
      (verdict settings repo job batch receipt).2 repo).2 := by
  let status := normalizeChainConfirmationStatus (verdict settings repo job batch receipt).1
  apply bind_related Drives.trans
  · exact Step.drives (.judge status)
  · intro _ middle written
    cases written
    let judged : AnchorJob := { job with chainConfirmationStatus := some status }
    have direct : (repo.anchorJobs.modifyAt job.id fun job =>
        { job with chainConfirmationStatus := some status }).get? job.id = some judged := by
      rw [OrdMap.get?_modifyAt,if_pos rfl,held]
      rfl
    split_ifs with confirmed terminal
    · exact @markAnchorJobAnchored_drives settings terms now outside _ judged batch confirm txHash receipt told direct batched
        trusted sent answered confirmed
    · apply markAnchorJobFailed_drives told
      intro same resolved
      cases (jobOf_direct direct).symm.trans resolved
      exact terms.live _ open_
    · exact .refl _

theorem confirmAnchorJobOnChain_drives {answers : Nat → Answers} (trusted : ∀ k, terms.trusted (answers k).confirm)
    (told : ∀ k, terms.admits (.reconcile (answers k).toOutside)) (id : String) :
    Moves (Drives settings terms now) (confirmAnchorJobOnChain settings answers now id) := by
  apply Moves.bind Drives.trans (reconcile_drives (told 0))
  intro _
  apply require_moves Drives.refl
  intro repo job resolved
  cases sent : job.broadcastTxHash with
  | none => exact .refl repo
  | some txHash =>
    dsimp only
    split_ifs with empty anchored
    · exact .refl repo
    · exact .refl repo
    · rw [getSettlementBatch,require_bind]
      cases batched : repo.settlementBatches.get? job.settlementBatchID with
      | none => exact .refl repo
      | some batch =>
        dsimp only
        cases answered : (answers 0).confirm txHash batch.id with
        | error failure => exact .refl repo
        | ok receipt =>
          exact fun tidy => closeAnchorJob_drives (told 1) (jobOf_held tidy resolved) batched (trusted 0) sent answered anchored tidy

theorem reconcilePendingAnchorJobsOnChain_drives {answers : Nat → Nat → Answers}
    (trusted : ∀ j k, terms.trusted (answers j k).confirm) (told : ∀ j k, terms.admits (.reconcile (answers j k).toOutside)) :
    Moves (Drives settings terms now) (reconcilePendingAnchorJobsOnChain settings answers now) := by
  apply Moves.bind Drives.trans (reconcile_drives (told 0 0))
  intro _
  apply Moves.read
  intro repo
  apply Moves.each Drives.refl Drives.trans
  intro entry _
  apply Moves.given Drives.refl
  exact confirmAnchorJobOnChain_drives (trusted _) (told _) _

/-- Broadcasts and reported failures are of allowed jobs, and confirmations come from trusted confirmers. -/
def Operation.Meets (terms : Terms) (repo : Repository) : Operation → Prop
  | .retryAnchorSettlementBatch .. => terms.prepares ∧ ∀ batch, terms.fixes batch
  | .rebuildRewardWindow .. | .submitAnchorJob .. | .retryFailedAnchorJobBroadcast .. => terms.prepares
  | .broadcastChainTx answers id =>
    terms.prepares ∧ ((∀ message, answers.broadcast message = .otherError) ∨
      ∀ job, repo.anchorJobs.get? id = some job → terms.allowed job)
  | .markAnchorJobFailed _ _ id => ∀ job, jobOf id repo = some job → terms.allowed job
  | .confirmAnchorJobOnChain answers _ => ∀ k, terms.trusted (answers k).confirm
  | .reconcilePendingAnchorJobsOnChain answers => ∀ j k, terms.trusted (answers j k).confirm
  | _ => True

theorem run_drives {operation : Operation} (admitted : operation.Admitted terms) (meets : operation.Meets terms repo)
    : Drives settings terms now repo (operation.run settings now repo).2 := by
  obtain ⟨admitted,told⟩ := admitted
  cases operation with
  | rebuildRewardWindow outside id => exact rebuildRewardWindow_drives meets admitted (told _ rfl) repo
  | retryAnchorSettlementBatch outside id => exact retryAnchorSettlementBatch_drives meets.1 (told _ rfl) (.inl meets.2)
  | submitAnchorJob outside id =>
    exact bind_related Drives.trans (submitAnchorJob_drives meets (told _ rfl) id repo) fun _ after _ => .refl after
  | broadcastChainTx answers id => exact broadcastChainTx_drives meets.1 (told _ rfl) meets.2
  | retryFailedAnchorJobBroadcast answers id =>
    exact retryFailedAnchorJobBroadcast_drives meets (fun k => told _ ⟨k,rfl⟩) id repo
  | confirmAnchorJobOnChain answers id => exact confirmAnchorJobOnChain_drives meets (fun k => told _ ⟨k,rfl⟩) id repo
  | reconcilePendingAnchorJobsOnChain answers =>
    exact reconcilePendingAnchorJobsOnChain_drives meets (fun j k => told _ ⟨j,k,rfl⟩) repo
  | markAnchorJobFailed outside reason id => exact markAnchorJobFailed_drives (told _ rfl) meets
  | _ => exact Step.drives (.plain rfl admitted)

end Steps

def Throughout (settings : Settings) (condition : Repository → Call → Prop) : List Call → Repository → Prop
  | [],_ => True
  | call :: rest,repo => condition repo call ∧ Throughout settings condition rest (call.after settings repo)

instance decidableThroughout {settings : Settings} {condition : Repository → Call → Prop}
    [∀ repo call, Decidable (condition repo call)] : ∀ calls repo, Decidable (Throughout settings condition calls repo)
  | [],_ => isTrue trivial
  | call :: rest,repo =>
    have : Decidable (Throughout settings condition rest (call.after settings repo)) := decidableThroughout rest _
    inferInstanceAs (Decidable (condition repo call ∧ Throughout settings condition rest (call.after settings repo)))

theorem Throughout.mono {settings : Settings} {first next : Repository → Call → Prop}
    (implies : ∀ repo call, first repo call → next repo call) {calls : List Call}
    (throughout : Throughout settings first calls repo) : Throughout settings next calls repo := by
  induction calls generalizing repo with
  | nil => trivial
  | cons call rest ih => exact ⟨implies repo call throughout.1,ih throughout.2⟩

theorem Throughout.append {settings : Settings} {condition : Repository → Call → Prop} {first next : List Call}
    (throughout : Throughout settings condition (first ++ next) repo) :
    Throughout settings condition first repo ∧ Throughout settings condition next (finish settings first repo) := by
  induction first generalizing repo with
  | nil => exact ⟨trivial,throughout⟩
  | cons call rest ih =>
    obtain ⟨here,later⟩ := ih throughout.2
    exact ⟨⟨throughout.1,here⟩,later⟩

theorem finish_induction (settings : Settings) (terms : Terms) (Good : Repository → Prop)
    (R : Repository → Repository → Prop) (refl : ∀ repo, R repo repo) (trans : ∀ a b c, R a b → R b c → R a c)
    (step : ∀ now before after, Tidy before → Good before → Step settings terms now before after →
      Good after ∧ R before after) (admitted : ∀ operation : Operation, operation.Admitted terms)
    {calls : List Call} (tidy : Tidy repo) (good : Good repo)
    (meets : Throughout settings (fun repo call => call.2.Meets terms repo) calls repo) :
    Tidy (finish settings calls repo) ∧ Good (finish settings calls repo) ∧ R repo (finish settings calls repo) := by
  induction calls generalizing repo with
  | nil => exact ⟨tidy,good,refl repo⟩
  | cons call rest ih =>
    have path : Path settings terms call.1 repo (call.after settings repo) := run_drives (admitted _) meets.1 tidy
    have along : Tidy (call.after settings repo) ∧ Good (call.after settings repo) ∧ R repo (call.after settings repo) := by
      generalize call.after settings repo = last at path
      induction path with
      | refl => exact ⟨tidy,good,refl repo⟩
      | tail _ one earlier =>
        obtain ⟨tidy,good,related⟩ := earlier
        obtain ⟨good',related'⟩ := step call.1 _ _ tidy good one
        exact ⟨one.tidy tidy,good',trans _ _ _ related related'⟩
    obtain ⟨tidy',good',related⟩ := along
    obtain ⟨last,good'',later⟩ := ih tidy' good' meets.2
    exact ⟨last,good'',trans _ _ _ related later⟩

theorem Operation.meets_any (operation : Operation) (repo : Repository) : operation.Meets anyTerms repo := by
  cases operation with
  | retryAnchorSettlementBatch outside id => exact ⟨trivial,fun _ => trivial⟩
  | broadcastChainTx answers id => exact ⟨trivial,.inr fun _ _ => trivial⟩
  | markAnchorJobFailed outside reason id => exact fun _ _ => trivial
  | confirmAnchorJobOnChain answers id => exact fun _ => trivial
  | reconcilePendingAnchorJobsOnChain answers => exact fun _ _ => trivial
  | _ => trivial

theorem Operation.admitted_any (operation : Operation) : operation.Admitted anyTerms := ⟨trivial,fun _ _ => trivial⟩

theorem throughout_any (settings : Settings) (calls : List Call) (repo : Repository) :
    Throughout settings (fun repo call => call.2.Meets anyTerms repo) calls repo := by
  induction calls generalizing repo with
  | nil => trivial
  | cons call rest ih => exact ⟨call.2.meets_any repo,ih _⟩

theorem finish_tidy (settings : Settings) (calls : List Call) : Tidy (finish settings calls {}) :=
  (finish_induction settings anyTerms (fun _ => True) (fun _ _ => True) (fun _ => trivial) (fun _ _ _ _ _ => trivial)
    (fun _ _ _ _ _ _ => ⟨trivial,trivial⟩) Operation.admitted_any tidy_empty trivial (throughout_any settings calls {})).1

end Clawchain.Mining
