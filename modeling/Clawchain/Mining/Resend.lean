import Clawchain.Chain.Settlement
import Clawchain.Mining.Steps

/-! What the chain makes of the messages of two jobs of one batch. -/
namespace Clawchain.Mining
open Clawchain.Lib Clawchain.Chain

/-- The message as it is signed. An amount that does not fit its field cannot be read by the chain. -/
def FutureMsg.typed (submitter : String) (msg : FutureMsg) : Option Settlement.MsgAnchorSettlementBatch :=
  if msg.totalRewardAmount < 2 ^ 64 then
    some
      { submitter := submitter
        settlementBatchId := msg.settlementBatchID
        anchorJobId := msg.anchorJobID
        lane := msg.lane.name
        schemaVersion := msg.schemaVersion.getD ""
        policyBundleVersion := msg.policyBundleVersion.getD ""
        canonicalRoot := msg.canonicalRoot.getD ""
        anchorPayloadHash := msg.anchorPayloadHash.getD ""
        rewardWindowIdsRoot := msg.rewardWindowIDsRoot.getD ""
        taskRunIdsRoot := msg.taskRunIDsRoot.getD ""
        minerRewardRowsRoot := msg.minerRewardRowsRoot.getD ""
        windowEndAt := isoText msg.windowEndAt
        totalRewardAmount := UInt64.ofNat msg.totalRewardAmount }
  else none

theorem FutureMsg.typed_job {submitter : String} {msg : FutureMsg} {typed : Settlement.MsgAnchorSettlementBatch}
    (signed : msg.typed submitter = some typed) : typed.anchorJobId = msg.anchorJobID := by
  unfold FutureMsg.typed at signed
  split_ifs at signed
  cases signed
  rfl

def messageOf (submitter jobID : String) (repo : Repository) : Option Settlement.MsgAnchorSettlementBatch := do
  let job ← repo.anchorJobs.get? jobID
  let batch ← repo.settlementBatches.get? job.settlementBatchID
  (buildAnchorTxPlan job batch).typed submitter

theorem messageOf_job {repo : Repository} (tidy : Tidy repo) {submitter jobID : String}
    {typed : Settlement.MsgAnchorSettlementBatch} (message : messageOf submitter jobID repo = some typed) :
    typed.anchorJobId = jobID ∧ ∃ job, repo.anchorJobs.get? jobID = some job := by
  obtain ⟨job,found,message⟩ := Option.bind_eq_some_iff.mp message
  obtain ⟨batch,-,signed⟩ := Option.bind_eq_some_iff.mp message
  exact ⟨(FutureMsg.typed_job signed).trans (tidy.keyed jobID job found),job,found⟩

section Keeper
variable {accAddress : String → Bool}

theorem accepted_anchored {block : Settlement.Block} {msg : Settlement.MsgAnchorSettlementBatch}
    {keeper : Settlement.Keeper} {response : String}
    (accepted : (Settlement.anchorSettlementBatch accAddress block msg keeper).1 = .ok response)
    (between : List (Settlement.Block × Settlement.MsgAnchorSettlementBatch)) :
    ∃ anchor, (Settlement.anchorAll accAddress between
        (Settlement.anchorSettlementBatch accAddress block msg keeper).2).anchors.get? msg.settlementBatchId = some anchor ∧
      anchor.message = msg := by
  obtain ⟨e,refused⟩ | ⟨-,-,⟨anchor,found,matching,again⟩ | ⟨-,first⟩⟩ :=
    Settlement.anchorSettlementBatch_cases accAddress block msg keeper
  · rw [refused] at accepted
    cases accepted
  · rw [again]
    exact ⟨anchor,Settlement.anchorAll_keeps between found,(Settlement.settlementAnchorMatchesMsg_iff anchor msg).mp matching⟩
  · rw [first]
    refine ⟨Settlement.newSettlementAnchor msg block,?_,rfl⟩
    exact Settlement.anchorAll_keeps between (OrdMap.get?_insert_self _ _ _)

/-- Once the message of a job has been accepted, the chain refuses that of every later job of the batch, whatever
happens on either side in between. -/
theorem laterMessage_refused (settings : Settings) (accAddress : String → Bool) (calls next : List Call)
    {submitter jobID laterJobID : String} {message later : Settlement.MsgAnchorSettlementBatch}
    (sent : messageOf submitter jobID (finish settings calls {}) = some message)
    {block : Settlement.Block} {keeper : Settlement.Keeper} {response : String}
    (accepted : (Settlement.anchorSettlementBatch accAddress block message keeper).1 = .ok response)
    (fresh : (finish settings calls {}).anchorJobs.get? laterJobID = none)
    (resent : messageOf submitter laterJobID (finish settings (calls ++ next) {}) = some later)
    (sameBatch : later.settlementBatchId = message.settlementBatchId)
    (between : List (Settlement.Block × Settlement.MsgAnchorSettlementBatch)) (laterBlock : Settlement.Block) :
    ∀ answer, (Settlement.anchorSettlementBatch accAddress laterBlock later (Settlement.anchorAll accAddress between
      (Settlement.anchorSettlementBatch accAddress block message keeper).2)).1 ≠ .ok answer := by
  intro answer acceptedAgain
  obtain ⟨sameJob,job,held⟩ := messageOf_job (finish_tidy settings calls) sent
  obtain ⟨sameJob',-⟩ := messageOf_job (finish_tidy settings (calls ++ next)) resent
  obtain ⟨anchor,found,own⟩ := accepted_anchored accepted between
  rw [← sameBatch] at found
  have repeated := ((Settlement.anchorSettlementBatch_ok_iff found).mp ⟨answer,acceptedAgain⟩).2.2
  have sameID : jobID = laterJobID := by rw [← sameJob,← sameJob',← own,← repeated]
  rw [sameID,fresh] at held
  cases held

end Keeper

/-! A job is reported as failed, although its message reaches the chain. -/

def submittingCalls : List Call := anchoringCalls.take 3

def resendingCalls : List Call :=
  [(plainNow,.broadcastChainTx { plainAnswers with broadcast := fun _ => .valueError "timed out" } plainJobID),
    (plainNow,.retryFailedAnchorJobBroadcast (fun _ => plainAnswers) plainJobID)]

def laterJobID : String := plainJobID ++ "_1"

def plainMessage (jobID : String) : Settlement.MsgAnchorSettlementBatch where
  submitter := "claw1submitter"
  settlementBatchId := plainBatchID
  anchorJobId := jobID
  lane := "poker_mtt_daily"
  schemaVersion := "clawchain.anchor_payload.v1"
  policyBundleVersion := "poker_mtt_daily_policy_v1"
  canonicalRoot := plainRef 'e' 100
  anchorPayloadHash := plainRef 'f' 100
  rewardWindowIdsRoot := plainRef 'a' 1
  taskRunIdsRoot := plainRef 'a' 1
  minerRewardRowsRoot := plainRef 'b' 2060040
  windowEndAt := "2026-03-02T00:00:00Z"
  totalRewardAmount := 100

def plainKeeper : Settlement.Keeper := { submitters := OrdMap.ofList [("claw1submitter",())] }

theorem resending_facts :
    messageOf "claw1submitter" plainJobID (finish plainSettings submittingCalls {}) = some (plainMessage plainJobID) ∧
    (finish plainSettings submittingCalls {}).anchorJobs.get? laterJobID = none ∧
    ((finish plainSettings (submittingCalls ++ resendingCalls) {}).anchorJobs.get? plainJobID).map (·.state) =
      some .anchorFailed ∧
    messageOf "claw1submitter" laterJobID (finish plainSettings (submittingCalls ++ resendingCalls) {}) =
      some (plainMessage laterJobID) ∧
    (Settlement.anchorSettlementBatch (fun _ => true) ⟨7,1772416800⟩ (plainMessage plainJobID) plainKeeper).1 =
      .ok plainBatchID := by
  decide +kernel

theorem laterMessage_refused_resending :
    ¬∃ answer, (Settlement.anchorSettlementBatch (fun _ => true) ⟨9,1772416900⟩ (plainMessage laterJobID)
      (Settlement.anchorSettlementBatch (fun _ => true) ⟨7,1772416800⟩ (plainMessage plainJobID) plainKeeper).2).1 =
        .ok answer := by
  obtain ⟨sent,fresh,-,resent,accepted⟩ := resending_facts
  rintro ⟨answer,acceptedAgain⟩
  exact laterMessage_refused plainSettings (fun _ => true) submittingCalls resendingCalls sent accepted fresh resent rfl
    [] ⟨9,1772416900⟩ answer acceptedAgain

/-- The message of a retry is not the anchored one. -/
theorem laterMessage_not_accepted :
    ¬∀ (settings : Settings) (accAddress : String → Bool) (calls next : List Call) (submitter jobID laterJobID : String)
      (message later : Settlement.MsgAnchorSettlementBatch) (block laterBlock : Settlement.Block)
      (keeper : Settlement.Keeper) (response : String),
      messageOf submitter jobID (finish settings calls {}) = some message →
      (Settlement.anchorSettlementBatch accAddress block message keeper).1 = .ok response →
      (finish settings calls {}).anchorJobs.get? laterJobID = none →
      ((finish settings (calls ++ next) {}).anchorJobs.get? jobID).map (·.state) = some .anchorFailed →
      messageOf submitter laterJobID (finish settings (calls ++ next) {}) = some later →
      later = { message with anchorJobId := laterJobID } →
      ∃ answer, (Settlement.anchorSettlementBatch accAddress laterBlock later
        (Settlement.anchorSettlementBatch accAddress block message keeper).2).1 = .ok answer := by
  intro all
  obtain ⟨sent,fresh,failed,resent,accepted⟩ := resending_facts
  obtain ⟨answer,acceptedAgain⟩ := all plainSettings (fun _ => true) submittingCalls resendingCalls "claw1submitter" plainJobID
    laterJobID _ _ ⟨7,1772416800⟩ ⟨9,1772416900⟩ plainKeeper _ sent accepted fresh failed resent rfl
  have refused : (Settlement.anchorSettlementBatch (fun _ => true) ⟨9,1772416900⟩ (plainMessage laterJobID)
      (Settlement.anchorSettlementBatch (fun _ => true) ⟨7,1772416800⟩ (plainMessage plainJobID) plainKeeper).2).1 =
      .error .settlementBatchAnchored := by decide +kernel
  rw [refused] at acceptedAgain
  cases acceptedAgain

end Clawchain.Mining
