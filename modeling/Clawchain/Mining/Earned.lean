import Clawchain.Mining.Steps

/-! A job is anchored only by an anchor that the chain's store holds for it, when the confirmer asks for the
transaction first and for the store then. -/
namespace Clawchain.Mining
open Clawchain.Lib Clawchain.Lib.Faulty

structure TxResult where
  code : Int
  rawLog : String

/-- The chain's node as it is asked: for the transaction of a hash, and for the anchor that the store holds under the id
of a batch, if there is one and it is not empty. -/
structure ChainNode where
  tx : String → Except ServiceError TxResult
  settlementAnchor : String → Except ServiceError (Option AnchorObject)

section Inspect
variable (settings : Settings) (node : ChainNode)

def inspectBroadcastTxConfirmation (txHash : String) : Except ServiceError Receipt :=
  match if settings.text.strip txHash = "" then .error (.value "tx hash is required") else node.tx txHash with
  | .ok result =>
    .ok
      { confirmationStatus := some (if result.code = 0 then .confirmed else .failed)
        rawLog := some result.rawLog }
  | .error (.value message) =>
    if "not found".toList <:+: (settings.text.lower message).toList then
      .ok { confirmationStatus := some .pending, rawLog := some "" }
    else .error (.value message)
  | .error .type => .error .type

def inspectSettlementAnchor (settlementBatchID : String) : Except ServiceError QueryResponse :=
  let resolvedBatchID := settings.text.strip settlementBatchID
  if resolvedBatchID = "" then .error (.value "settlement batch id is required")
  else (node.settlementAnchor resolvedBatchID).map fun anchor =>
    { fields := fun field => if field = .settlementBatchID then .text resolvedBatchID else .null
      anchor := anchor }

def inspectBroadcastTxAndSettlementAnchor (txHash settlementBatchID : String) : Except ServiceError Receipt := do
  let txReceipt ← inspectBroadcastTxConfirmation settings node txHash
  if txReceipt.confirmationStatus ≠ some .confirmed then return txReceipt
  else
    let queryResponse ← inspectSettlementAnchor settings node settlementBatchID
    return { txReceipt with confirmed := some true, queryResponse := some queryResponse }

variable {settings node}

theorem inspectBroadcastTxAndSettlementAnchor_confirmed {txHash batchID : String} {receipt : Receipt}
    (answered : inspectBroadcastTxAndSettlementAnchor settings node txHash batchID = .ok receipt)
    (confirmed : receipt.confirmationStatus = some .confirmed) :
    (∃ result, node.tx txHash = .ok result ∧ result.code = 0) ∧
      ∃ query, receipt.queryResponse = some query ∧ inspectSettlementAnchor settings node batchID = .ok query := by
  unfold inspectBroadcastTxAndSettlementAnchor at answered
  cases inspected : inspectBroadcastTxConfirmation settings node txHash with
  | error failure =>
    rw [inspected] at answered
    cases answered
  | ok txReceipt =>
    rw [inspected] at answered
    dsimp only [bind,Except.bind] at answered
    split_ifs at answered with open_
    · cases answered
      exact absurd confirmed open_
    · rw [not_not] at open_
      cases queried : inspectSettlementAnchor settings node batchID with
      | error failure =>
        rw [queried] at answered
        cases answered
      | ok query =>
        rw [queried] at answered
        cases answered
        refine ⟨?_,query,rfl,rfl⟩
        unfold inspectBroadcastTxConfirmation at inspected
        split at inspected
        · rename_i result found
          cases inspected
          split_ifs at found with blank
          refine ⟨result,found,?_⟩
          by_contra failed
          simp [failed] at open_
        · split_ifs at inspected
          cases inspected
          cases open_
        · cases inspected

end Inspect

/-! What a batch keeps of its payload. -/

structure FixedBy (settings : Settings) (batch : SettlementBatch) (payload : AnchorPayload) : Prop where
  stored : batch.anchorPayloadJSON = some payload
  schema : batch.anchorSchemaVersion = some anchorPayloadSchemaVersion
  root : batch.canonicalRoot = some payload.canonicalRoot
  hash : batch.anchorPayloadHash = some (settings.hash.payload payload)
  policy : payload.policyBundleVersion = batch.policyBundleVersion
  id : payload.settlementBatchID = batch.id
  lane : payload.lane = batch.lane
  windowEndAt : payload.windowEndAt = batch.windowEndAt
  total : payload.totalRewardAmount = batch.totalRewardAmount

def Fixed (settings : Settings) (repo : Repository) : Prop :=
  ∀ id batch, repo.settlementBatches.get? id = some batch → batch.Left → ∃ payload, FixedBy settings batch payload

section Fixed
variable {settings : Settings} {terms : Terms} {now : Time}

theorem fixed_empty : Fixed settings {} := fun _ _ found => by cases found

theorem Untouched.fixed {before after : Repository} (move : Untouched before after) (fixed : Fixed settings before) :
    Fixed settings after := by
  intro id batch found left
  rcases move.batches id with same | ⟨-,last,found',ends,-⟩
  · exact fixed id batch (same ▸ found) left
  · cases found'.symm.trans found
    rcases ends with ends | ends
    · exact absurd ends left.1
    · exact absurd ends left.2

theorem updateSettlementBatch_fixed (id : String) {update : SettlementBatch → SettlementBatch} {repo : Repository}
    (fixed : Fixed settings repo)
    (kept : ∀ batch, repo.settlementBatches.get? id = some batch → (update batch).Left →
      (∃ payload, FixedBy settings (update batch) payload) ∨
        batch.Left ∧ ∀ payload, FixedBy settings batch payload → FixedBy settings (update batch) payload) :
    Fixed settings (repo.updateSettlementBatch id update) := by
  intro other batch found left
  change (repo.settlementBatches.modifyAt id update).get? other = some batch at found
  rw [OrdMap.get?_modifyAt] at found
  split_ifs at found with own
  · obtain ⟨old,held,rfl⟩ := Option.map_eq_some_iff.mp found
    rcases kept old (own ▸ held) left with new | ⟨oldLeft,same⟩
    · exact new
    · obtain ⟨payload,before⟩ := fixed other old held oldLeft
      exact ⟨payload,same payload before⟩
  · exact fixed other batch found left

theorem endAnchorJob_fixed {job : AnchorJob} {update : AnchorJob → AnchorJob} {batchState : BatchState}
    {repo : Repository} (tidy : Tidy repo) (fixed : Fixed settings repo) :
    Fixed settings (repo.endAnchorJob job update batchState) := by
  apply updateSettlementBatch_fixed
  · exact fixed
  · intro batch found left
    right
    split_ifs at left ⊢ with own
    · refine ⟨?_,fun payload before => ⟨before.stored,before.schema,before.root,before.hash,before.policy,before.id,
        before.lane,before.windowEndAt,before.total⟩⟩
      by_contra open_
      have blank := tidy.blank _ batch found open_
      simp [blank.1] at own
    · exact ⟨left,fun payload before => before⟩

theorem Step.fixed {before after : Repository} (tidy : Tidy before) (fixed : Fixed settings before)
    (step : Step settings terms now before after) : Fixed settings after := by
  cases step with
  | plain plain admitted => exact (plain_untouched plain before).fixed fixed
  | recount prepares admitted found => exact (storeRewardWindow_untouched _ before).fixed fixed
  | rearchive prepares found stored => exact fixed
  | fix prepares may found kept pays computed fixable =>
    obtain ⟨parts,taskRunIDs,roots,-,-,input⟩ := anchorPayload_ok settings computed
    apply updateSettlementBatch_fixed
    · exact fixed
    · intro batch held _
      cases found.symm.trans held
      left
      have field {α : Type} (get : CanonicalRootInput → α) := congrArg get input
      exact ⟨_,rfl,rfl,rfl,rfl,field (·.policyBundleVersion),field (·.settlementBatchID),field (·.lane),
        field (·.windowEndAt),field (·.totalRewardAmount)⟩
  | enlist prepares found ready hashed =>
    apply updateSettlementBatch_fixed
    · exact fixed
    · intro batch held _
      cases found.symm.trans held
      right
      exact ⟨⟨by simp [ready],by simp [ready]⟩,fun payload before => ⟨before.stored,before.schema,before.root,before.hash,
        before.policy,before.id,before.lane,before.windowEndAt,before.total⟩⟩
  | broadcast prepares txHash found allowed => exact fixed
  | judge status => exact fixed
  | anchor found batched trusted sent answered confirmed => exact endAnchorJob_fixed tidy fixed
  | fail reason found allowed => exact endAnchorJob_fixed tidy fixed

theorem finish_fixed (settings : Settings) (calls : List Call) :
    Tidy (finish settings calls {}) ∧ Fixed settings (finish settings calls {}) := by
  have run := finish_induction settings anyTerms (Fixed settings) (fun _ _ => True) (fun _ => trivial)
    (fun _ _ _ _ _ => trivial) (fun _ _ _ tidy fixed step => ⟨step.fixed tidy fixed,trivial⟩) Operation.admitted_any tidy_empty fixed_empty
    (throughout_any settings calls {})
  exact ⟨run.1,run.2.1⟩

end Fixed

/-! What an anchor has been compared with. -/

def anchorOf (batch : SettlementBatch) (payload : AnchorPayload) (jobID : Option String) : AnchorObject
  | .settlementBatchID => .text batch.id
  | .anchorJobID => .ofOption jobID
  | .lane => .text batch.lane.name
  | .schemaVersion => .ofOption batch.anchorSchemaVersion
  | .policyBundleVersion => .text batch.policyBundleVersion
  | .canonicalRoot => .ofOption batch.canonicalRoot
  | .anchorPayloadHash => .ofOption batch.anchorPayloadHash
  | .rewardWindowIDsRoot => .text payload.rewardWindowIDsRoot
  | .taskRunIDsRoot => .text payload.taskRunIDsRoot
  | .minerRewardRowsRoot => .text payload.minerRewardRowsRoot
  | .windowEndAt => .text (isoText batch.windowEndAt)
  | .totalRewardAmount => .number batch.totalRewardAmount

variable {settings : Settings}

theorem FixedBy.expected {batch : SettlementBatch} {payload : AnchorPayload} (fixed : FixedBy settings batch payload)
    (job : AnchorJob) :
    expectedSettlementAnchor job batch = anchorOf batch payload (some job.id) := by
  funext field
  cases field <;> simp [expectedSettlementAnchor,anchorOf,fixed.stored,fixed.schema,fixed.root,fixed.policy,Scalar.ofOption]

theorem normalizeChainConfirmationStatus_confirmed {raw : Option ConfirmationStatus}
    (confirmed : normalizeChainConfirmationStatus raw = .confirmed) : raw = some .confirmed := by
  unfold normalizeChainConfirmationStatus at confirmed
  split at confirmed
  · cases confirmed
  · cases confirmed
  · cases confirmed
  · cases confirmed
  · cases confirmed
  · cases confirmed
  · cases confirmed
  · exact congrArg some confirmed

theorem confirmSettlementAnchorResponse_confirmed {query : QueryResponse} {batchID : String}
    {canonicalRoot payloadHash : Option String} {expected : AnchorObject} {txConfirmed fallbackMemo : Bool}
    (confirmed : (confirmSettlementAnchorResponse query batchID canonicalRoot payloadHash expected txConfirmed
      fallbackMemo).2 = .confirmed) : query.anchor = some expected ∨ query.fields = expected := by
  unfold confirmSettlementAnchorResponse at confirmed
  split at confirmed
  · split_ifs at confirmed
  · rename_i anchor held
    split_ifs at confirmed with own all
    · have same : anchor = expected := by
        funext field
        have one : ∀ field ∈ anchorFields, anchor field = expected field := by simpa using all
        apply one
        cases field <;> decide
      subst same
      cases found : query.anchor with
      | some other =>
        rw [found] at held
        exact .inl held
      | none =>
        rw [found] at held
        split_ifs at held
        · cases held
        · exact .inr (Option.some.inj held)

/-- The node of a confirmer, for which the chain executed the job's transaction, its store answered the anchor of the batch's
row with the given job, and the rows stored for the batch resolved. -/
structure Earned (settings : Settings) (node : ChainNode) (repo : Repository) (job : AnchorJob) (jobID : Option String)
    (batch : SettlementBatch) (payload : AnchorPayload) : Prop where
  batched : repo.settlementBatches.get? job.settlementBatchID = some batch
  stored : batch.anchorPayloadJSON = some payload
  executed : ∃ txHash result, job.broadcastTxHash = some txHash ∧ node.tx txHash = .ok result ∧ result.code = 0
  anchored : node.settlementAnchor (settings.text.strip batch.id) = .ok (some (anchorOf batch payload jobID))
  resolved : ∃ rows, resolveSettlementAnchorRewardRows settings.hash payload.rows
    (((repo.anchorArtifacts.get? batch.id).map (·.pages)).getD OrdMap.empty) = .ok rows

theorem verdict_earned {node : ChainNode} {repo : Repository} {job : AnchorJob} {batch : SettlementBatch}
    {payload : AnchorPayload} {txHash : String} {receipt : Receipt}
    (batched : repo.settlementBatches.get? job.settlementBatchID = some batch) (fixed : FixedBy settings batch payload)
    (sent : job.broadcastTxHash = some txHash)
    (answered : inspectBroadcastTxAndSettlementAnchor settings node txHash batch.id = .ok receipt)
    (confirmed : normalizeChainConfirmationStatus (verdict settings repo job batch receipt).1 = .confirmed) :
    Earned settings node repo job (some job.id) batch payload := by
  have raw := normalizeChainConfirmationStatus_confirmed confirmed
  unfold verdict at raw
  by_cases executed : receipt.confirmationStatus = some .confirmed
  · rw [if_pos executed] at raw
    obtain ⟨⟨result,found,succeeded⟩,query,asked,queried⟩ :=
      inspectBroadcastTxAndSettlementAnchor_confirmed answered executed
    rw [asked] at raw
    simp only [fixed.stored,Option.map_some,Option.getD_some] at raw
    split at raw
    · cases raw
    · rename_i rows resolved
      have agrees := confirmSettlementAnchorResponse_confirmed (Option.some.inj raw)
      rw [fixed.expected] at agrees
      refine ⟨batched,fixed.stored,⟨txHash,result,sent,found,succeeded⟩,?_,rows,resolved⟩
      unfold inspectSettlementAnchor at queried
      dsimp only at queried
      split_ifs at queried with blank
      obtain ⟨anchor,held,rfl⟩ : ∃ anchor, node.settlementAnchor (settings.text.strip batch.id) = .ok anchor ∧ _ := by
        cases held : node.settlementAnchor (settings.text.strip batch.id) with
        | error failure =>
          rw [held] at queried
          cases queried
        | ok anchor =>
          rw [held] at queried
          exact ⟨anchor,rfl,(Except.ok.inj queried).symm⟩
      rw [held]
      rcases agrees with agrees | agrees
      · exact congrArg Except.ok agrees
      · -- An answer without an anchor has no root either.
        have rootless := congrFun agrees .canonicalRoot
        simp [anchorOf,fixed.root,Scalar.ofOption] at rootless
  · rw [if_neg executed] at raw
    exact absurd raw executed

def EarnedBy (settings : Settings) (asked : ChainNode → Prop) (repo : Repository) (job : AnchorJob) : Prop :=
  job.state = .anchored ∨ ∃ node batch payload, asked node ∧ Earned settings node repo job (some job.id) batch payload

structure Confirms (settings : Settings) (asked : ChainNode → Prop) (before after : Repository) : Prop where
  artifacts : after.anchorArtifacts = before.anchorArtifacts
  batches : ∀ id last, after.settlementBatches.get? id = some last → last.anchorPayloadJSON.isSome →
    ∃ batch, before.settlementBatches.get? id = some batch ∧ last = { batch with state := last.state }
  jobs : ∀ id last, after.anchorJobs.get? id = some last → ∃ job, before.anchorJobs.get? id = some job ∧
    last.id = job.id ∧ last.settlementBatchID = job.settlementBatchID ∧ last.broadcastTxHash = job.broadcastTxHash ∧
    (last.state = .anchored → EarnedBy settings asked before job)

section Confirms
variable {settings : Settings} {asked : ChainNode → Prop}

theorem Confirms.refl (repo : Repository) : Confirms settings asked repo repo where
  artifacts := rfl
  batches _ last found _ := ⟨last,found,rfl⟩
  jobs _ last found := ⟨last,found,rfl,rfl,rfl,.inl⟩

variable {before after : Repository}
theorem Confirms.earned (moved : Confirms settings asked before after) {job last : AnchorJob}
    (sameID : last.id = job.id) (sameBatch : last.settlementBatchID = job.settlementBatchID)
    (sameHash : last.broadcastTxHash = job.broadcastTxHash) {node : ChainNode} {batch : SettlementBatch}
    {payload : AnchorPayload} (earned : Earned settings node after last (some last.id) batch payload) :
    ∃ batch, Earned settings node before job (some job.id) batch payload := by
  obtain ⟨earlier,found,same⟩ := moved.batches _ batch earned.batched (by rw [earned.stored]; rfl)
  have stored : earlier.anchorPayloadJSON = some payload := by
    have own := earned.stored
    rw [same] at own
    exact own
  have anchored := earned.anchored
  have resolved := earned.resolved
  rw [same,sameID] at anchored
  rw [same,moved.artifacts] at resolved
  exact ⟨earlier,sameBatch ▸ found,stored,sameHash ▸ earned.executed,anchored,resolved⟩

theorem Confirms.trans (a b c : Repository) (first : Confirms settings asked a b) (next : Confirms settings asked b c) :
    Confirms settings asked a c where
  artifacts := next.artifacts.trans first.artifacts
  batches id last found stored := by
    obtain ⟨middle,held,same⟩ := next.batches id last found stored
    obtain ⟨batch,held',same'⟩ := first.batches id middle held (by rw [same] at stored; exact stored)
    exact ⟨batch,held',by rw [same,same']⟩
  jobs id last found := by
    obtain ⟨middle,held,sameID,sameBatch,sameHash,earned⟩ := next.jobs id last found
    obtain ⟨job,held',sameID',sameBatch',sameHash',earned'⟩ := first.jobs id middle held
    refine ⟨job,held',sameID.trans sameID',sameBatch.trans sameBatch',sameHash.trans sameHash',fun anchored => ?_⟩
    rcases earned anchored with anchored | ⟨node,batch,payload,own,earned⟩
    · exact earned' anchored
    · obtain ⟨batch,earned⟩ := first.earned sameID' sameBatch' sameHash' earned
      exact .inr ⟨node,batch,payload,own,earned⟩

variable (settings asked)

def confirming : Terms where
  allowed _ := True
  live _ _ := trivial
  trusted confirm := ∃ node, asked node ∧ confirm = inspectBroadcastTxAndSettlementAnchor settings node
  prepares := False

def unconfirming : Terms where
  allowed _ := True
  live _ _ := trivial
  trusted _ := False
  prepares := True

variable {settings asked}

theorem Untouched.confirms (move : Untouched before after) (tidy : Tidy before) :
    Confirms settings asked before after where
  artifacts := move.artifacts
  batches id last found stored := by
    rcases move.batches id with same | ⟨open_,last,found',-,blank⟩
    · exact ⟨last,same ▸ found,rfl⟩
    · cases found'.symm.trans found
      have empty : last.Blank := by
        apply blank
        intro old inside
        rw [Option.mem_def] at inside
        rw [inside] at open_
        have state : old.state = .opened := by simpa using open_
        exact tidy.blank id old inside fun left => left.1 state
      rw [empty.2.2.2.1] at stored
      cases stored
  jobs id last found := ⟨last,move.jobs ▸ found,rfl,rfl,rfl,.inl⟩

theorem endAnchorJob_confirms {job : AnchorJob} {update : AnchorJob → AnchorJob} {batchState : BatchState}
    {repo : Repository} (held : repo.anchorJobs.get? job.id = some job)
    (same : (update job).id = job.id ∧ (update job).settlementBatchID = job.settlementBatchID ∧
      (update job).broadcastTxHash = job.broadcastTxHash)
    (earned : (update job).state = .anchored → EarnedBy settings asked repo job) :
    Confirms settings asked repo (repo.endAnchorJob job update batchState) where
  artifacts := rfl
  batches id last found _ := by
    obtain ⟨batch,held,rfl⟩ := OrdMap.of_get?_modifyAt found
    refine ⟨batch,held,?_⟩
    split_ifs <;> rfl
  jobs id last found := by
    obtain ⟨old,held',rfl⟩ := OrdMap.of_get?_modifyAt found
    refine ⟨old,held',?_⟩
    split_ifs with own
    · cases held.symm.trans (own ▸ held')
      exact ⟨same.1,same.2.1,same.2.2,earned⟩
    · exact ⟨rfl,rfl,rfl,.inl⟩

theorem Step.confirms {now : Time} (tidy : Tidy before) (fixed : Fixed settings before)
    (step : Step settings (confirming settings asked) now before after) : Confirms settings asked before after := by
  cases step with
  | plain plain admitted => exact (plain_untouched plain before).confirms tidy
  | recount prepares admitted found => exact prepares.elim
  | rearchive prepares found stored => exact prepares.elim
  | fix prepares may found kept pays computed fixable => exact prepares.elim
  | enlist prepares found ready hashed => exact prepares.elim
  | broadcast prepares txHash found allowed => exact prepares.elim
  | judge status =>
    refine ⟨rfl,fun id batch found _ => ⟨batch,found,rfl⟩,fun id last found => ?_⟩
    obtain ⟨job,held,rfl⟩ := OrdMap.of_get?_modifyAt found
    refine ⟨job,held,?_⟩
    split_ifs <;> exact ⟨rfl,rfl,rfl,.inl⟩
  | anchor found batched trusted sent answered confirmed =>
    obtain ⟨node,own,rfl⟩ := trusted
    obtain ⟨same,held,left⟩ := tidy.enlisted _ _ found
    cases batched.symm.trans held
    obtain ⟨payload,by_⟩ := fixed _ _ batched left
    apply endAnchorJob_confirms found ⟨rfl,rfl,rfl⟩
    exact fun _ => .inr ⟨node,_,payload,own,verdict_earned batched by_ sent answered confirmed⟩
  | fail reason found allowed =>
    apply endAnchorJob_confirms found ⟨rfl,rfl,rfl⟩
    intro anchored
    cases anchored

def NoneAnchored (before after : Repository) : Prop := ∀ id last, after.anchorJobs.get? id = some last →
  last.state = .anchored → ∃ job, before.anchorJobs.get? id = some job ∧ job.state = .anchored

theorem Step.noneAnchored {now : Time} (step : Step settings unconfirming now before after) :
    NoneAnchored before after := by
  have kept (jobID : String) {update : AnchorJob → AnchorJob} (open_ : ∀ job, (update job).state = .anchored →
      job.state = .anchored) : NoneAnchored before (before.updateAnchorJob jobID update) := by
    intro id last found anchored
    obtain ⟨job,held,rfl⟩ := OrdMap.of_get?_modifyAt found
    split_ifs at anchored
    · exact ⟨job,held,open_ job anchored⟩
    · exact ⟨job,held,anchored⟩
  cases step with
  | plain plain admitted =>
    intro id last found anchored
    exact ⟨last,(plain_untouched plain before).jobs ▸ found,anchored⟩
  | recount prepares admitted found => exact fun id last found anchored => ⟨last,found,anchored⟩
  | rearchive prepares found stored => exact fun id last found anchored => ⟨last,found,anchored⟩
  | fix prepares may found kept pays computed fixable => exact fun id last found anchored => ⟨last,found,anchored⟩
  | enlist prepares found ready hashed =>
    intro id last found anchored
    change (before.anchorJobs.insert _ _).get? id = some last at found
    rw [OrdMap.get?_insert] at found
    split_ifs at found
    · cases found
      cases anchored
    · exact ⟨last,found,anchored⟩
  | broadcast prepares txHash found allowed => exact kept _ fun _ anchored => by cases anchored
  | judge status => exact kept _ fun _ anchored => anchored
  | anchor found batched trusted sent answered confirmed => exact trusted.elim
  | fail reason found allowed => exact kept _ fun _ anchored => by cases anchored

end Confirms

def Operation.Inspects (settings : Settings) (asked : ChainNode → Prop) : Operation → Prop
  | .confirmAnchorJobOnChain answers _ =>
    ∀ k, ∃ node, asked node ∧ (answers k).confirm = inspectBroadcastTxAndSettlementAnchor settings node
  | .reconcilePendingAnchorJobsOnChain answers =>
    ∀ j k, ∃ node, asked node ∧ (answers j k).confirm = inspectBroadcastTxAndSettlementAnchor settings node
  | _ => True

theorem Operation.Inspects.meets {asked : ChainNode → Prop} {operation : Operation}
    (inspects : operation.Inspects settings asked) (repo : Repository) :
    operation.Meets (confirming settings asked) repo ∨ operation.Meets unconfirming repo := by
  cases operation with
  | confirmAnchorJobOnChain answers id => exact .inl inspects
  | reconcilePendingAnchorJobsOnChain answers => exact .inl inspects
  | retryAnchorSettlementBatch outside id => exact .inr ⟨trivial,fun _ => trivial⟩
  | broadcastChainTx answers id => exact .inr ⟨trivial,.inr fun _ _ => trivial⟩
  | markAnchorJobFailed outside reason id => exact .inr fun _ _ => trivial
  | _ => exact .inr trivial

def plainAnchor : AnchorObject
  | .settlementBatchID => .text plainBatchID
  | .anchorJobID => .text plainJobID
  | .lane => .text "poker_mtt_daily"
  | .schemaVersion => .text "clawchain.anchor_payload.v1"
  | .policyBundleVersion => .text "poker_mtt_daily_policy_v1"
  | .canonicalRoot => .text (plainRef 'e' 100)
  | .anchorPayloadHash => .text (plainRef 'f' 100)
  | .rewardWindowIDsRoot => .text (plainRef 'a' 1)
  | .taskRunIDsRoot => .text (plainRef 'a' 1)
  | .minerRewardRowsRoot => .text (plainRef 'b' 2060040)
  | .windowEndAt => .text "2026-03-02T00:00:00Z"
  | .totalRewardAmount => .number 100

def plainNode : ChainNode := ⟨fun _ => .ok ⟨0,""⟩,fun _ => .ok (some plainAnchor)⟩

def inspectingCall : Call :=
  (plainNow,.confirmAnchorJobOnChain
    (fun _ => { plainAnswers with confirm := inspectBroadcastTxAndSettlementAnchor plainSettings plainNode }) plainJobID)

theorem inspectingCall_inspects : inspectingCall.2.Inspects plainSettings (· = plainNode) := fun _ => ⟨plainNode,rfl,rfl⟩

def broadcastingCalls : List Call := anchoringCalls.take 4

def replacedCalls : List Call :=
  broadcastingCalls ++ [(plainNow,.markAnchorJobFailed plainOutside "timed out" plainJobID),
    (plainNow,.retryFailedAnchorJobBroadcast (fun _ => plainAnswers) plainJobID)]

theorem inspectingCall_anchors :
    ((inspectingCall.after plainSettings (finish plainSettings broadcastingCalls {})).anchorJobs.get? plainJobID).map
      (·.state) = some .anchored := by
  decide +kernel

theorem replacedCalls_facts :
    ((finish plainSettings replacedCalls {}).anchorJobs.get? plainJobID).map
        (fun job => (job.state,job.settlementBatchID)) = some (.anchorFailed,plainBatchID) ∧
      ((finish plainSettings replacedCalls {}).settlementBatches.get? plainBatchID).bind (·.anchorJobID) =
        some (plainJobID ++ "_1") ∧
      ((inspectingCall.after plainSettings (finish plainSettings replacedCalls {})).anchorJobs.get? plainJobID).map
        (·.state) = some .anchored := by
  decide +kernel

end Clawchain.Mining
