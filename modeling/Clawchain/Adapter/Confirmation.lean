import Clawchain.Adapter.Validation

/-! What the adapter makes of the chain's answer about a batch. An answer without an anchor is a record too, and it is taken
for the anchor itself, so that a missing anchor is reported as a wrong one. -/
namespace Clawchain.Adapter
open Clawchain.Lib

/-- A decoded JSON value. The only object that is ever compared is the empty one. -/
inductive Value where
  | null
  | bool (value : Bool)
  | number (value : Int)
  | text (value : String)
  | object
  deriving DecidableEq, Repr

/-- `==`, for which the truth values are the numbers 0 and 1. -/
def Value.same : Value → Value → Bool
  | .bool a,.number b | .number b,.bool a => (if a then 1 else 0) = b
  | a,b => a = b

abbrev Record := OrdMap String Value

/-- `dict.get` -/
def Record.field (record : Record) (name : String) : Value := (OrdMap.get? record name).getD .null

def Record.isEmpty (record : Record) : Bool := record.entries.isEmpty

/-- The value that a store query found, none inside when it is not a record in JSON, and the height. -/
structure StoreResponse where
  value : Option (Option Record)
  height : Option Int := none

structure QueryResponse where
  found : Bool
  settlementBatchID : String
  queryHeight : Option Int
  anchor : Option Record
  deriving DecidableEq

def inspectSettlementAnchor (response : StoreResponse) (settlementBatchID : Option String) : Except String QueryResponse :=
  let resolvedBatchID := stripped settlementBatchID
  if resolvedBatchID = "" then .error "settlement batch id is required"
  else match response.value with
    | none => .ok ⟨false,resolvedBatchID,response.height,none⟩
    | some none => .error ("invalid settlement anchor payload for " ++ resolvedBatchID)
    | some (some anchor) => .ok ⟨true,resolvedBatchID,response.height,some anchor⟩

def QueryResponse.whole (query : QueryResponse) : Record :=
  OrdMap.ofList [("found",.bool query.found),("settlement_batch_id",.text query.settlementBatchID),
    ("query_height",(query.queryHeight.map Value.number).getD .null),("anchor",if query.anchor.isSome then .object else .null)]

inductive ConfirmationStatus where
  | confirmed
  | anchorMetadataMismatch
  | settlementBatchMismatch
  | rootHashMismatch
  | stateMissing
  | typedTxAcceptedStateMissing
  | fallbackMemoTxAcceptedNoTypedState
  deriving DecidableEq, Repr

structure Expected where
  (settlementBatchID canonicalRoot anchorPayloadHash : String)
  expectedAnchor : Option Record := none

structure Confirmation where
  settlementBatchID : String
  confirmed : Bool
  confirmationStatus : ConfirmationStatus
  canonicalRoot : Value := .null
  anchorPayloadHash : Value := .null
  metadataMismatches : List String := []
  deriving DecidableEq

def Expected.rootsAgree (expected : Expected) (anchor : Record) : Bool :=
  (anchor.field "settlement_batch_id").same (.text expected.settlementBatchID) &&
    (anchor.field "canonical_root").same (.text expected.canonicalRoot) &&
    (anchor.field "anchor_payload_hash").same (.text expected.anchorPayloadHash)

def Expected.mismatches (expected : Expected) (anchor : Record) : List String :=
  match expected.expectedAnchor with
  | none => []
  | some fields => (fields.entries.filter fun field => !(anchor.field field.1).same field.2).map Prod.fst

def QueryResponse.consulted (query : QueryResponse) : Record :=
  match query.anchor with
  | some anchor => if anchor.isEmpty then query.whole else anchor
  | none => query.whole

def confirmSettlementAnchorResponse (query : QueryResponse) (expected : Expected) (txConfirmed : Bool)
    (broadcastMethod : String) : Confirmation :=
  let anchor := query.consulted
  if anchor.isEmpty then
    { settlementBatchID := expected.settlementBatchID
      confirmed := false
      confirmationStatus :=
        if txConfirmed ∧ broadcastMethod = "fallback_memo" then .fallbackMemoTxAcceptedNoTypedState
        else if txConfirmed then .typedTxAcceptedStateMissing
        else .stateMissing }
  else
    let agrees := expected.rootsAgree anchor
    let metadataMismatches := if agrees then expected.mismatches anchor else []
    { settlementBatchID := expected.settlementBatchID
      confirmed := agrees && metadataMismatches.isEmpty
      confirmationStatus :=
        if agrees then if metadataMismatches = [] then .confirmed else .anchorMetadataMismatch
        else if (anchor.field "settlement_batch_id").same (.text expected.settlementBatchID) then .rootHashMismatch
        else .settlementBatchMismatch
      canonicalRoot := anchor.field "canonical_root"
      anchorPayloadHash := anchor.field "anchor_payload_hash"
      metadataMismatches := metadataMismatches }

def ConfirmationStatus.isMissing (status : ConfirmationStatus) : Bool :=
  status ∈ [.stateMissing,.typedTxAcceptedStateMissing,.fallbackMemoTxAcceptedNoTypedState]

/-- A status that says of the chain's anchor what is the case. -/
structure Exact (expected : Expected) (anchor : Option Record) (status : ConfirmationStatus) : Prop where
  confirmed : status = .confirmed ↔ ∃ held, anchor = some held ∧ expected.rootsAgree held ∧ expected.mismatches held = []
  missing : status.isMissing ↔ anchor = none
  mismatch : status = .rootHashMismatch ∨ status = .settlementBatchMismatch →
    ∃ held, anchor = some held ∧ expected.rootsAgree held = false
  metadata : status = .anchorMetadataMismatch ↔
    ∃ held, anchor = some held ∧ expected.rootsAgree held ∧ expected.mismatches held ≠ []

section
variable {query : QueryResponse} {expected : Expected} {anchor : Record} {txConfirmed : Bool} {broadcastMethod : String}

theorem whole_nonempty : query.whole.isEmpty = false := by
  have found : OrdMap.get? query.whole "found" = some (.bool query.found) := by
    rw [QueryResponse.whole,OrdMap.get?_ofList (by simp)]
    simp
  unfold Record.isEmpty
  rw [List.isEmpty_eq_false_iff]
  intro nothing
  rw [OrdMap.get?,nothing] at found
  cases found

theorem whole_rootless : query.whole.field "canonical_root" = .null := by
  unfold Record.field
  rw [QueryResponse.whole,OrdMap.get?_ofList_eq_none (by simp)]
  rfl

theorem rootsAgree_false (rootless : anchor.field "canonical_root" = .null) : expected.rootsAgree anchor = false := by
  simp [Expected.rootsAgree,rootless,Value.same]

theorem field_of_isEmpty (empty : anchor.isEmpty = true) (name : String) : anchor.field name = .null := by
  unfold Record.field OrdMap.get?
  rw [List.isEmpty_iff.mp empty]
  rfl

theorem consulted_filled : query.consulted.isEmpty = false := by
  unfold QueryResponse.consulted
  split
  · split
    · exact whole_nonempty
    · simp_all
  · exact whole_nonempty

theorem confirmationStatus_eq :
    (confirmSettlementAnchorResponse query expected txConfirmed broadcastMethod).confirmationStatus =
      if expected.rootsAgree query.consulted then
        if expected.mismatches query.consulted = [] then .confirmed else .anchorMetadataMismatch
      else if (query.consulted.field "settlement_batch_id").same (.text expected.settlementBatchID) then .rootHashMismatch
      else .settlementBatchMismatch := by
  unfold confirmSettlementAnchorResponse
  simp only [consulted_filled]
  cases expected.rootsAgree query.consulted <;> rfl

theorem exact_of_anchor (held : query.anchor = some anchor) (filled : anchor.isEmpty = false) :
    Exact expected query.anchor
      (confirmSettlementAnchorResponse query expected txConfirmed broadcastMethod).confirmationStatus := by
  have consulted : query.consulted = anchor := by simp [QueryResponse.consulted,held,filled]
  rw [confirmationStatus_eq,consulted,held]
  cases agree : expected.rootsAgree anchor with
  | false =>
    rw [if_neg (by simp)]
    refine ⟨?_,?_,fun _ => ⟨anchor,rfl,agree⟩,?_⟩ <;> split <;> simp [agree,ConfirmationStatus.isMissing]
  | true =>
    rw [if_pos rfl]
    by_cases none_ : expected.mismatches anchor = []
    · rw [if_pos none_]
      exact ⟨by simp [agree,none_],by simp [ConfirmationStatus.isMissing],by simp,by simp [agree,none_]⟩
    · rw [if_neg none_]
      exact ⟨by simp [agree,none_],by simp [ConfirmationStatus.isMissing],by simp,by simp [agree,none_]⟩

theorem exact_of_empty (held : query.anchor = some anchor) (empty : anchor.isEmpty = true) :
    Exact expected query.anchor
      (confirmSettlementAnchorResponse query expected txConfirmed broadcastMethod).confirmationStatus := by
  have consulted : query.consulted = query.whole := by simp [QueryResponse.consulted,held,empty]
  have own : expected.rootsAgree anchor = false := rootsAgree_false (field_of_isEmpty empty _)
  rw [confirmationStatus_eq,consulted,held,rootsAgree_false whole_rootless,if_neg (by simp)]
  refine ⟨?_,?_,fun _ => ⟨anchor,rfl,own⟩,?_⟩ <;> split <;> simp [own,ConfirmationStatus.isMissing]

theorem not_exact_of_none (absent : query.anchor = none) :
    ¬Exact expected query.anchor
      (confirmSettlementAnchorResponse query expected txConfirmed broadcastMethod).confirmationStatus := by
  intro exact_
  have consulted : query.consulted = query.whole := by simp [QueryResponse.consulted,absent]
  have missing := exact_.missing.mpr absent
  rw [confirmationStatus_eq,consulted,rootsAgree_false whole_rootless,if_neg (by simp)] at missing
  split at missing <;> cases missing
end

def expectedBatch : Expected where
  settlementBatchID := "batch-7"
  canonicalRoot := hashText
  anchorPayloadHash := hashText

end Clawchain.Adapter
