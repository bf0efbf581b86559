import Clawchain.Adapter.Encoding
import Clawchain.Lib.PyText

/-! The adapter's own check of a message. It looks at texts without the blanks around them, which are sent all the same, and
passes over three fields, so that the chain refuses some of what it lets through. -/
namespace Clawchain.Adapter
open Clawchain.Lib Clawchain.Lib.PyText Clawchain.Chain.Settlement

/-- `^claw1[0-9a-z]+$` -/
def isClawchainAddress (text : String) : Bool :=
  let chars := text.toList
  chars.take 5 == "claw1".toList && !(chars.drop 5).isEmpty &&
    (chars.drop 5).all fun c => ('0' ≤ c && c ≤ '9') || ('a' ≤ c && c ≤ 'z')

inductive InvalidMessage where
  | invalidSubmitterAddress
  | required (field : String)
  | unsupportedSchemaVersion (schemaVersion : String)
  | notAHash (field : String)
  deriving DecidableEq, Repr

def stripped (value : Option String) : String := strip (value.getD "")

def checkHash (field : String) (value : Option String) : Except InvalidMessage Unit :=
  if isSHA256Ref (stripped value) then .ok () else .error (.notAHash field)

def validateAnchorSettlementMessageValue (value : AnchorValue) : Except InvalidMessage Unit :=
  if isClawchainAddress (stripped value.submitter) = false then .error .invalidSubmitterAddress
  else if stripped value.settlementBatchID = "" then .error (.required "settlement_batch_id")
  else if stripped value.anchorJobID = "" then .error (.required "anchor_job_id")
  else if stripped value.schemaVersion ∉ allowedAnchorSchemaVersions then
    .error (.unsupportedSchemaVersion (stripped value.schemaVersion))
  else do
    checkHash "canonical_root" value.canonicalRoot
    checkHash "anchor_payload_hash" value.anchorPayloadHash
    checkHash "reward_window_ids_root" value.rewardWindowIDsRoot
    checkHash "task_run_ids_root" value.taskRunIDsRoot
    checkHash "miner_reward_rows_root" value.minerRewardRowsRoot

namespace AnchorValue
variable (value : AnchorValue)

def hashes : List String :=
  [value.canonicalRoot.getD "",value.anchorPayloadHash.getD "",value.rewardWindowIDsRoot.getD "",
    value.taskRunIDsRoot.getD "",value.minerRewardRowsRoot.getD ""]

def Unpadded : Prop := ∀ text ∈ value.schemaVersion.getD "" :: value.hashes, strip text = text

def Dated : Prop :=
  value.lane.getD "" ≠ "" ∧ value.policyBundleVersion.getD "" ≠ "" ∧ Rfc3339.parses (value.windowEndAt.getD "") = true

end AnchorValue

theorem isSHA256Ref_plain {text : String} (ref : isSHA256Ref text = true) : ∀ c ∈ text.toList, isSpace c = false := by
  unfold isSHA256Ref at ref
  simp only [Bool.and_eq_true,beq_iff_eq,List.all_eq_true] at ref
  obtain ⟨⟨start,-⟩,rest⟩ := ref
  intro c inside
  rw [← List.take_append_drop 7 text.toList,List.mem_append,start] at inside
  rcases inside with front | back
  · have start : "sha256:".toList.all (fun c => !isSpace c) = true := by decide +kernel
    simpa using List.all_eq_true.mp start c front
  · have hex := rest c back
    simp only [isLowerHex,Bool.or_eq_true,Bool.and_eq_true,decide_eq_true_eq] at hex
    have code : (48 ≤ c.toNat ∧ c.toNat ≤ 57) ∨ (97 ≤ c.toNat ∧ c.toNat ≤ 102) := hex
    unfold isSpace Format.isSpace
    generalize c.toNat = n at code
    simp only [Bool.or_eq_false_iff,Bool.and_eq_false_iff,decide_eq_false_iff_not,beq_eq_false_iff_ne]
    omega

theorem isSHA256Ref_of_checkHash {field : String} {value : Option String} {done : Unit}
    (checked : checkHash field value = .ok done) : isSHA256Ref (strip (value.getD "")) = true := by
  unfold checkHash at checked
  split at checked
  · assumption
  · cases checked

theorem validated {value : AnchorValue} (valid : validateAnchorSettlementMessageValue value = .ok ()) :
    value.settlementBatchID.getD "" ≠ "" ∧ value.anchorJobID.getD "" ≠ "" ∧
      strip (value.schemaVersion.getD "") ∈ allowedAnchorSchemaVersions ∧
      ∀ hash ∈ value.hashes, isSHA256Ref (strip hash) = true := by
  have nothing : strip "" = "" := by decide
  unfold validateAnchorSettlementMessageValue at valid
  split_ifs at valid with submitter batch job schema
  · obtain ⟨_,root,valid⟩ := Fallible.bind_ok valid
    obtain ⟨_,payload,valid⟩ := Fallible.bind_ok valid
    obtain ⟨_,windows,valid⟩ := Fallible.bind_ok valid
    obtain ⟨_,tasks,rows⟩ := Fallible.bind_ok valid
    refine ⟨?_,?_,schema,?_⟩
    · intro empty
      exact batch (by rw [stripped,empty,nothing])
    · intro empty
      exact job (by rw [stripped,empty,nothing])
    · simp only [AnchorValue.hashes,List.forall_mem_cons,List.not_mem_nil,false_implies,implies_true,and_true]
      exact ⟨isSHA256Ref_of_checkHash root,isSHA256Ref_of_checkHash payload,isSHA256Ref_of_checkHash windows,
        isSHA256Ref_of_checkHash tasks,isSHA256Ref_of_checkHash rows⟩

theorem validateBasic_ok {accAddress : String → Bool} {msg : MsgAnchorSettlementBatch} :
    validateBasic accAddress msg = .ok () ↔ accAddress msg.submitter = true ∧
      (msg.settlementBatchId ≠ "" ∧ msg.anchorJobId ≠ "" ∧ msg.lane ≠ "") ∧
      (msg.schemaVersion ≠ "" ∧ msg.policyBundleVersion ≠ "" ∧ msg.windowEndAt ≠ "") ∧
      msg.schemaVersion ∈ allowedAnchorSchemaVersions ∧ Rfc3339.parses msg.windowEndAt = true ∧
      ∀ hash ∈ hashRefs msg, isSHA256Ref hash = true := by
  unfold validateBasic
  constructor
  · intro ok
    split_ifs at ok with address ids versions allowed dated refs
    rw [Bool.not_eq_false] at address dated refs
    exact ⟨address,by tauto,by tauto,allowed,dated,List.all_eq_true.mp refs⟩
  · rintro ⟨address,ids,versions,allowed,dated,refs⟩
    have all := List.all_eq_true.mpr refs
    rw [if_neg (by simp [address]),if_neg (by tauto),if_neg (by tauto),if_neg (not_not.mpr allowed),if_neg (by simp [dated]),
      if_neg (by simp [all])]

/-- Of the messages that the adapter lets through, the chain takes those whose texts need no stripping and that have the
fields which the adapter does not look at. -/
theorem validated_validateBasic_iff {accAddress : String → Bool} {value : AnchorValue}
    (valid : validateAnchorSettlementMessageValue value = .ok ()) (address : accAddress (value.submitter.getD "") = true) :
    validateBasic accAddress value.message = .ok () ↔ value.Unpadded ∧ value.Dated := by
  obtain ⟨batch,job,schema,hashes⟩ := validated valid
  have refs : hashRefs value.message = value.hashes := rfl
  rw [validateBasic_ok,refs]
  constructor
  · rintro ⟨-,⟨-,-,lane⟩,⟨-,policy,-⟩,allowed,parses,raw⟩
    refine ⟨?_,lane,policy,parses⟩
    intro text listed
    rcases List.mem_cons.mp listed with rfl | hash
    · have plain : ∀ version ∈ allowedAnchorSchemaVersions, strip version = version := by decide
      exact plain _ allowed
    · exact strip_eq (isSHA256Ref_plain (raw text hash))
  · rintro ⟨unpadded,lane,policy,parses⟩
    obtain ⟨own,others⟩ := List.forall_mem_cons.mp unpadded
    have allowed : value.message.schemaVersion ∈ allowedAnchorSchemaVersions := by
      rw [own] at schema
      exact schema
    refine ⟨address,⟨batch,job,lane⟩,⟨?_,policy,?_⟩,allowed,parses,fun text hash => ?_⟩
    · intro empty
      rw [empty] at allowed
      exact absurd allowed (by decide)
    · intro empty
      have dated : Rfc3339.parses value.message.windowEndAt = true := parses
      rw [empty] at dated
      exact absurd dated (by decide)
    · have ref := hashes text hash
      rwa [others text hash] at ref

def hashText : String := "sha256:0000000000000000000000000000000000000000000000000000000000000000"

def plainValue : AnchorValue where
  submitter := some "claw1q4akpa27mg6zv5zj4njmtvv0fhxyrtgega3564"
  settlementBatchID := some "batch-7"
  anchorJobID := some "job-7"
  lane := some "fast"
  schemaVersion := some "settlement.v1"
  policyBundleVersion := some "forecast_v1"
  canonicalRoot := some hashText
  anchorPayloadHash := some hashText
  rewardWindowIDsRoot := some hashText
  taskRunIDsRoot := some hashText
  minerRewardRowsRoot := some hashText
  windowEndAt := some "2026-04-10T12:00:00Z"
  totalRewardAmount := some 300

def isSender (address : String) : Bool := address = "claw1q4akpa27mg6zv5zj4njmtvv0fhxyrtgega3564"

theorem validated_validateBasic_iff_plain : validateBasic isSender plainValue.message = .ok () ↔
    plainValue.Unpadded ∧ plainValue.Dated := by
  have valid : validateAnchorSettlementMessageValue plainValue = .ok () := by decide +kernel
  exact validated_validateBasic_iff valid (by decide)

/-- A root with a line break after it is let through, and refused by the chain. -/
theorem validated_not_validateBasic :
    validateAnchorSettlementMessageValue { plainValue with canonicalRoot := some (hashText ++ "\n") } = .ok () ∧
      validateBasic isSender ({ plainValue with canonicalRoot := some (hashText ++ "\n") } : AnchorValue).message =
        .error .invalidSettlementBatch := by
  decide +kernel

end Clawchain.Adapter
