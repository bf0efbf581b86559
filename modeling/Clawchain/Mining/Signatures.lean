import Clawchain.Lib.Format
import Clawchain.Lib.Separated

/-! What a miner signs for a commit or a reveal: five parts joined by bars. Neither the kind of the request nor where a part
ends is marked, so that a signature holds for every request whose parts have the same pieces. -/
namespace Clawchain.Mining.Signatures
open Clawchain.Lib

structure CommitRequest where
  (requestID taskRunID minerID : String)
  economicUnitID : Option String := none
  (commitHash nonce : String)
  clientVersion : String := "skill-v0.4.0"
  signature : String
  deriving DecidableEq, Repr

structure RevealRequest where
  (requestID taskRunID minerID : String)
  economicUnitID : Option String := none
  pYesBps : Int
  nonce : String
  schemaVersion : String := "v1"
  signature : String
  bounds : 0 ≤ pYesBps ∧ pYesBps ≤ 10000
  deriving DecidableEq

inductive Request where
  | commit (request : CommitRequest)
  | reveal (request : RevealRequest)
  deriving DecidableEq

inductive Content where
  | hash (commitHash : String)
  | forecast (pYesBps : Int)
  deriving DecidableEq, Repr

structure Signed where
  taskRunID : String
  content : Content
  (nonce minerID requestID : String)
  deriving DecidableEq, Repr

def Request.signed : Request → Signed
  | .commit request => ⟨request.taskRunID,.hash request.commitHash,request.nonce,request.minerID,request.requestID⟩
  | .reveal request => ⟨request.taskRunID,.forecast request.pYesBps,request.nonce,request.minerID,request.requestID⟩

def Content.text : Content → String
  | .hash commitHash => commitHash
  | .forecast pYesBps => toString pYesBps

def Signed.parts (signed : Signed) : List String :=
  [signed.taskRunID,signed.content.text,signed.nonce,signed.minerID,signed.requestID]

def signaturePayload (parts : List String) : String := "|".intercalate parts

def buildSignatureHash {δ : Type} (sha256 : List UInt8 → δ) (parts : List String) : δ :=
  sha256 (Texts.bytes (signaturePayload parts))

def Signed.pieces (signed : Signed) : List (List Char) := Separated.pieces '|' (signed.parts.map String.toList)

def Signed.Plain (signed : Signed) : Prop := ∀ part ∈ signed.parts, '|' ∉ part.toList

/-- A commit to the text of a forecast, and the reveal of that forecast. -/
def Signed.Twins (commit reveal : Signed) : Prop :=
  ∃ p, commit.content = .hash (toString p) ∧ reveal = { commit with content := .forecast p }

variable {a b : Signed}

theorem signaturePayload_eq_iff : signaturePayload a.parts = signaturePayload b.parts ↔ a.pieces = b.pieces := by
  rw [← String.toList_inj,signaturePayload,signaturePayload,String.toList_intercalate,String.toList_intercalate]
  exact Separated.intercalate_eq_iff (by simp [Signed.parts]) (by simp [Signed.parts])

theorem text_eq {content other : Content} (same : content.text = other.text) :
    content = other ∨ (∃ p, content = .hash (toString p) ∧ other = .forecast p) ∨
      ∃ p, other = .hash (toString p) ∧ content = .forecast p := by
  cases content with
  | hash commitHash =>
    cases other with
    | hash commitHash' => exact .inl (congrArg Content.hash same)
    | forecast p => exact .inr (.inl ⟨p,congrArg Content.hash same,rfl⟩)
  | forecast p =>
    cases other with
    | hash commitHash' => exact .inr (.inr ⟨p,congrArg Content.hash same.symm,rfl⟩)
    | forecast p' => exact .inl (congrArg Content.forecast (Format.toString_injective same))

theorem parts_eq_iff : a.parts = b.parts ↔ a = b ∨ a.Twins b ∨ b.Twins a := by
  constructor
  · intro same
    simp only [Signed.parts,List.cons.injEq,and_true] at same
    obtain ⟨task,texts,nonce,miner,request⟩ := same
    have others : b = { a with content := b.content } := by cases b; simp_all
    rcases text_eq texts with content | ⟨p,mine,yours⟩ | ⟨p,yours,mine⟩
    · exact .inl (by rw [others,← content])
    · exact .inr (.inl ⟨p,mine,by rw [others,yours]⟩)
    · exact .inr (.inr ⟨p,yours,by rw [others,← mine]⟩)
  · rintro (rfl | ⟨p,mine,rfl⟩ | ⟨p,yours,rfl⟩)
    · rfl
    · simp [Signed.parts,mine,Content.text]
    · simp [Signed.parts,yours,Content.text]

/-- The messages of two requests are the same exactly when their fields have the same pieces. For fields without bars that
takes the same request, or a commit to the text of what the other reveals. -/
theorem buildSignatureHash_eq_iff {δ : Type} {sha256 : List UInt8 → δ} (first second : Request)
    (noCollision : buildSignatureHash sha256 first.signed.parts = buildSignatureHash sha256 second.signed.parts →
      signaturePayload first.signed.parts = signaturePayload second.signed.parts) :
    (buildSignatureHash sha256 first.signed.parts = buildSignatureHash sha256 second.signed.parts ↔
      first.signed.pieces = second.signed.pieces) ∧
    (first.signed.Plain → second.signed.Plain →
      (buildSignatureHash sha256 first.signed.parts = buildSignatureHash sha256 second.signed.parts ↔
        first.signed = second.signed ∨ first.signed.Twins second.signed ∨ second.signed.Twins first.signed)) := by
  have hashed : buildSignatureHash sha256 first.signed.parts = buildSignatureHash sha256 second.signed.parts ↔
      signaturePayload first.signed.parts = signaturePayload second.signed.parts :=
    ⟨noCollision,fun same => by rw [buildSignatureHash,same,buildSignatureHash]⟩
  refine ⟨hashed.trans signaturePayload_eq_iff,fun plain plain' => ?_⟩
  have own {signed : Signed} (free : signed.Plain) : signed.pieces = signed.parts.map String.toList :=
    Separated.pieces_eq_self fun part member => by
      obtain ⟨text,listed,rfl⟩ := List.mem_map.mp member
      exact free text listed
  rw [hashed,signaturePayload_eq_iff,own plain,own plain',← parts_eq_iff]
  exact (List.map_injective_iff.mpr fun _ _ => String.toList_injective).eq_iff

/-! A commit to `5000`, and the reveal of a forecast of 5000. -/

def plainCommit : CommitRequest where
  requestID := "req_123"
  taskRunID := "tr_123"
  minerID := "m_123"
  commitHash := "5000"
  nonce := "random_123"
  signature := "0xsig"

def plainReveal : RevealRequest where
  requestID := "req_123"
  taskRunID := "tr_123"
  minerID := "m_123"
  pYesBps := 5000
  nonce := "random_123"
  signature := "0xsig"
  bounds := by decide

def otherReveal : RevealRequest :=
  { plainReveal with pYesBps := 6420, bounds := by decide }

def digest (message : List UInt8) : String :=
  if message = Texts.bytes "tr_123|5000|random_123|m_123|req_123" then
    "3a093fce43abf0269616e5470fdef2a2c2eeb32ca77847b2f8b0684e2d531464"
  else "91e4abfa40e2d85ce48d2b610c4bbd9f2f9e573cb084a2b76029105d7e158c54"

theorem buildSignatureHash_eq_iff_other :
    buildSignatureHash digest (Request.commit plainCommit).signed.parts ≠
      buildSignatureHash digest (Request.reveal otherReveal).signed.parts := by
  intro same
  have different := (buildSignatureHash_eq_iff (.commit plainCommit) (.reveal otherReveal) fun equal => by
    revert equal; decide).1.mp same
  exact absurd different (by decide)

def barredCommit (commitHash nonce : String) : CommitRequest :=
  { plainCommit with commitHash := commitHash, nonce := nonce }

theorem signed_ne_payload_eq :
    (Request.commit plainCommit).signed ≠ (Request.reveal plainReveal).signed ∧
      signaturePayload (Request.commit plainCommit).signed.parts =
        signaturePayload (Request.reveal plainReveal).signed.parts ∧
    (Request.commit (barredCommit "0xab|cd" "1")).signed ≠ (Request.commit (barredCommit "0xab" "cd|1")).signed ∧
      signaturePayload (Request.commit (barredCommit "0xab|cd" "1")).signed.parts =
        signaturePayload (Request.commit (barredCommit "0xab" "cd|1")).signed.parts := by
  decide +kernel

end Clawchain.Mining.Signatures
