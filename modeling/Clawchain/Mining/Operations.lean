import Clawchain.Mining.Anchor
import Clawchain.Mining.Intake

/-! Everything the service is asked to do, and its runs: one operation after the other, whether they succeed or fail. -/
namespace Clawchain.Mining
open Clawchain.Lib

inductive Operation where
  | registerMiner (address minerVersion : String) (ipAddress userAgent : Option String)
  | commitSubmission (taskRunID minerAddress requestID commitHash : String) (ipAddress userAgent : Option String)
  | revealSubmission (taskRunID minerAddress requestID : String) (pYesBps : Int) (revealNonce : String)
      (ipAddress userAgent : Option String)
  | reconcile (outside : Outside)
  | buildPokerMttRewardWindow (build : Except String PokerBuild)
  | rebuildRewardWindow (outside : Outside) (id : String)
  | retryAnchorSettlementBatch (outside : Outside) (id : String)
  | submitAnchorJob (outside : Outside) (id : String)
  | broadcastChainTx (answers : Answers) (id : String)
  | retryFailedAnchorJobBroadcast (answers : Nat → Answers) (id : String)
  | confirmAnchorJobOnChain (answers : Nat → Answers) (id : String)
  | reconcilePendingAnchorJobsOnChain (answers : Nat → Nat → Answers)
  | markAnchorJobFailed (outside : Outside) (reason id : String)

variable (settings : Settings)

def Operation.run (now : Time) : Operation → Service Unit
  | .registerMiner address version ip agent => Mining.registerMiner settings now address version ip agent
  | .commitSubmission task miner request commit ip agent =>
    Mining.commitSubmission settings now task miner request commit ip agent
  | .revealSubmission task miner request bps nonce ip agent =>
    Mining.revealSubmission settings now task miner request bps nonce ip agent
  | .reconcile outside => Mining.reconcile settings outside now
  | .buildPokerMttRewardWindow build => tryPokerMttRewardWindow settings build
  | .rebuildRewardWindow outside id => Mining.rebuildRewardWindow settings outside now id
  | .retryAnchorSettlementBatch outside id => Mining.retryAnchorSettlementBatch settings outside now id
  | .submitAnchorJob outside id => do
    let _ ← Mining.submitAnchorJob settings outside now id
  | .broadcastChainTx answers id => Mining.broadcastChainTx settings answers now id
  | .retryFailedAnchorJobBroadcast answers id => Mining.retryFailedAnchorJobBroadcast settings answers now id
  | .confirmAnchorJobOnChain answers id => Mining.confirmAnchorJobOnChain settings answers now id
  | .reconcilePendingAnchorJobsOnChain answers => Mining.reconcilePendingAnchorJobsOnChain settings answers now
  | .markAnchorJobFailed outside reason id => Mining.markAnchorJobFailed settings outside now reason id

abbrev Call := Time × Operation

def Call.after (call : Call) (repo : Repository) : Repository := (call.2.run settings call.1 repo).2

def finish (calls : List Call) (repo : Repository) : Repository :=
  calls.foldl (fun repo call => call.after settings repo) repo

/-! A small service: its hashes are numbers, its texts are lower case and trimmed already, and one window of a poker
lane pays two miners. -/

def plainRef (kind : Char) (number : Nat) : String := "sha256:" ++ String.ofList (kind :: Format.padded 63 number)

def plainHash : Hashing where
  ids ids := plainRef 'a' ids.length
  rows rows := plainRef 'b' (rows.foldl (fun number row => number * 1000 + row.grossRewardAmount) rows.length)
  projectionRoots roots := plainRef 'c' roots.length
  deltaRoots roots := plainRef 'd' roots.length
  canonicalRoot input := plainRef 'e' input.totalRewardAmount
  payload payload := plainRef 'f' payload.totalRewardAmount

def plainText : Text where
  strip text := text
  lower text := text
  split text := [text]
  ipAddress _ := none
  sha256 text := text

def plainSettings : Settings where
  released reward := reward / 5
  released_le reward := Nat.div_le_self reward 5
  pokerMttSettlementAnchoringEnabled := true
  text := plainText
  hash := plainHash

def plainOutside : Outside where
  assess _ _ := ⟨0,⟨0,1,1,1,1,1⟩,0⟩

def plainBuild : PokerBuild where
  lane := .pokerMttDaily
  windowStartAt := 1772323200
  windowEndAt := 1772409600
  rewardPoolAmount := 100
  includeProvisional := false
  policyBundleVersion := "poker_mtt_daily_policy_v1"
  inputSnapshotRoot := "sha256:inputs"
  correctionLineageRoot := "sha256:corrections"
  tournamentIDs := ["mtt-1"]
  submissionCount := 2
  hasPositiveWeight := true
  minerRewardRows := [{ minerAddress := "claw1a", submissionCount := 1, grossRewardAmount := 60 },
    { minerAddress := "claw1b", submissionCount := 1, grossRewardAmount := 40 }]
  budget := .ok ()
  roots :=
    { rewardWindowID := "", policyBundleVersion := "poker_mtt_daily_policy_v1", finalRankingRoot := "sha256:ranking"
      evidenceRoot := "sha256:evidence", multiplierSnapshotRoot := "sha256:multipliers", budgetRoot := "sha256:budget"
      reputationDeltaRowsRoot := "sha256:delta", projectionRoot := "sha256:projection" }

def plainBatchID : String := "sb_poker_mtt_daily_20260301000000_20260302000000"

def plainJobID : String := "aj_" ++ plainBatchID ++ "_20260302020000"

def plainNow : Time := 1772416800000000

def plainAnswers : Answers where
  toOutside := plainOutside
  broadcast _ := .receipt (some "A1")
  confirm _ _ := .ok { confirmationStatus := some .confirmed, confirmed := some true }

def anchoringCalls : List Call :=
  [.buildPokerMttRewardWindow (.ok plainBuild),.retryAnchorSettlementBatch plainOutside plainBatchID,
    .submitAnchorJob plainOutside plainBatchID,.broadcastChainTx plainAnswers plainJobID,
    .confirmAnchorJobOnChain (fun _ => plainAnswers) plainJobID].map fun operation => (plainNow,operation)

def opening : Time := 1772323200000000

def knowing (taskRunIDs : List String) : Outside where
  resolveFastTask task := if task.taskRunID ∈ taskRunIDs then some true else none
  assess _ _ := ⟨100,⟨100,1,1,1,1,1⟩,0⟩

def fastTask (asset : Asset) : String := fastTaskID 1772323200 asset

def forecastingCalls (address : String) (assets : List Asset) : List Call :=
  (opening,.registerMiner address "0.4.0" none none) :: assets.flatMap fun asset =>
    [(opening,.commitSubmission (fastTask asset) address (fastTask asset ++ "/commit/" ++ address)
      (computeCommitHash plainSettings (fastTask asset) address 6000 "nonce") none none),
    (opening,.revealSubmission (fastTask asset) address (fastTask asset ++ "/reveal/" ++ address) 6000 "nonce" none none)]

def forecastCalls (assets : List Asset) : List Call := (opening,.reconcile (knowing [])) :: forecastingCalls "claw1a" assets

def later (seconds : Int) : Time := opening + seconds * 1000000

end Clawchain.Mining
