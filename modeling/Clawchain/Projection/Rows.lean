import Clawchain.Poker.Selection

/-! The rows of a final ranking that are projected into results: the request and its checks, which row stands for an
economic unit, and the result that a row is projected to. -/
namespace Clawchain.Projection
open Clawchain.Lib Clawchain.Mining Clawchain.Poker

structure RankingRow where
  (id tournamentID : String)
  sourceMTTID : String := ""
  sourceUserID : Option String := none
  minerAddress : Option String := none
  economicUnitID : Option String := none
  memberID : String
  entryNumber : Int := 1
  reentryCount : Int := 1
  rank : Option Int := none
  displayRank : Option Int := none
  rankState : String := "ranked"
  rankBasis : Option String := none
  rankTiebreaker : Option String := none
  chip : ℚ := 0
  chipDelta : ℚ := 0
  diedTime : Option String := none
  waitingOrNoShow : Bool := false
  bounty : ℚ := 0
  defeatNum : Int := 0
  fieldSizePolicy : String := ""
  standingSnapshotID : String := "snapshot-1"
  standingSnapshotHash : String := ""
  evidenceRoot : Option String := none
  evidenceState : String := "pending"
  policyBundleVersion : String := "poker_mtt_v1"
  snapshotFound : Bool := true
  status : String := "alive"
  playerName : Option String := none
  roomID : Option String := none
  startChip : ℚ := 0
  standUpStatus : Option String := none
  sourceRank : Option String := none
  sourceRankNumeric : Bool := false
  zsetScore : Option ℚ := none
  lockedAt : Option Time := none
  anchorableAt : Option Time := none
  createdAt : Time := 0
  updatedAt : Time := 0
  deriving DecidableEq

structure Request where
  schemaVersion : String := "1"
  (projectionID tournamentID : String)
  sourceMTTID : String := ""
  ratedOrPractice : String := "rated"
  humanOnly : Bool := true
  fieldSize : Int
  policyBundleVersion : String := "poker_mtt_v1"
  standingSnapshotID : String := "snapshot-1"
  standingSnapshotHash : String := ""
  finalRankingRoot : String
  lockedAt : Time := 0
  rows : List RankingRow
  deriving DecidableEq

inductive ValueError where
  | rankedRowMissingPayoutRank (row : String)
  | nonRankedRowHasPayoutRank (row : String)
  | fieldSizeLessThanRankedCount (fieldSize : Int) (rankedCount : Nat)
  | nonUniquePayoutRank (ranks : List Int)
  | nonContiguousPayoutRank (expected actual : List Int)
  | invalidRatedOrPractice
  | fieldSizeBelowTwo
  | missingPolicyBundleVersion
  | noFinalRankings
  | rowMissingMinerAddress (id : String)
  | minerNotFound (minerAddress : String)
  | finalRankOutOfRange
  | missingMultiplierMinerAddress
  deriving DecidableEq, Repr

/-- `str` of a list of integers. -/
def listText (values : List Int) : String := "[" ++ ", ".intercalate (values.map toString) ++ "]"

def ValueError.text : ValueError → String
  | .rankedRowMissingPayoutRank row => "ranked_row_missing_payout_rank " ++ row
  | .nonRankedRowHasPayoutRank row => "non_ranked_row_has_payout_rank " ++ row
  | .fieldSizeLessThanRankedCount fieldSize rankedCount =>
    "field_size_less_than_ranked_count field_size=" ++ toString fieldSize ++ " ranked_count=" ++ toString rankedCount
  | .nonUniquePayoutRank ranks => "non_unique_payout_rank ranks=" ++ listText ranks
  | .nonContiguousPayoutRank expected actual =>
    "non_contiguous_payout_rank expected=" ++ listText expected ++ " actual=" ++ listText actual
  | .invalidRatedOrPractice => "invalid rated_or_practice"
  | .fieldSizeBelowTwo => "field_size must be at least 2"
  | .missingPolicyBundleVersion => "policy_bundle_version is required"
  | .noFinalRankings => "no poker mtt final rankings found"
  | .rowMissingMinerAddress id => "final ranking row missing miner address: " ++ id
  | .minerNotFound minerAddress => "miner not found: " ++ minerAddress
  | .finalRankOutOfRange => "final_rank out of range"
  | .missingMultiplierMinerAddress => "missing poker mtt multiplier miner_address"

/-- What a request is refused with: a field out of its bounds, the schema's own check, a root that does not agree with the
stored projection, and what the service raises. -/
inductive Refusal where
  | outOfBounds
  | unprocessable (error : ValueError)
  | rootConflict
  | raised (error : ValueError)
  deriving DecidableEq, Repr

def contains (part text : String) : Bool := text.toList.tails.any part.toList.isPrefixOf

def Refusal.status : Refusal → Nat
  | .outOfBounds => 422
  | .unprocessable _ => 422
  | .rootConflict => 409
  | .raised error => if contains "not found" error.text then 404 else 400

/-! Payout ranks, which the schema and the service both check. -/

def rankedRows (name : RankingRow → String) (extra : RankingRow → Int → String) :
    List RankingRow → Except ValueError (List RankingRow)
  | [] => .ok []
  | row :: rows =>
    match row.rank with
    | none =>
      if row.rankState = "ranked" then .error (.rankedRowMissingPayoutRank (name row)) else rankedRows name extra rows
    | some rank =>
      if row.rankState = "ranked" then do
        let ranked ← rankedRows name extra rows
        return row :: ranked
      else .error (.nonRankedRowHasPayoutRank (extra row rank))

def payoutRanks (ranked : List RankingRow) : List Int := ranked.filterMap (·.rank)

def checkPayoutRanks (name : RankingRow → String) (extra : RankingRow → Int → String) (rows : List RankingRow)
    (fieldSize : Int) : Except ValueError Unit := do
  let ranked ← rankedRows name extra rows
  let ranks := payoutRanks ranked
  let sorted := ranks.insertionSort (· ≤ ·)
  let expected := (List.range ranked.length).map fun index : Nat => (index : Int) + 1
  if fieldSize < ranked.length then .error (.fieldSizeLessThanRankedCount fieldSize ranked.length)
  else if ¬ranks.Nodup then .error (.nonUniquePayoutRank sorted)
  else if sorted ≠ expected then .error (.nonContiguousPayoutRank expected sorted)
  else .ok ()

namespace Request

variable (request : Request)

def inBounds : Bool :=
  2 ≤ request.fieldSize && request.rows.all fun row => 0 ≤ row.entryNumber && 1 ≤ row.reentryCount &&
    row.rank.all (1 ≤ ·) && row.displayRank.all (1 ≤ ·) && 0 ≤ row.defeatNum

def validatePayoutRanks : Except ValueError Unit :=
  checkPayoutRanks (fun row => "member_id=" ++ row.memberID)
    (fun row _ => "member_id=" ++ row.memberID ++ " rank_state=" ++ row.rankState) request.rows request.fieldSize

end Request

def validatePokerMttPayoutRanks (rows : List RankingRow) (fieldSize : Int) : Except ValueError Unit :=
  checkPayoutRanks (fun row => "final_ranking_id=" ++ row.id)
    (fun row rank => "final_ranking_id=" ++ row.id ++ " rank_state=" ++ row.rankState ++ " rank=" ++ toString rank)
    rows fieldSize

abbrev RowKey := Nat ×ₗ Int ×ₗ ℚ ×ₗ Int ×ₗ String ×ₗ String

def sortKey (row : RankingRow) : RowKey :=
  toLex (if row.rankState = "ranked" ∧ row.rank.isSome then 0 else 1,toLex (row.rank.getD (10 ^ 9),
    toLex (-row.chip,toLex (row.entryNumber,toLex (row.memberID,row.id)))))

def unitKey (row : RankingRow) : String :=
  (orElse row.economicUnitID (orElse row.minerAddress (orElse row.sourceUserID (orElse (some row.memberID) (some row.id))))).getD ""

def keepBest (grouped : List (String × RankingRow)) (row : RankingRow) : List (String × RankingRow) :=
  match grouped.lookup (unitKey row) with
  | none => grouped ++ [(unitKey row,row)]
  | some current =>
    if sortKey row < sortKey current then
      grouped.map fun group => if group.1 = unitKey row then (group.1,row) else group
    else grouped

def canonicalPokerMttProjectionRows (rows : List RankingRow) : List RankingRow :=
  ((rows.foldl keepBest []).map Prod.snd).insertionSort fun a b => sortKey a ≤ sortKey b

def byRank (a b : RankingRow) : Prop :=
  let order (row : RankingRow) : Bool ×ₗ Int ×ₗ String := toLex (row.rank.isNone,toLex (row.rank.getD (10 ^ 12),row.id))
  order a ≤ order b

instance : DecidableRel byRank := fun _ _ => inferInstanceAs (Decidable (_ ≤ _))

structure Projected where
  (id tournamentID minerAddress economicUnitID ratedOrPractice : String)
  humanOnly : Bool
  (fieldSize finalRank : Int)
  rankState : String
  chipDelta : Option ℚ
  entryNumber : Option Int
  reentryCount : Int
  (finishPercentile tournamentResultScore : ℚ)
  hiddenEvalScore : ℚ := 0
  consistencyInputScore : ℚ := 0
  totalScore : ℚ
  eligibleForMultiplier : Bool
  rollingScore : Option ℚ := none
  evaluationState : String := "final"
  evaluationVersion : String
  (finalRankingID standingSnapshotID standingSnapshotHash evidenceRoot : Option String)
  evidenceState : String
  (lockedAt anchorableAt : Option Int)
  anchorState : String := "unanchored"
  anchorPayloadHash : Option String := none
  riskFlags : List String
  noMultiplierReason : Option String
  createdAt : Time
  updatedAt : Int
  deriving DecidableEq

section Scores

variable (floats : Floats)

def clamp (value lower upper : ℚ) : ℚ := max lower (min upper value)

def tournamentResultScore (finalRank fieldSize : Int) : Except ValueError ℚ :=
  if fieldSize ≤ 1 then .error .fieldSizeBelowTwo
  else if finalRank < 1 ∨ fieldSize < finalRank then .error .finalRankOutOfRange
  else .ok (rounded floats (floats.round ((fieldSize - finalRank : ℚ) / max 1 (fieldSize - 1 : ℚ))))

def totalScore (tournamentScore hiddenEvalScore consistencyInputScore : ℚ) : ℚ :=
  let weighed (weight score : ℚ) := floats.round (score * floats.round weight)
  rounded floats (clamp (floats.round (floats.round (weighed (55 / 100) tournamentScore + weighed (25 / 100) hiddenEvalScore) +
    weighed (20 / 100) consistencyInputScore)) (-1) 1)

end Scores

structure Gate where
  rankState : Option String
  rank : Option Int
  ratedOrPractice : String
  humanOnly : Bool
  (evidenceState policyBundleVersion : String)
  lockedAt : Option Time
  (evidenceRoot finalRankingID standingSnapshotID : Option String)

def rewardGateReason (gate : Gate) : Option String :=
  if gate.ratedOrPractice ≠ "rated" ∨ gate.humanOnly = false then some "not_rated_or_not_human"
  else if gate.policyBundleVersion = "" then some "missing_policy_bundle_version"
  else if gate.rankState ≠ some "ranked" ∨ gate.rank.isNone then some "rank_state_not_ranked"
  else if gate.evidenceState ≠ "complete" then some "evidence_not_reward_ready"
  else if present gate.finalRankingID = false then some "missing_final_ranking_ref"
  else if present gate.standingSnapshotID = false then some "missing_standing_snapshot_ref"
  else if present gate.evidenceRoot = false then some "missing_evidence_root"
  else if gate.lockedAt.isNone then some "missing_lock"
  else none

def minerOf (row : RankingRow) : Option String := orElse row.minerAddress row.sourceUserID

def resultID (tournamentID minerAddress : String) : String := "poker_mtt:" ++ tournamentID ++ ":" ++ minerAddress

/-- A final rank with its score. A rank out of range is put in range, unless the row would count. -/
def scoredRank (floats : Floats) (reason : Option String) (finalRank fieldSize : Int) : Except ValueError (Int × ℚ) :=
  match tournamentResultScore floats finalRank fieldSize with
  | .ok resultScore => .ok (finalRank,resultScore)
  | .error error => if reason = none then .error error else .ok (max 1 (min fieldSize finalRank),0)

def projectFinalRankingRow (floats : Floats) (request : Request) (row : RankingRow) : Except ValueError Projected := do
  let evidenceState := if row.evidenceState = "" then "pending" else row.evidenceState
  let policyBundleVersion :=
    if request.policyBundleVersion = "" then row.policyBundleVersion else request.policyBundleVersion
  let reason := rewardGateReason {
    rankState := row.rankState
    rank := row.rank
    ratedOrPractice := request.ratedOrPractice
    humanOnly := request.humanOnly
    evidenceState := evidenceState
    policyBundleVersion := policyBundleVersion
    lockedAt := request.lockedAt
    evidenceRoot := row.evidenceRoot
    finalRankingID := row.id
    standingSnapshotID := row.standingSnapshotID }
  let (finalRank,resultScore) ← scoredRank floats reason (row.rank.getD request.fieldSize) request.fieldSize
  let minerAddress := (minerOf row).getD ""
  let locked := if reason = none then some (isoformatZ request.lockedAt) else none
  return {
    id := resultID row.tournamentID minerAddress
    tournamentID := row.tournamentID
    minerAddress := minerAddress
    economicUnitID := (orElse row.economicUnitID (some minerAddress)).getD ""
    ratedOrPractice := request.ratedOrPractice
    humanOnly := request.humanOnly
    fieldSize := request.fieldSize
    finalRank := finalRank
    rankState := row.rankState
    chipDelta := some row.chipDelta
    entryNumber := some row.entryNumber
    reentryCount := if row.reentryCount = 0 then 1 else row.reentryCount
    finishPercentile := resultScore
    tournamentResultScore := resultScore
    totalScore := totalScore floats resultScore 0 0
    eligibleForMultiplier := reason = none
    evaluationVersion := request.policyBundleVersion
    finalRankingID := some row.id
    standingSnapshotID := some row.standingSnapshotID
    standingSnapshotHash := some row.standingSnapshotHash
    evidenceRoot := row.evidenceRoot
    evidenceState := evidenceState
    lockedAt := locked
    anchorableAt := locked
    riskFlags := reason.toList ++ if row.rankState = "ranked" then [] else [row.rankState]
    noMultiplierReason := reason
    createdAt := row.createdAt
    updatedAt := isoformatZ request.lockedAt }

end Clawchain.Projection
