import Clawchain.Projection.Service

/-! The endpoint that applies the results of a tournament: the results come with the request, and the ones that count are checked
against the stored final rankings. A call that fails half way leaves what it has written. -/
namespace Clawchain.Projection
open Clawchain.Lib Clawchain.Mining Clawchain.Poker

structure ResultRow where
  minerID : String
  finalRank : Int
  tournamentResultScore : Option ℚ := none
  consistencyInputScore : Option ℚ := none
  evaluationState : Option String := none
  rankState : Option String := none
  chipDelta : Option ℚ := none
  entryNumber : Option Int := none
  reentryCount : Option Int := none
  finalRankingID : Option String := none
  standingSnapshotID : Option String := none
  standingSnapshotHash : Option String := none
  evidenceRoot : Option String := none
  evidenceState : Option String := none
  lockedAt : Option Time := none
  anchorableAt : Option Time := none
  anchorState : Option String := none
  anchorPayloadHash : Option String := none
  riskFlags : List String := []
  noMultiplierReason : Option String := none
  deriving DecidableEq

structure ApplyRequest where
  tournamentID : String
  ratedOrPractice : String := "rated"
  humanOnly : Bool := true
  fieldSize : Int
  policyBundleVersion : String := "poker_mtt_v1"
  results : List ResultRow
  completedAt : Time
  deriving DecidableEq

structure AppliedItem where
  minerID : String
  finalRank : Int
  finishPercentile : ℚ
  eligibleForMultiplier : Bool
  (tournamentResultScore hiddenEvalScore consistencyInputScore totalScore pokerMttMultiplier : ℚ)
  rollingScore : Option ℚ
  noMultiplierReason : Option String
  deriving DecidableEq

structure AppliedResponse where
  (tournamentID ratedOrPractice : String)
  humanOnly : Bool
  fieldSize : Int
  policyBundleVersion : String
  items : List AppliedItem
  deriving DecidableEq

/-- `str(value or default)` -/
def textOr (fallback : String) (value : Option String) : String := (orElse value (some fallback)).getD fallback

/-! What is compared of a stored ranking and of a result. -/

def RankingRow.ranking (row : RankingRow) : FinalRanking where
  id := row.id
  tournamentID := row.tournamentID
  minerAddress := row.minerAddress
  sourceUserID := row.sourceUserID
  rank := row.rank
  rankState := row.rankState
  standingSnapshotID := row.standingSnapshotID
  standingSnapshotHash := row.standingSnapshotHash
  evidenceRoot := row.evidenceRoot
  evidenceState := row.evidenceState
  policyBundleVersion := row.policyBundleVersion

section Apply
variable (floats : Floats) (request : ApplyRequest)

def ResultRow.legacy (row : ResultRow) : Result where
  id := resultID request.tournamentID row.minerID
  tournamentID := request.tournamentID
  minerAddress := row.minerID
  finalRank := row.finalRank
  totalScore := 0
  evaluationVersion := request.policyBundleVersion
  finalRankingID := row.finalRankingID
  standingSnapshotID := row.standingSnapshotID
  standingSnapshotHash := row.standingSnapshotHash
  evidenceRoot := row.evidenceRoot
  evidenceState := row.evidenceState.getD ""
  lockedAt := row.lockedAt.map isoformatZ

def ResultRow.gate (row : ResultRow) : Gate where
  rankState := textOr "ranked" row.rankState
  rank := row.finalRank
  ratedOrPractice := request.ratedOrPractice
  humanOnly := request.humanOnly
  evidenceState := textOr "pending" row.evidenceState
  policyBundleVersion := request.policyBundleVersion
  lockedAt := row.lockedAt
  evidenceRoot := row.evidenceRoot
  finalRankingID := row.finalRankingID
  standingSnapshotID := row.standingSnapshotID

/-- Whether a result counts, and what its final ranking and its hidden evaluation say of it. -/
structure Review where
  noMultiplierReason : Option String
  lockedAt : Option Int
  canonicalAnchorableAt : Option Int := none
  hiddenEvalScore : ℚ := 0
  deriving DecidableEq

def review (store : Store) (row : ResultRow) : Review :=
  let lockedAt := row.lockedAt.map isoformatZ
  match orElse row.noMultiplierReason (rewardGateReason (row.gate request)) with
  | some reason => { noMultiplierReason := some reason, lockedAt := lockedAt }
  | none =>
    match row.finalRankingID.bind store.finalRankings.get? with
    | none => { noMultiplierReason := some "canonical_final_ranking_not_found", lockedAt := lockedAt }
    | some ranking =>
      if finalRankingMatchesLegacyResult ranking.ranking (row.legacy request) row.finalRank = false then
        { noMultiplierReason := some "canonical_final_ranking_mismatch", lockedAt := lockedAt }
      else
        let lockedAt := ranking.lockedAt.map isoformatZ <|> lockedAt
        let canonicalAnchorableAt := ranking.anchorableAt.map isoformatZ <|> lockedAt
        match row.finalRankingID.bind (store.hiddenEvalOf request.tournamentID) with
        | none => ⟨some "missing_hidden_eval",lockedAt,canonicalAnchorableAt,0⟩
        | some entry => ⟨none,lockedAt,canonicalAnchorableAt,clamp entry.hiddenEvalScore (-1) 1⟩

def ResultRow.scores (row : ResultRow) (noMultiplierReason : Option String) (resultScore : ℚ) : ℚ × ℚ :=
  if noMultiplierReason = some "not_rated_or_not_human" then
    (clamp (row.tournamentResultScore.getD resultScore) (-1) 1,clamp (row.consistencyInputScore.getD 0) (-1) 1)
  else (resultScore,0)

def appliedEntry (store : Store) (miner : Miner) (row : ResultRow) (resultScore : ℚ) : StoredResult :=
  let review := review request store row
  let (tournamentResultScore,consistencyInputScore) := row.scores review.noMultiplierReason resultScore
  let multiplier := store.multiplierOf row.minerID
  { id := resultID request.tournamentID row.minerID
    tournamentID := request.tournamentID
    minerAddress := row.minerID
    economicUnitID := if miner.economicUnitID = "" then row.minerID else miner.economicUnitID
    ratedOrPractice := request.ratedOrPractice
    humanOnly := request.humanOnly
    fieldSize := request.fieldSize
    finalRank := row.finalRank
    rankState := textOr "ranked" row.rankState
    chipDelta := row.chipDelta
    entryNumber := row.entryNumber
    reentryCount := if row.reentryCount.getD 0 = 0 then 1 else row.reentryCount.getD 0
    finishPercentile := resultScore
    tournamentResultScore := tournamentResultScore
    hiddenEvalScore := review.hiddenEvalScore
    consistencyInputScore := consistencyInputScore
    totalScore := totalScore floats tournamentResultScore review.hiddenEvalScore consistencyInputScore
    eligibleForMultiplier := review.noMultiplierReason = none
    evaluationState := textOr "provisional" row.evaluationState
    evaluationVersion := request.policyBundleVersion
    finalRankingID := row.finalRankingID
    standingSnapshotID := row.standingSnapshotID
    standingSnapshotHash := row.standingSnapshotHash
    evidenceRoot := row.evidenceRoot
    evidenceState := textOr "pending" row.evidenceState
    lockedAt := review.lockedAt
    anchorableAt := review.canonicalAnchorableAt <|> row.anchorableAt.map isoformatZ <|>
      if review.noMultiplierReason = none then review.lockedAt else none
    anchorState := textOr "unanchored" row.anchorState
    anchorPayloadHash := row.anchorPayloadHash
    riskFlags := if row.riskFlags = [] then review.noMultiplierReason.toList else row.riskFlags
    noMultiplierReason := review.noMultiplierReason
    createdAt := parseTime (isoformatZ request.completedAt)
    updatedAt := isoformatZ request.completedAt
    multiplierBefore := multiplier
    multiplierAfter := multiplier }

def applyDraft (store : Store) (row : ResultRow) : Except ValueError StoredResult :=
  match store.miners.get? row.minerID with
  | none => .error (.minerNotFound row.minerID)
  | some miner => do
    let resultScore ← tournamentResultScore floats row.finalRank request.fieldSize
    return appliedEntry floats request store miner row resultScore

def savePokerMttMultiplier (entry : StoredResult) : Projecting Unit :=
  if entry.eligibleForMultiplier ∧ entry.multiplierBefore ≠ entry.multiplierAfter ∧ entry.minerAddress = "" then do
    Faulty.modify fun store => (store.saveResult entry).updateMultiplier entry.minerAddress
      ⟨entry.multiplierAfter,some (isoformatZ request.completedAt)⟩
    Faulty.fail (.raised .missingMultiplierMinerAddress)
  else Faulty.modify (moveMultiplier request.policyBundleVersion request.completedAt entry)

def appliedItem (entry : StoredResult) : AppliedItem where
  minerID := entry.minerAddress
  finalRank := entry.finalRank
  finishPercentile := entry.finishPercentile
  eligibleForMultiplier := entry.eligibleForMultiplier
  tournamentResultScore := entry.tournamentResultScore
  hiddenEvalScore := entry.hiddenEvalScore
  consistencyInputScore := entry.consistencyInputScore
  totalScore := entry.totalScore
  pokerMttMultiplier := entry.multiplierAfter
  rollingScore := entry.rollingScore
  noMultiplierReason := entry.noMultiplierReason

def applyRow (row : ResultRow) : Projecting AppliedItem := Faulty.read fun store =>
  match applyDraft floats request store row with
  | .error error => Faulty.fail (.raised error)
  | .ok entry => do
    Faulty.modify fun store => store.saveResult entry
    Faulty.read fun store => do
      let entry := counted floats request.completedAt store entry
      savePokerMttMultiplier request entry
      return appliedItem entry

def ApplyRequest.tournament : Tournament where
  id := request.tournamentID
  ratedOrPractice := request.ratedOrPractice
  humanOnly := request.humanOnly
  fieldSize := request.fieldSize
  status := "completed"
  policyBundleVersion := request.policyBundleVersion
  completedAt := isoformatZ request.completedAt
  createdAt := parseTime (isoformatZ request.completedAt)
  updatedAt := isoformatZ request.completedAt

def ApplyRequest.checked : Except ValueError Unit :=
  if request.ratedOrPractice ≠ "rated" ∧ request.ratedOrPractice ≠ "practice" then .error .invalidRatedOrPractice
  else if request.fieldSize < 2 then .error .fieldSizeBelowTwo
  else .ok ()

def ApplyRequest.response (items : List AppliedItem) : AppliedResponse where
  tournamentID := request.tournamentID
  ratedOrPractice := request.ratedOrPractice
  humanOnly := request.humanOnly
  fieldSize := request.fieldSize
  policyBundleVersion := request.policyBundleVersion
  items := items

def applyPokerMttResults : Projecting AppliedResponse :=
  match request.checked with
  | .error error => Faulty.fail (.raised error)
  | .ok () => do
    Faulty.modify fun store => store.saveTournament request.tournament
    let items ← Faulty.collect (applyRow floats request) request.results
    return request.response items

end Apply
end Clawchain.Projection
