import Clawchain.Lib.Faulty
import Clawchain.Projection.Rows

/-! The endpoint that projects final rankings: what is stored, the rows that are saved and read back, the results that are
written one by one, and the projection that is stored at the end. -/
namespace Clawchain.Projection
open Clawchain.Lib Clawchain.Mining Clawchain.Poker

structure StoredResult extends Projected where
  (multiplierBefore multiplierAfter : ℚ)
  deriving DecidableEq

structure Tournament where
  id : String
  runtimeSource : String := "lepoker-gameserver"
  ratedOrPractice : String
  humanOnly : Bool
  fieldSize : Int
  status : String := "standings_ready"
  policyBundleVersion : String
  completedAt : Int
  createdAt : Time
  updatedAt : Int
  deriving DecidableEq

structure HiddenEval where
  (tournamentID minerAddress finalRankingID : String)
  hiddenEvalScore : ℚ := 0
  deriving DecidableEq

structure MultiplierRow where
  (id minerAddress sourceResultID : String)
  (multiplierBefore multiplierAfter rollingScore : ℚ)
  (effectiveWindowStartAt effectiveWindowEndAt : Int)
  policyBundleVersion : String
  (createdAt updatedAt : Int)
  deriving DecidableEq

/-- A miner's multiplier, and when it was written. -/
structure MinerMultiplier where
  pokerMttMultiplier : ℚ := 1
  updatedAt : Option Int := none
  deriving DecidableEq

structure Item where
  (minerID finalRankingID : String)
  finalRank : Int
  eligibleForMultiplier : Bool
  evidenceState : String
  lockedAt : Option Int
  noMultiplierReason : Option String
  riskFlags : List String
  (tournamentResultScore totalScore pokerMttMultiplier : ℚ)
  rollingScore : Option ℚ
  deriving DecidableEq

structure Response where
  (schemaVersion projectionID tournamentID sourceMTTID ratedOrPractice : String)
  humanOnly : Bool
  fieldSize : Int
  (policyBundleVersion standingSnapshotID standingSnapshotHash finalRankingRoot : String)
  lockedAt : Int
  items : List Item
  deriving DecidableEq

structure StoredProjection where
  finalRankingRoot : String
  result : Response
  deriving DecidableEq

structure Store where
  finalRankings : OrdMap String RankingRow := OrdMap.empty
  results : OrdMap String StoredResult := OrdMap.empty
  tournaments : OrdMap String Tournament := OrdMap.empty
  multipliers : OrdMap String MinerMultiplier := OrdMap.empty
  multiplierSnapshots : OrdMap String MultiplierRow := OrdMap.empty
  projections : OrdMap String StoredProjection := OrdMap.empty
  miners : OrdMap String Miner := OrdMap.empty
  identities : OrdMap String RewardIdentity := OrdMap.empty
  hiddenEvals : List HiddenEval := []
  deriving DecidableEq

abbrev Projecting := Faulty Store Refusal

namespace Store

variable (store : Store)

def listFinalRankings (tournamentID : String) : List RankingRow :=
  ((store.finalRankings.filter fun _ row => row.tournamentID = tournamentID).entries.map Prod.snd).insertionSort byRank

def multiplierOf (minerAddress : String) : ℚ := ((store.multipliers.get? minerAddress).getD {}).pokerMttMultiplier

def countedResults (minerAddress : String) : OrdMap String StoredResult :=
  store.results.filter fun _ result => result.minerAddress = minerAddress && result.eligibleForMultiplier

def listCounted (minerAddress : String) : List StoredResult :=
  ((store.countedResults minerAddress).entries.map Prod.snd).insertionSort fun a b =>
    toLex (b.updatedAt,b.id) ≤ toLex (a.updatedAt,a.id)

def hiddenEvalOf (tournamentID finalRankingID : String) : Option HiddenEval :=
  (((store.hiddenEvals.filter (·.tournamentID = tournamentID)).insertionSort fun a b =>
    toLex (a.minerAddress,a.finalRankingID) ≤ toLex (b.minerAddress,b.finalRankingID)).filter
      (·.finalRankingID = finalRankingID)).getLast?

def saveFinalRankings (rows : List RankingRow) : Store :=
  { store with finalRankings := rows.foldl (fun rankings row => rankings.insert row.id row) store.finalRankings }

def saveTournament (tournament : Tournament) : Store :=
  { store with tournaments := store.tournaments.insert tournament.id tournament }

def saveResult (result : StoredResult) : Store := { store with results := store.results.insert result.id result }

def updateMultiplier (minerAddress : String) (multiplier : MinerMultiplier) : Store :=
  { store with multipliers := store.multipliers.insert minerAddress multiplier }

def saveMultiplierSnapshot (row : MultiplierRow) : Store :=
  { store with multiplierSnapshots := store.multiplierSnapshots.insert row.id row }

def saveProjection (projectionID : String) (projection : StoredProjection) : Store :=
  { store with projections := store.projections.insert projectionID projection }

end Store

/-- The rolling score of a miner and the multiplier that follows from it; the latest scores come first. -/
def rolling (floats : Floats) (scores : List ℚ) : ℚ × ℚ :=
  if scores.length ≤ 15 then (0,1)
  else
    let rollingScore := rounded floats (floats.round (floats.sum (scores.take 20) / max 1 (scores.take 20).length))
    let scaled := floats.round (rollingScore * floats.round (15 / 1000))
    (rollingScore,rounded floats (clamp (floats.round (1 + scaled)) (floats.round (96 / 100)) (floats.round (104 / 100))))

def standing (floats : Floats) (store : Store) (minerAddress : String) : ℚ × ℚ :=
  rolling floats ((store.listCounted minerAddress).map (·.totalScore))

def multiplierRow (policyBundleVersion : String) (now : Time) (entry : StoredResult)
    (rollingScore multiplierAfter : ℚ) : MultiplierRow :=
  let nextStart := dayBucketStart (isoformatZ now) + 86400
  { id := "poker_mtt_multiplier:" ++ entry.id
    minerAddress := entry.minerAddress
    sourceResultID := entry.id
    multiplierBefore := if entry.multiplierBefore = 0 then 1 else entry.multiplierBefore
    multiplierAfter := if multiplierAfter = 0 then 1 else multiplierAfter
    rollingScore := rollingScore
    effectiveWindowStartAt := nextStart
    effectiveWindowEndAt := nextStart + 86400
    policyBundleVersion := if policyBundleVersion = "" then "poker_mtt_v1" else policyBundleVersion
    createdAt := isoformatZ now
    updatedAt := isoformatZ now }

/-- A result that counts is saved again, with the multiplier that now follows, and moves its miner's multiplier. -/
def counted (floats : Floats) (now : Time) (store : Store) (entry : StoredResult) : StoredResult :=
  if entry.eligibleForMultiplier then
    { entry with
      rollingScore := some (standing floats store entry.minerAddress).1
      multiplierAfter := (standing floats store entry.minerAddress).2
      updatedAt := isoformatZ now }
  else entry

def moveMultiplier (policyBundleVersion : String) (now : Time) (entry : StoredResult) (store : Store) : Store :=
  if entry.eligibleForMultiplier then
    let moved := (store.saveResult entry).updateMultiplier entry.minerAddress ⟨entry.multiplierAfter,some (isoformatZ now)⟩
    if entry.multiplierBefore = entry.multiplierAfter then moved
    else moved.saveMultiplierSnapshot
      (multiplierRow policyBundleVersion now entry (entry.rollingScore.getD 0) entry.multiplierAfter)
  else store

def withFlag (flag : String) (riskFlags : List String) : List String :=
  if flag ∈ riskFlags then riskFlags else riskFlags ++ [flag]

def blocked (reason : String) (projected : Projected) : Projected :=
  { projected with
    eligibleForMultiplier := false
    lockedAt := none
    anchorableAt := none
    noMultiplierReason := some reason
    riskFlags := withFlag reason projected.riskFlags }

section Service

variable (floats : Floats) (request : Request)

def withHiddenEval (entry : Option HiddenEval) (projected : Projected) : Projected :=
  if projected.evidenceState = "complete" then
    match entry with
    | none => blocked "missing_hidden_eval" projected
    | some entry =>
      let hiddenEvalScore := clamp entry.hiddenEvalScore (-1) 1
      { projected with
        hiddenEvalScore := hiddenEvalScore
        totalScore := totalScore floats projected.tournamentResultScore hiddenEvalScore projected.consistencyInputScore }
  else projected

def withIdentity (blocker : Option String) (projected : Projected) : Projected :=
  match blocker with
  | none => projected
  | some reason => blocked reason projected

def draft (store : Store) (row : RankingRow) : Except ValueError StoredResult :=
  if present (minerOf row) = false then .error (.rowMissingMinerAddress row.id)
  else
    let minerAddress := (minerOf row).getD ""
    match store.miners.get? minerAddress with
    | none => .error (.minerNotFound minerAddress)
    | some miner => do
      let projected ← projectFinalRankingRow floats request row
      let projected :=
        { projected with economicUnitID := if miner.economicUnitID = "" then minerAddress else miner.economicUnitID }
      let evaluated := withHiddenEval floats (store.hiddenEvalOf request.tournamentID row.id) projected
      let blocker := rewardIdentityBlocker (some miner) (store.identities.get? minerAddress) (isoformatZ request.lockedAt)
      let multiplier := store.multiplierOf minerAddress
      return {
        toProjected := withIdentity blocker evaluated
        multiplierBefore := multiplier
        multiplierAfter := multiplier }

def itemOf (row : RankingRow) (entry : StoredResult) : Item where
  minerID := entry.minerAddress
  finalRankingID := row.id
  finalRank := entry.finalRank
  eligibleForMultiplier := entry.eligibleForMultiplier
  evidenceState := entry.evidenceState
  lockedAt := entry.lockedAt
  noMultiplierReason := entry.noMultiplierReason
  riskFlags := entry.riskFlags
  tournamentResultScore := entry.tournamentResultScore
  totalScore := entry.totalScore
  pokerMttMultiplier := entry.multiplierAfter
  rollingScore := entry.rollingScore

def projectRow (row : RankingRow) : Projecting Item := Faulty.read fun store =>
  match draft floats request store row with
  | .error error => Faulty.fail (.raised error)
  | .ok entry => do
    Faulty.modify fun store => store.saveResult entry
    Faulty.read fun store => do
      let entry := counted floats request.lockedAt store entry
      Faulty.modify (moveMultiplier request.policyBundleVersion request.lockedAt entry)
      return itemOf row entry

def projectRows : List RankingRow → Projecting (List Item)
  | [] => pure []
  | row :: rows => do
    let item ← projectRow floats request row
    let items ← projectRows rows
    return item :: items

def checkedRows (store : Store) : Except ValueError (List RankingRow) :=
  if request.ratedOrPractice ≠ "rated" ∧ request.ratedOrPractice ≠ "practice" then .error .invalidRatedOrPractice
  else if request.fieldSize < 2 then .error .fieldSizeBelowTwo
  else if request.policyBundleVersion = "" then .error .missingPolicyBundleVersion
  else
    let listed := store.listFinalRankings request.tournamentID
    if listed = [] then .error .noFinalRankings
    else do
      let rows := canonicalPokerMttProjectionRows listed
      validatePokerMttPayoutRanks rows request.fieldSize
      return rows

def tournamentOf (rows : List RankingRow) : Tournament where
  id := request.tournamentID
  ratedOrPractice := request.ratedOrPractice
  humanOnly := request.humanOnly
  fieldSize := request.fieldSize
  policyBundleVersion := request.policyBundleVersion
  completedAt := isoformatZ request.lockedAt
  createdAt := (rows.head?.map (·.createdAt)).getD 0
  updatedAt := isoformatZ request.lockedAt

/-- The service's own `project_poker_mtt_final_rankings`. -/
def projectStored : Projecting (List Item) := Faulty.read fun store =>
  match checkedRows request store with
  | .error error => Faulty.fail (.raised error)
  | .ok rows => do
    Faulty.modify fun store => store.saveTournament (tournamentOf request rows)
    projectRows floats request rows

def responseOf (items : List Item) : Response where
  schemaVersion := request.schemaVersion
  projectionID := request.projectionID
  tournamentID := request.tournamentID
  sourceMTTID := request.sourceMTTID
  ratedOrPractice := request.ratedOrPractice
  humanOnly := request.humanOnly
  fieldSize := request.fieldSize
  policyBundleVersion := request.policyBundleVersion
  standingSnapshotID := request.standingSnapshotID
  standingSnapshotHash := request.standingSnapshotHash
  finalRankingRoot := request.finalRankingRoot
  lockedAt := isoformatZ request.lockedAt
  items := items

/-- A projection that is not stored yet: the rows are saved before they are checked, the projection last. -/
def projectAnew : Projecting Response := do
  Faulty.modify fun store => store.saveFinalRankings request.rows
  let items ← projectStored floats request
  Faulty.modify fun store => store.saveProjection request.projectionID ⟨request.finalRankingRoot,responseOf request items⟩
  return responseOf request items

def projectPokerMttFinalRankings : Projecting Response :=
  if request.inBounds = false then Faulty.fail .outOfBounds
  else match request.validatePayoutRanks with
    | .error error => Faulty.fail (.unprocessable error)
    | .ok () => Faulty.read fun store =>
      match store.projections.get? request.projectionID with
      | some existing =>
        if existing.finalRankingRoot ≠ request.finalRankingRoot then Faulty.fail .rootConflict else pure existing.result
      | none => projectAnew floats request

end Service
end Clawchain.Projection
