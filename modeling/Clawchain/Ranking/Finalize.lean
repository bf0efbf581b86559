import Clawchain.Lib.Sorting
import Clawchain.Ranking.Model

/-! Finalizing a tournament: rows are made for the members alive, for the died
entries and for the members left over, duplicate entries of an economic unit are
collapsed, and the rows that stay ranked get their payout ranks. -/
namespace Clawchain.Ranking
open Clawchain.Lib Clawchain.Lib.Format Clawchain.Lib.Sorting

structure Finalizer where
  policyBundleVersion : String := ""
  fieldSizePolicy : String := ""
  requireTerminalOrQuiet : Bool := false
  expectedEntrants : Int := 0
  expectedAlive : Option Int := none
  expectedDied : Option Int := none
  expectedWaitingOrNoShow : Option Int := none
  expectedTotalChip : F64 := .finite 0
  totalChipDriftTolerance : F64 := .finite 0

structure NormalizeRowConfig where
  (tournamentID sourceMTTID snapshotID snapshotHash policyBundleVersion fieldSizePolicy : String)

variable (go : Go)

def decodeUserInfo (userInfo : List (String × String)) : Except Refusal (OrdMap String Entry) :=
  userInfo.foldlM (fun decodedSnapshots user =>
    match decodeJSONObject go user.2 with
    | .error cause => .error (.userSnapshot user.1 cause)
    | .ok decoded => .ok (decodedSnapshots.insert (normalizeMemberID go user.1 decoded) decoded)) OrdMap.empty

def decodeRegistration (live : OrdMap String Entry) (userInfo : List (String × String)) :
    Except Refusal (OrdMap String Entry × OrdMap String Entry) :=
  userInfo.foldlM (fun (decodedSnapshots,decodedRegistrationSnapshots) user =>
    match decodeJSONObject go user.2 with
    | .error cause => .error (.registrationSnapshot user.1 cause)
    | .ok decoded =>
      let memberID := normalizeMemberID go user.1 decoded
      if memberID = "" then .error .registrationMissingMember
      else
        let merged := match decodedSnapshots.get? memberID with
          | some existing => mergeEntries decoded existing
          | none => decoded
        .ok (decodedSnapshots.insert memberID merged,decodedRegistrationSnapshots.insert memberID decoded))
    (live,OrdMap.empty)

structure Identity where
  userID : String
  entryNumber : Int
  memberID : String

def rowIdentity (entry : Entry) (memberID : String) : Identity :=
  let parsed := parseMemberID go memberID
  let named := firstString go [entry.field "userID",entry.field "userId",entry.field "sourceUserID"]
  let userID := if named = "" then parsed.1 else named
  let entryNumber := ((toInt go (entry.field "entryNumber")).or parsed.2).getD 0
  { userID := userID
    entryNumber := entryNumber
    memberID :=
      if trimSpace memberID = "" then memberIDOf (normalizeString go (.text userID)) (some entryNumber) else memberID }

def standUpStatusOf (entry : Entry) : String :=
  let standUpStatus := firstString go [entry.field "standUpStatus",entry.field "stand_up_status"]
  let registrationStatus :=
    firstString go [entry.field "status",entry.field "registrationStatus",entry.field "registration_status"]
  if standUpStatus = "" ∧ isWaitingOrNoShow go registrationStatus = true then registrationStatus else standUpStatus

def normalizeRow (config : NormalizeRowConfig) (entry : Entry) (memberID : String) (status : StandingStatus)
    (rank : Option Int) (snapshotFound : Bool) : FinalRankingRow :=
  let identity := rowIdentity go entry memberID
  let start := toNumber go (entry.field "startChip")
  let ended := toNumber go (entry.field "endChip")
  let ended := if ended.2 then ended else toNumber go (entry.field "chip")
  let chipDelta := if start.2 ∧ ended.2 then sub go ended.1 start.1 else .finite 0
  let minerAddress := firstString go
    [entry.field "minerAddress",entry.field "miner_id",entry.field "minerID",entry.field "miner"]
  let economicUnitID := firstString go
    [entry.field "economicUnitID",entry.field "economic_unit_id",.text minerAddress]
  { id := rowID config.tournamentID identity.memberID
    tournamentID := config.tournamentID
    sourceMTTID := config.sourceMTTID
    sourceUserID := identity.userID
    minerAddress := minerAddress
    economicUnitID := if economicUnitID = "" ∧ identity.userID ≠ "" then "source_user:" ++ identity.userID else economicUnitID
    memberID := identity.memberID
    entryNumber := identity.entryNumber
    reentryCount := 1
    rank := rank
    displayRank := rank
    rankState := .unresolvedSnapshot
    chip := ended.1
    chipDelta := chipDelta
    diedTime := firstString go [entry.field "diedTime",entry.field "died_time"]
    waitingOrNoShow := isWaitingOrNoShow go (standUpStatusOf go entry)
    bounty := numberOrZero go (entry.field "bounty")
    defeatNum := intOrZero go [entry.field "defeatNum",entry.field "defeat_num"]
    fieldSizePolicy := config.fieldSizePolicy
    standingSnapshotID := config.snapshotID
    standingSnapshotHash := config.snapshotHash
    policyBundleVersion := config.policyBundleVersion
    snapshotFound := snapshotFound
    status := status
    playerName := firstString go [entry.field "playerName",entry.field "player_name"]
    roomID := firstString go [entry.field "roomID",entry.field "room_id"]
    startChip := start.1
    standUpStatus := standUpStatusOf go entry }

/-- What rows are made from: the snapshots of both sources by member, and whether the live one has the member. -/
structure Sources where
  config : NormalizeRowConfig
  (snapshots live : OrdMap String Entry)

namespace Sources

def entry (sources : Sources) (memberID : String) : Entry := (sources.snapshots.get? memberID).getD OrdMap.empty

def found (sources : Sources) (memberID : String) : Bool := (sources.live.get? memberID).isSome

end Sources

def canonicalAliveRows (rows : List ZMember) : List ZMember :=
  sortBy (fun left right =>
    if F64.eq left.score right.score = false then F64.lt right.score left.score
    else memberSortKeyLess go left.member right.member) rows

def aliveRow (sources : Sources) (aliveRankZeroBased : Nat) (alive : ZMember) : FinalRankingRow :=
  let memberID := trimSpace alive.member
  let displayRank : Int := aliveRankZeroBased + 1
  let row := normalizeRow go sources.config (sources.entry memberID) memberID .alive (some displayRank)
    (sources.found memberID)
  { row with
    zSetScore := some alive.score
    sourceRank := toString displayRank
    sourceRankNumeric := true
    rankBasis := "alive_zset_score"
    rankTiebreaker := "zset_score_desc_member_id"
    chip := if sources.found memberID = false ∧ F64.eq row.chip (.finite 0) = true then alive.score else row.chip
    rankState := .ranked }

structure DiedRanks where
  diedRank : Int
  sameCount : Int := 1
  lastInternalRank : Option Int := none
  fallbackRank : Int

/-- The display rank of the next entry: equal source ranks share a place, an unreadable one takes a place of its own. -/
def DiedRanks.next (ranks : DiedRanks) (internalRank : Option Int) : Int × DiedRanks :=
  match internalRank with
  | none => (ranks.fallbackRank + 1,{ ranks with fallbackRank := ranks.fallbackRank + 1 })
  | some rank =>
    if ranks.lastInternalRank = some rank then (ranks.diedRank,{ ranks with sameCount := ranks.sameCount + 1 })
    else
      let displayRank := ranks.diedRank + ranks.sameCount
      (displayRank,
        { diedRank := displayRank
          sameCount := 1
          lastInternalRank := some rank
          fallbackRank := max ranks.fallbackRank displayRank })

def diedRow (sources : Sources) (diedEntry : Entry) (memberID : String) (displayRank : Int) : FinalRankingRow :=
  let internalRank := toInt go (diedEntry.field "rank")
  let row := normalizeRow go sources.config (mergeEntries (sources.entry memberID) diedEntry) memberID .died
    (some displayRank) (sources.found memberID)
  { row with
    sourceRank := sourceRankText go (diedEntry.field "rank")
    sourceRankNumeric := internalRank.isSome
    rankState := if internalRank.isSome then .ranked else .unresolvedSnapshot
    rankBasis := if internalRank.isSome then "donor_died_rank" else "donor_died_rank_unresolved"
    rankTiebreaker :=
      if internalRank.isSome then "source_rank_display_then_start_chip_desc_member_id"
      else "unresolved_non_numeric_source_rank" }

structure DiedLoop where
  ranks : DiedRanks
  rows : List FinalRankingRow
  seenMembers : List String

def diedMember (diedEntry : Entry) : String :=
  buildMemberID go (diedEntry.field "userID") (diedEntry.field "entryNumber")

def diedStep (sources : Sources) (loop : DiedLoop) (rawDiedEntry : String) : Except Refusal DiedLoop :=
  match decodeJSONObject go rawDiedEntry with
  | .error cause => .error (.diedEntry cause)
  | .ok diedEntry =>
    let memberID := diedMember go diedEntry
    if memberID ≠ "" ∧ memberID ∈ loop.seenMembers then .ok loop
    else
      let (displayRank,ranks) := loop.ranks.next (toInt go (diedEntry.field "rank"))
      .ok
        { ranks := ranks
          rows := loop.rows ++ [diedRow go sources diedEntry memberID displayRank]
          seenMembers := if memberID ≠ "" then loop.seenMembers ++ [memberID] else loop.seenMembers }

def pendingMemberIDs (sources : Sources) (seenMembers : List String) : List String :=
  sortBy (memberSortKeyLess go) (sources.snapshots.keys.filter fun memberID => memberID ∉ seenMembers)

def pendingRow (sources : Sources) (memberID : String) : FinalRankingRow :=
  let row := normalizeRow go sources.config (sources.entry memberID) memberID .pending none (sources.found memberID)
  { row with
    rankState := if isWaitingOrNoShow go row.standUpStatus then .waitingNoShow else .unresolvedSnapshot
    waitingOrNoShow := isWaitingOrNoShow go row.standUpStatus || row.waitingOrNoShow }

def entrantRows (sources : Sources) (alive : List ZMember) (died : List String) : Except Refusal (List FinalRankingRow) := do
  let aliveRows := canonicalAliveRows go alive
  let loop ← died.foldlM (diedStep go sources)
    { ranks := ⟨alive.length,1,none,alive.length⟩
      rows := aliveRows.mapIdx (aliveRow go sources)
      seenMembers := (aliveRows.map fun alive => trimSpace alive.member).filter (· ≠ "") }
  return loop.rows ++ (pendingMemberIDs go sources loop.seenMembers).map (pendingRow go sources)

/-! Collapsing the entries of an economic unit. -/

def betterCanonicalRow (candidate current : FinalRankingRow) : Bool :=
  if candidate.rankState = .ranked ∧ current.rankState ≠ .ranked then true
  else if candidate.rankState ≠ .ranked ∧ current.rankState = .ranked then false
  else if candidate.rank.isSome ∧ current.rank.isSome ∧ candidate.rank ≠ current.rank then
    decide (candidate.rank.getD 0 < current.rank.getD 0)
  else if candidate.rank.isSome ∧ current.rank = none then true
  else if candidate.rank = none ∧ current.rank.isSome then false
  else if candidate.entryNumber ≠ current.entryNumber then decide (current.entryNumber < candidate.entryNumber)
  else decide (candidate.memberID < current.memberID)

def FinalRankingRow.unit (row : FinalRankingRow) : String :=
  if row.economicUnitID = "" then row.memberID else row.economicUnitID

def groupOf (rows : List FinalRankingRow) (unit : String) : List (FinalRankingRow × Nat) :=
  rows.zipIdx.filter fun place => place.1.unit = unit

def chooseCanonicalIndex : List (FinalRankingRow × Nat) → Option Nat
  | [] => none
  | first :: rest =>
    some (rest.foldl (fun best place => if betterCanonicalRow place.1 best.1 then place else best) first).2

def collapseDuplicateEconomicUnits (rows : List FinalRankingRow) : List FinalRankingRow :=
  rows.mapIdx fun index row =>
    let indexes := groupOf rows row.unit
    { row with
      reentryCount := indexes.length
      rankState :=
        if 1 < indexes.length ∧ some index ≠ chooseCanonicalIndex indexes ∧ row.rankState = .ranked then
          .duplicateEntryCollapsed
        else row.rankState }

def maxInt : Int := 2 ^ 63 - 1

def rankForSort (values : List (Option Int)) : Int := (values.findSome? id).getD maxInt

def payoutLess (left right : FinalRankingRow) : Bool :=
  let leftDisplayRank := rankForSort [left.displayRank,left.rank]
  let rightDisplayRank := rankForSort [right.displayRank,right.rank]
  if leftDisplayRank ≠ rightDisplayRank then decide (leftDisplayRank < rightDisplayRank)
  else if left.status = .died ∧ right.status = .died ∧ F64.eq left.startChip right.startChip = false then
    F64.lt right.startChip left.startChip
  else if left.status ≠ right.status then decide (left.status = .alive)
  else memberSortKeyLess go left.memberID right.memberID

def diedDisplayRankCount (rows : List FinalRankingRow) (displayRank : Int) : Nat :=
  rows.countP fun row => row.rankState = .ranked ∧ row.status = .died ∧ row.displayRank = some displayRank

def payoutTiebreaker (rows : List FinalRankingRow) (row : FinalRankingRow) : String :=
  match row.displayRank with
  | some displayRank =>
    if row.status ≠ .died then row.rankTiebreaker
    else if 1 < diedDisplayRankCount rows displayRank then "source_rank_display_then_start_chip_desc_member_id"
    else if row.rankTiebreaker = "" ∨ row.rankTiebreaker = "source_rank_display_then_start_chip_desc_member_id" then
      "source_rank_display"
    else row.rankTiebreaker
  | none => row.rankTiebreaker

def rankedIndexes (rows : List FinalRankingRow) : List Nat :=
  (sortBy (fun left right => payoutLess go left.1 right.1)
    (rows.zipIdx.filter fun place => place.1.rankState = .ranked)).map Prod.snd

def clearRank (row : FinalRankingRow) : FinalRankingRow :=
  if row.rankState ≠ .ranked then { row with rank := none } else row

def assignUniquePayoutRanks (rows : List FinalRankingRow) : List FinalRankingRow :=
  let cleared := rows.map clearRank
  numbered (rankedIndexes go cleared)
    (fun rankIndex row =>
      { row with
        rank := some (rankIndex + 1)
        rankTiebreaker := payoutTiebreaker cleared row })
    cleared

def statusSortOrder : StandingStatus → Nat
  | .alive => 0
  | .died => 1
  | .pending => 2

def finalLess (left right : FinalRankingRow) : Bool :=
  match left.rank,right.rank with
  | some leftRank,some rightRank =>
    if leftRank ≠ rightRank then decide (leftRank < rightRank) else memberSortKeyLess go left.memberID right.memberID
  | some _,none => true
  | none,some _ => false
  | none,none =>
    let leftDisplayRank := rankForSort [left.displayRank]
    let rightDisplayRank := rankForSort [right.displayRank]
    if leftDisplayRank ≠ rightDisplayRank then decide (leftDisplayRank < rightDisplayRank)
    else if statusSortOrder left.status ≠ statusSortOrder right.status then
      decide (statusSortOrder left.status < statusSortOrder right.status)
    else memberSortKeyLess go left.memberID right.memberID

def sortFinalRows (rows : List FinalRankingRow) : List FinalRankingRow := sortBy (finalLess go) rows

def collectRank (collected : List Int × List (Int × String)) (row : FinalRankingRow) :
    Except Refusal (List Int × List (Int × String)) :=
  if row.rankState ≠ .ranked then
    match row.rank with
    | some rank => .error (.nonRankedHasRank row.memberID row.rankState rank)
    | none => .ok collected
  else
    match row.rank with
    | none => .error (.rankedMissingRank row.memberID)
    | some rank =>
      match collected.2.lookup rank with
      | some existingMemberID => .error (.duplicateRank rank row.memberID existingMemberID)
      | none => .ok (collected.1 ++ [rank],(rank,row.memberID) :: collected.2)

def checkContiguous (ranks : List Int) : Except Refusal Unit :=
  ranks.zipIdx.forM fun (rank,index) =>
    if rank ≠ (index + 1 : Int) then .error (.nonContiguousRanks (index + 1) rank) else .ok ()

def validatePayoutRanks (rows : List FinalRankingRow) : Except Refusal Unit := do
  let (ranks,_) ← rows.foldlM collectRank ([],[])
  checkContiguous (ranks.insertionSort (· ≤ ·))

def validateStatusCount (label : String) (expected : Option Int) (actual : Nat) : Except Refusal Unit :=
  match expected with
  | none => .ok ()
  | some count => if count = actual then .ok () else .error (.statusCount label count actual)

def countRowsByStatus (rows : List FinalRankingRow) (status : StandingStatus) : Nat :=
  rows.countP fun row => row.status = status

def countWaitingOrNoShowRows (rows : List FinalRankingRow) : Nat :=
  rows.countP fun row => row.waitingOrNoShow ∨ row.rankState = .waitingNoShow

namespace Finalizer

variable (finalizer : Finalizer)

def validateReadinessBarrier (snapshot : LiveSnapshot) : Except Refusal Unit :=
  if finalizer.requireTerminalOrQuiet = false ∨ snapshot.quietPeriodSatisfied ∨
      isTerminalRuntimeState go snapshot.runtimeState then .ok ()
  else .error (.notTerminal snapshot.runtimeState)

def validateTotalChip (rows : List FinalRankingRow) : Except Refusal Unit :=
  if F64.lt (.finite 0) finalizer.expectedTotalChip then
    let totalChip := rows.foldl (fun total row => add go total row.chip) (.finite 0)
    let tolerance :=
      if F64.lt finalizer.totalChipDriftTolerance (.finite 0) then .finite 0 else finalizer.totalChipDriftTolerance
    if F64.lt tolerance (sub go totalChip finalizer.expectedTotalChip).abs then
      .error (.totalChipDrift finalizer.expectedTotalChip totalChip tolerance)
    else .ok ()
  else .ok ()

def validateEntrantCount (rows : List FinalRankingRow) : Except Refusal Unit :=
  if 0 < finalizer.expectedEntrants ∧ (rows.length : Int) ≠ finalizer.expectedEntrants then
    .error (.entrantCount finalizer.expectedEntrants rows.length)
  else .ok ()

def validateCounts (rows : List FinalRankingRow) : Except Refusal Unit := do
  finalizer.validateEntrantCount rows
  validateStatusCount "alive" finalizer.expectedAlive (countRowsByStatus rows .alive)
  validateStatusCount "died" finalizer.expectedDied (countRowsByStatus rows .died)
  validateStatusCount "waiting/no-show" finalizer.expectedWaitingOrNoShow (countWaitingOrNoShowRows rows)
  finalizer.validateTotalChip go rows

def validateFinalRows (rows : List FinalRankingRow) : Except Refusal Unit := do
  finalizer.validateCounts go rows
  validatePayoutRanks rows

def fieldSizePolicyText : String :=
  if trimSpace finalizer.fieldSizePolicy ≠ "" then trimSpace finalizer.fieldSizePolicy
  else "exclude_waiting_no_show_from_reward_field_size"

end Finalizer

/-! Hashes: no float that is not finite can be encoded. -/

def canonicalSnapshot (snapshot : LiveSnapshot) (live registration : OrdMap String Entry) : CanonicalSnapshotPayload :=
  { tournamentID := snapshot.tournamentID
    sourceMTTID := snapshot.sourceMTTID
    gameType := snapshot.gameType
    runtimeState := snapshot.runtimeState
    quietPeriodSatisfied := snapshot.quietPeriodSatisfied
    keys := snapshot.keys
    userInfo := live.entries
    registration := registration.entries
    alive := canonicalAliveRows go (canonicalAliveRows go snapshot.alive)
    died := snapshot.died }

def CanonicalSnapshotPayload.encodable (payload : CanonicalSnapshotPayload) : Bool :=
  payload.alive.all (fun alive => alive.score.isFinite) &&
    (payload.userInfo ++ payload.registration).all fun user => user.2.entries.all fun field => field.2.isFinite

def FinalRankingRow.encodable (row : FinalRankingRow) : Bool :=
  row.chip.isFinite && row.chipDelta.isFinite && row.bounty.isFinite && row.startChip.isFinite &&
    row.zSetScore.all F64.isFinite

def canonicalRow (row : FinalRankingRow) : FinalRankingRow :=
  { row with
    roomID := ""
    standingSnapshotID := ""
    standingSnapshotHash := ""
    evidenceRoot := ""
    evidenceState := "" }

def hashSnapshot (payload : CanonicalSnapshotPayload) : Except Refusal String :=
  if payload.encodable then .ok (go.snapshotDigest payload) else .error .unsupportedValue

def hashRows (payload : CanonicalRowsPayload) : Except Refusal String :=
  if payload.rows.all FinalRankingRow.encodable then .ok ("sha256:" ++ go.rowsDigest payload)
  else .error .unsupportedValue

namespace Finalizer

variable (finalizer : Finalizer)

def validateTournament (snapshot : LiveSnapshot) : Except Refusal Unit :=
  if trimSpace snapshot.tournamentID = "" then .error .invalidLiveSnapshot else .ok ()

def sourcesOf (snapshot : LiveSnapshot) (registration : RegistrationSnapshot) : Except Refusal Sources := do
  validateTournament snapshot
  let sourceMTTID := if snapshot.sourceMTTID = "" then snapshot.tournamentID else snapshot.sourceMTTID
  let snapshot := { snapshot with sourceMTTID := sourceMTTID }
  finalizer.validateReadinessBarrier go snapshot
  let decodedLive ← decodeUserInfo go snapshot.userInfo
  let (decodedSnapshots,decodedRegistration) ← decodeRegistration go decodedLive registration.userInfo
  let digest ← hashSnapshot go (canonicalSnapshot go snapshot decodedLive decodedRegistration)
  .ok
    { config :=
        { tournamentID := snapshot.tournamentID
          sourceMTTID := sourceMTTID
          snapshotID := Ranking.snapshotID snapshot.tournamentID digest
          snapshotHash := "sha256:" ++ digest
          policyBundleVersion := finalizer.policyBundleVersion
          fieldSizePolicy := finalizer.fieldSizePolicyText }
      snapshots := decodedSnapshots
      live := decodedLive }

def finalRows (rows : List FinalRankingRow) : List FinalRankingRow :=
  sortFinalRows go (assignUniquePayoutRanks go (collapseDuplicateEconomicUnits rows))

def finalizeWithRegistration (snapshot : LiveSnapshot) (registration : RegistrationSnapshot) :
    Except Refusal Finalization := do
  let sources ← finalizer.sourcesOf go snapshot registration
  let entrants ← entrantRows go sources snapshot.alive snapshot.died
  let rows := finalRows go entrants
  finalizer.validateFinalRows go rows
  let root ← hashRows go
    { tournamentID := snapshot.tournamentID
      sourceMTTID := sources.config.sourceMTTID
      policyBundleVersion := finalizer.policyBundleVersion
      rows := rows.map canonicalRow }
  .ok
    { tournamentID := snapshot.tournamentID
      sourceMTTID := sources.config.sourceMTTID
      snapshotID := sources.config.snapshotID
      snapshotHash := sources.config.snapshotHash
      root := root
      policyBundleVersion := finalizer.policyBundleVersion
      rows := rows }

end Finalizer

end Clawchain.Ranking
