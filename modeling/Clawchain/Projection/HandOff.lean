import Clawchain.Lib.Calendar
import Clawchain.Projection.Kept
import Clawchain.Ranking.Canonical

/-! The hand-off of final standings: the payload that is built of a finalization, how the service reads it, and that the ranked
rows survive as results with their ranks. -/
namespace Clawchain.Projection
open Clawchain.Lib Clawchain.Mining Clawchain.Poker
open Clawchain.Ranking (Finalization FinalRankingRow Finalizer LiveSnapshot RegistrationSnapshot StandingStatus F64)

/-- The time that a projection is locked at is in nanoseconds. -/
structure ApplyOptions where
  ratedOrPractice : String
  humanOnly : Bool
  (fieldSize lockedAt : Int)

/-- A row as it is sent. Times are the seconds that their texts tell. -/
structure FinalRankingRowDTO where
  (id tournamentID sourceMTTID sourceUserID minerAddress economicUnitID memberID : String)
  (entryNumber reentryCount : Int)
  (rank displayRank : Option Int)
  (rankState rankBasis rankTiebreaker : String)
  (chip chipDelta : F64)
  diedTime : String
  waitingOrNoShow : Bool
  bounty : F64
  defeatNum : Int
  (fieldSizePolicy standingSnapshotID standingSnapshotHash evidenceRoot evidenceState : String)
  policyBundleVersion : String
  snapshotFound : Bool
  (status playerName : String)
  startChip : F64
  (standUpStatus sourceRank : String)
  sourceRankNumeric : Bool
  zSetScore : Option F64
  (lockedAt anchorableAt createdAt updatedAt : Int)

structure FinalRankingApplyPayload where
  (schemaVersion projectionID tournamentID sourceMTTID ratedOrPractice : String)
  humanOnly : Bool
  fieldSize : Int
  (policyBundleVersion standingSnapshotID standingSnapshotHash finalRankingRoot : String)
  lockedAt : Int
  rows : List FinalRankingRowDTO

def finalRankingApplySchemaVersion : String := "poker_mtt.final_ranking_apply.v1"

def finalRankingProjectionID (tournamentID policyBundleVersion root : String) : String :=
  "poker_mtt_projection:" ++ tournamentID ++ ":" ++ policyBundleVersion ++ ":" ++ root

def statusName : StandingStatus → String
  | .alive => "alive"
  | .died => "died"
  | .pending => "pending"

def rowDTO (lockedAt : Int) (row : FinalRankingRow) : FinalRankingRowDTO where
  id := row.id
  tournamentID := row.tournamentID
  sourceMTTID := row.sourceMTTID
  sourceUserID := row.sourceUserID
  minerAddress := row.minerAddress
  economicUnitID := row.economicUnitID
  memberID := row.memberID
  entryNumber := row.entryNumber
  reentryCount := row.reentryCount
  rank := row.rank
  displayRank := row.displayRank
  rankState := row.rankState.name
  rankBasis := row.rankBasis
  rankTiebreaker := row.rankTiebreaker
  chip := row.chip
  chipDelta := row.chipDelta
  diedTime := row.diedTime
  waitingOrNoShow := row.waitingOrNoShow
  bounty := row.bounty
  defeatNum := row.defeatNum
  fieldSizePolicy := row.fieldSizePolicy
  standingSnapshotID := row.standingSnapshotID
  standingSnapshotHash := row.standingSnapshotHash
  evidenceRoot := row.evidenceRoot
  evidenceState := row.evidenceState
  policyBundleVersion := row.policyBundleVersion
  snapshotFound := row.snapshotFound
  status := statusName row.status
  playerName := row.playerName
  startChip := row.startChip
  standUpStatus := row.standUpStatus
  sourceRank := row.sourceRank
  sourceRankNumeric := row.sourceRankNumeric
  zSetScore := row.zSetScore
  lockedAt := lockedAt
  anchorableAt := lockedAt
  createdAt := lockedAt
  updatedAt := lockedAt

/-- The first instant of the first year is Go's zero time. -/
def buildFinalRankingApplyPayload (finalization : Finalization) (opts : ApplyOptions) : Except String FinalRankingApplyPayload :=
  if finalization.tournamentID = "" then .error "missing tournament id"
  else if finalization.root = "" then .error "missing final ranking root"
  else if opts.ratedOrPractice = "" then .error "missing rated/practice mode"
  else if opts.fieldSize ≤ 0 then .error "field size must be positive"
  else if opts.lockedAt = Calendar.earliest * 1000000000 then .error "missing locked_at"
  else .ok
    { schemaVersion := finalRankingApplySchemaVersion
      projectionID := finalRankingProjectionID finalization.tournamentID finalization.policyBundleVersion finalization.root
      tournamentID := finalization.tournamentID
      sourceMTTID := finalization.sourceMTTID
      ratedOrPractice := opts.ratedOrPractice
      humanOnly := opts.humanOnly
      fieldSize := opts.fieldSize
      policyBundleVersion := finalization.policyBundleVersion
      standingSnapshotID := finalization.snapshotID
      standingSnapshotHash := finalization.snapshotHash
      finalRankingRoot := finalization.root
      lockedAt := opts.lockedAt / 1000000000
      rows := finalization.rows.map (rowDTO (opts.lockedAt / 1000000000)) }

/-! What the service reads. -/

def microseconds (seconds : Int) : Time := seconds * 1000000

def omitEmpty (text : String) : Option String := if text = "" then none else some text

namespace FinalRankingRowDTO

def encodable (row : FinalRankingRowDTO) : Bool :=
  row.chip.isFinite && row.chipDelta.isFinite && row.bounty.isFinite && row.startChip.isFinite && row.zSetScore.all F64.isFinite

def received (row : FinalRankingRowDTO) : RankingRow where
  id := row.id
  tournamentID := row.tournamentID
  sourceMTTID := row.sourceMTTID
  sourceUserID := some row.sourceUserID
  minerAddress := some row.minerAddress
  economicUnitID := some row.economicUnitID
  memberID := row.memberID
  entryNumber := row.entryNumber
  reentryCount := row.reentryCount
  rank := row.rank
  displayRank := row.displayRank
  rankState := row.rankState
  rankBasis := omitEmpty row.rankBasis
  rankTiebreaker := omitEmpty row.rankTiebreaker
  chip := row.chip.rat
  chipDelta := row.chipDelta.rat
  diedTime := some row.diedTime
  waitingOrNoShow := row.waitingOrNoShow
  bounty := row.bounty.rat
  defeatNum := row.defeatNum
  fieldSizePolicy := row.fieldSizePolicy
  standingSnapshotID := row.standingSnapshotID
  standingSnapshotHash := row.standingSnapshotHash
  evidenceRoot := some row.evidenceRoot
  evidenceState := row.evidenceState
  policyBundleVersion := row.policyBundleVersion
  snapshotFound := row.snapshotFound
  status := row.status
  playerName := some row.playerName
  roomID := none
  startChip := row.startChip.rat
  standUpStatus := some row.standUpStatus
  sourceRank := some row.sourceRank
  sourceRankNumeric := row.sourceRankNumeric
  zsetScore := row.zSetScore.map F64.rat
  lockedAt := some (microseconds row.lockedAt)
  anchorableAt := some (microseconds row.anchorableAt)
  createdAt := microseconds row.createdAt
  updatedAt := microseconds row.updatedAt

end FinalRankingRowDTO

/-- Numbers that are not finite cannot be sent, and times outside the calendar are not read. -/
def FinalRankingApplyPayload.received (payload : FinalRankingApplyPayload) : Option Request :=
  if payload.rows.all FinalRankingRowDTO.encodable ∧ Calendar.earliest ≤ payload.lockedAt ∧ payload.lockedAt < Calendar.latest then
    some
      { schemaVersion := payload.schemaVersion
        projectionID := payload.projectionID
        tournamentID := payload.tournamentID
        sourceMTTID := payload.sourceMTTID
        ratedOrPractice := payload.ratedOrPractice
        humanOnly := payload.humanOnly
        fieldSize := payload.fieldSize
        policyBundleVersion := payload.policyBundleVersion
        standingSnapshotID := payload.standingSnapshotID
        standingSnapshotHash := payload.standingSnapshotHash
        finalRankingRoot := payload.finalRankingRoot
        lockedAt := microseconds payload.lockedAt
        rows := payload.rows.map FinalRankingRowDTO.received }
  else none

/-! What is handed off. -/

def sent (lockedAt : Int) (row : FinalRankingRow) : RankingRow := (rowDTO lockedAt row).received

theorem sent_ranked {lockedAt : Int} {row : FinalRankingRow} : (sent lockedAt row).rankState = "ranked" ↔ row.rankState = .ranked := by
  change row.rankState.name = "ranked" ↔ _
  cases row.rankState <;> simp [Ranking.RankState.name]

theorem unitKey_sent {lockedAt : Int} {row : FinalRankingRow} {tournamentID : String} (identified : Ranking.Identified tournamentID row) :
    unitKey (sent lockedAt row) = if row.unit = "" then row.id else row.unit := by
  change (orElse (some row.economicUnitID) (orElse (some row.minerAddress) (orElse (some row.sourceUserID)
    (orElse (some row.memberID) (some row.id))))).getD "" = _
  by_cases unit : row.economicUnitID = ""
  · obtain ⟨miner,user⟩ := identified.unnamed unit
    by_cases member : row.memberID = ""
    · simp [orElse,present,FinalRankingRow.unit,unit,miner,user,member]
    · simp [orElse,present,FinalRankingRow.unit,unit,miner,user,member]
  · simp [orElse,present,FinalRankingRow.unit,unit]

theorem built_cases {finalization : Finalization} {opts : ApplyOptions} {payload : FinalRankingApplyPayload}
    (built : buildFinalRankingApplyPayload finalization opts = .ok payload) :
    payload.tournamentID = finalization.tournamentID ∧ payload.ratedOrPractice = opts.ratedOrPractice ∧
      payload.fieldSize = opts.fieldSize ∧ payload.policyBundleVersion = finalization.policyBundleVersion ∧
      payload.lockedAt = opts.lockedAt / 1000000000 ∧
      payload.rows = finalization.rows.map (rowDTO (opts.lockedAt / 1000000000)) := by
  unfold buildFinalRankingApplyPayload at built
  split_ifs at built
  cases built
  exact ⟨rfl,rfl,rfl,rfl,rfl,rfl⟩

/-- The ids of the rows are distinct, and no unit is called by the id of a row that has neither a unit nor a member. -/
structure Distinct (rows : List FinalRankingRow) : Prop where
  ids : (rows.map fun row => row.id).Nodup
  units : ∀ row ∈ rows, ∀ other ∈ rows, row.unit = "" → other.unit ≠ row.id

section Accepted
variable {go : Ranking.Go} {finalizer : Finalizer} {snapshot : LiveSnapshot} {registration : RegistrationSnapshot}
  {finalization : Finalization} {opts : ApplyOptions} {payload : FinalRankingApplyPayload} {request : Request}

theorem received_cases (built : buildFinalRankingApplyPayload finalization opts = .ok payload) (read : payload.received = some request) :
    request.tournamentID = finalization.tournamentID ∧ request.ratedOrPractice = opts.ratedOrPractice ∧
      request.fieldSize = opts.fieldSize ∧ request.policyBundleVersion = finalization.policyBundleVersion ∧
      request.rows = finalization.rows.map (sent (opts.lockedAt / 1000000000)) := by
  obtain ⟨tournament,mode,size,policy,-,rows⟩ := built_cases built
  unfold FinalRankingApplyPayload.received at read
  split_ifs at read
  cases read
  exact ⟨tournament,mode,size,policy,(congrArg _ rows).trans List.map_map⟩

theorem received_some (accepted : finalizer.finalizeWithRegistration go snapshot registration = .ok finalization)
    (built : buildFinalRankingApplyPayload finalization opts = .ok payload)
    (time : Calendar.earliest ≤ opts.lockedAt / 1000000000 ∧ opts.lockedAt / 1000000000 < Calendar.latest) :
    ∃ request, payload.received = some request := by
  obtain ⟨-,-,-,-,locked,rows⟩ := built_cases built
  obtain ⟨_,_,-,-,-,encodable⟩ := Ranking.accepted_cases accepted
  have finite : payload.rows.all FinalRankingRowDTO.encodable = true := by
    rw [rows,List.all_map,List.all_eq_true]
    exact encodable
  unfold FinalRankingApplyPayload.received
  rw [if_pos ⟨finite,locked ▸ time⟩]
  exact ⟨_,rfl⟩

theorem accepted_numbered (accepted : finalizer.finalizeWithRegistration go snapshot registration = .ok finalization)
    (distinct : Distinct finalization.rows)
    (count : (finalization.rows.countP (fun row => row.rankState = .ranked) : Int) ≤ opts.fieldSize)
    (built : buildFinalRankingApplyPayload finalization opts = .ok payload) (read : payload.received = some request) :
    Numbered request := by
  obtain ⟨tournament,-,size,-,rows⟩ := received_cases built read
  obtain ⟨sources,entrants,decoded,made,final,-⟩ := Ranking.accepted_cases accepted
  have named : ∀ row ∈ finalization.rows, Ranking.Identified finalization.tournamentID row := by
    intro row member
    rw [Ranking.accepted_tournament accepted decoded]
    exact (Ranking.finalRows_identified (Ranking.entrantRows_identified made) (final ▸ member)).1
  have ranked : ∀ row ∈ finalization.rows, row.rank.isSome = decide (row.rankState = .ranked) := fun row member =>
    Ranking.finalRows_rank (final ▸ member)
  constructor
  · rw [rows,List.map_map]
    exact distinct.ids
  · intro row member
    rw [rows] at member
    obtain ⟨old,inside,rfl⟩ := List.mem_map.mp member
    exact (named old inside).tournamentID.trans tournament.symm
  · intro row member
    rw [rows] at member
    obtain ⟨old,inside,rfl⟩ := List.mem_map.mp member
    rw [sent_ranked]
    change _ ↔ old.rank.isSome = true
    rw [ranked old inside,decide_eq_true_iff]
  · have ranks : payoutRanks request.rows = finalization.rows.filterMap fun row => row.rank := by
      rw [rows,payoutRanks,List.filterMap_map]
      rfl
    have numbers := @Ranking.final_ranks go (Ranking.collapseDuplicateEconomicUnits entrants)
    refine ⟨_,ranks.trans ((congrArg _ final).trans numbers),?_⟩
    have length := congrArg List.length ((congrArg (List.filterMap fun row : FinalRankingRow => row.rank) final).trans numbers)
    rw [List.length_map,List.length_range,List.length_filterMap_eq_countP] at length
    rw [← length,size]
    refine le_trans (le_of_eq ?_) count
    exact congrArg _ (List.countP_congr fun row member => by rw [ranked row member])
  · intro row member other memberToo rankedRow rankedOther same
    rw [rows] at member memberToo
    obtain ⟨a,insideA,rfl⟩ := List.mem_map.mp member
    obtain ⟨b,insideB,rfl⟩ := List.mem_map.mp memberToo
    rw [unitKey_sent (named a insideA),unitKey_sent (named b insideB)] at same
    have unit : b.unit = a.unit := by
      by_cases noneA : a.unit = ""
      · by_cases noneB : b.unit = ""
        · rw [noneA,noneB]
        · rw [if_pos noneA,if_neg noneB] at same
          exact absurd same (distinct.units a insideA b insideB noneA)
      · by_cases noneB : b.unit = ""
        · rw [if_neg noneA,if_pos noneB] at same
          exact absurd same.symm (distinct.units b insideB a insideA noneB)
        · rwa [if_neg noneA,if_neg noneB] at same
    have apart := (Ranking.finalization_onePerUnit accepted).distinct
    by_contra differ
    have distinctRows : b ≠ a := fun equal => differ (congrArg _ equal)
    have symmetric : Std.Symm fun a b : FinalRankingRow => a.rankState = .ranked → b.rankState = .ranked → a.unit ≠ b.unit :=
      ⟨fun _ _ holds second first equal => holds first second equal.symm⟩
    exact apart.forall insideB insideA distinctRows (sent_ranked.mp rankedOther) (sent_ranked.mp rankedRow) unit

theorem accepted_inBounds (accepted : finalizer.finalizeWithRegistration go snapshot registration = .ok finalization)
    (counts : ∀ row ∈ finalization.rows, 0 ≤ row.entryNumber ∧ 0 ≤ row.defeatNum) (size : 2 ≤ opts.fieldSize)
    (built : buildFinalRankingApplyPayload finalization opts = .ok payload) (read : payload.received = some request) :
    request.inBounds = true := by
  obtain ⟨-,-,fieldSize,-,rows⟩ := received_cases built read
  obtain ⟨sources,entrants,decoded,made,final,-⟩ := Ranking.accepted_cases accepted
  have numbers := @Ranking.final_ranks go (Ranking.collapseDuplicateEconomicUnits entrants)
  unfold Request.inBounds
  rw [fieldSize,decide_eq_true size,Bool.true_and,rows,List.all_map,List.all_eq_true]
  intro row member
  obtain ⟨entry,defeats⟩ := counts row member
  rw [final] at member
  have reentries := (Ranking.finalRows_identified (Ranking.entrantRows_identified made) member).2
  have rank : row.rank.all (1 ≤ ·) = true := by
    cases has : row.rank with
    | none => rfl
    | some rank =>
      have inside : rank ∈ (Finalizer.finalRows go entrants).filterMap fun row => row.rank := List.mem_filterMap.mpr ⟨row,member,has⟩
      rw [Finalizer.finalRows,numbers] at inside
      obtain ⟨index,-,rfl⟩ := List.mem_map.mp inside
      simp
  have displayed : row.displayRank.all (1 ≤ ·) = true := by
    have stands := @Ranking.finalRows_stands go _ _ (Ranking.entrantRows_entered go sources made) row member
    cases stands with
    | alive index _ _ _ shown _ => simp [shown]
    | died displayRank below _ shown => simp [shown]; omega
    | pending _ shown => simp [shown]
  have reentered : (1 : Int) ≤ row.reentryCount := by exact_mod_cast reentries
  simp only [Function.comp,sent,rowDTO,FinalRankingRowDTO.received,Bool.and_eq_true]
  exact ⟨⟨⟨⟨decide_eq_true entry,decide_eq_true reentered⟩,rank⟩,displayed⟩,decide_eq_true defeats⟩

end Accepted

/-- The request is in order, and the rows that it is projected from are all its ranked rows, with ranks that are accepted. -/
structure Accepts (store : Store) (request : Request) : Prop where
  bounds : request.inBounds = true
  schema : request.validatePayoutRanks = .ok ()
  kept : ∀ row ∈ request.rows, row.rankState = "ranked" → row ∈ keptRows store request
  ranks : validatePokerMttPayoutRanks (keptRows store request) request.fieldSize = .ok ()

def Registered (store : Store) (row : RankingRow) : Prop :=
  present (minerOf row) = true ∧ (store.miners.get? ((minerOf row).getD "")).isSome

/-- A ranked row ends as a result of its own, with its rank. -/
def Survives (floats : Floats) (store : Store) (request : Request) (row : FinalRankingRow) : Prop :=
  ∃ id result, (projectPokerMttFinalRankings floats request store).2.results.get? id = some result ∧
    result.finalRankingID = some row.id ∧ row.rank = some result.finalRank

def MinersApart (store : Store) (request : Request) : Prop :=
  ∀ row ∈ request.rows, row.rankState = "ranked" → ∀ other ∈ keptRows store request,
    (minerOf other).getD "" = (minerOf row).getD "" → other = row

/-- Standings of distinct rows are accepted by every check of the service, and as a tournament's first projection their ranked rows
survive with their ranks. -/
theorem standings_survive {go : Ranking.Go} {finalizer : Finalizer} {snapshot : LiveSnapshot} {registration : RegistrationSnapshot}
    {finalization : Finalization} {opts : ApplyOptions} {payload : FinalRankingApplyPayload}
    (accepted : finalizer.finalizeWithRegistration go snapshot registration = .ok finalization)
    (counts : ∀ row ∈ finalization.rows, 0 ≤ row.entryNumber ∧ 0 ≤ row.defeatNum) (size : 2 ≤ opts.fieldSize)
    (fits : (finalization.rows.countP (fun row => row.rankState = .ranked) : Int) ≤ opts.fieldSize)
    (time : Calendar.earliest ≤ opts.lockedAt / 1000000000 ∧ opts.lockedAt / 1000000000 < Calendar.latest)
    (distinct : Distinct finalization.rows) (built : buildFinalRankingApplyPayload finalization opts = .ok payload) :
    ∃ request, payload.received = some request ∧ ∀ store, FirstProjection store request → Accepts store request ∧
      (opts.ratedOrPractice = "rated" ∨ opts.ratedOrPractice = "practice" → finalization.policyBundleVersion ≠ "" →
        (∀ row ∈ keptRows store request, Registered store row) → MinersApart store request →
        ∀ floats, ∀ row ∈ finalization.rows, row.rankState = .ranked → Survives floats store request row) := by
  obtain ⟨request,read⟩ := received_some accepted built time
  obtain ⟨-,same,-,policySame,rows⟩ := received_cases built read
  have standing := accepted_numbered accepted distinct fits built read
  have bounds := accepted_inBounds accepted counts size built read
  refine ⟨request,read,fun store first => ⟨⟨bounds,standing.valid,?_,keptRows_accepted first standing⟩,?_⟩⟩
  · exact fun row member ranked => ranked_kept first standing member ranked
  · intro mode policy registered apart floats row member ranked
    have inside : sent (opts.lockedAt / 1000000000) row ∈ request.rows := by
      rw [rows]
      exact List.mem_map_of_mem member
    have rankedToo := (@sent_ranked (opts.lockedAt / 1000000000) row).mpr ranked
    obtain ⟨result,found,ranking,rank⟩ := @project_ranked floats _ _ _ first standing bounds (same ▸ mode) (policySame ▸ policy)
      registered inside rankedToo (apart _ inside rankedToo)
    obtain ⟨value,has⟩ := Option.isSome_iff_exists.mp ((standing.marked _ inside).mp rankedToo)
    refine ⟨_,result,found,ranking,?_⟩
    rw [rank,has]
    exact has

/-! Standings that are handed off, and some that are not. -/

instance (store : Store) (row : RankingRow) : Decidable (Registered store row) := inferInstanceAs (Decidable (_ ∧ _))

/-- In a store with nothing of the tournament, the standings are accepted, and survive where all miners are registered. -/
def HandsOff (floats : Floats) (store : Store) (finalization : Finalization) (payload : FinalRankingApplyPayload) : Prop :=
  ∃ request, payload.received = some request ∧ (FirstProjection store request → Accepts store request ∧
    ((∀ row ∈ request.rows, Registered store row) →
      ∀ row ∈ finalization.rows, row.rankState = .ranked → Survives floats store request row))

structure Offered (go : Ranking.Go) (finalizer : Finalizer) (snapshot : LiveSnapshot) (opts : ApplyOptions) (finalization : Finalization)
    (payload : FinalRankingApplyPayload) : Prop where
  accepted : finalizer.finalizeWithRegistration go snapshot {} = .ok finalization
  counts : ∀ row ∈ finalization.rows, 0 ≤ row.entryNumber ∧ 0 ≤ row.defeatNum
  size : 2 ≤ opts.fieldSize
  fits : (finalization.rows.countP (fun row => row.rankState = .ranked) : Int) ≤ opts.fieldSize
  built : buildFinalRankingApplyPayload finalization opts = .ok payload

def lost (floats : Floats) (store : Store) (finalization : Finalization) (request : Request) : Bool :=
  !(request.rows.all fun row => row.rankState != "ranked" || decide (row ∈ keptRows store request)) ||
    validatePokerMttPayoutRanks (keptRows store request) request.fieldSize ≠ .ok () ||
    (request.rows.all fun row => decide (Registered store row)) && finalization.rows.any fun row => row.rankState = .ranked &&
      (projectPokerMttFinalRankings floats request store).2.results.entries.all fun entry => entry.2.finalRankingID ≠ some row.id

def offeredAndLost (floats : Floats) (store : Store) (go : Ranking.Go) (finalizer : Finalizer) (snapshot : LiveSnapshot)
    (opts : ApplyOptions) : Bool :=
  match finalizer.finalizeWithRegistration go snapshot {} with
  | .error _ => false
  | .ok finalization => match buildFinalRankingApplyPayload finalization opts with
    | .error _ => false
    | .ok payload => (finalization.rows.all fun row => 0 ≤ row.entryNumber && 0 ≤ row.defeatNum) && 2 ≤ opts.fieldSize &&
      (finalization.rows.countP (fun row => row.rankState = .ranked) : Int) ≤ opts.fieldSize &&
      payload.received.all (lost floats store finalization)

theorem lost_fails {floats : Floats} {store : Store} {finalization : Finalization} {request : Request}
    (gone : lost floats store finalization request = true) : ¬(Accepts store request ∧
      ((∀ row ∈ request.rows, Registered store row) →
        ∀ row ∈ finalization.rows, row.rankState = .ranked → Survives floats store request row)) := by
  rintro ⟨accepts,survives⟩
  have kept : (request.rows.all fun row => row.rankState != "ranked" || decide (row ∈ keptRows store request)) = true := by
    rw [List.all_eq_true]
    intro row member
    by_cases ranked : row.rankState = "ranked"
    · simp [accepts.kept row member ranked]
    · simp [ranked]
  simp only [lost,kept,accepts.ranks,Bool.not_true,ne_eq,not_true_eq_false,decide_false,Bool.false_or,Bool.and_eq_true,
    List.all_eq_true,List.any_eq_true,decide_eq_true_iff] at gone
  obtain ⟨registered,row,member,ranked,none_⟩ := gone
  obtain ⟨id,result,found,ranking,-⟩ := survives registered row member ranked
  exact none_ (id,result) (OrdMap.get?_eq_some_iff.mp found) ranking

def NotHandedOff (floats : Floats) (store : Store) (go : Ranking.Go) (finalizer : Finalizer) (snapshot : LiveSnapshot)
    (opts : ApplyOptions) : Prop :=
  ∃ finalization payload, Offered go finalizer snapshot opts finalization payload ∧ ¬HandsOff floats store finalization payload

theorem notHandedOff {floats : Floats} {store : Store} {go : Ranking.Go} {finalizer : Finalizer} {snapshot : LiveSnapshot}
    {opts : ApplyOptions} (first : ∀ request, FirstProjection store request)
    (found : offeredAndLost floats store go finalizer snapshot opts = true) :
    NotHandedOff floats store go finalizer snapshot opts := by
  unfold offeredAndLost at found
  cases accepted : finalizer.finalizeWithRegistration go snapshot {} with
  | error refusal => simp [accepted] at found
  | ok finalization =>
    cases built : buildFinalRankingApplyPayload finalization opts with
    | error cause => simp [accepted,built] at found
    | ok payload =>
      simp only [accepted,built,Bool.and_eq_true,List.all_eq_true,decide_eq_true_iff] at found
      obtain ⟨⟨⟨counts,size⟩,fits⟩,gone⟩ := found
      refine ⟨finalization,payload,⟨accepted,counts,size,fits,built⟩,?_⟩
      rintro ⟨request,read,survives⟩
      rw [read] at gone
      exact lost_fails gone (survives (first request))

theorem registered_first (request : Request) : FirstProjection registered request :=
  ⟨fun _ _ found => (by cases found),rfl⟩

def newYear : Int := 1767225600 * 1000000000

def ratedField : ApplyOptions := ⟨"rated",true,4,newYear⟩

def versioned : Finalizer where
  policyBundleVersion := "poker_mtt_v1"

def sharedGo : Ranking.Go := Ranking.plainGo
  [("first",[("miner",.text "claw1a"),("economicUnitID",.text "eu-1")]),
    ("second",[("miner",.text "claw1a"),("economicUnitID",.text "eu-2")])]

def shared : LiveSnapshot where
  tournamentID := "mtt-1"
  userInfo := [("7:1","first"),("8:1","second")]
  alive := [⟨"7:1",.finite 100⟩,⟨"8:1",.finite 50⟩]

def unnamedGo : Ranking.Go := Ranking.plainGo
  [("first",[("rank",.number (.finite 1)),("miner",.text "claw1a")]),
    ("second",[("rank",.number (.finite 2)),("miner",.text "claw1b")]),
    ("nobody",[("rank",.number (.finite 1))]),
    ("borrowed",[("rank",.number (.finite 2)),("userID",.text "7"),("entryNumber",.number (.finite 1)),
      ("economicUnitID",.text "poker_mtt_final_ranking:mtt-1:")])]

def left (died : List String) : LiveSnapshot where
  tournamentID := "mtt-1"
  died := died

theorem standings_lost :
    NotHandedOff binary64 registered sharedGo versioned shared ratedField ∧
      NotHandedOff binary64 registered Ranking.minerGo versioned Ranking.twoEntries { ratedField with ratedOrPractice := "casual" } ∧
      NotHandedOff binary64 registered Ranking.minerGo {} Ranking.twoEntries ratedField ∧
      NotHandedOff binary64 registered Ranking.minerGo versioned Ranking.twoEntries
        { ratedField with lockedAt := Calendar.latest * 1000000000 } ∧
      NotHandedOff binary64 registered unnamedGo versioned (left ["first","second"]) ratedField ∧
      NotHandedOff binary64 registered unnamedGo versioned (left ["nobody","borrowed"]) ratedField := by
  refine ⟨?_,?_,?_,?_,?_,?_⟩
  · exact notHandedOff registered_first (by decide +kernel)
  · exact notHandedOff registered_first (by decide +kernel)
  · exact notHandedOff registered_first (by decide +kernel)
  · exact notHandedOff registered_first (by decide +kernel)
  · exact notHandedOff registered_first (by decide +kernel)
  · exact notHandedOff registered_first (by decide +kernel)

/-! Two miners, one of them with two entries. -/

def apart (store : Store) (request : Request) : Bool :=
  (keptRows store request).all (fun row => decide (Registered store row)) &&
    request.rows.all fun row => row.rankState != "ranked" || (keptRows store request).all fun other =>
      (minerOf other).getD "" != (minerOf row).getD "" || decide (other = row)

theorem standings_survive_twoEntries : ∃ finalization payload request,
    Offered Ranking.minerGo versioned Ranking.twoEntries ratedField finalization payload ∧ payload.received = some request ∧
      Accepts registered request ∧
      ∀ row ∈ finalization.rows, row.rankState = .ranked → Survives binary64 registered request row := by
  have evaluated : (match versioned.finalizeWithRegistration Ranking.minerGo Ranking.twoEntries {} with
      | .error _ => false
      | .ok finalization => match buildFinalRankingApplyPayload finalization ratedField with
        | .error _ => false
        | .ok payload => (finalization.rows.all fun row => 0 ≤ row.entryNumber && 0 ≤ row.defeatNum) &&
          (finalization.rows.countP (fun row => row.rankState = .ranked) : Int) ≤ ratedField.fieldSize &&
          finalization.policyBundleVersion != "" && decide (finalization.rows.map fun row => row.id).Nodup &&
          (finalization.rows.all fun row => row.unit != "") && payload.received.all (apart registered)) = true := by
    decide +kernel
  cases accepted : versioned.finalizeWithRegistration Ranking.minerGo Ranking.twoEntries {} with
  | error refusal => simp [accepted] at evaluated
  | ok finalization =>
    cases built : buildFinalRankingApplyPayload finalization ratedField with
    | error cause => simp [accepted,built] at evaluated
    | ok payload =>
      simp only [accepted,built,Bool.and_eq_true,List.all_eq_true,decide_eq_true_iff,bne_iff_ne] at evaluated
      obtain ⟨⟨⟨⟨⟨counts,fits⟩,policy⟩,ids⟩,units⟩,alone⟩ := evaluated
      obtain ⟨request,read,survive⟩ := standings_survive accepted counts (by decide) fits (by decide +kernel)
        ⟨ids,fun row member other _ none_ => absurd none_ (units row member)⟩ built
      rw [read] at alone
      simp only [Option.all_some,apart,Bool.and_eq_true,List.all_eq_true,decide_eq_true_iff,Bool.or_eq_true,bne_iff_ne] at alone
      obtain ⟨accepts,ranked⟩ := survive registered (registered_first request)
      refine ⟨finalization,payload,request,⟨accepted,counts,by decide,fits,built⟩,read,accepts,?_⟩
      refine ranked (.inl rfl) policy alone.1 (fun row member state other kept same => ?_) binary64
      exact ((alone.2 row member).resolve_left fun unranked => unranked state) other kept |>.resolve_left fun differ => differ same

end Clawchain.Projection
