import Clawchain.Arena.Model
import Clawchain.Lib.OrdMap
import Mathlib.Data.List.Sort

/-! The hub: it packs a wave's field into a tournament, draws the seats, keeps
the barrier of a round, and plans how tables are broken and balanced. -/
namespace Clawchain.Arena.Hub
open Clawchain.Lib

structure SeatAssignment where
  (entrantID minerID tableID : String)
  (tableNo seatNo : Int)
  deriving DecidableEq, Repr

structure TournamentPlan where
  tournamentID : String
  ratedOrPractice : ArenaMode := .practice
  noMultiplier : Bool := false
  entrantIDs : List String := []
  seatAssignments : List SeatAssignment
  republishCount : Nat := 0
  seatsWerePublished : Bool := false
  deriving DecidableEq, Repr

structure LiveTable where
  tableID : String
  playerCount : Nat
  deriving DecidableEq, Repr

inductive TransitionDecision where
  | none
  | rebalance
  | breakTable
  | finalTable
  deriving DecidableEq, Repr

structure TransitionPlan where
  decision : TransitionDecision
  seatAssignments : List SeatAssignment
  deriving DecidableEq, Repr

structure Service where
  tournamentID : String := ""
  waveID : String := ""
  waveState : Option WaveState := Option.none
  entrants : List Entrant := []
  tournaments : List TournamentPlan := []
  playersRemaining : Nat := 0
  liveTables : List LiveTable := []
  closedTables : OrdMap String Bool := OrdMap.empty
  terminateAfterRound : Bool := false
  republishUsed : Bool := false
  pendingRepublish : Bool := false
  deriving DecidableEq

inductive HubError where
  | waveNotOpen
  | noPackedTournament
  | seatsNotPublished
  | republishAlreadyUsed
  | republishNotRequired
  | entrantNotFound
  | entrantAlreadyRemoved
  deriving DecidableEq, Repr

def seatsPerTable : Nat := 9

def Service.markHandClosed (service : Service) (tableID : String) : Service :=
  { service with closedTables := service.closedTables.insert tableID true }

def Service.canAdvanceRound (service : Service) : Bool :=
  !service.liveTables.isEmpty && decide (service.liveTables.length ≤ service.closedTables.size) &&
    service.liveTables.all fun table => (service.closedTables.get? table.tableID).getD false

def Service.armTimeCap (service : Service) : Service := { service with terminateAfterRound := true }

def targetTableCount (playersRemaining : Nat) : Nat := (playersRemaining + (seatsPerTable - 1)) / seatsPerTable

def balancedTargetSizes (playersRemaining tableCount : Nat) : List Nat :=
  ((List.range tableCount).map fun i =>
    playersRemaining / tableCount + if i < playersRemaining % tableCount then 1 else 0).insertionSort (· ≥ ·)

def drawnBefore (key : Entrant → Nat) (a b : Entrant) : Prop :=
  key a < key b ∨ key a = key b ∧ (a.minerID < b.minerID ∨ a.minerID = b.minerID ∧ a.id ≤ b.id)

instance (key : Entrant → Nat) : DecidableRel (drawnBefore key) := fun a b =>
  inferInstanceAs (Decidable (key a < key b ∨ key a = key b ∧ (a.minerID < b.minerID ∨ a.minerID = b.minerID ∧ a.id ≤ b.id)))

section Draw
variable (sum256 : String → Nat)

def drawKey (tournamentID : String) (entrant : Entrant) : Nat :=
  sum256 (tournamentID ++ "|" ++ entrant.id ++ "|" ++ entrant.minerID ++ "|" ++ entrant.seatAlias)

def shuffledEntrants (tournamentID : String) (entrants : List Entrant) : List Entrant :=
  entrants.insertionSort (drawnBefore (drawKey sum256 tournamentID))

def seatTable (tournamentID : String) (tableNo : Nat) (entrants : List Entrant) : List SeatAssignment :=
  entrants.zipIdx.map fun (entrant,seatIdx) => {
    entrantID := entrant.id
    minerID := entrant.minerID
    tableID := Model.tableID tournamentID tableNo
    tableNo := tableNo
    seatNo := seatIdx + 1 }

def seatTables (tournamentID : String) : Nat → List Nat → List Entrant → List SeatAssignment
  | _,[],_ => []
  | tableNo,size :: rest,draw =>
    seatTable tournamentID tableNo (draw.take size) ++ seatTables tournamentID (tableNo + 1) rest (draw.drop size)

def assignSeats (tournamentID : String) (entrants : List Entrant) : List SeatAssignment :=
  if entrants = [] then []
  else
    let draw := shuffledEntrants sum256 tournamentID entrants
    seatTables tournamentID 1 (balancedTargetSizes draw.length (targetTableCount draw.length)) draw

def classifyShard (entrants : Nat) : ArenaMode × Bool :=
  if 33 ≤ entrants ∧ entrants ≤ 64 then (.rated,false) else (.practice,true)

def minerBefore (a b : Entrant) : Prop := a.minerID < b.minerID ∨ a.minerID = b.minerID ∧ a.id ≤ b.id

instance : DecidableRel minerBefore := fun a b =>
  inferInstanceAs (Decidable (a.minerID < b.minerID ∨ a.minerID = b.minerID ∧ a.id ≤ b.id))

def Service.activeEntrants (service : Service) : List Entrant :=
  (service.entrants.filter fun entrant => entrant.registrationState ≠ .removedBeforeStart).insertionSort minerBefore

def Service.lockAndPack (service : Service) : Except HubError Service :=
  if service.waveState ≠ some .registrationOpen then .error .waveNotOpen
  else
    let entrants := service.activeEntrants
    let (mode,noMultiplier) := classifyShard entrants.length
    let tournamentID := Model.tournamentID service.waveID 1
    .ok { service with
      waveState := some .seatingGenerated
      tournaments := [{
        tournamentID := tournamentID
        ratedOrPractice := mode
        noMultiplier := noMultiplier
        entrantIDs := entrants.map Entrant.id
        seatAssignments := assignSeats sum256 tournamentID entrants }] }

def Service.publishSeats (service : Service) : Except HubError Service :=
  if service.tournaments = [] then .error .noPackedTournament
  else .ok { service with
    waveState := some .seatsPublished
    tournaments := service.tournaments.map fun plan => { plan with seatsWerePublished := true } }

def removeEntrant (minerID : String) : List Entrant → Except HubError (List Entrant)
  | [] => .error .entrantNotFound
  | entrant :: rest =>
    if entrant.minerID ≠ minerID then (removeEntrant minerID rest).map (entrant :: ·)
    else if entrant.registrationState = .removedBeforeStart then .error .entrantAlreadyRemoved
    else .ok ({ entrant with registrationState := .removedBeforeStart } :: rest)

def Service.forceRemoveBeforeStart (service : Service) (minerID : String) : Except HubError Service :=
  if service.waveState ≠ some .seatsPublished then .error .seatsNotPublished
  else (removeEntrant minerID service.entrants).map fun entrants =>
    { service with entrants := entrants, pendingRepublish := true }

def Service.republishSeats (service : Service) : Except HubError Service :=
  if service.waveState ≠ some .seatsPublished then .error .seatsNotPublished
  else if service.republishUsed then .error .republishAlreadyUsed
  else if service.pendingRepublish = false then .error .republishNotRequired
  else match service.tournaments with
    | [] => .error .noPackedTournament
    | plan :: rest => .ok { service with
        tournaments := { plan with
          seatAssignments := assignSeats sum256 plan.tournamentID service.activeEntrants
          entrantIDs := service.activeEntrants.map Entrant.id
          republishCount := plan.republishCount + 1
          seatsWerePublished := true } :: rest
        republishUsed := true
        pendingRepublish := false }

end Draw

def seatedBefore (a b : SeatAssignment) : Prop :=
  a.tableID < b.tableID ∨ a.tableID = b.tableID ∧ a.seatNo ≤ b.seatNo

instance : DecidableRel seatedBefore := fun a b =>
  inferInstanceAs (Decidable (a.tableID < b.tableID ∨ a.tableID = b.tableID ∧ a.seatNo ≤ b.seatNo))

def movesBefore (a b : SeatAssignment) : Prop :=
  a.tableID < b.tableID ∨ a.tableID = b.tableID ∧ b.seatNo ≤ a.seatNo

instance : DecidableRel movesBefore := fun a b =>
  inferInstanceAs (Decidable (a.tableID < b.tableID ∨ a.tableID = b.tableID ∧ b.seatNo ≤ a.seatNo))

def Service.currentAssignments (service : Service) : List SeatAssignment :=
  match service.tournaments with
  | [] => []
  | plan :: _ => plan.seatAssignments.insertionSort seatedBefore

def tableNoFromTableID (tableID : String) : Int :=
  if ':' ∈ tableID.toList then
    (tableID.toList.rtakeWhile (· ≠ ':')).foldl (fun value ch => value * 10 + (ch.toNat - 48 : Int)) 0
  else 0

def renumber (tableID : String) (tableNo : Int) (assignments : List SeatAssignment) : List SeatAssignment :=
  assignments.zipIdx.map fun (assignment,idx) =>
    { assignment with tableID := tableID, tableNo := tableNo, seatNo := idx + 1 }

def reseatAssignments (targetTableID : String) (targetTableNo : Int) (assignments : List SeatAssignment) :
    List SeatAssignment :=
  renumber targetTableID targetTableNo (assignments.insertionSort seatedBefore)

def tableGroup (assignments : List SeatAssignment) (tableID : String) : List SeatAssignment :=
  assignments.filter (·.tableID = tableID)

def keptBefore (assignments : List SeatAssignment) (a b : String) : Prop :=
  (tableGroup assignments b).length < (tableGroup assignments a).length ∨
    (tableGroup assignments a).length = (tableGroup assignments b).length ∧ a ≤ b

instance (assignments : List SeatAssignment) : DecidableRel (keptBefore assignments) := fun a b =>
  inferInstanceAs (Decidable ((tableGroup assignments b).length < (tableGroup assignments a).length ∨
    (tableGroup assignments a).length = (tableGroup assignments b).length ∧ a ≤ b))

def tablesBySize (assignments : List SeatAssignment) : List String :=
  ((assignments.map SeatAssignment.tableID).dedup).insertionSort (keptBefore assignments)

/-- A table that stays, the players it is to have and those it has. -/
structure KeptTable where
  tableID : String
  size : Nat
  seated : List SeatAssignment

def moveTo (tableID : String) (mover : SeatAssignment) : SeatAssignment :=
  { mover with tableID := tableID, tableNo := tableNoFromTableID tableID }

def surplus (table : KeptTable) : List SeatAssignment := (table.seated.drop table.size).reverse

def fillTables : List KeptTable → List SeatAssignment → List (String × List SeatAssignment)
  | [],_ => []
  | table :: rest,pool =>
    let seated := table.seated.take table.size
    let missing := table.size - seated.length
    (table.tableID,seated ++ (pool.take missing).map (moveTo table.tableID)) :: fillTables rest (pool.drop missing)

def keptTables (assignments : List SeatAssignment) (targetTables : Nat) : List KeptTable :=
  let keep := ((tablesBySize assignments).take targetTables).insertionSort (· ≤ ·)
  (keep.zip (balancedTargetSizes assignments.length targetTables)).map fun (tableID,size) =>
    ⟨tableID,size,(tableGroup assignments tableID).insertionSort seatedBefore⟩

def moverPool (assignments : List SeatAssignment) (targetTables : Nat) : List SeatAssignment :=
  ((((tablesBySize assignments).drop targetTables).flatMap fun tableID =>
    (tableGroup assignments tableID).insertionSort movesBefore) ++
      (keptTables assignments targetTables).flatMap surplus).insertionSort movesBefore

def rebalanceAssignments (assignments : List SeatAssignment) (targetTables : Nat) : List SeatAssignment :=
  if targetTables = 0 then assignments
  else
    let targetTables := min targetTables (tablesBySize assignments).length
    ((fillTables (keptTables assignments targetTables) (moverPool assignments targetTables)).flatMap
      fun (tableID,seated) =>
        renumber tableID (tableNoFromTableID tableID) (seated.insertionSort seatedBefore)).insertionSort seatedBefore

def needsRebalance (tables : List LiveTable) : Bool :=
  match tables.map LiveTable.playerCount with
  | first :: second :: rest =>
    decide ((second :: rest).foldl max first - (second :: rest).foldl min first > 1)
  | _ => false

def Service.nextBarrierDecision (service : Service) : TransitionDecision :=
  let tableCount := service.liveTables.length
  if tableCount = 0 then .none
  else if service.playersRemaining ≤ seatsPerTable ∧ tableCount > 1 then .finalTable
  else if targetTableCount service.playersRemaining < tableCount then .breakTable
  else if needsRebalance service.liveTables then .rebalance
  else .none

def Service.buildTransitionPlan (service : Service) : TransitionPlan :=
  let decision := service.nextBarrierDecision
  let assignments := service.currentAssignments
  ⟨decision,if assignments = [] then assignments else match decision with
    | .none => assignments
    | .finalTable => reseatAssignments (Model.tableID service.tournamentID 1) 1 assignments
    | _ => rebalanceAssignments assignments (targetTableCount service.playersRemaining)⟩

end Clawchain.Arena.Hub
