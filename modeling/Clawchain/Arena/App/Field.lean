import Clawchain.Arena.App.State

/-! A wave before its play: it is created, miners register and leave, the field
is locked and packed, and the seats are published. -/
namespace Clawchain.Arena.App
open Clawchain.Lib Clawchain.Arena.Table Clawchain.Arena.Hub

def arenaModeNamed (name : String) : Option ArenaMode :=
  if name = "rated" then some .rated else if name = "practice" then some .practice else none

def createWave (waveID mode : String) : RuntimeM Unit := fun runtime =>
  if waveID = "" then (.error .waveIDRequired,runtime)
  else match arenaModeNamed mode with
    | none => (.error .invalidMode,runtime)
    | some mode =>
      if (runtime.waves.get? waveID).isSome then (.error .waveAlreadyExists,runtime)
      else (upsertRow >>= fun _ => Faulty.modify fun runtime =>
        { runtime with waves := runtime.waves.insert waveID { wave := ⟨waveID,mode,.registrationOpen⟩ } }) runtime

def newEntrant (waveID minerID : String) : Entrant :=
  { id := "ent:" ++ waveID ++ ":" ++ minerID
    waveID := waveID
    minerID := minerID
    seatAlias := "alias:" ++ minerID
    registrationState := .confirmed }

/-- The state of the wave is not looked at, and an entrant of the miner is replaced. -/
def registerMiner (waveID minerID : String) : RuntimeM Unit := do
  let _ ← findWave waveID
  upsertRow
  updateEntrant waveID minerID fun _ => newEntrant waveID minerID

def unregisterMiner (waveID minerID : String) : RuntimeM Unit := do
  let wave ← findWave waveID
  match wave.entrants.get? minerID with
  | none => Faulty.fail .minerNotRegistered
  | some _ => do
    upsertRow
    updateWave waveID fun wave => { wave with entrants := wave.entrants.erase minerID }

/-- The hub of a lock starts in an open registration whatever the wave's own state is. -/
def lockingHub (waveID : String) (entrants : OrdMap String Entrant) : Service :=
  { waveID := waveID, waveState := some .registrationOpen, entrants := entrantsByMiner entrants }

def newTournament (waveID : String) (plan : TournamentPlan) (entrants : Nat) : Tournament :=
  { id := plan.tournamentID
    waveID := waveID
    mode := plan.ratedOrPractice
    state := .ready
    noMultiplier := plan.noMultiplier
    playersRegistered := entrants
    playersConfirmed := entrants
    playersRemaining := entrants
    activeTableCount := (uniqueTableIDs plan.seatAssignments).length }

def joinTournament (waveID tournamentID : String) (assignment : SeatAssignment) : RuntimeM Unit := do
  upsertRow
  updateEntrant waveID assignment.minerID fun entrant => { entrant with tournamentID := tournamentID }
  upsertRow

def addTournament (waveID : String) (plan : TournamentPlan) (entrants : Nat) : RuntimeM Unit :=
  Faulty.modify fun runtime => { runtime with
    tournaments := runtime.tournaments.insert plan.tournamentID
      { ref := runtime.allocated, waveID := waveID, tournament := newTournament waveID plan entrants }
    allocated := runtime.allocated + 1 }

section Seating
variable (sum256 : String → Nat)

def lockWave (waveID : String) : RuntimeM Unit := do
  let wave ← findWave waveID
  let service ← hubCall ((lockingHub waveID wave.entrants).lockAndPack sum256)
  match service.tournaments with
  | [] => Faulty.fail .noTournamentPacked
  | plan :: _ => do
    updateWave waveID fun wave =>
      { wave with
        hub := some service
        tournamentID := plan.tournamentID
        wave := { wave.wave with state := .seatingGenerated } }
    upsertRow
    upsertRow
    Faulty.each (joinTournament waveID plan.tournamentID) plan.seatAssignments
    addTournament waveID plan wave.entrants.size

def seatedAt (tournamentID : String) (assignment : SeatAssignment) (entrant : Entrant) : Entrant :=
  { entrant with
    tournamentID := tournamentID
    tableID := assignment.tableID
    seatID := seatID assignment.tableID assignment.seatNo
    registrationState := .seated }

def seatEntrant (waveID tournamentID : String) (assignment : SeatAssignment) : RuntimeM Unit := do
  upsertRow
  updateEntrant waveID assignment.minerID (seatedAt tournamentID assignment)
  Faulty.read fun runtime => upsertSeat {
    id := seatID assignment.tableID assignment.seatNo
    tournamentID := tournamentID
    entrantID := ((((runtime.waves.get? waveID).bind fun wave =>
      wave.entrants.get? assignment.minerID).map Entrant.id).getD "")
    stack := 1000 }
  upsertRow

def bySeat (assignments : List SeatAssignment) (tableID : String) : List SeatAssignment :=
  (tableGroup assignments tableID).insertionSort fun a b => a.seatNo ≤ b.seatNo

def startingSeats (assignments : List SeatAssignment) : OrdMap Int Seat :=
  OrdMap.ofList (assignments.map fun assignment =>
    (assignment.seatNo,{ seatNo := assignment.seatNo, state := .active, stack := 1000 }))

def tableNoOf (assignments : List SeatAssignment) (tableID : String) : Int :=
  match assignments with
  | [] => tableNoFromTableID tableID
  | first :: _ => if first.tableNo = 0 then tableNoFromTableID tableID else first.tableNo

def firstHand (tournamentID tableID : String) (assignments : List SeatAssignment) (previous : Option TableSnapshot) :
    ActorState :=
  let table := applyStartHand { currentPhase := .signal, seats := startingSeats assignments }
    (startHandFor (blindLevelForRound 1))
  { tableID := tableID
    tournamentID := tournamentID
    handID := Model.handID tournamentID (tableNoOf assignments tableID) table.handNumber
    stateSeq := (previous.map TableSnapshot.stateSeq).getD 0
    table := table }

def assignPublicSeats (tournamentID : String) (assignments : List SeatAssignment) : RuntimeM Unit :=
  updateTournament tournamentID fun tournament =>
    { tournament with seatAssignments := assignments.foldl (fun seats assignment =>
        seats.insert assignment.minerID ⟨assignment.tableID,assignment.seatNo,false⟩) tournament.seatAssignments }

def seatTableOf (waveID tournamentID : String) (plan : TournamentPlan) (snapshots : Store) (tableID : String) :
    RuntimeM Unit := do
  let assignments := bySeat plan.seatAssignments tableID
  let previous := latestTableSnapshot snapshots tournamentID tableID
  upsertRow
  Faulty.each (seatEntrant waveID plan.tournamentID) assignments
  let actor ← openDealt (firstHand plan.tournamentID tableID assignments previous)
    ((previous.map TableSnapshot.streamSeq).getD 0)
  upsertRow
  setActor tableID actor
  assignPublicSeats tournamentID assignments

def clearRemoved (waveID : String) (plan : TournamentPlan) (minerID : String) : RuntimeM Unit :=
  Faulty.read fun runtime =>
    match (runtime.waves.get? waveID).bind fun wave => wave.entrants.get? minerID with
    | none => pure ()
    | some entrant =>
      if entrant.tournamentID ≠ plan.tournamentID ∨ minerID ∈ plan.seatAssignments.map SeatAssignment.minerID ∨
        entrant.registrationState ≠ .removedBeforeStart then pure ()
      else do
        upsertRow
        updateEntrant waveID minerID fun entrant => { entrant with tableID := "", seatID := "" }

def fieldMiners (runtime : RuntimeService) (waveID : String) : List String :=
  ((runtime.waves.get? waveID).map fun wave => wave.entrants.keys).getD []

def applySeatingPlan (waveID tournamentID : String) (plan : TournamentPlan) : RuntimeM Unit := do
  let snapshots ← storeCall (readCall id)
  removeActors tournamentID
  updateTournament tournamentID fun tournament => { tournament with seatAssignments := OrdMap.empty }
  Faulty.each (seatTableOf waveID tournamentID plan snapshots) (uniqueTableIDs plan.seatAssignments)
  Faulty.read fun runtime => Faulty.each (clearRemoved waveID plan) (fieldMiners runtime waveID)

def plannedTournament (plan : TournamentPlan) (tournament : Tournament) : Tournament :=
  { tournament with
    playersRemaining := plan.entrantIDs.length
    playersConfirmed := plan.entrantIDs.length
    activeTableCount := (uniqueTableIDs plan.seatAssignments).length
    seatingRepublishCount := plan.republishCount }

def setHub (waveID : String) (service : Service) : RuntimeM Unit :=
  updateWave waveID fun wave => { wave with hub := some service }

def publishSeats (waveID : String) : RuntimeM Unit := do
  let wave ← findWave waveID
  match wave.hub with
  | none => Faulty.fail .waveNotLocked
  | some hub =>
    if wave.tournamentID = "" then Faulty.fail .waveNotLocked
    else do
      let service ← hubCall hub.publishSeats
      setHub waveID service
      updateWave waveID fun wave => { wave with wave := { wave.wave with state := .seatsPublished } }
      upsertRow
      match service.tournaments with
      | [] => Faulty.fail .noTournamentPacked
      | plan :: _ => do
        let _ ← findTournament wave.tournamentID
        upsertRow
        updateTournament wave.tournamentID fun tournament =>
          { tournament with tournament := { plannedTournament plan tournament.tournament with
              currentLevelNo := (blindLevelForRound 1).levelNo } }
        Faulty.each (fun _ => upsertRow) blindSchedule
        applySeatingPlan waveID wave.tournamentID plan
        resetLiveHub waveID plan.tournamentID plan.entrantIDs.length plan.seatAssignments
        persistRoundBarrier waveID

def removedBeforeStart (entrant : Entrant) : Entrant :=
  { entrant with registrationState := .removedBeforeStart, tableID := "", seatID := "" }

def forceRemoveBeforeStart (waveID minerID : String) : RuntimeM Unit := do
  let wave ← findWave waveID
  match wave.hub with
  | none => Faulty.fail .waveNotReady
  | some hub =>
    if wave.tournamentID = "" then Faulty.fail .waveNotReady
    else do
      let removed ← hubCall (hub.forceRemoveBeforeStart minerID)
      setHub waveID removed
      let service ← hubCall (removed.republishSeats sum256)
      setHub waveID service
      Faulty.given ((wave.entrants.get? minerID).isSome = true) do
        upsertRow
        updateEntrant waveID minerID removedBeforeStart
      match service.tournaments with
      | [] => Faulty.fail .noTournamentPacked
      | plan :: _ => do
        let _ ← findTournament wave.tournamentID
        upsertRow
        updateTournament wave.tournamentID fun tournament =>
          { tournament with tournament := plannedTournament plan tournament.tournament }
        applySeatingPlan waveID wave.tournamentID plan
        resetLiveHub waveID plan.tournamentID plan.entrantIDs.length plan.seatAssignments

end Seating

def disqualify (tournamentID minerID reason : String) : RuntimeM Unit := do
  let tournament ← findTournament tournamentID
  if tournamentAcceptsPlay tournament.tournament.state = false then Faulty.fail .tournamentNotLive
  else do
    let wave ← findWave tournament.waveID
    match wave.entrants.get? minerID with
    | none => Faulty.fail .entrantNotFound
    | some entrant =>
      if entrant.tournamentID ≠ tournamentID then Faulty.fail .entrantNotFound
      else if entrant.registrationState ≠ .playing ∧ entrant.registrationState ≠ .seated then
        Faulty.fail .entrantNotActive
      else match tournament.seatAssignments.get? minerID with
        | none => Faulty.fail .seatAssignmentNotFound
        | some assignment =>
          if assignment.tableID = "" ∨ assignment.seatNo = 0 then Faulty.fail .seatAssignmentNotFound
          else do
            upsertRow
            updateTournament tournamentID fun tournament =>
              { tournament with
                pendingDisqualifications := tournament.pendingDisqualifications.insert minerID
                  ⟨tournamentID,assignment.tableID,seatID assignment.tableID assignment.seatNo,minerID,reason⟩
                disqualificationSeen := true
                seatAssignments := tournament.seatAssignments.insert minerID { assignment with readOnly := true } }
            upsertRow
            updateTournament tournamentID fun tournament =>
              { tournament with tournament := { tournament.tournament with noMultiplier := true } }

def armTimeCap (tournamentID : String) : RuntimeM Unit := do
  let tournament ← findTournament tournamentID
  updateWave tournament.waveID fun wave => { wave with hub := wave.hub.map Service.armTimeCap }
  upsertRow
  Faulty.read fun runtime => updateTournament tournamentID fun tournament =>
    { tournament with tournament := { tournament.tournament with timeCapAt := some runtime.world.now } }

def voidTournament (tournamentID : String) : RuntimeM Unit := do
  let _ ← findTournament tournamentID
  upsertRow
  Faulty.read fun runtime => updateTournament tournamentID fun tournament =>
    { tournament with tournament := { tournament.tournament with
        state := .voided
        voided := true
        noMultiplier := true
        completedAt := some runtime.world.now } }

end Clawchain.Arena.App
