import Clawchain.Arena.Hub.Service
import Clawchain.Arena.Table.Drive

/-! The runtime service: waves with their fields, the tournaments made of them,
and the actors of their tables. Of the rows it writes only those are kept that
it reads again; any call to its repository may fail. -/
namespace Clawchain.Arena.App
open Clawchain.Lib Clawchain.Arena.Table Clawchain.Arena.Hub

structure OperatorIntervention where
  (tournamentID tableID seatID minerID reasonDetail : String)
  deriving DecidableEq, Repr

structure PublicSeat where
  tableID : String := ""
  seatNo : Int := 0
  readOnly : Bool := false
  deriving DecidableEq, Repr

structure SeatRow where
  (id tournamentID entrantID : String)
  stack : Int
  deriving DecidableEq, Repr

structure EliminationEvent where
  (id tournamentID tableID seatID entrantID stageReached : String)
  (occurredAt createdAt : Int)
  deriving DecidableEq, Repr

/-- A tournament is kept under its id. `ref` is the address of the object: every
`LockWave` makes a new one. -/
structure TournamentRuntime where
  ref : Nat
  waveID : String
  tournament : Tournament
  seatAssignments : OrdMap String PublicSeat := OrdMap.empty
  pendingDisqualifications : OrdMap String OperatorIntervention := OrdMap.empty
  disqualificationSeen : Bool := false
  deriving DecidableEq

structure WaveRuntime where
  wave : Wave
  entrants : OrdMap String Entrant := OrdMap.empty
  hub : Option Service := none
  liveHub : Option Service := none
  tournamentID : String := ""
  deriving DecidableEq

structure RuntimeService where
  world : World := {}
  waves : OrdMap String WaveRuntime := OrdMap.empty
  tournaments : OrdMap String TournamentRuntime := OrdMap.empty
  actors : OrdMap String Actor := OrdMap.empty
  seats : OrdMap String SeatRow := OrdMap.empty
  eliminations : OrdMap String EliminationEvent := OrdMap.empty
  allocated : Nat := 0
  deriving DecidableEq

inductive RuntimeError where
  | waveIDRequired
  | invalidMode
  | waveAlreadyExists
  | waveNotFound
  | minerNotRegistered
  | noTournamentPacked
  | waveNotLocked
  | waveNotReady
  | tournamentNotFound
  | tournamentNotLive
  | entrantNotFound
  | entrantNotActive
  | seatAssignmentNotFound
  | missingCarriedSeat (minerID : String)
  | nonPositiveCarriedStack (minerID : String)
  | hub (error : HubError)
  | handle (error : HandleError)
  | store (error : StoreError)
  deriving DecidableEq, Repr

abbrev RuntimeM := Faulty RuntimeService RuntimeError

structure BlindLevel where
  levelNo : Nat
  (smallBlind bigBlind ante : Int)
  deriving DecidableEq, Repr

def blindSchedule : List BlindLevel :=
  [⟨1,25,50,0⟩,⟨2,50,100,10⟩,⟨3,75,150,15⟩,⟨4,100,200,25⟩,⟨5,150,300,40⟩,
    ⟨6,200,400,50⟩,⟨7,300,600,75⟩,⟨8,400,800,100⟩,⟨9,600,1200,150⟩,⟨10,800,1600,200⟩]

def blindLevelForRound (roundNo : Nat) : BlindLevel :=
  blindSchedule.getD ((roundNo - 1) / 4) ⟨10,800,1600,200⟩

def startHandFor (level : BlindLevel) : StartHand :=
  ⟨level.smallBlind,level.bigBlind,level.ante,level.ante + 2 * level.bigBlind⟩

/-! Seats and tables by their identifiers. -/

def seatNoFromSeatID (seatID : String) : Int := Format.trailingInt seatID

def tableNoFromTableID (tableID : String) : Int := Format.trailingInt tableID

def uniqueTableIDs (assignments : List SeatAssignment) : List String :=
  ((assignments.map SeatAssignment.tableID).dedup).insertionSort (· ≤ ·)

def playerCountByTable (assignments : List SeatAssignment) (tableID : String) : Nat :=
  (tableGroup assignments tableID).length

def liveTablesForHub (assignments : List SeatAssignment) : List LiveTable :=
  (uniqueTableIDs assignments).map fun tableID => ⟨tableID,playerCountByTable assignments tableID⟩

def entrantsByMiner (entrants : OrdMap String Entrant) : List Entrant :=
  (entrants.entries.map Prod.snd).insertionSort minerBefore

def tournamentAcceptsPlay : TournamentState → Bool
  | .ready => true
  | .liveMultiTable => true
  | .rebalancing => true
  | .finalTableTransition => true
  | .liveFinalTable => true
  | _ => false

def storeCall {α : Type} (call : StoreM α) : RuntimeM α := fun runtime =>
  let (result,world) := call runtime.world
  (result.mapError .store,{ runtime with world := world })

def upsertRow : RuntimeM Unit := storeCall (writeCall (fun _ store => .ok store) [()])

def findWave (waveID : String) : RuntimeM WaveRuntime := fun runtime =>
  match runtime.waves.get? waveID with
  | some wave => (.ok wave,runtime)
  | none => (.error .waveNotFound,runtime)

def findTournament (tournamentID : String) : RuntimeM TournamentRuntime := fun runtime =>
  match runtime.tournaments.get? tournamentID with
  | some tournament => (.ok tournament,runtime)
  | none => (.error .tournamentNotFound,runtime)

def updateWave (waveID : String) (f : WaveRuntime → WaveRuntime) : RuntimeM Unit :=
  Faulty.modify fun runtime => { runtime with waves := runtime.waves.modifyAt waveID f }

def updateTournament (tournamentID : String) (f : TournamentRuntime → TournamentRuntime) : RuntimeM Unit :=
  Faulty.modify fun runtime => { runtime with tournaments := runtime.tournaments.modifyAt tournamentID f }

def updateEntrant (waveID minerID : String) (f : Entrant → Entrant) : RuntimeM Unit :=
  updateWave waveID fun wave =>
    { wave with entrants := wave.entrants.insert minerID (f ((wave.entrants.get? minerID).getD {})) }

def setActor (tableID : String) (actor : Actor) : RuntimeM Unit :=
  Faulty.modify fun runtime => { runtime with actors := runtime.actors.insert tableID actor }

def upsertSeat (row : SeatRow) : RuntimeM Unit := do
  upsertRow
  Faulty.modify fun runtime => { runtime with seats := runtime.seats.insert row.id row }

def appendElimination (event : EliminationEvent) : RuntimeM Unit := do
  upsertRow
  Faulty.modify fun runtime => { runtime with eliminations := runtime.eliminations.insert event.id event }

def hubCall (result : Except HubError Service) : RuntimeM Service := fun runtime =>
  (result.mapError .hub,runtime)

def removeActors (tournamentID : String) : RuntimeM Unit :=
  Faulty.modify fun runtime => { runtime with
    actors := runtime.actors.filter fun _ actor => actor.state.tournamentID ≠ tournamentID }

def dealtPhase (state : ActorState) (now : Int) : PhaseDefinition :=
  { id := phaseID state.handID .signal
    handID := state.handID
    type := .signal
    actingSeat := state.table.actingSeatNo
    toCall := state.table.currentToCall
    deadlineAt := some (now + 30) }

def openDealt (state : ActorState) (streamSeq : Int) : RuntimeM Actor := fun runtime =>
  match (newRecoveredActor state streamSeq).openPhase (dealtPhase state runtime.world.now) runtime.world with
  | (.error e,_,world) => (.error (.store e),{ runtime with world := world })
  | (.ok (),actor,world) => (.ok actor,{ runtime with world := world })

def liveHubFor (tournaments : OrdMap String TournamentRuntime) (tournamentID : String) (playersRemaining : Nat)
    (assignments : List SeatAssignment) : Service :=
  { tournamentID := tournamentID
    playersRemaining := playersRemaining
    liveTables := liveTablesForHub assignments
    tournaments := [{ tournamentID := tournamentID, seatAssignments := assignments }]
    terminateAfterRound := tournamentID ≠ "" &&
      (tournaments.get? tournamentID).any fun tournament => tournament.tournament.timeCapAt.isSome }

def resetLiveHub (waveID tournamentID : String) (playersRemaining : Nat) (assignments : List SeatAssignment) :
    RuntimeM Unit :=
  Faulty.read fun runtime => updateWave waveID fun wave =>
    { wave with liveHub := some (liveHubFor runtime.tournaments tournamentID playersRemaining assignments) }

def persistRoundBarrier (waveID : String) : RuntimeM Unit := fun runtime =>
  if ((runtime.waves.get? waveID).bind WaveRuntime.liveHub).isSome then upsertRow runtime else (.ok (),runtime)

end Clawchain.Arena.App
