import Clawchain.Arena.App.Field

/-! A round of a live tournament: the barrier its tables meet at, the field that
is carried over, the next hands or the tables rebuilt by a transition, and the
completion of the tournament. -/
namespace Clawchain.Arena.App
open Clawchain.Lib Clawchain.Arena.Table Clawchain.Arena.Hub

def recordedSeat (actors : OrdMap String Actor) (entrant : Entrant) : Option Seat :=
  (actors.get? entrant.tableID).bind fun actor => actor.state.table.seats.get? (seatNoFromSeatID entrant.seatID)

def currentAssignment (runtime : RuntimeService) (tournamentID : String) (entrant : Entrant) :
    Option SeatAssignment :=
  if entrant.tournamentID ≠ tournamentID ∨ entrant.tableID = "" ∨ entrant.seatID = "" then none
  else if (runtime.tournaments.get? tournamentID).any fun tournament =>
      (tournament.pendingDisqualifications.get? entrant.minerID).isSome then none
  else match recordedSeat runtime.actors entrant with
    | none => none
    | some seat =>
      if seat.state = .eliminated then none
      else some {
        entrantID := entrant.id
        minerID := entrant.minerID
        tableID := entrant.tableID
        tableNo := tableNoFromTableID entrant.tableID
        seatNo := seatNoFromSeatID entrant.seatID }

def fieldEntrants (runtime : RuntimeService) (waveID : String) : List Entrant :=
  ((runtime.waves.get? waveID).map fun wave => wave.entrants.entries.map Prod.snd).getD []

def currentAssignmentsForTournament (runtime : RuntimeService) (waveID tournamentID : String) :
    List SeatAssignment :=
  ((fieldEntrants runtime waveID).filterMap (currentAssignment runtime tournamentID)).insertionSort seatedBefore

def appendFieldExitEvent (tournamentID : String) (entrant : Entrant) (stageReached : String) : RuntimeM Unit :=
  if entrant.id = "" ∨ entrant.tableID = "" ∨ entrant.seatID = "" then pure ()
  else Faulty.read fun runtime => appendElimination {
    id := "field_exit:" ++ entrant.id
    tournamentID := tournamentID
    tableID := entrant.tableID
    seatID := entrant.seatID
    entrantID := entrant.id
    stageReached := stageReached
    occurredAt := runtime.world.now
    createdAt := runtime.world.now }

/-- Who holds a seat is told so; everybody else may only read. -/
def syncedSeats (assignments : List SeatAssignment) (seats : OrdMap String PublicSeat) : OrdMap String PublicSeat :=
  assignments.foldl (fun seats assignment => seats.insert assignment.minerID
    ⟨assignment.tableID,assignment.seatNo,false⟩) (seats.mapVals fun _ seat => { seat with readOnly := true })

def playingAt (assignment : SeatAssignment) (entrant : Entrant) : Entrant :=
  { entrant with
    tableID := assignment.tableID
    seatID := seatID assignment.tableID assignment.seatNo
    registrationState := .playing }

/-- The state of an entrant without a seat, by whether a disqualification waits for it. -/
def leftField (disqualified : Bool) (entrant : Entrant) : Entrant :=
  { entrant with
    tableID := ""
    seatID := ""
    registrationState := if disqualified then .disqualified else .eliminated
    stageReached := if disqualified then "disqualified" else "eliminated" }

def putEntrant (waveID minerID : String) (entrant : Entrant) (change : Entrant → Entrant) : RuntimeM Unit :=
  if change entrant = entrant then pure ()
  else do
    upsertRow
    updateEntrant waveID minerID change

def recordExit (tournamentID minerID : String) (disqualified : Bool) (entrant : Entrant) : RuntimeM Unit :=
  if entrant.registrationState = (leftField disqualified entrant).registrationState then pure ()
  else do
    appendFieldExitEvent tournamentID entrant (leftField disqualified entrant).stageReached
    if disqualified then do
      upsertRow
      updateTournament tournamentID fun tournament =>
        { tournament with pendingDisqualifications := tournament.pendingDisqualifications.erase minerID }

def pendingAt (runtime : RuntimeService) (tournamentID minerID : String) : Bool :=
  (runtime.tournaments.get? tournamentID).any fun tournament =>
    (tournament.pendingDisqualifications.get? minerID).isSome

def entrantOf (runtime : RuntimeService) (waveID minerID : String) : Option Entrant :=
  (runtime.waves.get? waveID).bind fun wave => wave.entrants.get? minerID

def syncEntrant (waveID tournamentID : String) (active : OrdMap String SeatAssignment) (minerID : String) :
    RuntimeM Unit :=
  Faulty.read fun runtime => match entrantOf runtime waveID minerID with
    | none => pure ()
    | some entrant =>
      if entrant.tournamentID ≠ tournamentID then pure ()
      else match active.get? minerID with
        | some assignment => putEntrant waveID minerID entrant (playingAt assignment)
        | none =>
          let disqualified := pendingAt runtime tournamentID minerID
          do
            recordExit tournamentID minerID disqualified entrant
            putEntrant waveID minerID entrant (leftField disqualified)

def activeByMiner (assignments : List SeatAssignment) : OrdMap String SeatAssignment :=
  OrdMap.ofList (assignments.map fun assignment => (assignment.minerID,assignment))

def syncActiveEntrants (waveID tournamentID : String) (assignments : List SeatAssignment) : RuntimeM Unit := do
  updateTournament tournamentID fun tournament =>
    { tournament with seatAssignments := syncedSeats assignments tournament.seatAssignments }
  Faulty.read fun runtime =>
    Faulty.each (syncEntrant waveID tournamentID (activeByMiner assignments)) (fieldMiners runtime waveID)

structure RankedSurvivor where
  minerID : String
  stack : Int
  deriving DecidableEq, Repr

def ranksBefore (a b : RankedSurvivor) : Prop := b.stack < a.stack ∨ a.stack = b.stack ∧ a.minerID ≤ b.minerID

instance : DecidableRel ranksBefore := fun a b =>
  inferInstanceAs (Decidable (b.stack < a.stack ∨ a.stack = b.stack ∧ a.minerID ≤ b.minerID))

def rankedSurvivors (seats : OrdMap String SeatRow) (assignments : List SeatAssignment) : List RankedSurvivor :=
  (assignments.map fun assignment => ⟨assignment.minerID,
    ((seats.get? (seatID assignment.tableID assignment.seatNo)).map SeatRow.stack).getD 0⟩).insertionSort ranksBefore

def exitsBefore (a b : EliminationEvent) : Prop :=
  a.occurredAt < b.occurredAt ∨ a.occurredAt = b.occurredAt ∧ (a.createdAt < b.createdAt ∨
    a.createdAt = b.createdAt ∧ (a.tableID < b.tableID ∨ a.tableID = b.tableID ∧ a.entrantID ≤ b.entrantID))

instance : DecidableRel exitsBefore := fun a b =>
  inferInstanceAs (Decidable (a.occurredAt < b.occurredAt ∨ a.occurredAt = b.occurredAt ∧ (a.createdAt < b.createdAt ∨
    a.createdAt = b.createdAt ∧ (a.tableID < b.tableID ∨ a.tableID = b.tableID ∧ a.entrantID ≤ b.entrantID))))

def tournamentEntrantsForCompletion (runtime : RuntimeService) (waveID tournamentID : String) : List Entrant :=
  ((fieldEntrants runtime waveID).filter (·.tournamentID = tournamentID)).insertionSort minerBefore

def survivorRanks (survivors : List RankedSurvivor) : List (String × Int) :=
  survivors.zipIdx.map fun (survivor,idx) => (survivor.minerID,(idx : Int) + 1)

def exitRanks (entrants : List Entrant) (events : List EliminationEvent) : List (String × Int) :=
  let entrantByID := OrdMap.ofList (entrants.map fun entrant => (entrant.id,entrant))
  events.zipIdx.filterMap fun (event,idx) => (entrantByID.get? event.entrantID).bind fun entrant =>
    if entrant.minerID = "" then none else some (entrant.minerID,(entrants.length : Int) - idx)

/-- Who has no rank yet takes the unused ones, in the order of the miners. -/
def finishRanks (entrants : List Entrant) (survivors : List RankedSurvivor) (events : List EliminationEvent) :
    OrdMap String Int :=
  let given := survivorRanks survivors ++ exitRanks entrants events
  let ranks := OrdMap.ofList given
  let remaining := ((List.range entrants.length).map fun idx => (idx : Int) + 1).filter (· ∉ given.map Prod.snd)
  let missing := ((entrants.map Entrant.minerID).filter fun minerID =>
    (ranks.get? minerID).getD 0 = 0).insertionSort (· ≤ ·)
  OrdMap.ofList (given ++ missing.zip remaining)

inductive CompletionReason where
  | naturalFinish
  | timeCap
  deriving DecidableEq, Repr

def stageReachedForPlacement (reason : CompletionReason) (entrant : Entrant)
    (fieldSize : Nat) (finishRank : Int) (survivorCount : Nat) : String :=
  let existing := if entrant.stageReached ≠ "" then entrant.stageReached else "eliminated"
  if entrant.registrationState = .disqualified ∨ entrant.stageReached = "disqualified" then "disqualified"
  else match reason with
    | .timeCap => if finishRank > 0 ∧ finishRank ≤ survivorCount then "time_cap_finish" else existing
    | .naturalFinish =>
      if finishRank = 1 ∧ survivorCount = 1 then "completed"
      else if finishRank > 0 ∧ finishRank ≤ min (fieldSize : Int) 9 then "final_table"
      else existing

def championOf (assignments : List SeatAssignment) : Option String :=
  match assignments with
  | [winner] => some winner.minerID
  | _ => none

def completedEntrant (ranks : OrdMap String Int) (stages : OrdMap String String) (champion : Option String)
    (minerID : String) (entrant : Entrant) : Entrant :=
  let rank := (ranks.get? minerID).getD 0
  let stage := (stages.get? minerID).getD ""
  { entrant with
    finishRank := if rank > 0 then rank else entrant.finishRank
    stageReached := if stage ≠ "" then stage else entrant.stageReached
    tableID := ""
    seatID := ""
    registrationState :=
      if entrant.registrationState = .disqualified then .disqualified
      else if champion = some minerID then .champion
      else .eliminated }

def finishEntrant (waveID tournamentID : String) (ranks : OrdMap String Int) (stages : OrdMap String String)
    (champion : Option String) (minerID : String) : RuntimeM Unit :=
  Faulty.read fun runtime => match entrantOf runtime waveID minerID with
    | none => pure ()
    | some entrant =>
      if entrant.tournamentID ≠ tournamentID then pure ()
      else do
        upsertRow
        updateEntrant waveID minerID (completedEntrant ranks stages champion minerID)

structure Completion where
  ranks : OrdMap String Int := OrdMap.empty
  stages : OrdMap String String := OrdMap.empty
  events : List EliminationEvent := []
  entrants : List Entrant := []

def buildTournamentCompletion (waveID tournamentID : String) (assignments : List SeatAssignment)
    (reason : CompletionReason) : RuntimeM Completion :=
  Faulty.read fun runtime =>
    let entrants := tournamentEntrantsForCompletion runtime waveID tournamentID
    if entrants = [] then pure {}
    else do
      storeCall (readCall fun _ => ())
      storeCall (readCall fun _ => ())
      storeCall (readCall fun _ => ())
      let survivors := rankedSurvivors (runtime.seats.filter fun _ row => row.tournamentID = tournamentID) assignments
      let events := ((runtime.eliminations.entries.map Prod.snd).filter
        (·.tournamentID = tournamentID)).insertionSort exitsBefore
      let ranks := finishRanks entrants survivors events
      let stages := OrdMap.ofList (entrants.map fun entrant => (entrant.minerID,
        stageReachedForPlacement reason entrant entrants.length ((ranks.get? entrant.minerID).getD 0)
          survivors.length))
      return ⟨ranks,stages,events,entrants⟩

def completedTournament (currentRoundNo : Nat) (assignments : List SeatAssignment) (now : Int)
    (tournament : Tournament) : Tournament :=
  let tableIDs := uniqueTableIDs assignments
  { tournament with
    state := .completed
    currentRoundNo := currentRoundNo
    playersRemaining := assignments.length
    activeTableCount := tableIDs.length
    finalTableTableID := match tableIDs with
      | [only] => if tournament.finalTableTableID = "" then only else tournament.finalTableTableID
      | _ => tournament.finalTableTableID
    completedAt := some now }

/-- The rating writer is the last call that may fail before the tables are taken down. -/
def completeTournament (waveID tournamentID : String) (assignments : List SeatAssignment) (currentRoundNo : Nat)
    (reason : CompletionReason) : RuntimeM Unit := do
  upsertRow
  Faulty.read fun runtime => updateTournament tournamentID fun entry =>
    { entry with tournament := completedTournament currentRoundNo assignments runtime.world.now entry.tournament }
  let completion ← buildTournamentCompletion waveID tournamentID assignments reason
  upsertRow
  Faulty.given (completion.events ≠ []) upsertRow
  updateTournament tournamentID fun tournament =>
    { tournament with seatAssignments := tournament.seatAssignments.mapVals fun _ seat =>
        { seat with readOnly := true } }
  Faulty.read fun runtime => Faulty.each (finishEntrant waveID tournamentID completion.ranks completion.stages
    (championOf assignments)) (fieldMiners runtime waveID)
  Faulty.given (completion.entrants ≠ []) upsertRow
  removeActors tournamentID
  updateWave waveID fun wave => { wave with liveHub := none }

def handleActor (tableID : String) (envelope : CommandEnvelope) : RuntimeM Unit := fun runtime =>
  match runtime.actors.get? tableID with
  | none => (.ok (),runtime)
  | some actor =>
    let (result,after,world) := actor.handle envelope runtime.world
    ((result.map fun _ => ()).mapError .handle,
      { runtime with world := world, actors := runtime.actors.insert tableID after })

def openActorPhase (tableID : String) (phase : ActorState → Int → PhaseDefinition) : RuntimeM Unit := fun runtime =>
  match runtime.actors.get? tableID with
  | none => (.ok (),runtime)
  | some actor =>
    let (result,after,world) := actor.openPhase (phase actor.state runtime.world.now) runtime.world
    (result.mapError .store,{ runtime with world := world, actors := runtime.actors.insert tableID after })

def startRequestID (tableID : String) (roundNo : Nat) : String :=
  "sys:start:" ++ tableID ++ ":" ++ toString roundNo

def startNextHand (tournamentID tableID : String) (roundNo : Nat) : RuntimeM Unit := do
  Faulty.read fun runtime => match runtime.actors.get? tableID with
    | none => pure ()
    | some actor => handleActor tableID ⟨startRequestID tableID roundNo,actor.state.stateSeq,
        .startHand (startHandFor (blindLevelForRound roundNo))⟩
  openActorPhase tableID fun state now => signalPhase state
    (Model.handID tournamentID (tableNoFromTableID tableID) state.table.handNumber) now
  upsertRow

def tournamentTables (runtime : RuntimeService) (tournamentID : String) : List String :=
  runtime.actors.keysWhere fun _ actor => actor.state.tournamentID = tournamentID

def startNextRound (tournamentID : String) (nextRoundNo : Nat) : RuntimeM Unit :=
  Faulty.read fun runtime =>
    Faulty.each (fun tableID => startNextHand tournamentID tableID nextRoundNo) (tournamentTables runtime tournamentID)

def carriedSeat (seatNo : Int) (seat : Seat) : Seat :=
  { seat with
    seatNo := seatNo
    folded := false
    allInThisHand := false
    timedOutThisHand := false
    manualActionThisHand := false
    committedThisHand := 0
    wonThisHand := 0
    showdownValue := 0 }

def carriedByMiner (runtime : RuntimeService) (waveID tournamentID : String) : OrdMap String Seat :=
  OrdMap.ofList ((fieldEntrants runtime waveID).filterMap fun entrant =>
    if entrant.tournamentID ≠ tournamentID ∨ entrant.tableID = "" ∨ entrant.seatID = "" then none
    else (recordedSeat runtime.actors entrant).map fun seat => (entrant.minerID,seat))

def carryEntrant (waveID tournamentID : String) (carried : OrdMap String Seat) (assignment : SeatAssignment) :
    RuntimeM Unit :=
  match carried.get? assignment.minerID with
  | none => Faulty.fail (.missingCarriedSeat assignment.minerID)
  | some seat =>
    if seat.stack ≤ 0 then Faulty.fail (.nonPositiveCarriedStack assignment.minerID)
    else do
      upsertRow
      updateEntrant waveID assignment.minerID (playingAt assignment)
      Faulty.read fun runtime => upsertSeat {
        id := seatID assignment.tableID assignment.seatNo
        tournamentID := tournamentID
        entrantID := ((entrantOf runtime waveID assignment.minerID).map Entrant.id).getD ""
        stack := seat.stack }
      assignPublicSeats tournamentID [assignment]

def carriedSeats (carried : OrdMap String Seat) (assignments : List SeatAssignment) : OrdMap Int Seat :=
  OrdMap.ofList (assignments.map fun assignment => (assignment.seatNo,
    carriedSeat assignment.seatNo ((carried.get? assignment.minerID).getD {})))

structure Carried where
  seats : OrdMap String Seat
  actors : OrdMap String Actor
  snapshots : Store

def orSnapshot (current : Int) (previous : Option TableSnapshot) (read : TableSnapshot → Int) : Int :=
  if current = 0 then (previous.map read).getD 0 else current

def rebuiltHand (tournamentID tableID : String) (carried : Carried) (assignments : List SeatAssignment)
    (nextRoundNo : Nat) : ActorState :=
  let table := applyStartHand
    { currentPhase := .signal, handNumber := nextRoundNo - 1, seats := carriedSeats carried.seats assignments }
    (startHandFor (blindLevelForRound nextRoundNo))
  { tableID := tableID
    tournamentID := tournamentID
    handID := Model.handID tournamentID (tableNoFromTableID tableID) table.handNumber
    stateSeq := orSnapshot (((carried.actors.get? tableID).map fun actor => actor.state.stateSeq).getD 0)
      (latestTableSnapshot carried.snapshots tournamentID tableID) TableSnapshot.stateSeq
    table := table }

def rebuildTable (waveID tournamentID : String) (carried : Carried) (plan : TransitionPlan) (nextRoundNo : Nat)
    (tableID : String) : RuntimeM Unit := do
  let assignments := bySeat plan.seatAssignments tableID
  Faulty.each (carryEntrant waveID tournamentID carried.seats) assignments
  let actor ← openDealt (rebuiltHand tournamentID tableID carried assignments nextRoundNo)
    (orSnapshot (((carried.actors.get? tableID).map Actor.streamSeq).getD 0)
      (latestTableSnapshot carried.snapshots tournamentID tableID) TableSnapshot.streamSeq)
  setActor tableID actor
  upsertRow

def applyTransitionPlan (waveID tournamentID : String) (plan : TransitionPlan) (nextRoundNo : Nat) :
    RuntimeM Unit := do
  let snapshots ← storeCall (readCall id)
  Faulty.read fun runtime =>
    let carried : Carried := ⟨carriedByMiner runtime waveID tournamentID,
      runtime.actors.filter fun _ actor => actor.state.tournamentID = tournamentID,snapshots⟩
    do
      removeActors tournamentID
      updateTournament tournamentID fun tournament =>
        { tournament with seatAssignments := tournament.seatAssignments.mapVals fun _ seat =>
            { seat with readOnly := true } }
      Faulty.each (rebuildTable waveID tournamentID carried plan nextRoundNo) (uniqueTableIDs plan.seatAssignments)
  resetLiveHub waveID tournamentID plan.seatAssignments.length plan.seatAssignments

inductive Advance where
  | waiting
  | completed
  | started
  deriving DecidableEq, Repr

def roundNoForTournament (tournament : Tournament) : Nat :=
  if tournament.currentRoundNo > 0 then tournament.currentRoundNo else 1

def completionReason (tournament : Option TournamentRuntime) (liveHub : Service) (playersRemaining : Nat) :
    Option CompletionReason :=
  if playersRemaining ≤ 1 then some .naturalFinish
  else if (tournament.any fun tournament => tournament.tournament.timeCapAt.isSome) && liveHub.terminateAfterRound then
    some .timeCap
  else none

def nextRoundOf (tournamentID : String) (plan : TransitionPlan) (playersRemaining nextRoundNo : Nat)
    (tournament : Tournament) : Tournament :=
  let tableCount := (uniqueTableIDs plan.seatAssignments).length
  { tournament with
    currentRoundNo := nextRoundNo
    currentLevelNo := (blindLevelForRound nextRoundNo).levelNo
    playersRemaining := playersRemaining
    activeTableCount := tableCount
    finalTableTableID := if plan.decision = .finalTable then Model.tableID tournamentID 1
      else tournament.finalTableTableID
    state := if plan.decision = .finalTable ∨ tableCount ≤ 1 then .liveFinalTable else .liveMultiTable }

def startRound (waveID tournamentID : String) (plan : TransitionPlan) (nextRoundNo : Nat) : RuntimeM Unit :=
  match plan.decision with
  | .none => startNextRound tournamentID nextRoundNo
  | _ => applyTransitionPlan waveID tournamentID plan nextRoundNo

def closeRound (waveID tournamentID : String) : RuntimeM Advance := Faulty.read fun runtime =>
  let assignments := currentAssignmentsForTournament runtime waveID tournamentID
  do
    syncActiveEntrants waveID tournamentID assignments
    resetLiveHub waveID tournamentID assignments.length assignments
    Faulty.read fun runtime =>
      let tournament := runtime.tournaments.get? tournamentID
      let liveHub := liveHubFor runtime.tournaments tournamentID assignments.length assignments
      let plan := liveHub.buildTransitionPlan
      let currentRoundNo := (tournament.map fun tournament => roundNoForTournament tournament.tournament).getD 1
      match completionReason tournament liveHub assignments.length with
      | some reason => do
        completeTournament waveID tournamentID assignments currentRoundNo reason
        return .completed
      | none => do
        upsertRow
        updateTournament tournamentID fun entry =>
          { entry with tournament :=
              nextRoundOf tournamentID plan assignments.length (currentRoundNo + 1) entry.tournament }
        startRound waveID tournamentID plan (currentRoundNo + 1)
        persistRoundBarrier waveID
        return .started

def markHandClosed (waveID tableID : String) : RuntimeM Unit :=
  updateWave waveID fun wave => { wave with liveHub := wave.liveHub.map (·.markHandClosed tableID) }

def completesRound (runtime : RuntimeService) (waveID tableID : String) : Bool :=
  ((runtime.waves.get? waveID).bind WaveRuntime.liveHub).any fun liveHub =>
    (liveHub.markHandClosed tableID).canAdvanceRound

def advanceClosedTable (waveID tournamentID tableID : String) : RuntimeM Advance := Faulty.read fun runtime =>
  match (runtime.waves.get? waveID).bind WaveRuntime.liveHub with
  | none => pure .waiting
  | some _ => do
    markHandClosed waveID tableID
    persistRoundBarrier waveID
    if completesRound runtime waveID tableID then closeRound waveID tournamentID else return .waiting

def postActorMutation (waveID tournamentID tableID : String) (state : ActorState) : RuntimeM Advance :=
  Faulty.read fun runtime => match runtime.actors.get? tableID with
    | none => pure .waiting
    | some _ =>
      if state.table.handClosed then do
        let advance ← advanceClosedTable waveID tournamentID tableID
        Faulty.read fun runtime =>
          if (runtime.tournaments.get? tournamentID).any fun tournament => tournament.tournament.state = .completed then
            return advance
          else do
            upsertRow
            return advance
      else do
        Faulty.given (state.table.actingSeatNo ≠ 0) (openActorPhase tableID fun _ now => turnPhase state now)
        upsertRow
        return .waiting

def onSubmitCommitted (tournamentID tableID : String) (state : ActorState) : RuntimeM Advance :=
  Faulty.read fun runtime => match runtime.tournaments.get? tournamentID with
    | none => pure .waiting
    | some tournament => postActorMutation tournament.waveID tournamentID tableID state

section Field
variable {runtime : RuntimeService} {waveID tournamentID : String} {entrant : Entrant}

theorem mem_fieldEntrants :
    entrant ∈ fieldEntrants runtime waveID ↔ ∃ minerID, entrantOf runtime waveID minerID = some entrant := by
  unfold fieldEntrants entrantOf
  cases runtime.waves.get? waveID with
  | none => simp
  | some wave => simp [OrdMap.get?_eq_some_iff]

theorem currentAssignment_some {assignment : SeatAssignment}
    (current : currentAssignment runtime tournamentID entrant = some assignment) :
    entrant.tournamentID = tournamentID ∧ entrant.tableID ≠ "" ∧ entrant.seatID ≠ "" ∧ assignment.minerID = entrant.minerID ∧
      assignment.entrantID = entrant.id ∧ assignment.tableID = entrant.tableID ∧
      assignment.seatNo = seatNoFromSeatID entrant.seatID ∧ (runtime.actors.get? entrant.tableID).isSome := by
  unfold currentAssignment at current
  split_ifs at current with away pending
  rw [not_or,not_or,not_not] at away
  cases recorded : recordedSeat runtime.actors entrant with
  | none =>
    rw [recorded] at current
    cases current
  | some seat =>
    rw [recorded] at current
    dsimp only at current
    split_ifs at current
    cases current
    obtain ⟨actor,found,-⟩ := Option.bind_eq_some_iff.mp recorded
    exact ⟨away.1,away.2.1,away.2.2,rfl,rfl,rfl,rfl,by rw [found]; rfl⟩

end Field

end Clawchain.Arena.App
