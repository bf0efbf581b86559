import Clawchain.Arena.Table.State

/-! The table reducer: `apply` takes a table state and a command to the next
state and its events, or to an error. Loops over the seat map run in seat
order, which is the order every loop of the source sorts its result into. -/
namespace Clawchain.Arena.Table
open Clawchain.Lib

def canAct (seat : Seat) : Bool :=
  seat.state != .eliminated && !seat.folded && !seat.allInThisHand

def isContender (seat : Seat) : Bool :=
  seat.state != .eliminated && !seat.folded

def chipsToCall (state : State) (seat : Seat) : Int :=
  if state.currentToCall ≤ seat.committedThisHand then 0
  else state.currentToCall - seat.committedThisHand

def deterministicShowdownValue (handNumber : Nat) (seatNo : Int) : Int :=
  ((if handNumber = 0 then 1 else (handNumber : Int)) * 97 + seatNo * 31).tmod 1000

def showdownValue (state : State) (seatNo : Int) (seat : Seat) : Int :=
  if seat.showdownValue ≠ 0 then seat.showdownValue
  else deterministicShowdownValue state.handNumber seatNo

def eligibleSeatNos (state : State) : List Int :=
  state.seats.keysWhere fun _ seat => seat.state != .eliminated

def actorSeatNos (state : State) : List Int :=
  state.seats.keysWhere fun _ seat => canAct seat

def contenderSeatNos (state : State) : List Int :=
  state.seats.keysWhere fun _ seat => isContender seat

def remainingContenders (state : State) : Nat := (contenderSeatNos state).length

def remainingActors (state : State) : Nat := (actorSeatNos state).length

def firstEligibleSeatFrom (state : State) (startSeatNo : Int) : Int :=
  match actorSeatNos state with
  | [] => 0
  | first :: rest =>
    if startSeatNo = 0 then first
    else ((first :: rest).find? (startSeatNo ≤ ·)).getD first

def nextActiveSeatForStart (activeSeatNos : List Int) (currentSeatNo : Int) : Int :=
  match activeSeatNos with
  | [] => 0
  | first :: _ =>
    if currentSeatNo = 0 then first
    else match activeSeatNos.idxOf? currentSeatNo with
      | some idx => activeSeatNos.getD ((idx + 1) % activeSeatNos.length) 0
      | none => first

/-- The next seat able to act after the current one, around the table; the
current seat itself when nobody else is able to. -/
def nextActiveSeat (state : State) (currentSeatNo : Int) : Int :=
  let seatNos := state.seats.keys
  match seatNos.idxOf? currentSeatNo with
  | none => currentSeatNo
  | some i =>
    let others := (List.range' 1 (seatNos.length - 1)).map
      (fun offset => seatNos.getD ((i + offset) % seatNos.length) 0)
    (others.find? (fun seatNo => canAct (state.seat seatNo))).getD currentSeatNo

/-! Forced bets and the start of a hand. -/

def forcedContribution (seat : Seat) (amount : Int) : Int :=
  if amount ≤ 0 ∨ seat.stack ≤ 0 then 0
  else if amount > seat.stack then seat.stack
  else amount

def postForced (state : State) (seatNo amount : Int) : State :=
  let seat := state.seat seatNo
  let forced := forcedContribution seat amount
  { state with
    seats := state.seats.insert seatNo { seat with
      stack := seat.stack - forced
      committedThisHand := seat.committedThisHand + forced
      allInThisHand := seat.stack - forced == 0 && decide (seat.committedThisHand + forced > 0) }
    potMain := state.potMain + forced }

def postAntes (state : State) (activeSeatNos : List Int) (ante : Int) : State :=
  if ante > 0 then activeSeatNos.foldl (fun next seatNo => postForced next seatNo ante) state
  else state

def blindSeatNos (handNumber : Nat) (activeSeatNos : List Int) : Int × Int :=
  if activeSeatNos.length ≥ 2 then
    let sbIndex := (handNumber - 1) % activeSeatNos.length
    let bbIndex := (sbIndex + 1) % activeSeatNos.length
    (activeSeatNos.getD sbIndex 0,activeSeatNos.getD bbIndex 0)
  else (0,0)

def postBlinds (state : State) (activeSeatNos : List Int) (cmd : StartHand) : State :=
  if activeSeatNos.length ≥ 2 then
    let (sbSeatNo,bbSeatNo) := blindSeatNos state.handNumber activeSeatNos
    let next := if cmd.smallBlind > 0 then postForced state sbSeatNo cmd.smallBlind else state
    if cmd.bigBlind > 0 then postForced next bbSeatNo cmd.bigBlind else next
  else state

def resetSeat (handNumber : Nat) (seatNo : Int) (seat : Seat) : Seat :=
  { seat with
    folded := false
    allInThisHand := false
    timedOutThisHand := false
    manualActionThisHand := false
    committedThisHand := 0
    wonThisHand := 0
    showdownValue := deterministicShowdownValue handNumber seatNo }

def resetHand (state : State) : State :=
  { state with
    handNumber := state.handNumber + 1
    handClosed := false
    potMain := 0
    currentToCall := 0
    phaseStartSeatNo := 0
    actingSeatNo := 0
    winnerSeatNos := []
    seats := state.seats.mapVals (resetSeat (state.handNumber + 1)) }

def raiseToCall (toCall : Int) (seat : Seat) : Int :=
  if seat.committedThisHand > toCall then seat.committedThisHand else toCall

def largestCommitment (state : State) : Int :=
  state.seats.entries.foldl (fun toCall entry => raiseToCall toCall entry.2) state.currentToCall

def postForcedBets (state : State) (cmd : StartHand) : State :=
  let next := resetHand state
  let activeSeatNos := eligibleSeatNos next
  postBlinds (postAntes next activeSeatNos cmd.ante) activeSeatNos cmd

def applyStartHand (state : State) (cmd : StartHand) : State :=
  let activeSeatNos := eligibleSeatNos (resetHand state)
  if activeSeatNos = [] then
    { resetHand state with actingSeatNo := 0, minRaiseSize := cmd.minRaiseTo }
  else
    let next := postForcedBets state cmd
    let bbSeatNo := (blindSeatNos next.handNumber activeSeatNos).2
    let next := { next with currentToCall := largestCommitment next, minRaiseSize := cmd.minRaiseTo }
    { next with actingSeatNo :=
        firstEligibleSeatFrom next (nextActiveSeatForStart activeSeatNos bbSeatNo) }

def bestStep (value : Int → Int) (best : Int × List Int) (seatNo : Int) : Int × List Int :=
  if value seatNo > best.1 then (value seatNo,[seatNo])
  else if value seatNo = best.1 then (best.1,best.2 ++ [seatNo])
  else best

def bestShowdownSeats (state : State) (seatNos : List Int) : List Int :=
  (seatNos.foldl (bestStep fun seatNo => showdownValue state seatNo (state.seat seatNo))
    (-1,[])).2.insertionSort (· ≤ ·)

/-- The source runs the loop of `bestShowdownSeats` over the contenders. -/
def resolveWinners (state : State) : List Int := bestShowdownSeats state (contenderSeatNos state)

def totalCommitted (state : State) : Int := state.seats.sumBy fun _ seat => seat.committedThisHand

def commitmentLevels (state : State) : List Int :=
  (((state.seats.entries.map fun entry => entry.2.committedThisHand).filter (· > 0)).dedup).insertionSort (· ≤ ·)

def contributorsAtOrAbove (state : State) (level : Int) : List Int :=
  state.seats.keysWhere fun _ seat => !(seat.committedThisHand < level)

def eligibleContendersAtOrAbove (state : State) (level : Int) : List Int :=
  state.seats.keysWhere fun _ seat => !(seat.committedThisHand < level) && isContender seat

def payout (amount : Int) (count idx : Nat) : Int :=
  amount / count + if (idx : Int) < amount % count then 1 else 0

def paySeat (state : State) (seatNo chips : Int) : State :=
  let seat := state.seat seatNo
  { state with seats := state.seats.insert seatNo { seat with
      stack := seat.stack + chips
      wonThisHand := seat.wonThisHand + chips
      showdownValue := if seat.showdownValue = 0 then
        deterministicShowdownValue state.handNumber seatNo else seat.showdownValue } }

def distributeChips (state : State) (seatNos : List Int) (amount : Int) : State :=
  if amount ≤ 0 ∨ seatNos = [] then state
  else seatNos.zipIdx.foldl
    (fun next entry => paySeat next entry.1 (payout amount seatNos.length entry.2)) state

structure AwardLoop where
  state : State
  prevLevel : Int
  potWinners : OrdMap Int Unit

def awardLayer (loop : AwardLoop) (level : Int) : AwardLoop :=
  let contributors := contributorsAtOrAbove loop.state level
  if contributors = [] then { loop with prevLevel := level }
  else
    let layerAmount := (level - loop.prevLevel) * contributors.length
    if layerAmount ≤ 0 then { loop with prevLevel := level }
    else if contributors.length = 1 then
      { loop with state := distributeChips loop.state contributors layerAmount, prevLevel := level }
    else
      let eligible := eligibleContendersAtOrAbove loop.state level
      if eligible = [] then
        { loop with state := distributeChips loop.state contributors layerAmount, prevLevel := level }
      else
        let layerWinners := bestShowdownSeats loop.state eligible
        { state := distributeChips loop.state layerWinners layerAmount
          prevLevel := level
          potWinners := layerWinners.foldl (fun set seatNo => set.insert seatNo ()) loop.potWinners }

def awardLayers (state : State) : AwardLoop :=
  (commitmentLevels state).foldl awardLayer ⟨state,0,OrdMap.empty⟩

def awardPot (state : State) (winners : List Int) : State × List Int :=
  if state.potMain ≤ 0 ∨ winners = [] then (state,[])
  else if totalCommitted state ≤ 0 then
    ({ distributeChips state winners state.potMain with potMain := 0 },winners)
  else
    let loop := awardLayers state
    ({ loop.state with potMain := 0 },loop.potWinners.keys)

def closeSeat (seat : Seat) : Seat :=
  let seat :=
    if seat.manualActionThisHand then
      { seat with
        timeoutStreak := 0
        state := if seat.state = .sitOut then .active else seat.state }
    else if seat.timedOutThisHand then
      let streak := seat.timeoutStreak + 1
      { seat with
        timeoutStreak := streak
        sitOutWarningCount := if streak = 1 then seat.sitOutWarningCount + 1 else seat.sitOutWarningCount
        state := if streak ≥ 4 then .eliminated else if streak ≥ 2 then .sitOut else seat.state }
    else seat
  { seat with
    state := if seat.stack ≤ 0 then .eliminated else seat.state
    timedOutThisHand := false
    manualActionThisHand := false }

def applyCloseHand (state : State) : State × List Event :=
  let next := { state with handClosed := true, actingSeatNo := 0, currentToCall := 0 }
  let resolvedWinners := resolveWinners next
  let (awarded,potWinners) := awardPot next resolvedWinners
  ({ awarded with
      winnerSeatNos := if potWinners.length > 0 then potWinners else resolvedWinners
      seats := awarded.seats.mapVals fun _ seat => closeSeat seat },
    [{ type := .handClosed }])

def illegal (detail : String) : Except ApplyError Unit := .error (.illegalAction detail)

def validateWager (state : State) (seat : Seat) (cmd : SubmitArenaAction) : Except ApplyError Unit :=
  match cmd.actionType with
  | .check => if chipsToCall state seat ≠ 0 then illegal "cannot check facing action" else .ok ()
  | .call =>
    if chipsToCall state seat ≤ 0 ∨ chipsToCall state seat > seat.stack then illegal "invalid call"
    else .ok ()
  | .fold => .ok ()
  | .raise =>
    if cmd.amount ≤ state.currentToCall then illegal "raise must exceed to_call"
    else if cmd.amount < state.minRaiseSize then illegal "raise below minimum"
    else if cmd.amount - seat.committedThisHand ≤ 0 then illegal "invalid raise size"
    else if cmd.amount - seat.committedThisHand ≥ seat.stack then illegal "no all-in or side-pot support"
    else .ok ()
  | .allIn => if seat.stack ≤ 0 then illegal "empty stack" else .ok ()
  | _ => illegal "unsupported wager action"

def validateAction (state : State) (seat : Seat) (cmd : SubmitArenaAction) : Except ApplyError Unit :=
  match state.currentPhase with
  | .signal => if cmd.actionType ≠ .signalNone then illegal "invalid signal action" else .ok ()
  | .probe => if cmd.actionType ≠ .passProbe then illegal "invalid probe action" else .ok ()
  | .wager => validateWager state seat cmd
  | .other _ => illegal "unknown phase"

def timeoutAction (state : State) : ActionType :=
  match state.currentPhase with
  | .signal => .signalNone
  | .probe => .passProbe
  | .wager =>
    match state.seats.get? state.actingSeatNo with
    | some seat => if chipsToCall state seat = 0 then .autoCheck else .autoFold
    | none => .autoFold
  | .other _ => .autoFold

def phaseCompleted (previous next : State) : Bool :=
  if next.actingSeatNo = 0 then remainingActors next == 0
  else
    let startSeatNo :=
      if previous.phaseStartSeatNo = 0 then previous.actingSeatNo else previous.phaseStartSeatNo
    next.actingSeatNo == startSeatNo

def noFurtherWagerActionsRequired (previous next : State) : Bool :=
  if previous.actingSeatNo = 0 ∨ next.actingSeatNo ≠ previous.actingSeatNo then false
  else match next.seats.get? next.actingSeatNo with
    | none => true
    | some seat => chipsToCall next seat == 0

def closeAfter (next : State) (events : List Event) : State × List Event :=
  let (closed,closeEvents) := applyCloseHand next
  (closed,events ++ closeEvents)

def wagerOver (previous next : State) : Bool :=
  remainingContenders next ≤ 1 || remainingActors next == 0 || noFurtherWagerActionsRequired previous next

def openNextPhase (previous next : State) (phase : Phase) : State :=
  let acting := firstEligibleSeatFrom next previous.phaseStartSeatNo
  { next with currentPhase := phase, actingSeatNo := acting, phaseStartSeatNo := acting }

def advanceAfterTurn (previous next : State) (events : List Event) : State × List Event :=
  if next.currentPhase = .wager ∧ wagerOver previous next then closeAfter next events
  else if phaseCompleted previous next = false then (next,events)
  else match next.currentPhase with
    | .signal => (openNextPhase previous next .probe,events)
    | .probe => (openNextPhase previous next .wager,events)
    | .wager => closeAfter next events
    | .other _ => (next,events)

def takeAction (state : State) (seat : Seat) (cmd : SubmitArenaAction) : State :=
  let seat := { seat with
    manualActionThisHand := true
    timedOutThisHand := false
    state := if seat.state = .sitOut then .active else seat.state }
  let put (next : State) (seat : Seat) : State := { next with seats := next.seats.insert cmd.seatNo seat }
  match cmd.actionType with
  | .fold => put state { seat with folded := true }
  | .call =>
    let callAmount := chipsToCall state seat
    put { state with potMain := state.potMain + callAmount }
      { seat with stack := seat.stack - callAmount, committedThisHand := seat.committedThisHand + callAmount }
  | .raise =>
    let raiseAmount := cmd.amount - seat.committedThisHand
    put { state with potMain := state.potMain + raiseAmount, currentToCall := cmd.amount }
      { seat with stack := seat.stack - raiseAmount, committedThisHand := cmd.amount }
  | .allIn =>
    let committed := seat.committedThisHand + seat.stack
    put { state with
        potMain := state.potMain + seat.stack
        currentToCall := if committed > state.currentToCall then committed else state.currentToCall }
      { seat with stack := 0, committedThisHand := committed, allInThisHand := true }
  | _ => put state seat

def actingSeat (state : State) (seatNo : Int) : Except ApplyError Seat :=
  if seatNo ≠ state.actingSeatNo then .error (.illegalAction "not acting seat")
  else match state.seats.get? seatNo with
    | none => .error (.illegalAction "seat unavailable")
    | some seat =>
      if seat.state = .eliminated then .error (.illegalAction "seat unavailable") else .ok seat

def passTurn (state next : State) (seatNo : Int) (event : Event) : State × List Event :=
  advanceAfterTurn state { next with actingSeatNo := nextActiveSeat next seatNo } [event]

def applyAction (state : State) (cmd : SubmitArenaAction) : Except ApplyError (State × List Event) := do
  let seat ← actingSeat state cmd.seatNo
  validateAction state seat cmd
  return passTurn state (takeAction state seat cmd) cmd.seatNo
    { type := .actionApplied, seatNo := cmd.seatNo, actionType := some cmd.actionType, amount := cmd.amount }

def takeTimeout (state : State) (seat : Seat) (seatNo : Int) : State :=
  let seat := { seat with timedOutThisHand := true }
  let seat := if timeoutAction state = .autoFold then { seat with folded := true } else seat
  { state with seats := state.seats.insert seatNo seat }

def applyTimeout (state : State) (cmd : ApplyPhaseTimeout) : Except ApplyError (State × List Event) := do
  let seat ← actingSeat state cmd.seatNo
  return passTurn state (takeTimeout state seat cmd.seatNo) cmd.seatNo
    { type := .timeoutApplied, seatNo := cmd.seatNo, autoAction := some (timeoutAction state) }

def apply (state : State) : Command → Except ApplyError (State × List Event)
  | .startHand cmd => .ok (applyStartHand state cmd,[])
  | .submitArenaAction cmd => applyAction state cmd
  | .applyPhaseTimeout cmd => applyTimeout state cmd
  | .closeHand => .ok (applyCloseHand state)
  | .unknown => .error .unknownCommand

end Clawchain.Arena.Table
