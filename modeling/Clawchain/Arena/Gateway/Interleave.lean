import Clawchain.Arena.Table.Drive
import Clawchain.Arena.Table.ExactlyOnce
import Mathlib.Logic.Relation

/-! Submissions on one table side by side. A client's command is handled, the
table's state is read for its hook, and the hook opens the phase it read; other
clients may come between any two of these. -/
namespace Clawchain.Arena.Table
open Clawchain.Lib Relation

/-- How far a client's submission has come. The number of commands the table had accepted when its state was read
is kept for reasoning only. -/
inductive Progress where
  | idle
  | handled
  | holding (snapshot : ActorState) (seen : Nat)
  deriving DecidableEq

structure Board (ι : Type) where
  actor : Actor
  world : World
  clients : ι → Progress
  accepted : List Command

/-- What `OnSubmitCommitted` opens on the state it is given. A closed hand waits for the other tables of its round. -/
def hookPhase (snapshot : ActorState) (now : Int) : Option PhaseDefinition :=
  if snapshot.table.handClosed = false ∧ snapshot.table.actingSeatNo ≠ 0 then some (turnPhase snapshot now) else none

section Board
variable {ι : Type} [DecidableEq ι]

def Board.setClient (board : Board ι) (client : ι) (progress : Progress) : Board ι :=
  { board with clients := Function.update board.clients client progress }

def Board.handle (board : Board ι) (client : ι) (envelope : CommandEnvelope) : Board ι :=
  let outcome := board.actor.handle envelope board.world
  let next := { board with
    actor := outcome.2.1
    world := outcome.2.2
    accepted := if outcome.2.1.state.stateSeq = board.actor.state.stateSeq then board.accepted
      else board.accepted ++ [envelope.command] }
  match outcome.1 with
  | .ok _ => next.setClient client .handled
  | .error _ => next.setClient client .idle

def Board.read (board : Board ι) (client : ι) : Board ι :=
  board.setClient client (.holding board.actor.state board.accepted.length)

def Board.hook (board : Board ι) (client : ι) (snapshot : ActorState) : Board ι :=
  match hookPhase snapshot board.world.now with
  | none => board.setClient client .idle
  | some phase =>
    let outcome := board.actor.openPhase phase board.world
    { board with actor := outcome.2.1, world := outcome.2.2 }.setClient client .idle

/-- One step of one client, or of the store and the clock; `permitted` says which hooks may run. -/
inductive BoardStep (permitted : Board ι → ActorState → Nat → Prop) : Board ι → Board ι → Prop
  | weather (board : Board ι) (outcomes : List Outcome) (now : Int) : BoardStep permitted board
      { board with world := { board.world with outcomes := outcomes, now := now } }
  | handle (board : Board ι) (client : ι) (envelope : CommandEnvelope) (idle : board.clients client = .idle)
      (turn : ∀ start, envelope.command ≠ .startHand start) :
      BoardStep permitted board (board.handle client envelope)
  | read (board : Board ι) (client : ι) (handled : board.clients client = .handled) :
      BoardStep permitted board (board.read client)
  | hook (board : Board ι) (client : ι) (snapshot : ActorState) (seen : Nat)
      (holding : board.clients client = .holding snapshot seen) (allowed : permitted board snapshot seen) :
      BoardStep permitted board (board.hook client snapshot)

/-- The hook has nothing to open, or no command was accepted since its state was read. -/
def InTime (board : Board ι) (snapshot : ActorState) (seen : Nat) : Prop :=
  snapshot.table.handClosed = true ∨ snapshot.table.actingSeatNo = 0 ∨ seen = board.accepted.length

/-- A seat on turn belongs to a phase that has been opened. -/
def PhaseOpened (table : State) : Prop :=
  table.handClosed = true ∨ table.seats.get? 0 = none ∧ (table.actingSeatNo = 0 ∨ table.phaseStartSeatNo ≠ 0)

theorem advance_phaseOpened {previous next : State} (events : List Event)
    (opened : next.handClosed = true ∨ next.seats.get? 0 = none ∧ next.phaseStartSeatNo ≠ 0) :
    PhaseOpened (advanceAfterTurn previous next events).1 := by
  have same : PhaseOpened next := opened.imp_right fun held => ⟨held.1,.inr held.2⟩
  rcases advance_cases previous next events with
    ⟨_,result⟩ | ⟨_,_,result⟩ | ⟨_,result⟩ | ⟨phase,_,_,result⟩
  · rw [result]
    exact .inl (applyCloseHand_frame next).1
  · rw [result]
    exact same
  · rw [result]
    exact same
  · rw [result]
    refine opened.imp id fun held => ⟨held.1,?_⟩
    -- The new phase starts with the seat it puts on turn.
    exact eq_or_ne (firstEligibleSeatFrom next previous.phaseStartSeatNo) 0

theorem apply_phaseOpened {table next : State} {command : Command} {events : List Event}
    (turn : ∀ start, command ≠ .startHand start) (applied : apply table command = .ok (next,events))
    (opened : PhaseOpened table) : PhaseOpened next := by
  rcases apply_cases applied with ⟨start,isStart,_⟩ | ⟨_,rfl⟩ | ⟨after,seat,moved,chips,event,step,rfl⟩
  · exact absurd isStart (turn start)
  · exact .inl (applyCloseHand_frame table).1
  · refine advance_phaseOpened _ ?_
    rcases opened with closed | ⟨unseated,quiet | started⟩
    · exact .inl (step.handClosed.trans closed)
    · -- Nobody sits at number 0, so nobody was on turn.
      have found := step.found
      rw [quiet,unseated] at found
      contradiction
    · refine .inr ⟨?_,by rw [← step.phaseStartSeatNo] at started; exact started⟩
      change after.seats.get? 0 = none
      rw [step.seats,OrdMap.get?_insert]
      split_ifs with zero
      · have found := step.found
        rw [← zero,unseated] at found
        contradiction
      · exact unseated

/-- The table is the fold of the accepted commands, and a state read since the last of them is the table's own. -/
structure Folded (start : State) (board : Board ι) : Prop where
  folded : applyAll start board.accepted = .ok board.actor.state.table
  opened : PhaseOpened board.actor.state.table
  current : ∀ client snapshot seen, board.clients client = .holding snapshot seen →
    seen ≤ board.accepted.length ∧ (seen = board.accepted.length →
      snapshot.table = board.actor.state.table ∧ snapshot.handID = board.actor.state.handID)

variable {start : State} {board : Board ι}

theorem openedTable_self {state snapshot : ActorState} (opened : PhaseOpened state.table)
    (table : snapshot.table = state.table) (hand : snapshot.handID = state.handID)
    (open_ : snapshot.table.handClosed = false) (turn : snapshot.table.actingSeatNo ≠ 0) (now : Int) :
    openedTable state (turnPhase snapshot now) = state.table := by
  rw [table] at open_ turn
  have started : state.table.phaseStartSeatNo ≠ 0 := by
    rcases opened with closed | ⟨_,quiet | started⟩
    · rw [open_] at closed
      contradiction
    · exact absurd quiet turn
    · exact started
  have kept : phaseStartFor state (turnPhase snapshot now) = state.table.phaseStartSeatNo := by
    unfold phaseStartFor turnPhase
    rw [table,hand]
    exact if_pos ⟨rfl,rfl,started⟩
  unfold openedTable
  rw [kept]
  change { state.table with
    currentPhase := snapshot.table.currentPhase
    actingSeatNo := snapshot.table.actingSeatNo
    currentToCall := snapshot.table.currentToCall
    handClosed := false } = state.table
  rw [table,← open_]

theorem openPhase_state (actor : Actor) (phase : PhaseDefinition) (world : World) :
    (actor.openPhase phase world).2.1.state.table = openedTable actor.state phase ∧
      (actor.openPhase phase world).2.1.state.handID = (openedState actor.state phase).handID := by
  unfold Actor.openPhase
  dsimp only
  split <;> exact ⟨rfl,rfl⟩

theorem Folded.setClient (folded : Folded start board) (client : ι) (progress : Progress)
    (current : ∀ snapshot seen, progress = .holding snapshot seen → seen ≤ board.accepted.length ∧
      (seen = board.accepted.length →
        snapshot.table = board.actor.state.table ∧ snapshot.handID = board.actor.state.handID)) :
    Folded start (board.setClient client progress) := by
  refine ⟨folded.folded,folded.opened,fun other snapshot seen holding => ?_⟩
  change Function.update board.clients client progress other = _ at holding
  by_cases own : other = client
  · subst own
    rw [Function.update_self] at holding
    exact current snapshot seen holding
  · rw [Function.update_of_ne own] at holding
    exact folded.current other snapshot seen holding

theorem Folded.handle (folded : Folded start board) (client : ι) (envelope : CommandEnvelope)
    (turn : ∀ start, envelope.command ≠ .startHand start) : Folded start (board.handle client envelope) := by
  unfold Board.handle
  rcases handle_cases board.actor envelope board.world with
    ⟨result,_,same⟩ | ⟨_,e,after,same,_⟩ | ⟨_,_,next,events,after,applied,_,same⟩
  · rw [same]
    dsimp only
    rw [if_pos rfl]
    refine Folded.setClient ?_ client _ fun _ _ absent => by contradiction
    exact ⟨folded.folded,folded.opened,folded.current⟩
  · rw [same]
    dsimp only
    rw [if_pos rfl]
    refine Folded.setClient ?_ client _ fun _ _ absent => by contradiction
    exact ⟨folded.folded,folded.opened,folded.current⟩
  · rw [same]
    dsimp only
    have moved : ¬ (board.actor.committed envelope.requestID next events).state.stateSeq =
        board.actor.state.stateSeq := by
      change ¬ board.actor.state.stateSeq + 1 = board.actor.state.stateSeq
      omega
    rw [if_neg moved]
    refine Folded.setClient ?_ client _ fun _ _ absent => by contradiction
    refine ⟨?_,apply_phaseOpened turn applied folded.opened,fun other snapshot seen holding => ?_⟩
    · change applyAll start (board.accepted ++ [envelope.command]) = .ok next
      rw [applyAll_snoc _ _ _ _ folded.folded,applied]
      rfl
    · have before := (folded.current other snapshot seen holding).1
      change seen ≤ (board.accepted ++ [envelope.command]).length ∧
        (seen = (board.accepted ++ [envelope.command]).length → _)
      rw [List.length_append,List.length_singleton]
      exact ⟨by omega,fun equal => by omega⟩

theorem Folded.read (folded : Folded start board) (client : ι) : Folded start (board.read client) :=
  folded.setClient client _ fun snapshot seen same => by
    cases same
    exact ⟨le_refl _,fun _ => ⟨rfl,rfl⟩⟩

theorem Folded.hook (folded : Folded start board) {client : ι} {snapshot : ActorState} {seen : Nat}
    (holding : board.clients client = .holding snapshot seen) (timely : InTime board snapshot seen) :
    Folded start (board.hook client snapshot) := by
  unfold Board.hook hookPhase
  split_ifs with opens
  · obtain ⟨table,hand⟩ := (folded.current client snapshot seen holding).2 (by
      rcases timely with closed | quiet | same
      · rw [opens.1] at closed
        contradiction
      · exact absurd quiet opens.2
      · exact same)
    obtain ⟨reached,number⟩ := openPhase_state board.actor (turnPhase snapshot board.world.now) board.world
    rw [openedTable_self folded.opened table hand opens.1 opens.2] at reached
    have sameHand : (openedState board.actor.state (turnPhase snapshot board.world.now)).handID =
        board.actor.state.handID := by
      unfold openedState turnPhase
      dsimp only
      rw [hand]
      exact ite_id _
    refine Folded.setClient ⟨?_,?_,?_⟩ client .idle fun _ _ absent => by contradiction
    · exact folded.folded.trans (congrArg Except.ok reached.symm)
    · change PhaseOpened (board.actor.openPhase (turnPhase snapshot board.world.now) board.world).2.1.state.table
      rw [reached]
      exact folded.opened
    · intro other held count heldHolding
      refine (folded.current other held count heldHolding).imp_right fun fits equal => ?_
      obtain ⟨heldTable,heldHand⟩ := fits equal
      exact ⟨heldTable.trans reached.symm,heldHand.trans (number.trans sameHand).symm⟩
  · exact folded.setClient client .idle fun _ _ absent => by contradiction

theorem step_folded {after : Board ι} (step : BoardStep InTime board after) (folded : Folded start board) :
    Folded start after := by
  cases step with
  | weather outcomes now => exact ⟨folded.folded,folded.opened,folded.current⟩
  | handle client envelope idle turn => exact folded.handle client envelope turn
  | read client handled => exact folded.read client
  | hook client snapshot seen holding allowed => exact folded.hook holding allowed

def quietBoard (actor : Actor) (world : World) : Board ι := ⟨actor,world,fun _ => .idle,[]⟩

/-- In every run whose hooks are in time the table is the fold of the accepted commands. -/
theorem timely_hooks_fold (actor : Actor) (world : World) (opened : PhaseOpened actor.state.table)
    (run : ReflTransGen (BoardStep InTime) (quietBoard actor world) board) :
    ∃ folded, applyAll actor.state.table board.accepted = .ok folded ∧
      board.actor.state.table.seats = folded.seats ∧ board.actor.state.table.potMain = folded.potMain ∧
      board.actor.state.table.currentPhase = folded.currentPhase ∧
      board.actor.state.table.actingSeatNo = folded.actingSeatNo ∧
      board.actor.state.table.currentToCall = folded.currentToCall := by
  have invariant : Folded actor.state.table board := by
    induction run with
    | refl => exact ⟨rfl,opened,fun _ _ _ holding => by contradiction⟩
    | tail _ step ih => exact step_folded step ih
  exact ⟨board.actor.state.table,invariant.folded,rfl,rfl,rfl,rfl,rfl⟩

end Board

/-! Two clients at the table of two, both with a signal to give. -/

def signalOf (seatNo stateSeq : Int) : CommandEnvelope :=
  ⟨"req:" ++ toString seatNo,stateSeq,.submitArenaAction ⟨seatNo,.signalNone,0⟩⟩

def signalBoard : Board Bool := quietBoard signalActor {}

def firstReading : Board Bool := (signalBoard.handle true (signalOf 1 0)).read true

theorem timely_hooks_fold_signal :
    (firstReading.hook true firstReading.actor.state).actor.state.table.actingSeatNo = 2 ∧
      (firstReading.hook true firstReading.actor.state).actor.state.stateSeq = 2 ∧
      ∃ folded, applyAll signalActor.state.table [.submitArenaAction ⟨1,.signalNone,0⟩] = .ok folded ∧
        (firstReading.hook true firstReading.actor.state).actor.state.table.actingSeatNo = folded.actingSeatNo := by
  have opened : PhaseOpened signalActor.state.table := .inr ⟨rfl,.inr (by decide)⟩
  have handled : BoardStep InTime signalBoard (signalBoard.handle true (signalOf 1 0)) :=
    .handle _ true _ rfl fun start same => by cases same
  have read : BoardStep InTime (signalBoard.handle true (signalOf 1 0)) firstReading := .read _ true rfl
  have hooked : BoardStep InTime firstReading (firstReading.hook true firstReading.actor.state) :=
    .hook _ true _ 1 rfl (.inr (.inr rfl))
  obtain ⟨folded,reached,_,_,_,acting,_⟩ := timely_hooks_fold signalActor {} opened
    (((ReflTransGen.single handled).tail read).tail hooked)
  exact ⟨by decide +kernel,by decide +kernel,folded,reached,acting⟩

/-- The second client's signal ends the phase before the first client's hook runs: the hook takes the table back to
the signal phase and to the second seat's turn. -/
theorem late_hook_rewinds :
    let overtaken := firstReading.handle false (signalOf 2 1)
    let rewound := overtaken.hook true firstReading.actor.state
    overtaken.clients true = .holding firstReading.actor.state 1 ∧ overtaken.accepted = rewound.accepted ∧
      (applyAll signalActor.state.table rewound.accepted).map (fun table => (table.currentPhase,table.actingSeatNo)) =
        .ok (.probe,1) ∧
      rewound.actor.state.table.currentPhase = .signal ∧ rewound.actor.state.table.actingSeatNo = 2 := by
  exact ⟨rfl,by decide +kernel,by decide +kernel,by decide +kernel,by decide +kernel⟩

end Clawchain.Arena.Table
