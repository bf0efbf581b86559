import Clawchain.Arena.Table.Award
import Mathlib.Tactic.Linarith

/-! What an accepted turn does. A manual action and a timeout change the acting
seat in the same frame, then pass the turn; every invariant of the engine is
derived from the three inversion lemmas of this module. -/
namespace Clawchain.Arena.Table
open Clawchain.Lib

/-- The acting seat moves `chips` of its stack into the pot; nothing else on
the table changes but the bet to call. -/
structure Turn (before after : State) (seat next : Seat) (chips : Int) : Prop where
  found : before.seats.get? before.actingSeatNo = some seat
  present : seat.state ≠ .eliminated
  seats : after.seats = before.seats.insert before.actingSeatNo next
  stack : next.stack = seat.stack - chips
  committed : next.committedThisHand = seat.committedThisHand + chips
  potMain : after.potMain = before.potMain + chips
  nonneg : 0 ≤ chips
  covered : 0 ≤ seat.stack → chips ≤ seat.stack
  toCall : seat.committedThisHand ≤ before.currentToCall →
    after.currentToCall = max before.currentToCall next.committedThisHand
  kept : next.state ≠ .eliminated
  showdownValue : next.showdownValue = seat.showdownValue
  quiet : before.currentPhase = .signal ∨ before.currentPhase = .probe →
    next.folded = seat.folded ∧ next.allInThisHand = seat.allInThisHand
  currentPhase : after.currentPhase = before.currentPhase
  phaseStartSeatNo : after.phaseStartSeatNo = before.phaseStartSeatNo
  handNumber : after.handNumber = before.handNumber
  handClosed : after.handClosed = before.handClosed

variable {state result : State} {seat : Seat} {events : List Event}

theorem actingSeat_found {seatNo : Int} (accepted : actingSeat state seatNo = .ok seat) :
    seatNo = state.actingSeatNo ∧ state.seats.get? state.actingSeatNo = some seat ∧ seat.state ≠ .eliminated := by
  unfold actingSeat at accepted
  split_ifs at accepted with other
  have own : seatNo = state.actingSeatNo := not_not.mp other
  subst own
  cases found : state.seats.get? state.actingSeatNo with
  | none => simp [found] at accepted
  | some held =>
    simp only [found] at accepted
    split_ifs at accepted with gone
    cases accepted
    exact ⟨rfl,rfl,gone⟩

theorem actingSeat_of_found (found : state.seats.get? state.actingSeatNo = some seat)
    (present : seat.state ≠ .eliminated) :
    actingSeat state state.actingSeatNo = .ok seat := by
  simp [actingSeat,found,present]

theorem rejoin_present (present : seat.state ≠ .eliminated) :
    (if seat.state = .sitOut then SeatState.active else seat.state) ≠ .eliminated := by
  split_ifs
  · decide
  · exact present

theorem chipsToCall_eq (state : State) (seat : Seat) :
    chipsToCall state seat = max 0 (state.currentToCall - seat.committedThisHand) := by
  unfold chipsToCall
  split_ifs <;> omega

def chipless : ActionType → Bool
  | .call => false
  | .raise => false
  | .allIn => false
  | _ => true

theorem takeAction_chipless (state : State) (seat : Seat) (cmd : SubmitArenaAction)
    (own : cmd.seatNo = state.actingSeatNo) (found : state.seats.get? state.actingSeatNo = some seat)
    (present : seat.state ≠ .eliminated) (still : chipless cmd.actionType = true)
    (quiet : state.currentPhase = .signal ∨ state.currentPhase = .probe → cmd.actionType ≠ .fold) :
    ∃ next, Turn state (takeAction state seat cmd) seat next 0 := by
  have rejoined := rejoin_present present
  unfold takeAction
  rw [own]
  cases kind : cmd.actionType with
  | call => simp [kind,chipless] at still
  | raise => simp [kind,chipless] at still
  | allIn => simp [kind,chipless] at still
  | fold =>
    refine ⟨_,found,present,rfl,(Int.sub_zero _).symm,(Int.add_zero _).symm,(Int.add_zero _).symm,
      le_refl _,id,fun level => (max_eq_left level).symm,rejoined,rfl,?_,rfl,rfl,rfl,rfl⟩
    exact fun early => absurd kind (quiet early)
  | _ =>
    exact ⟨_,found,present,rfl,(Int.sub_zero _).symm,(Int.add_zero _).symm,(Int.add_zero _).symm,
      le_refl _,id,fun level => (max_eq_left level).symm,rejoined,rfl,fun _ => ⟨rfl,rfl⟩,rfl,rfl,rfl,rfl⟩

theorem takeAction_call (state : State) (seat : Seat) (cmd : SubmitArenaAction)
    (own : cmd.seatNo = state.actingSeatNo) (found : state.seats.get? state.actingSeatNo = some seat)
    (present : seat.state ≠ .eliminated) (kind : cmd.actionType = .call)
    (wager : state.currentPhase = .wager) (owed : 0 < chipsToCall state seat)
    (covered : chipsToCall state seat ≤ seat.stack) :
    ∃ next, Turn state (takeAction state seat cmd) seat next (chipsToCall state seat) := by
  have rejoined := rejoin_present present
  unfold takeAction
  rw [own,kind]
  refine ⟨_,found,present,rfl,rfl,rfl,rfl,owed.le,fun _ => covered,?_,rejoined,rfl,?_,rfl,rfl,rfl,rfl⟩
  · intro level
    have amount := chipsToCall_eq state seat
    change state.currentToCall = max state.currentToCall (seat.committedThisHand + chipsToCall state seat)
    omega
  · simp [wager]

theorem takeAction_raise (state : State) (seat : Seat) (cmd : SubmitArenaAction)
    (own : cmd.seatNo = state.actingSeatNo) (found : state.seats.get? state.actingSeatNo = some seat)
    (present : seat.state ≠ .eliminated) (kind : cmd.actionType = .raise)
    (wager : state.currentPhase = .wager) (exceeds : state.currentToCall < cmd.amount)
    (positive : 0 < cmd.amount - seat.committedThisHand)
    (covered : cmd.amount - seat.committedThisHand < seat.stack) :
    ∃ next, Turn state (takeAction state seat cmd) seat next (cmd.amount - seat.committedThisHand) := by
  have rejoined := rejoin_present present
  unfold takeAction
  rw [own,kind]
  refine ⟨_,found,present,rfl,rfl,?_,rfl,positive.le,fun _ => covered.le,?_,rejoined,rfl,?_,rfl,rfl,rfl,rfl⟩
  · change cmd.amount = seat.committedThisHand + (cmd.amount - seat.committedThisHand)
    omega
  · intro level
    exact (max_eq_right exceeds.le).symm
  · simp [wager]

theorem takeAction_allIn (state : State) (seat : Seat) (cmd : SubmitArenaAction)
    (own : cmd.seatNo = state.actingSeatNo) (found : state.seats.get? state.actingSeatNo = some seat)
    (present : seat.state ≠ .eliminated) (kind : cmd.actionType = .allIn)
    (wager : state.currentPhase = .wager) (positive : 0 < seat.stack) :
    ∃ next, Turn state (takeAction state seat cmd) seat next seat.stack := by
  have rejoined := rejoin_present present
  unfold takeAction
  rw [own,kind]
  refine ⟨_,found,present,rfl,(Int.sub_self _).symm,rfl,rfl,positive.le,fun _ => le_refl _,?_,rejoined,rfl,?_,
    rfl,rfl,rfl,rfl⟩
  · intro level
    change (if seat.committedThisHand + seat.stack > state.currentToCall then
      seat.committedThisHand + seat.stack else state.currentToCall) =
        max state.currentToCall (seat.committedThisHand + seat.stack)
    split_ifs <;> omega
  · simp [wager]

theorem validateWager_turn (state : State) (seat : Seat) (cmd : SubmitArenaAction)
    (own : cmd.seatNo = state.actingSeatNo) (found : state.seats.get? state.actingSeatNo = some seat)
    (present : seat.state ≠ .eliminated) (wager : state.currentPhase = .wager)
    (valid : validateWager state seat cmd = .ok ()) :
    ∃ next chips, Turn state (takeAction state seat cmd) seat next chips := by
  have loud : state.currentPhase = .signal ∨ state.currentPhase = .probe → cmd.actionType ≠ .fold := by
    simp [wager]
  unfold validateWager at valid
  cases kind : cmd.actionType with
  | call =>
    simp only [kind,illegal] at valid
    split_ifs at valid with bad
    push Not at bad
    obtain ⟨next,turn⟩ := takeAction_call state seat cmd own found present kind wager bad.1 bad.2
    exact ⟨next,_,turn⟩
  | raise =>
    simp only [kind,illegal] at valid
    split_ifs at valid with low small flat deep
    obtain ⟨next,turn⟩ := takeAction_raise state seat cmd own found present kind wager
      (not_le.mp low) (not_le.mp flat) (not_le.mp deep)
    exact ⟨next,_,turn⟩
  | allIn =>
    simp only [kind,illegal] at valid
    split_ifs at valid with broke
    obtain ⟨next,turn⟩ := takeAction_allIn state seat cmd own found present kind wager (not_le.mp broke)
    exact ⟨next,_,turn⟩
  | _ =>
    obtain ⟨next,turn⟩ := takeAction_chipless state seat cmd own found present (by rw [kind]; rfl) loud
    exact ⟨next,_,turn⟩

theorem validateAction_turn (state : State) (seat : Seat) (cmd : SubmitArenaAction)
    (own : cmd.seatNo = state.actingSeatNo) (found : state.seats.get? state.actingSeatNo = some seat)
    (present : seat.state ≠ .eliminated) (valid : validateAction state seat cmd = .ok ()) :
    state.currentPhase.known = true ∧ ∃ next chips, Turn state (takeAction state seat cmd) seat next chips := by
  unfold validateAction at valid
  cases phase : state.currentPhase with
  | signal =>
    simp only [phase,illegal] at valid
    split_ifs at valid with other
    have kind : cmd.actionType = .signalNone := not_not.mp other
    obtain ⟨next,turn⟩ := takeAction_chipless state seat cmd own found present
      (by rw [kind]; rfl) (by simp [kind])
    exact ⟨rfl,next,_,turn⟩
  | probe =>
    simp only [phase,illegal] at valid
    split_ifs at valid with other
    have kind : cmd.actionType = .passProbe := not_not.mp other
    obtain ⟨next,turn⟩ := takeAction_chipless state seat cmd own found present
      (by rw [kind]; rfl) (by simp [kind])
    exact ⟨rfl,next,_,turn⟩
  | wager =>
    simp only [phase] at valid
    exact ⟨rfl,validateWager_turn state seat cmd own found present phase valid⟩
  | other name => simp [phase,illegal] at valid

theorem takeTimeout_turn (state : State) (seat : Seat)
    (found : state.seats.get? state.actingSeatNo = some seat) (present : seat.state ≠ .eliminated) :
    ∃ next, Turn state (takeTimeout state seat state.actingSeatNo) seat next 0 := by
  unfold takeTimeout
  by_cases folds : timeoutAction state = .autoFold
  · simp only [folds,if_true]
    refine ⟨_,found,present,rfl,(Int.sub_zero _).symm,(Int.add_zero _).symm,(Int.add_zero _).symm,
      le_refl _,id,fun level => (max_eq_left level).symm,present,rfl,?_,rfl,rfl,rfl,rfl⟩
    intro early
    rcases early with phase | phase <;> simp [timeoutAction,phase] at folds
  · simp only [folds,if_false]
    exact ⟨_,found,present,rfl,(Int.sub_zero _).symm,(Int.add_zero _).symm,(Int.add_zero _).symm,
      le_refl _,id,fun level => (max_eq_left level).symm,present,rfl,fun _ => ⟨rfl,rfl⟩,rfl,rfl,rfl,rfl⟩

def passed (after : State) (seatNo : Int) : State :=
  { after with actingSeatNo := nextActiveSeat after seatNo }

theorem applyAction_turn {cmd : SubmitArenaAction} (accepted : applyAction state cmd = .ok (result,events)) :
    state.currentPhase.known = true ∧ ∃ after seat next chips event, Turn state after seat next chips ∧
      (result,events) = advanceAfterTurn state (passed after state.actingSeatNo) [event] := by
  unfold applyAction at accepted
  cases acting : actingSeat state cmd.seatNo with
  | error e => simp [acting,bind,Except.bind] at accepted
  | ok seat =>
    obtain ⟨own,found,present⟩ := actingSeat_found acting
    cases valid : validateAction state seat cmd with
    | error e => simp [acting,valid,bind,Except.bind] at accepted
    | ok checked =>
      simp only [acting,valid,bind,Except.bind,pure,Except.pure,Except.ok.injEq] at accepted
      obtain ⟨known,next,chips,turn⟩ := validateAction_turn state seat cmd own found present valid
      rw [own] at accepted
      exact ⟨known,_,seat,next,chips,_,turn,accepted.symm⟩

theorem applyTimeout_turn {cmd : ApplyPhaseTimeout} (accepted : applyTimeout state cmd = .ok (result,events)) :
    ∃ after seat next event, Turn state after seat next 0 ∧
      (result,events) = advanceAfterTurn state (passed after state.actingSeatNo) [event] := by
  unfold applyTimeout at accepted
  cases acting : actingSeat state cmd.seatNo with
  | error e => simp [acting,bind,Except.bind] at accepted
  | ok seat =>
    obtain ⟨own,found,present⟩ := actingSeat_found acting
    simp only [acting,bind,Except.bind,pure,Except.pure,Except.ok.injEq] at accepted
    obtain ⟨next,turn⟩ := takeTimeout_turn state seat found present
    rw [own] at accepted
    exact ⟨_,seat,next,_,turn,accepted.symm⟩

theorem apply_cases {cmd : Command} (accepted : apply state cmd = .ok (result,events)) :
    (∃ start, cmd = .startHand start ∧ result = applyStartHand state start) ∨
    (cmd = .closeHand ∧ result = (applyCloseHand state).1) ∨
    (∃ after seat next chips event, Turn state after seat next chips ∧
      result = (advanceAfterTurn state (passed after state.actingSeatNo) [event]).1) := by
  cases cmd with
  | startHand start =>
    simp only [apply,Except.ok.injEq,Prod.mk.injEq] at accepted
    exact .inl ⟨start,rfl,accepted.1.symm⟩
  | submitArenaAction cmd =>
    obtain ⟨_,after,seat,next,chips,event,turn,same⟩ := applyAction_turn accepted
    exact .inr (.inr ⟨after,seat,next,chips,event,turn,congrArg Prod.fst same⟩)
  | applyPhaseTimeout cmd =>
    obtain ⟨after,seat,next,event,turn,same⟩ := applyTimeout_turn accepted
    exact .inr (.inr ⟨after,seat,next,0,event,turn,congrArg Prod.fst same⟩)
  | closeHand =>
    simp only [apply,Except.ok.injEq] at accepted
    exact .inr (.inl ⟨rfl,(congrArg Prod.fst accepted).symm⟩)
  | unknown => simp [apply] at accepted

theorem advance_cases (previous next : State) (events : List Event) :
    (next.currentPhase = .wager ∧
      (advanceAfterTurn previous next events).1 = (applyCloseHand next).1) ∨
    (¬ (next.currentPhase = .wager ∧ wagerOver previous next = true) ∧ phaseCompleted previous next = false ∧
      (advanceAfterTurn previous next events).1 = next) ∨
    (next.currentPhase.known = false ∧ (advanceAfterTurn previous next events).1 = next) ∨
    (∃ phase, (next.currentPhase = .signal ∧ phase = .probe ∨ next.currentPhase = .probe ∧ phase = .wager) ∧
      phaseCompleted previous next = true ∧
      (advanceAfterTurn previous next events).1 = openNextPhase previous next phase) := by
  unfold advanceAfterTurn closeAfter
  split_ifs with ended pending
  · exact .inl ⟨ended.1,rfl⟩
  · exact .inr (.inl ⟨ended,pending,rfl⟩)
  · have complete : phaseCompleted previous next = true := by simpa using pending
    cases phase : next.currentPhase with
    | signal => exact .inr (.inr (.inr ⟨.probe,.inl ⟨rfl,rfl⟩,complete,rfl⟩))
    | probe => exact .inr (.inr (.inr ⟨.wager,.inr ⟨rfl,rfl⟩,complete,rfl⟩))
    | wager => exact .inl ⟨rfl,rfl⟩
    | other name => exact .inr (.inr (.inl ⟨rfl,rfl⟩))

end Clawchain.Arena.Table
