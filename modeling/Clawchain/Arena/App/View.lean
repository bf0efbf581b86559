import Clawchain.Arena.Table.Marks

/-! What the runtime publishes about a turn: the actions the acting seat may
take and the bounds of a raise. The view does the engine's checks over again
with its own arithmetic. -/
namespace Clawchain.Arena.App
open Clawchain.Lib Clawchain.Arena.Table

def chipsToCallView (state : State) (seat : Seat) : Int :=
  if state.currentToCall ≤ seat.committedThisHand then 0
  else state.currentToCall - seat.committedThisHand

/-- The smallest amount a raise of the seat may name, whether it can afford it or not. -/
def lowestRaise (state : State) (seat : Seat) : Int :=
  let minRaiseTo := state.currentToCall + 1
  let minRaiseTo := if minRaiseTo < state.minRaiseSize then state.minRaiseSize else minRaiseTo
  if minRaiseTo ≤ seat.committedThisHand then seat.committedThisHand + 1 else minRaiseTo

def canRaiseView (state : State) (seat : Seat) : Bool :=
  if state.currentPhase ≠ .wager ∨ seat.stack ≤ 0 then false
  else
    let raiseAmount := lowestRaise state seat - seat.committedThisHand
    decide (raiseAmount > 0) && decide (raiseAmount < seat.stack)

def minRaiseToView (state : State) : Int :=
  match state.seats.get? state.actingSeatNo with
  | none => 0
  | some seat => if canRaiseView state seat then lowestRaise state seat else 0

def maxRaiseToView (state : State) : Int :=
  match state.seats.get? state.actingSeatNo with
  | none => 0
  | some seat => if canRaiseView state seat then seat.committedThisHand + seat.stack - 1 else 0

def legalActionsView (state : State) : List ActionType :=
  match state.seats.get? state.actingSeatNo with
  | none => []
  | some seat =>
    if seat.state = .eliminated ∨ seat.folded ∨ seat.allInThisHand then []
    else match state.currentPhase with
      | .signal => [.signalNone]
      | .probe => [.passProbe]
      | .wager =>
        let toCall := chipsToCallView state seat
        (if toCall = 0 then [.check] else []) ++
        (if toCall > 0 ∧ toCall ≤ seat.stack then [.call] else []) ++
        [.fold] ++
        (if canRaiseView state seat then [.raise] else []) ++
        (if seat.stack > 0 then [.allIn] else [])
      | .other _ => []

theorem apply_accepts_iff {state : State} {seat : Seat} (found : state.seats.get? state.actingSeatNo = some seat)
    (present : seat.state ≠ .eliminated) (action : ActionType) (amount : Int) :
    (∃ result, apply state (.submitArenaAction ⟨state.actingSeatNo,action,amount⟩) = .ok result) ↔
      validateAction state seat ⟨state.actingSeatNo,action,amount⟩ = .ok () := by
  have acting := actingSeat_of_found found present
  constructor
  · rintro ⟨⟨result,events⟩,accepted⟩
    obtain ⟨_,held,heldFound,_,valid,_⟩ := applyAction_taken (show applyAction state _ = _ from accepted)
    rw [found,Option.some.injEq] at heldFound
    rwa [heldFound]
  · intro valid
    simp only [apply,applyAction,acting,valid,bind,Except.bind,pure,Except.pure]
    exact ⟨_,rfl⟩

section Wager
variable {state : State} {seat : Seat}

theorem validateWager_raise (seatNo amount : Int) :
    validateWager state seat ⟨seatNo,.raise,amount⟩ = .ok () ↔
      lowestRaise state seat ≤ amount ∧ amount ≤ seat.committedThisHand + seat.stack - 1 := by
  unfold validateWager lowestRaise illegal
  dsimp only
  split_ifs <;> simp <;> omega

theorem canRaiseView_iff (wager : state.currentPhase = .wager) :
    canRaiseView state seat = true ↔ lowestRaise state seat ≤ seat.committedThisHand + seat.stack - 1 := by
  have above : seat.committedThisHand < lowestRaise state seat := by
    unfold lowestRaise
    dsimp only
    split_ifs <;> omega
  unfold canRaiseView
  simp only [wager,ne_eq,not_true_eq_false,false_or]
  split_ifs with broke
  · simp
    omega
  · simp
    omega

theorem validateWager_accepts_iff (wager : state.currentPhase = .wager) (seatNo : Int) (action : ActionType) :
    (∃ amount, validateWager state seat ⟨seatNo,action,amount⟩ = .ok ()) ↔
      match action with
      | .check => chipsToCallView state seat = 0
      | .call => 0 < chipsToCallView state seat ∧ chipsToCallView state seat ≤ seat.stack
      | .fold => True
      | .raise => canRaiseView state seat = true
      | .allIn => 0 < seat.stack
      | _ => False := by
  have same : chipsToCall state seat = chipsToCallView state seat := rfl
  cases action with
  | raise =>
    simp only [validateWager_raise,canRaiseView_iff wager]
    exact ⟨fun ⟨amount,low,high⟩ => low.trans high,fun room => ⟨_,le_refl _,room⟩⟩
  | check => simp [validateWager,illegal,same]
  | call =>
    simp only [validateWager,illegal,same]
    constructor
    · rintro ⟨amount,valid⟩
      split_ifs at valid with bad
      omega
    · exact fun covered => ⟨0,if_neg (by omega)⟩
  | fold => simp [validateWager]
  | allIn =>
    simp only [validateWager,illegal]
    constructor
    · rintro ⟨amount,valid⟩
      split_ifs at valid with broke
      omega
    · exact fun rich => ⟨0,if_neg (by omega)⟩
  | _ => simp [validateWager,illegal]

end Wager

example : legalActionsView (applyStartHand (tableOf .wager [(1,100),(2,100),(3,100)]) ⟨5,10,0,20⟩) =
    [.call,.fold,.raise,.allIn] := by decide

end Clawchain.Arena.App
