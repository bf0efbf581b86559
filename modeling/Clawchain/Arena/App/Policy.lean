import Clawchain.Arena.App.View

/-! The policies of the bots: what a bot answers to a view of its table, always alike or by weighted draws. -/
namespace Clawchain.Arena.App
open Clawchain.Lib Clawchain.Arena.Table

structure LiveTable where
  actingSeatNo : Int
  currentPhase : Phase
  (currentToCall minRaiseSize minRaiseTo maxRaiseTo : Int)
  legalActions : List ActionType
  visibleStacks : List (Int × Int)

structure Decision where
  actionType : ActionType
  amount : Int := 0

inductive PolicyError where
  | unsupportedLivePhase (phase : String)

def tableViewFromState (state : State) : LiveTable where
  actingSeatNo := state.actingSeatNo
  currentPhase := state.currentPhase
  currentToCall := state.currentToCall
  minRaiseSize := state.minRaiseSize
  minRaiseTo := minRaiseToView state
  maxRaiseTo := maxRaiseToView state
  legalActions := legalActionsView state
  visibleStacks := state.seats.entries.map fun entry => (entry.1,entry.2.stack)

def LiveTable.stackForSeat (view : LiveTable) (seatNo : Int) : Int := (view.visibleStacks.lookup seatNo).getD 0

def LiveTable.legal (view : LiveTable) (action : ActionType) : Bool := view.legalActions.contains action

def decideWager (seatNo : Int) (view : LiveTable) : Decision :=
  let stack := view.stackForSeat seatNo
  if view.legal .raise ∧ view.currentToCall = 0 ∧ view.minRaiseTo > 0 then ⟨.raise,view.minRaiseTo⟩
  else if view.legal .allIn ∧ view.currentToCall = 0 ∧ stack > 0 then ⟨.allIn,0⟩
  else if view.legal .check then ⟨.check,0⟩
  else if view.legal .call ∧ view.currentToCall > 0 ∧ (stack = 0 ∨ view.currentToCall ≤ stack.tdiv 2) then ⟨.call,0⟩
  else if view.legal .allIn ∧ view.currentToCall ≥ stack ∧ stack > 0 then ⟨.allIn,0⟩
  else if view.legal .call then ⟨.call,0⟩
  else if view.legal .fold then ⟨.fold,0⟩
  else if view.legal .allIn then ⟨.allIn,0⟩
  else ⟨.check,0⟩

def boolWeight (enabled : Bool) (weight : Int) : Int := if enabled then weight else 0

def addOption (action : ActionType) (weight : Int) : List (ActionType × Int) :=
  if weight > 0 then [(action,weight)] else []

def weightedWagerActions (view : LiveTable) (stack : Int) : List (ActionType × Int) :=
  let canRaise := view.legal .raise && view.minRaiseTo > 0 && view.maxRaiseTo ≥ view.minRaiseTo
  let canAllIn := view.legal .allIn && stack > 0
  let options :=
    if view.currentToCall = 0 then
      addOption .check (boolWeight (view.legal .check) 80) ++ addOption .raise (boolWeight canRaise 12) ++
      addOption .allIn (boolWeight canAllIn 3) ++ addOption .call (boolWeight (view.legal .call) 5) ++
      (if view.legal .check then [] else addOption .fold (boolWeight (view.legal .fold) 20))
    else if view.currentToCall ≥ stack ∧ stack > 0 then
      addOption .allIn (boolWeight canAllIn 60) ++ addOption .fold (boolWeight (view.legal .fold) 40) ++
      addOption .call (boolWeight (view.legal .call) 10)
    else
      addOption .call (boolWeight (view.legal .call) 55) ++ addOption .fold (boolWeight (view.legal .fold) 30) ++
      addOption .raise (boolWeight canRaise 10) ++ addOption .allIn (boolWeight canAllIn 5) ++
      addOption .check (boolWeight (view.legal .check) 5)
  if options ≠ [] then options else view.legalActions.map fun action => (action,1)

/-- The first option whose running total is above the target. -/
def optionAt (target : Int) : Int → List (ActionType × Int) → Option ActionType
  | _,[] => none
  | running,option :: rest => if target < running + option.2 then some option.1 else optionAt target (running + option.2) rest

/-- `intn` and `int63n` draw numbers below a bound. -/
def chooseWeightedAction (intn : Int → Int) (options : List (ActionType × Int)) : Option ActionType :=
  let total := (options.map Prod.snd).sum
  if total ≤ 0 then options.head?.map Prod.fst
  else (optionAt (intn total) 0 options).or (options.getLast?.map Prod.fst)

def randomRaiseAmount (int63n : Int → Int) (view : LiveTable) : Int :=
  if view.minRaiseTo ≤ 0 ∨ view.maxRaiseTo < view.minRaiseTo then 0
  else
    let capped := view.minRaiseTo + view.minRaiseSize * 2
    let maxRaiseTo := if view.minRaiseSize > 0 ∧ capped < view.maxRaiseTo then capped else view.maxRaiseTo
    if maxRaiseTo = view.minRaiseTo then view.minRaiseTo else view.minRaiseTo + int63n (maxRaiseTo - view.minRaiseTo + 1)

def decideRandomWager (intn int63n : Int → Int) (seatNo : Int) (view : LiveTable) : Decision :=
  let options := weightedWagerActions view (view.stackForSeat seatNo)
  match chooseWeightedAction intn options with
  | some .raise =>
    let amount := randomRaiseAmount int63n view
    if amount > 0 then ⟨.raise,amount⟩ else decideWager seatNo view
  | some .allIn => if view.legal .allIn then ⟨.allIn,0⟩ else decideWager seatNo view
  | some .call => if view.legal .call then ⟨.call,0⟩ else decideWager seatNo view
  | some .fold => if view.legal .fold then ⟨.fold,0⟩ else decideWager seatNo view
  | some .check => if view.legal .check then ⟨.check,0⟩ else decideWager seatNo view
  | _ => decideWager seatNo view

/-- Both policies, up to their wager; `none` is no decision. -/
def decideLive (wager : Int → LiveTable → Decision) (seatNo : Int) (view : LiveTable) :
    Except PolicyError (Option Decision) :=
  if seatNo ≠ view.actingSeatNo then .ok none
  else match view.currentPhase with
    | .signal => .ok (some ⟨.signalNone,0⟩)
    | .probe => .ok (some ⟨.passProbe,0⟩)
    | .wager => .ok (some (wager seatNo view))
    | .other name => if name = "" then .ok none else .error (.unsupportedLivePhase name)

def HeuristicPolicy.decide : Int → LiveTable → Except PolicyError (Option Decision) := decideLive decideWager

def RandomPolicy.decide (intn int63n : Int → Int) : Int → LiveTable → Except PolicyError (Option Decision) :=
  decideLive (decideRandomWager intn int63n)

def Accepted (state : State) (decision : Decision) : Prop :=
  ∃ result, apply state (.submitArenaAction ⟨state.actingSeatNo,decision.actionType,decision.amount⟩) = .ok result

section Wager
variable {state : State} {seat : Seat}

theorem legal_iff (found : state.seats.get? state.actingSeatNo = some seat) (able : canAct seat = true)
    (wager : state.currentPhase = .wager) (action : ActionType) :
    (tableViewFromState state).legal action = true ↔
      ∃ amount, validateWager state seat ⟨state.actingSeatNo,action,amount⟩ = .ok () := by
  obtain ⟨present,folded,allIn⟩ := canAct_present able
  rw [validateWager_accepts_iff wager,LiveTable.legal,List.contains_iff_mem]
  unfold tableViewFromState legalActionsView
  simp only [found,present,folded,allIn,wager,Bool.false_eq_true,or_self,if_false]
  cases action <;> simp

theorem accepted_legal (found : state.seats.get? state.actingSeatNo = some seat) (able : canAct seat = true)
    (wager : state.currentPhase = .wager) {action : ActionType} (plain : action ≠ .raise)
    (legal : (tableViewFromState state).legal action = true) : Accepted state ⟨action,0⟩ := by
  obtain ⟨amount,valid⟩ := (legal_iff found able wager action).mp legal
  refine (apply_accepts_iff found (canAct_present able).1 action 0).mpr ?_
  have same : validateWager state seat ⟨state.actingSeatNo,action,amount⟩ =
      validateWager state seat ⟨state.actingSeatNo,action,0⟩ := by
    cases action <;> first | rfl | exact absurd rfl plain
  rwa [validateAction,wager,← same]

theorem accepted_raise (found : state.seats.get? state.actingSeatNo = some seat) (able : canAct seat = true)
    (wager : state.currentPhase = .wager) {amount : Int} (low : minRaiseToView state ≤ amount)
    (high : amount ≤ maxRaiseToView state) (pos : 0 < minRaiseToView state) : Accepted state ⟨.raise,amount⟩ := by
  refine (apply_accepts_iff found (canAct_present able).1 .raise amount).mpr ?_
  rw [validateAction,wager]
  refine (validateWager_raise _ _).mpr ?_
  unfold minRaiseToView at low pos
  unfold maxRaiseToView at high
  simp only [found] at low high pos
  split_ifs at low high pos
  · exact ⟨low,high⟩
  · exact absurd pos (lt_irrefl 0)

theorem minRaiseToView_le (wager : state.currentPhase = .wager) (pos : 0 < minRaiseToView state) :
    minRaiseToView state ≤ maxRaiseToView state := by
  unfold minRaiseToView at pos ⊢
  unfold maxRaiseToView
  cases found : state.seats.get? state.actingSeatNo with
  | none => exact le_refl _
  | some seat =>
    simp only [found] at pos ⊢
    split_ifs at pos ⊢ with room
    · exact (canRaiseView_iff wager).mp room
    · exact le_refl _

/-- Each wager that is named was seen to be legal before, and folding always is. -/
theorem accepted_decideWager (found : state.seats.get? state.actingSeatNo = some seat) (able : canAct seat = true)
    (wager : state.currentPhase = .wager) (seatNo : Int) : Accepted state (decideWager seatNo (tableViewFromState state)) := by
  have plain {action : ActionType} := @accepted_legal state seat found able wager action
  have fold : (tableViewFromState state).legal .fold = true := (legal_iff found able wager .fold).mpr ⟨0,rfl⟩
  unfold decideWager
  dsimp only
  split_ifs with raise allIn check call last called
  · exact accepted_raise found able wager (le_refl _) (minRaiseToView_le wager raise.2.2) raise.2.2
  · exact plain (by decide) allIn.1
  · exact plain (by decide) check
  · exact plain (by decide) call.1
  · exact plain (by decide) last.1
  · exact plain (by decide) called
  · exact plain (by decide) fold

theorem randomRaiseAmount_bounds {int63n : Int → Int} (draws : ∀ n, 0 < n → 0 ≤ int63n n ∧ int63n n < n) {view : LiveTable}
    (pos : 0 < randomRaiseAmount int63n view) : 0 < view.minRaiseTo ∧ view.minRaiseTo ≤ randomRaiseAmount int63n view ∧
      randomRaiseAmount int63n view ≤ view.maxRaiseTo := by
  unfold randomRaiseAmount at pos ⊢
  dsimp only at pos ⊢
  split_ifs at pos ⊢ with closed capped level level
  · exact absurd pos (lt_irrefl 0)
  · omega
  · have drawn := draws (view.minRaiseTo + view.minRaiseSize * 2 - view.minRaiseTo + 1) (by omega)
    omega
  · omega
  · have drawn := draws (view.maxRaiseTo - view.minRaiseTo + 1) (by omega)
    omega

theorem accepted_decideRandomWager (found : state.seats.get? state.actingSeatNo = some seat) (able : canAct seat = true)
    (wager : state.currentPhase = .wager) (intn : Int → Int) {int63n : Int → Int}
    (draws : ∀ n, 0 < n → 0 ≤ int63n n ∧ int63n n < n) (seatNo : Int) :
    Accepted state (decideRandomWager intn int63n seatNo (tableViewFromState state)) := by
  have plain {action : ActionType} := @accepted_legal state seat found able wager action
  have otherwise := accepted_decideWager found able wager seatNo
  unfold decideRandomWager
  dsimp only
  split
  · split_ifs with pos
    · obtain ⟨open_,low,high⟩ := randomRaiseAmount_bounds draws pos
      exact accepted_raise found able wager low high open_
    · exact otherwise
  all_goals first
    | exact otherwise
    | split_ifs with legal
      · exact plain (by decide) legal
      · exact otherwise

theorem accepted_decideLive (found : state.seats.get? state.actingSeatNo = some seat) (able : canAct seat = true)
    (known : state.currentPhase.known = true) {wager : Int → LiveTable → Decision}
    (taken : state.currentPhase = .wager → Accepted state (wager state.actingSeatNo (tableViewFromState state))) :
    ∃ decision, decideLive wager state.actingSeatNo (tableViewFromState state) = .ok (some decision) ∧
      Accepted state decision := by
  have accepts := apply_accepts_iff found (canAct_present able).1
  have own : ¬state.actingSeatNo ≠ (tableViewFromState state).actingSeatNo := fun differ => differ rfl
  have shown : (tableViewFromState state).currentPhase = state.currentPhase := rfl
  unfold decideLive
  rw [if_neg own,shown]
  cases phase : state.currentPhase with
  | signal => exact ⟨_,rfl,(accepts _ _).mpr (by rw [validateAction,phase]; rfl)⟩
  | probe => exact ⟨_,rfl,(accepts _ _).mpr (by rw [validateAction,phase]; rfl)⟩
  | wager => exact ⟨_,rfl,taken phase⟩
  | other name =>
    rw [phase] at known
    cases known

end Wager

end Clawchain.Arena.App
