import Clawchain.Arena.Table.Turn
import Mathlib.Algebra.Order.BigOperators.Group.List
import Mathlib.Data.List.GetD

/-! Chip conservation over whole runs of the engine. While a hand is open the
pot is what the seats committed and the bet to call is the largest commitment;
between hands the pot is empty. -/
namespace Clawchain.Arena.Table
open Clawchain.Lib

def handOpen (state : State) : Prop := 0 < state.handNumber ∧ state.handClosed = false

def committedAmounts (state : State) : Set Int :=
  { amount | ∃ seatNo seat, state.seats.get? seatNo = some seat ∧ seat.committedThisHand = amount }

structure Ledger (state : State) : Prop where
  pot : state.potMain = totalCommitted state
  committed : CommittedNonneg state
  toCall : IsGreatest (committedAmounts state) state.currentToCall

/-- What every state of a run satisfies; `total` is the chips the run started with. -/
structure ChipInvariant (total : Int) (state : State) : Prop where
  numbered : SeatsNumbered state
  solvent : StacksNonneg state
  conserved : stackSum state + state.potMain = total
  phase : state.currentPhase.known = true
  ledger : handOpen state → Ledger state
  showdown : handOpen state → ShowdownNonneg state
  contested : handOpen state → 2 ≤ remainingContenders state
  idle : ¬ handOpen state → state.potMain = 0 ∧ state.actingSeatNo = 0

variable {state : State} {seatNo : Int} {seat : Seat}

theorem stackSum_insert (next : Seat) (found : state.seats.get? seatNo = some seat) (after : State)
    (seats : after.seats = state.seats.insert seatNo next) :
    stackSum after = stackSum state - seat.stack + next.stack := by
  rw [stackSum,seats,OrdMap.sumBy_insert_of_get? _ _ _ found]
  rfl

theorem totalCommitted_insert (next : Seat) (found : state.seats.get? seatNo = some seat) (after : State)
    (seats : after.seats = state.seats.insert seatNo next) :
    totalCommitted after = totalCommitted state - seat.committedThisHand + next.committedThisHand := by
  rw [totalCommitted,seats,OrdMap.sumBy_insert_of_get? _ _ _ found]
  rfl

theorem keys_insert_of_found (next : Seat) (found : state.seats.get? seatNo = some seat) :
    (state.seats.insert seatNo next).keys = state.seats.keys :=
  OrdMap.keys_insert_of_mem _ _ (OrdMap.mem_keys_iff.mpr ⟨seat,found⟩)

theorem contenders_insert (next : Seat) (after : State) (seats : after.seats = state.seats.insert seatNo next) :
    remainingContenders state ≤ remainingContenders after + 1 := by
  have distinct := OrdMap.keysWhere_nodup (fun _ seat => isContender seat) state.seats
  have kept : ((contenderSeatNos state).erase seatNo).Subperm (contenderSeatNos after) := by
    apply List.subperm_of_subset (distinct.erase seatNo)
    intro other member
    obtain ⟨differ,inside⟩ := (distinct.mem_erase_iff).mp member
    obtain ⟨held,heldFound,contends⟩ := OrdMap.mem_keysWhere.mp inside
    refine OrdMap.mem_keysWhere.mpr ⟨held,?_,contends⟩
    rw [seats,OrdMap.get?_insert_of_ne _ _ differ,heldFound]
  have shorter := kept.length_le
  have erased := List.le_length_erase (a := seatNo) (l := contenderSeatNos state)
  unfold remainingContenders
  omega

theorem contenders_quiet (next : Seat) (after : State) (found : state.seats.get? seatNo = some seat)
    (seats : after.seats = state.seats.insert seatNo next) (same : isContender next = isContender seat)
    : contenderSeatNos after = contenderSeatNos state := by
  unfold contenderSeatNos
  rw [seats]
  exact OrdMap.keysWhere_insert_same _ found same

theorem toCall_insert {toCall : Int} (next : Seat) (after : State) (found : state.seats.get? seatNo = some seat)
    (seats : after.seats = state.seats.insert seatNo next) (more : seat.committedThisHand ≤ next.committedThisHand)
    (greatest : IsGreatest (committedAmounts state) toCall) :
    IsGreatest (committedAmounts after) (max toCall next.committedThisHand) := by
  obtain ⟨⟨top,holder,topFound,reaches⟩,bound⟩ := greatest
  constructor
  · rcases le_total toCall next.committedThisHand with low | high
    · rw [max_eq_right low]
      exact ⟨seatNo,next,by rw [seats,OrdMap.get?_insert_self],rfl⟩
    · rw [max_eq_left high]
      by_cases own : top = seatNo
      · have same : holder = seat := by
          rw [own,found] at topFound
          exact (Option.some.inj topFound).symm
        refine ⟨seatNo,next,by rw [seats,OrdMap.get?_insert_self],?_⟩
        rw [same] at reaches
        omega
      · exact ⟨top,holder,by rw [seats,OrdMap.get?_insert_of_ne _ _ own,topFound],reaches⟩
  · rintro amount ⟨k,held,heldFound,rfl⟩
    rw [seats,OrdMap.get?_insert] at heldFound
    split_ifs at heldFound with own
    · cases heldFound
      exact le_max_right _ _
    · exact (bound ⟨k,held,heldFound,rfl⟩).trans (le_max_left _ _)

section Turn
variable {before after : State} {seat next : Seat} {chips : Int}

theorem Turn.keys (turn : Turn before after seat next chips) : after.seats.keys = before.seats.keys := by
  rw [turn.seats]
  exact keys_insert_of_found next turn.found

theorem Turn.numbered (turn : Turn before after seat next chips) (numbered : SeatsNumbered before) :
    SeatsNumbered after := by
  unfold SeatsNumbered
  rwa [turn.keys]

theorem Turn.solvent (turn : Turn before after seat next chips) (solvent : StacksNonneg before) :
    StacksNonneg after := by
  have held := solvent _ _ turn.found
  have bet := turn.covered held
  have left := turn.stack
  unfold StacksNonneg
  rw [turn.seats]
  exact OrdMap.All.insert solvent (by omega)

theorem Turn.conserved (turn : Turn before after seat next chips) :
    stackSum after + after.potMain = stackSum before + before.potMain := by
  have moved := stackSum_insert next turn.found after turn.seats
  have left := turn.stack
  have pot := turn.potMain
  omega

theorem Turn.showdown (turn : Turn before after seat next chips) (showdown : ShowdownNonneg before) :
    ShowdownNonneg after := by
  unfold ShowdownNonneg
  rw [turn.seats]
  refine OrdMap.All.insert showdown ?_
  rw [turn.showdownValue]
  exact showdown _ _ turn.found

theorem Turn.ledger (turn : Turn before after seat next chips) (ledger : Ledger before) : Ledger after where
  pot := by
    have total := totalCommitted_insert next turn.found after turn.seats
    have bet := turn.committed
    have moved := turn.potMain
    have pot := ledger.pot
    omega
  committed := by
    have held := ledger.committed _ _ turn.found
    have bet := turn.committed
    have nonneg := turn.nonneg
    unfold CommittedNonneg
    rw [turn.seats]
    exact OrdMap.All.insert ledger.committed (by omega)
  toCall := by
    have below := ledger.toCall.2 ⟨_,seat,turn.found,rfl⟩
    have bet := turn.committed
    have nonneg := turn.nonneg
    rw [turn.toCall below]
    exact toCall_insert next after turn.found turn.seats (by omega) ledger.toCall

theorem Turn.contested (turn : Turn before after seat next chips) :
    remainingContenders before ≤ remainingContenders after + 1 := contenders_insert next after turn.seats

theorem Turn.contested_quiet (turn : Turn before after seat next chips)
    (early : before.currentPhase = .signal ∨ before.currentPhase = .probe) :
    remainingContenders after = remainingContenders before := by
  obtain ⟨folded,_⟩ := turn.quiet early
  have present := bne_iff_ne.mpr turn.present
  have kept := bne_iff_ne.mpr turn.kept
  have same : isContender next = isContender seat := by rw [isContender,isContender,folded,present,kept]
  unfold remainingContenders
  rw [contenders_quiet next after turn.found turn.seats same]

end Turn

theorem closeSeat_stack (seat : Seat) : (closeSeat seat).stack = seat.stack := by
  unfold closeSeat
  split_ifs <;> rfl

/-- A hand can be closed with its pot paid out: the pot is empty, or it is
covered by the ledger and somebody is left to win it. -/
structure Payable (state : State) : Prop where
  numbered : SeatsNumbered state
  showdown : ShowdownNonneg state
  committed : CommittedNonneg state
  pot : state.potMain = totalCommitted state
  contested : 1 ≤ remainingContenders state

theorem resolveWinners_nonempty (state : State) (payable : Payable state) : resolveWinners state ≠ [] := by
  have somebody : contenderSeatNos state ≠ [] := List.length_pos_iff.mp payable.contested
  exact bestShowdownSeats_nonempty state _ somebody payable.numbered payable.showdown
    fun _ member => (OrdMap.keysWhere_sublist _ _).subset member

theorem awardPot_paid (state : State) (payable : state.potMain = 0 ∨ Payable state) :
    ∃ paid, Paid state paid state.potMain ∧ (awardPot state (resolveWinners state)).1 = { paid with potMain := 0 } := by
  by_cases empty : state.potMain = 0
  · refine ⟨state,?_,?_⟩
    · rw [empty]
      exact Paid.refl state
    · rw [awardPot,if_pos (.inl empty.le)]
      change state = { state with potMain := 0 }
      rw [← empty]
  · have covered := payable.resolve_left empty
    have winners := resolveWinners_nonempty state covered
    have committed : 0 ≤ totalCommitted state := by
      apply List.sum_nonneg
      intro amount member
      obtain ⟨entry,inside,rfl⟩ := List.mem_map.mp member
      exact covered.committed entry.1 entry.2 (OrdMap.get?_eq_some_iff.mpr inside)
    have pot := covered.pot
    refine ⟨(awardLayers state).state,?_,?_⟩
    · rw [pot]
      exact awardLayers_paid state covered.committed covered.numbered covered.showdown
    · rw [awardPot,if_neg (by push Not; exact ⟨by omega,winners⟩),if_neg (by omega)]

theorem applyCloseHand_settles (state : State) (payable : state.potMain = 0 ∨ Payable state) :
    ∃ paid, Paid { state with handClosed := true, actingSeatNo := 0, currentToCall := 0 } paid state.potMain ∧
      ∃ winners, (applyCloseHand state).1 = { paid with
        potMain := 0, winnerSeatNos := winners, seats := paid.seats.mapVals fun _ seat => closeSeat seat } := by
  obtain ⟨paid,settled,awarded⟩ := awardPot_paid { state with handClosed := true, actingSeatNo := 0, currentToCall := 0 }
    (payable.imp id fun covered => ⟨covered.numbered,covered.showdown,covered.committed,covered.pot,covered.contested⟩)
  refine ⟨paid,settled,(applyCloseHand state).1.winnerSeatNos,?_⟩
  unfold applyCloseHand
  simp only [awarded]

structure Closed (before after : State) : Prop where
  numbered : SeatsNumbered before → SeatsNumbered after
  solvent : StacksNonneg before → StacksNonneg after
  conserved : stackSum after = stackSum before + before.potMain
  potMain : after.potMain = 0
  actingSeatNo : after.actingSeatNo = 0
  handClosed : after.handClosed = true
  currentPhase : after.currentPhase = before.currentPhase

theorem applyCloseHand_closed (state : State) (payable : state.potMain = 0 ∨ Payable state) :
    Closed state (applyCloseHand state).1 := by
  obtain ⟨paid,settled,winners,result⟩ := applyCloseHand_settles state payable
  rw [result]
  refine ⟨?_,?_,?_,rfl,settled.actingSeatNo,settled.handClosed,settled.currentPhase⟩
  · intro numbered
    have kept := settled.numbered numbered
    unfold SeatsNumbered
    rwa [OrdMap.keys_mapVals]
  · intro solvent
    refine OrdMap.All.mapVals (settled.solvent solvent) fun _ seat nonneg => ?_
    rwa [closeSeat_stack]
  · have unmoved : stackSum { paid with
        potMain := 0, winnerSeatNos := winners, seats := paid.seats.mapVals fun _ seat => closeSeat seat } =
        stackSum paid := by
      unfold stackSum
      rw [OrdMap.sumBy_mapVals]
      exact OrdMap.sumBy_congr _ fun _ seat _ => closeSeat_stack seat
    rw [unmoved]
    exact settled.stackSum

structure Posted (before after : State) : Prop where
  keys : after.seats.keys = before.seats.keys
  conserved : stackSum after + after.potMain = stackSum before + before.potMain
  pot : before.potMain = totalCommitted before → after.potMain = totalCommitted after
  committed : CommittedNonneg before → CommittedNonneg after
  solvent : StacksNonneg before → StacksNonneg after
  showdown : ShowdownNonneg before → ShowdownNonneg after
  contenders : contenderSeatNos after = contenderSeatNos before
  currentPhase : after.currentPhase = before.currentPhase
  handNumber : after.handNumber = before.handNumber
  handClosed : after.handClosed = before.handClosed
  currentToCall : after.currentToCall = before.currentToCall
  phaseStartSeatNo : after.phaseStartSeatNo = before.phaseStartSeatNo

theorem Posted.refl (state : State) : Posted state state :=
  ⟨rfl,rfl,id,id,id,id,rfl,rfl,rfl,rfl,rfl,rfl⟩

theorem Posted.trans {first second third : State} (left : Posted first second) (right : Posted second third) :
    Posted first third where
  keys := right.keys.trans left.keys
  conserved := right.conserved.trans left.conserved
  pot := fun same => right.pot (left.pot same)
  committed := fun nonneg => right.committed (left.committed nonneg)
  solvent := fun nonneg => right.solvent (left.solvent nonneg)
  showdown := fun nonneg => right.showdown (left.showdown nonneg)
  contenders := right.contenders.trans left.contenders
  currentPhase := right.currentPhase.trans left.currentPhase
  handNumber := right.handNumber.trans left.handNumber
  handClosed := right.handClosed.trans left.handClosed
  currentToCall := right.currentToCall.trans left.currentToCall
  phaseStartSeatNo := right.phaseStartSeatNo.trans left.phaseStartSeatNo

theorem forcedContribution_nonneg (seat : Seat) (amount : Int) : 0 ≤ forcedContribution seat amount := by
  unfold forcedContribution
  split_ifs <;> omega

theorem forcedContribution_covered (seat : Seat) (amount : Int) (solvent : 0 ≤ seat.stack) :
    forcedContribution seat amount ≤ seat.stack := by
  unfold forcedContribution
  split_ifs <;> omega

theorem postForced_posted (state : State) (seatNo amount : Int) (member : seatNo ∈ state.seats.keys) :
    Posted state (postForced state seatNo amount) := by
  have found := get?_of_mem_keys member
  have nonneg := forcedContribution_nonneg (state.seat seatNo) amount
  refine ⟨OrdMap.keys_insert_of_mem _ _ member,?_,?_,?_,?_,?_,?_,rfl,rfl,rfl,rfl,rfl⟩
  · have moved := stackSum_insert _ found (postForced state seatNo amount) rfl
    rw [moved,postForced]
    dsimp only
    omega
  · intro same
    have total := totalCommitted_insert _ found (postForced state seatNo amount) rfl
    rw [total,postForced]
    dsimp only
    omega
  · intro committed
    have held := committed seatNo _ found
    exact OrdMap.All.insert committed (by dsimp only; omega)
  · intro solvent
    have covered := forcedContribution_covered _ amount (solvent seatNo _ found)
    exact OrdMap.All.insert solvent (by dsimp only; omega)
  · intro showdown
    have held := showdown seatNo _ found
    exact OrdMap.All.insert showdown held
  · exact contenders_quiet _ _ found rfl rfl

theorem postForced_fold (seatNos : List Int) (amount : Int) (state : State)
    (present : ∀ seatNo ∈ seatNos, seatNo ∈ state.seats.keys) :
    Posted state (seatNos.foldl (fun next seatNo => postForced next seatNo amount) state) := by
  induction seatNos generalizing state with
  | nil => exact Posted.refl state
  | cons first rest ih =>
    have head := postForced_posted state first amount (present first List.mem_cons_self)
    refine head.trans (ih _ fun seatNo member => ?_)
    rw [head.keys]
    exact present seatNo (List.mem_cons_of_mem _ member)

theorem postAntes_posted (state : State) (seatNos : List Int) (ante : Int)
    (present : ∀ seatNo ∈ seatNos, seatNo ∈ state.seats.keys) :
    Posted state (postAntes state seatNos ante) := by
  unfold postAntes
  split_ifs
  · exact postForced_fold seatNos ante state present
  · exact Posted.refl state

theorem blindSeatNos_mem (handNumber : Nat) (seatNos : List Int) (enough : 2 ≤ seatNos.length) :
    (blindSeatNos handNumber seatNos).1 ∈ seatNos ∧ (blindSeatNos handNumber seatNos).2 ∈ seatNos := by
  have member (idx : Nat) : seatNos.getD (idx % seatNos.length) 0 ∈ seatNos := by
    have inside : idx % seatNos.length < seatNos.length := Nat.mod_lt _ (by omega)
    rw [List.getD_eq_getElem _ _ inside]
    exact List.getElem_mem inside
  unfold blindSeatNos
  rw [if_pos enough]
  exact ⟨member _,member _⟩

theorem postBlinds_posted (state : State) (seatNos : List Int) (cmd : StartHand)
    (present : ∀ seatNo ∈ seatNos, seatNo ∈ state.seats.keys) :
    Posted state (postBlinds state seatNos cmd) := by
  unfold postBlinds
  by_cases enough : seatNos.length ≥ 2
  · obtain ⟨small,big⟩ := blindSeatNos_mem state.handNumber seatNos enough
    have smallPosted := postForced_posted state _ cmd.smallBlind (present _ small)
    simp only [if_pos enough]
    split_ifs
    · refine smallPosted.trans (postForced_posted _ _ _ ?_)
      rw [smallPosted.keys]
      exact present _ big
    · exact postForced_posted state _ _ (present _ big)
    · exact smallPosted
    · exact Posted.refl state
  · rw [if_neg enough]
    exact Posted.refl state

theorem postForcedBets_posted (state : State) (cmd : StartHand) :
    Posted (resetHand state) (postForcedBets state cmd) := by
  have present : ∀ seatNo ∈ eligibleSeatNos (resetHand state), seatNo ∈ (resetHand state).seats.keys :=
    fun _ member => (OrdMap.keysWhere_sublist _ _).subset member
  have antes := postAntes_posted (resetHand state) _ cmd.ante present
  refine antes.trans (postBlinds_posted _ _ cmd fun seatNo member => ?_)
  rw [antes.keys]
  exact present seatNo member

theorem largestCommitment_fold (entries : List (Int × Seat)) (toCall : Int) :
    let top := entries.foldl (fun toCall entry => raiseToCall toCall entry.2) toCall
    toCall ≤ top ∧ (∀ entry ∈ entries, entry.2.committedThisHand ≤ top) ∧
      (top = toCall ∨ ∃ entry ∈ entries, entry.2.committedThisHand = top) := by
  induction entries generalizing toCall with
  | nil => exact ⟨le_refl _,by simp,.inl rfl⟩
  | cons head rest ih =>
    obtain ⟨above,bounds,reached⟩ := ih (raiseToCall toCall head.2)
    have raised : raiseToCall toCall head.2 = max toCall head.2.committedThisHand := by
      unfold raiseToCall
      split_ifs <;> omega
    dsimp only at above bounds reached ⊢
    rw [raised] at above reached
    rw [List.foldl_cons,raised]
    rw [raised] at bounds
    refine ⟨(le_max_left _ _).trans above,?_,?_⟩
    · intro entry member
      rcases List.mem_cons.mp member with rfl | inside
      · exact (le_max_right _ _).trans above
      · exact bounds entry inside
    · rcases reached with start | ⟨entry,inside,equal⟩
      · rcases le_total toCall head.2.committedThisHand with low | high
        · exact .inr ⟨head,List.mem_cons_self,by rw [start,max_eq_right low]⟩
        · exact .inl (start.trans (max_eq_left high))
      · exact .inr ⟨entry,List.mem_cons_of_mem _ inside,equal⟩

theorem largestCommitment_greatest (state : State) (somebody : state.seats.keys ≠ [])
    (nonneg : CommittedNonneg state) (start : state.currentToCall = 0) :
    IsGreatest (committedAmounts state) (largestCommitment state) := by
  obtain ⟨above,bounds,reached⟩ := largestCommitment_fold state.seats.entries state.currentToCall
  have upper : ∀ seatNo seat, state.seats.get? seatNo = some seat →
      seat.committedThisHand ≤ largestCommitment state := fun seatNo seat found =>
    bounds (seatNo,seat) (OrdMap.get?_eq_some_iff.mp found)
  refine ⟨?_,fun amount ⟨seatNo,seat,found,same⟩ => same ▸ upper seatNo seat found⟩
  rcases reached with flat | ⟨entry,inside,equal⟩
  · obtain ⟨seatNo,rest,listed⟩ := List.exists_cons_of_ne_nil somebody
    have member : seatNo ∈ state.seats.keys := by rw [listed]; exact List.mem_cons_self
    have found := get?_of_mem_keys member
    refine ⟨seatNo,_,found,?_⟩
    have low := nonneg seatNo _ found
    have high := upper seatNo _ found
    have zero : largestCommitment state = 0 := flat.trans start
    omega
  · exact ⟨entry.1,entry.2,OrdMap.get?_eq_some_iff.mpr inside,equal⟩

theorem contenders_resetHand (state : State) : contenderSeatNos (resetHand state) = eligibleSeatNos state := by
  unfold contenderSeatNos eligibleSeatNos resetHand
  rw [OrdMap.keysWhere_mapVals]
  apply OrdMap.keysWhere_congr
  intro _ seat _
  simp [isContender,resetSeat]

theorem eligible_resetHand (state : State) : eligibleSeatNos (resetHand state) = eligibleSeatNos state := by
  unfold eligibleSeatNos resetHand
  rw [OrdMap.keysWhere_mapVals]
  rfl

theorem keys_resetHand (state : State) : (resetHand state).seats.keys = state.seats.keys :=
  OrdMap.keys_mapVals _ _

theorem stackSum_resetHand (state : State) : stackSum (resetHand state) = stackSum state :=
  OrdMap.sumBy_mapVals _ _ _

theorem totalCommitted_resetHand (state : State) : totalCommitted (resetHand state) = 0 := by
  unfold totalCommitted resetHand
  rw [OrdMap.sumBy_mapVals]
  simp [OrdMap.sumBy,resetSeat]

theorem committed_resetHand (state : State) : CommittedNonneg (resetHand state) := by
  intro seatNo seat found
  obtain ⟨old,_,rfl⟩ := Option.map_eq_some_iff.mp ((OrdMap.get?_mapVals _ _ _).symm.trans found)
  exact le_refl _

theorem showdown_resetHand (state : State) (numbered : SeatsNumbered state) : ShowdownNonneg (resetHand state) := by
  intro seatNo seat found
  obtain ⟨old,held,rfl⟩ := Option.map_eq_some_iff.mp ((OrdMap.get?_mapVals _ _ _).symm.trans found)
  exact deterministicShowdownValue_nonneg _ _ (numbered seatNo (OrdMap.mem_keys_iff.mpr ⟨old,held⟩))

def applied (state : State) (cmd : Command) : State :=
  match apply state cmd with
  | .ok (next,_) => next
  | .error _ => state

def Permitted (state : State) : Command → Prop
  | .startHand _ => ¬ handOpen state ∧ 2 ≤ (eligibleSeatNos state).length
  | _ => True

inductive EngineRun (start : State) : State → Prop where
  | start : EngineRun start start
  | command {state : State} (run : EngineRun start state) (cmd : Command) (permitted : Permitted state cmd) :
    EngineRun start (applied state cmd)

structure FreshTable (state : State) : Prop where
  handNumber : state.handNumber = 0
  potMain : state.potMain = 0
  actingSeatNo : state.actingSeatNo = 0
  numbered : SeatsNumbered state
  solvent : StacksNonneg state
  phase : state.currentPhase.known = true

theorem FreshTable.invariant (fresh : FreshTable state) :
    ChipInvariant (stackSum state + state.potMain) state := by
  have between : ¬ handOpen state := fun opened => by
    have positive := opened.1
    have zero := fresh.handNumber
    omega
  exact ⟨fresh.numbered,fresh.solvent,rfl,fresh.phase,fun opened => absurd opened between,
    fun opened => absurd opened between,fun opened => absurd opened between,
    fun _ => ⟨fresh.potMain,fresh.actingSeatNo⟩⟩

section Step
variable {total : Int} {state : State}

theorem closeHand_invariant (numbered : SeatsNumbered state) (solvent : StacksNonneg state)
    (conserved : stackSum state + state.potMain = total) (phase : state.currentPhase.known = true)
    (payable : state.potMain = 0 ∨ Payable state) : ChipInvariant total (applyCloseHand state).1 := by
  have closed := applyCloseHand_closed state payable
  have between : ¬ handOpen (applyCloseHand state).1 := by simp [handOpen,closed.handClosed]
  refine ⟨closed.numbered numbered,closed.solvent solvent,?_,?_,fun opened => absurd opened between,
    fun opened => absurd opened between,fun opened => absurd opened between,
    fun _ => ⟨closed.potMain,closed.actingSeatNo⟩⟩
  · rw [closed.conserved,closed.potMain,Int.add_zero]
    exact conserved
  · rw [closed.currentPhase]
    exact phase

theorem ChipInvariant.payable (invariant : ChipInvariant total state) :
    state.potMain = 0 ∨ Payable state := by
  by_cases opened : handOpen state
  · have ledger := invariant.ledger opened
    have contested := invariant.contested opened
    exact .inr ⟨invariant.numbered,invariant.showdown opened,ledger.committed,ledger.pot,by omega⟩
  · exact .inl (invariant.idle opened).1

theorem ChipInvariant.startHand (invariant : ChipInvariant total state) (cmd : StartHand)
    (between : ¬ handOpen state) (enough : 2 ≤ (eligibleSeatNos state).length) :
    ChipInvariant total (applyStartHand state cmd) := by
  have posted := postForcedBets_posted state cmd
  have somebody : eligibleSeatNos (resetHand state) ≠ [] := by
    rw [eligible_resetHand]
    exact List.length_pos_iff.mp (by omega)
  have keys : (postForcedBets state cmd).seats.keys = state.seats.keys :=
    posted.keys.trans (keys_resetHand state)
  have seated : (postForcedBets state cmd).seats.keys ≠ [] := by
    intro empty
    obtain ⟨seatNo,member⟩ := List.exists_mem_of_ne_nil _ somebody
    have inside := (OrdMap.keysWhere_sublist _ _).subset member
    rw [← posted.keys,empty] at inside
    exact List.not_mem_nil inside
  have pot : (postForcedBets state cmd).potMain = totalCommitted (postForcedBets state cmd) :=
    posted.pot (totalCommitted_resetHand state).symm
  have committed := posted.committed (committed_resetHand state)
  have greatest := largestCommitment_greatest _ seated committed posted.currentToCall
  have numbered : SeatsNumbered (postForcedBets state cmd) := by
    unfold SeatsNumbered
    rw [keys]
    exact invariant.numbered
  unfold applyStartHand
  rw [if_neg somebody]
  refine ⟨numbered,?_,?_,?_,fun _ => ⟨pot,committed,greatest⟩,fun _ => ?_,fun _ => ?_,fun closed => ?_⟩
  · exact posted.solvent (OrdMap.All.mapVals invariant.solvent fun _ _ nonneg => nonneg)
  · have moved : stackSum (postForcedBets state cmd) + (postForcedBets state cmd).potMain =
        stackSum (resetHand state) + 0 := posted.conserved
    have kept := stackSum_resetHand state
    have empty := (invariant.idle between).1
    have conserved := invariant.conserved
    change stackSum (postForcedBets state cmd) + (postForcedBets state cmd).potMain = total
    omega
  · have phase : (postForcedBets state cmd).currentPhase = state.currentPhase := posted.currentPhase
    change (postForcedBets state cmd).currentPhase.known = true
    rw [phase]
    exact invariant.phase
  · exact posted.showdown (showdown_resetHand state invariant.numbered)
  · change 2 ≤ (contenderSeatNos (postForcedBets state cmd)).length
    rw [posted.contenders,contenders_resetHand]
    exact enough
  · exfalso
    apply closed
    have number : (postForcedBets state cmd).handNumber = state.handNumber + 1 := posted.handNumber
    exact ⟨by change 0 < (postForcedBets state cmd).handNumber; omega,posted.handClosed⟩

theorem ChipInvariant.turn_open (invariant : ChipInvariant total state) {after : State} {seat next : Seat}
    {chips : Int} (turn : Turn state after seat next chips) : handOpen state := by
  by_contra between
  have nobody := (invariant.idle between).2
  have member : state.actingSeatNo ∈ state.seats.keys := OrdMap.mem_keys_iff.mpr ⟨seat,turn.found⟩
  have numbered := invariant.numbered _ member
  omega

theorem ChipInvariant.turn (invariant : ChipInvariant total state) {after : State} {seat next : Seat}
    {chips : Int} (turn : Turn state after seat next chips) (events : List Event) :
    ChipInvariant total (advanceAfterTurn state (passed after state.actingSeatNo) events).1 := by
  have opened := invariant.turn_open turn
  have stillOpen : handOpen after := by
    unfold handOpen
    rw [turn.handNumber,turn.handClosed]
    exact opened
  have numbered := turn.numbered invariant.numbered
  have solvent := turn.solvent invariant.solvent
  have conserved := turn.conserved.trans invariant.conserved
  have phase : after.currentPhase.known = true := by rw [turn.currentPhase]; exact invariant.phase
  have ledger := turn.ledger (invariant.ledger opened)
  have showdown := turn.showdown (invariant.showdown opened)
  have contested := invariant.contested opened
  have left := turn.contested
  -- The turn's own state keeps everything but perhaps a second contender.
  have keep (target : State) (seats : target.seats = after.seats) (pot : target.potMain = after.potMain)
      (toCall : target.currentToCall = after.currentToCall) (known : target.currentPhase.known = true)
      (number : target.handNumber = after.handNumber) (closed : target.handClosed = after.handClosed)
      (two : 2 ≤ remainingContenders after) : ChipInvariant total target := by
    have targetOpen : handOpen target := by unfold handOpen; rw [number,closed]; exact stillOpen
    refine ⟨?_,?_,?_,known,fun _ => ⟨?_,?_,?_⟩,fun _ => ?_,fun _ => ?_,fun between => absurd targetOpen between⟩
    · unfold SeatsNumbered; rwa [seats]
    · unfold StacksNonneg; rwa [seats]
    · unfold stackSum; rw [seats,pot]; exact conserved
    · unfold totalCommitted; rw [seats,pot]; exact ledger.pot
    · unfold CommittedNonneg; rw [seats]; exact ledger.committed
    · unfold committedAmounts; rw [seats,toCall]; exact ledger.toCall
    · unfold ShowdownNonneg; rwa [seats]
    · unfold remainingContenders contenderSeatNos; rw [seats]; exact two
  rcases advance_cases state (passed after state.actingSeatNo) events with
    ⟨_,closes⟩ | ⟨pending,_,stays⟩ | ⟨unknown,_⟩ | ⟨opening,early,_,opens⟩
  · rw [closes]
    refine closeHand_invariant numbered solvent conserved phase (.inr ⟨numbered,showdown,ledger.committed,ledger.pot,?_⟩)
    change 1 ≤ remainingContenders after
    omega
  · rw [stays]
    refine keep _ rfl rfl rfl phase rfl rfl ?_
    by_cases wager : after.currentPhase = .wager
    · have notOver : ¬ wagerOver state (passed after state.actingSeatNo) = true := fun ended => pending ⟨wager,ended⟩
      simp only [wagerOver,Bool.or_eq_true,decide_eq_true_eq,not_or] at notOver
      have many : ¬ remainingContenders after ≤ 1 := notOver.1.1
      omega
    · have early : state.currentPhase = .signal ∨ state.currentPhase = .probe := by
        rw [turn.currentPhase] at wager phase
        cases held : state.currentPhase <;> simp_all [Phase.known]
      rw [turn.contested_quiet early]
      exact contested
  · change after.currentPhase.known = false at unknown
    rw [phase] at unknown
    contradiction
  · rw [opens]
    have quiet : state.currentPhase = .signal ∨ state.currentPhase = .probe := by
      rw [← turn.currentPhase]
      exact early.imp And.left And.left
    refine keep _ rfl rfl rfl ?_ rfl rfl ?_
    · rcases early with ⟨_,rfl⟩ | ⟨_,rfl⟩ <;> rfl
    · rw [turn.contested_quiet quiet]
      exact contested

theorem ChipInvariant.step (invariant : ChipInvariant total state) (cmd : Command)
    (permitted : Permitted state cmd) : ChipInvariant total (applied state cmd) := by
  unfold applied
  cases outcome : apply state cmd with
  | error e => exact invariant
  | ok result =>
    obtain ⟨result,events⟩ := result
    rcases apply_cases outcome with ⟨start,rfl,rfl⟩ | ⟨rfl,rfl⟩ | ⟨after,seat,next,chips,event,turn,rfl⟩
    · exact invariant.startHand start permitted.1 permitted.2
    · exact closeHand_invariant invariant.numbered invariant.solvent invariant.conserved invariant.phase
        invariant.payable
    · exact invariant.turn turn [event]

end Step

theorem EngineRun.invariant {start : State} (fresh : FreshTable start) (run : EngineRun start state) :
    ChipInvariant (stackSum start + start.potMain) state := by
  induction run with
  | start => exact fresh.invariant
  | command run cmd permitted ih => exact ih.step cmd permitted

def seatWith (seatNo stack : Int) : Seat := { seatNo := seatNo, state := .active, stack := stack }

def tableOf (phase : Phase) (buyIns : List (Int × Int)) : State :=
  { currentPhase := phase
    seats := buyIns.foldl (fun seats entry => seats.insert entry.1 (seatWith entry.1 entry.2)) OrdMap.empty }

end Clawchain.Arena.Table
