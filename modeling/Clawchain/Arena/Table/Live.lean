import Clawchain.Arena.Table.Chips
import Clawchain.Lib.Rotation

/-! Who is on turn. The selectors of the engine pick a seat able to act as long
as there is one; a hand in which nobody is able to act has no acting seat, and
no command but a close moves it. -/
namespace Clawchain.Arena.Table
open Clawchain.Lib

def Live (state : State) : Prop := state.actingSeatNo ∈ actorSeatNos state

variable {state before after : State} {seatNo stack due chips : Int} {seat next : Seat}

theorem mem_actorSeatNos :
    seatNo ∈ actorSeatNos state ↔ ∃ seat, state.seats.get? seatNo = some seat ∧ canAct seat = true :=
  OrdMap.mem_keysWhere

theorem actorSeatNos_subset (state : State) : ∀ seatNo ∈ actorSeatNos state, seatNo ∈ state.seats.keys :=
  fun _ member => (OrdMap.keysWhere_sublist _ _).subset member

theorem canAct_present (able : canAct seat = true) :
    seat.state ≠ .eliminated ∧ seat.folded = false ∧ seat.allInThisHand = false := by
  simpa [canAct,and_assoc] using able

theorem canAct_contends (able : canAct seat = true) : isContender seat = true := by
  simp only [canAct,Bool.and_eq_true] at able
  simpa [isContender] using able.1

theorem firstEligibleSeatFrom_mem (state : State) (startSeatNo : Int) (somebody : actorSeatNos state ≠ []) :
    firstEligibleSeatFrom state startSeatNo ∈ actorSeatNos state := by
  unfold firstEligibleSeatFrom
  cases listed : actorSeatNos state with
  | nil => exact absurd listed somebody
  | cons first rest =>
    dsimp only
    split_ifs
    · exact List.mem_cons_self
    · cases chosen : (first :: rest).find? (startSeatNo ≤ ·) with
      | none => exact List.mem_cons_self
      | some seatNo => exact List.mem_of_find?_eq_some chosen

theorem nextActiveSeat_eq (state : State) (seatNo : Int) (member : seatNo ∈ state.seats.keys) :
    nextActiveSeat state seatNo =
      ((Rotation.rotateAfter state.seats.keys seatNo).find? fun other => canAct (state.seat other)).getD seatNo := by
  have present : (state.seats.keys.idxOf? seatNo).isSome := List.isSome_idxOf?.mpr member
  obtain ⟨i,found⟩ := Option.isSome_iff_exists.mp present
  unfold nextActiveSeat
  simp only [found]
  rw [Rotation.rotateAfter_positions _ _ _ _ found]

theorem canAct_seat (member : seatNo ∈ state.seats.keys) :
    canAct (state.seat seatNo) = true ↔ seatNo ∈ actorSeatNos state := by
  have found := get?_of_mem_keys member
  rw [mem_actorSeatNos]
  constructor
  · exact fun able => ⟨_,found,able⟩
  · rintro ⟨seat,held,able⟩
    rwa [seat_of_get? held]

theorem nextActiveSeat_mem (state : State) (seatNo : Int) (member : seatNo ∈ state.seats.keys)
    (somebody : actorSeatNos state ≠ []) : nextActiveSeat state seatNo ∈ actorSeatNos state := by
  have circle := Rotation.rotateAfter_perm state.seats.keys seatNo member
  rw [nextActiveSeat_eq state seatNo member]
  cases chosen : (Rotation.rotateAfter state.seats.keys seatNo).find? fun other => canAct (state.seat other) with
  | some other =>
    have inside := circle.subset (List.mem_cons_of_mem _ (List.mem_of_find?_eq_some chosen))
    have able := List.find?_some chosen
    exact (canAct_seat inside).mp able
  | none =>
    obtain ⟨other,able⟩ := List.exists_mem_of_ne_nil _ somebody
    have present := actorSeatNos_subset state other able
    rcases List.mem_cons.mp (circle.symm.subset present) with rfl | elsewhere
    · exact able
    · have unable := List.find?_eq_none.mp chosen other elsewhere
      exact absurd ((canAct_seat present).mpr able) unable

/-! The close of a hand touches seats, pot and winners only. -/

def SeatsOnly (before after : State) : Prop := after = { before with seats := after.seats }

theorem SeatsOnly.trans {first second third : State} (left : SeatsOnly first second)
    (right : SeatsOnly second third) : SeatsOnly first third := by
  unfold SeatsOnly at left right ⊢
  rw [left] at right
  exact right

theorem SeatsOnly.frame (same : SeatsOnly before after) :
    after.handClosed = before.handClosed ∧ after.currentPhase = before.currentPhase := by
  unfold SeatsOnly at same
  rw [same]
  exact ⟨rfl,rfl⟩

theorem paySeat_seatsOnly (state : State) (seatNo chips : Int) :
    SeatsOnly state (paySeat state seatNo chips) := rfl

theorem distributeChips_seatsOnly (state : State) (seatNos : List Int) (amount : Int) :
    SeatsOnly state (distributeChips state seatNos amount) := by
  have folded (pay : Nat → Int) (entries : List (Int × Nat)) : ∀ start : State, SeatsOnly start
      (entries.foldl (fun next entry => paySeat next entry.1 (pay entry.2)) start) := by
    induction entries with
    | nil => exact fun start => rfl
    | cons entry rest ih => exact fun start => (paySeat_seatsOnly _ _ _).trans (ih _)
  unfold distributeChips
  split_ifs
  · rfl
  · exact folded _ _ state

theorem awardLayer_seatsOnly (loop : AwardLoop) (level : Int) :
    SeatsOnly loop.state (awardLayer loop level).state := by
  unfold awardLayer
  dsimp only
  split_ifs
  · rfl
  · rfl
  · exact distributeChips_seatsOnly _ _ _
  · exact distributeChips_seatsOnly _ _ _
  · exact distributeChips_seatsOnly _ _ _

theorem awardLayers_seatsOnly (state : State) : SeatsOnly state (awardLayers state).state := by
  have folded (levels : List Int) : ∀ loop : AwardLoop, SeatsOnly loop.state (levels.foldl awardLayer loop).state := by
    induction levels with
    | nil => exact fun loop => rfl
    | cons level rest ih => exact fun loop => (awardLayer_seatsOnly loop level).trans (ih _)
  exact folded _ ⟨state,0,OrdMap.empty⟩

theorem applyCloseHand_frame (state : State) :
    (applyCloseHand state).1.handClosed = true ∧ (applyCloseHand state).1.currentPhase = state.currentPhase := by
  have awarded (start : State) (winners : List Int) :
      (awardPot start winners).1.handClosed = start.handClosed ∧
        (awardPot start winners).1.currentPhase = start.currentPhase := by
    have shared := distributeChips_seatsOnly start winners start.potMain
    have layered := awardLayers_seatsOnly start
    unfold awardPot
    split_ifs
    · exact ⟨rfl,rfl⟩
    · exact shared.frame
    · exact layered.frame
  exact awarded _ _

def forcedDue (state : State) (cmd : StartHand) (seatNo : Int) : Int :=
  let eligible := eligibleSeatNos state
  let blinds := blindSeatNos (state.handNumber + 1) eligible
  max 0 cmd.ante +
    (if 2 ≤ eligible.length ∧ seatNo = blinds.1 then max 0 cmd.smallBlind else 0) +
    (if 2 ≤ eligible.length ∧ seatNo = blinds.2 then max 0 cmd.bigBlind else 0)

structure Asked (stack due : Int) (seat : Seat) : Prop where
  present : seat.state ≠ .eliminated
  folded : seat.folded = false
  nonneg : 0 ≤ due
  behind : seat.stack = if 0 < stack then max 0 (stack - due) else stack
  committed : seat.committedThisHand = if 0 < stack then min due stack else 0
  allIn : seat.allInThisHand = decide (0 < stack ∧ stack ≤ due)

theorem Asked.post (asked : Asked stack due seat) (amount : Int) (positive : 0 < amount) (state : State) (seatNo : Int)
    (found : state.seats.get? seatNo = some seat) :
    ∃ next, (postForced state seatNo amount).seats = state.seats.insert seatNo next ∧
      Asked stack (due + amount) next := by
  have held := asked.behind
  have bet := asked.committed
  have nonneg := asked.nonneg
  refine ⟨_,rfl,?_⟩
  rw [seat_of_get? found]
  by_cases rich : 0 < stack
  · rw [if_pos rich] at held bet
    have forced : forcedContribution seat amount = min amount seat.stack := by
      unfold forcedContribution
      split_ifs <;> omega
    refine ⟨asked.present,asked.folded,by omega,?_,?_,?_⟩
    · rw [if_pos rich]
      dsimp only
      omega
    · rw [if_pos rich]
      dsimp only
      omega
    · dsimp only
      rw [forced,Bool.eq_iff_iff]
      simp only [Bool.and_eq_true,beq_iff_eq,decide_eq_true_eq]
      omega
  · rw [if_neg rich] at held bet
    have forced : forcedContribution seat amount = 0 := by
      unfold forcedContribution
      rw [if_pos (by omega)]
    refine ⟨asked.present,asked.folded,by omega,?_,?_,?_⟩
    · rw [if_neg rich]
      dsimp only
      omega
    · rw [if_neg rich]
      dsimp only
      omega
    · dsimp only
      rw [forced,Bool.eq_iff_iff]
      simp only [Bool.and_eq_true,beq_iff_eq,decide_eq_true_eq]
      omega

def AskedAt (state : State) (seatNo stack due : Int) : Prop :=
  ∃ seat, state.seats.get? seatNo = some seat ∧ Asked stack due seat

theorem AskedAt.other (asked : AskedAt state seatNo stack due) {other : Int} (amount : Int) (differ : seatNo ≠ other) :
    AskedAt (postForced state other amount) seatNo stack due := by
  obtain ⟨seat,found,holds⟩ := asked
  exact ⟨seat,(OrdMap.get?_insert_of_ne _ _ differ).trans found,holds⟩

theorem AskedAt.own (asked : AskedAt state seatNo stack due) (amount : Int) (positive : 0 < amount)
    : AskedAt (postForced state seatNo amount) seatNo stack (due + amount) := by
  obtain ⟨seat,found,holds⟩ := asked
  obtain ⟨next,seats,more⟩ := holds.post amount positive state seatNo found
  exact ⟨next,by rw [seats,OrdMap.get?_insert_self],more⟩

theorem AskedAt.fold (asked : AskedAt state seatNo stack due) (amount : Int) (positive : 0 < amount)
    (seatNos : List Int) (distinct : seatNos.Nodup) :
    AskedAt (seatNos.foldl (fun next other => postForced next other amount) state) seatNo stack
      (due + if seatNo ∈ seatNos then amount else 0) := by
  induction seatNos generalizing state due with
  | nil => simpa using asked
  | cons first rest ih =>
    obtain ⟨fresh,tail⟩ := List.nodup_cons.mp distinct
    rw [List.foldl_cons]
    by_cases own : seatNo = first
    · subst own
      have posted := ih (asked.own amount positive) tail
      rw [if_neg fresh,Int.add_zero] at posted
      rwa [if_pos List.mem_cons_self]
    · have kept := ih (asked.other amount own) tail
      simpa [own] using kept

theorem AskedAt.blind (asked : AskedAt state seatNo stack due) (blindSeat blind : Int) :
    AskedAt (if blind > 0 then postForced state blindSeat blind else state) seatNo stack
      (due + if seatNo = blindSeat then max 0 blind else 0) := by
  by_cases positive : blind > 0
  · rw [if_pos positive,max_eq_right positive.le]
    by_cases own : seatNo = blindSeat
    · subst own
      rw [if_pos rfl]
      exact asked.own blind positive
    · rw [if_neg own,Int.add_zero]
      exact asked.other blind own
  · rw [if_neg positive,max_eq_left (by omega),ite_self,Int.add_zero]
    exact asked

theorem postForcedBets_asked (state : State) (cmd : StartHand) (found : state.seats.get? seatNo = some seat)
    (present : seat.state ≠ .eliminated) :
    AskedAt (postForcedBets state cmd) seatNo seat.stack (forcedDue state cmd seatNo) := by
  have eligible : seatNo ∈ eligibleSeatNos state :=
    OrdMap.mem_keysWhere.mpr ⟨seat,found,bne_iff_ne.mpr present⟩
  have reset : AskedAt (resetHand state) seatNo seat.stack 0 := by
    refine ⟨resetSeat (state.handNumber + 1) seatNo seat,?_,present,rfl,le_refl _,?_,?_,?_⟩
    · rw [resetHand,OrdMap.get?_mapVals,found]
      rfl
    · rw [Int.sub_zero]
      change seat.stack = _
      split_ifs <;> omega
    · change 0 = _
      split_ifs <;> omega
    · change false = _
      symm
      rw [decide_eq_false_iff_not]
      omega
  have antes : AskedAt (postAntes (resetHand state) (eligibleSeatNos state) cmd.ante) seatNo seat.stack
      (max 0 cmd.ante) := by
    unfold postAntes
    split_ifs with positive
    · have posted := reset.fold cmd.ante positive (eligibleSeatNos state) (OrdMap.keysWhere_nodup _ _)
      rw [if_pos eligible,Int.zero_add] at posted
      rwa [max_eq_right positive.le]
    · rwa [max_eq_left (by omega)]
  have number : (postAntes (resetHand state) (eligibleSeatNos state) cmd.ante).handNumber = state.handNumber + 1 := by
    have present : ∀ other ∈ eligibleSeatNos state, other ∈ (resetHand state).seats.keys := fun _ member => by
      rw [keys_resetHand]
      exact (OrdMap.keysWhere_sublist _ _).subset member
    exact (postAntes_posted _ _ cmd.ante present).handNumber
  unfold postForcedBets postBlinds forcedDue
  simp only [eligible_resetHand,number]
  by_cases enough : (eligibleSeatNos state).length ≥ 2
  · have two : 2 ≤ (eligibleSeatNos state).length := enough
    simp only [two,true_and]
    exact (antes.blind _ cmd.smallBlind).blind _ cmd.bigBlind
  · have short : ¬ 2 ≤ (eligibleSeatNos state).length := enough
    simpa [enough,short] using antes

/-- Some seat keeps chips behind its forced bets, or had none to bet. -/
def SomebodyCovers (state : State) (cmd : StartHand) : Prop :=
  ∃ seatNo seat, state.seats.get? seatNo = some seat ∧ seat.state ≠ .eliminated ∧
    (seat.stack ≤ 0 ∨ forcedDue state cmd seatNo < seat.stack)

theorem actors_postForcedBets_iff (state : State) (cmd : StartHand) :
    actorSeatNos (postForcedBets state cmd) ≠ [] ↔ SomebodyCovers state cmd := by
  constructor
  · intro somebody
    obtain ⟨seatNo,member⟩ := List.exists_mem_of_ne_nil _ somebody
    obtain ⟨after,afterFound,able⟩ := mem_actorSeatNos.mp member
    have contends : seatNo ∈ contenderSeatNos (postForcedBets state cmd) :=
      OrdMap.mem_keysWhere.mpr ⟨after,afterFound,canAct_contends able⟩
    rw [(postForcedBets_posted state cmd).contenders,contenders_resetHand] at contends
    obtain ⟨seat,found,present⟩ := OrdMap.mem_keysWhere.mp contends
    obtain ⟨held,heldFound,asked⟩ := postForcedBets_asked state cmd found (bne_iff_ne.mp present)
    have same : held = after := Option.some.inj (heldFound.symm.trans afterFound)
    subst same
    obtain ⟨_,_,notAllIn⟩ := canAct_present able
    rw [asked.allIn,decide_eq_false_iff_not] at notAllIn
    exact ⟨seatNo,seat,found,bne_iff_ne.mp present,by omega⟩
  · rintro ⟨seatNo,seat,found,present,covers⟩
    obtain ⟨held,heldFound,asked⟩ := postForcedBets_asked state cmd found present
    have notAllIn : held.allInThisHand = false := by
      rw [asked.allIn,decide_eq_false_iff_not]
      omega
    refine List.ne_nil_of_mem (mem_actorSeatNos.mpr ⟨held,heldFound,?_⟩)
    rw [canAct,bne_iff_ne.mpr asked.present,asked.folded,notAllIn]
    rfl

theorem applyStartHand_seats (state : State) (cmd : StartHand) :
    (applyStartHand state cmd).seats = (postForcedBets state cmd).seats := by
  unfold applyStartHand
  by_cases nobody : eligibleSeatNos (resetHand state) = []
  · simp [nobody,postForcedBets,postBlinds,postAntes]
  · simp [nobody]

theorem applyStartHand_frame (state : State) (cmd : StartHand) :
    (applyStartHand state cmd).currentPhase = state.currentPhase ∧ (applyStartHand state cmd).handClosed = false ∧
      (applyStartHand state cmd).phaseStartSeatNo = 0 := by
  have posted := postForcedBets_posted state cmd
  unfold applyStartHand
  dsimp only
  split_ifs
  · exact ⟨rfl,rfl,rfl⟩
  · exact ⟨posted.currentPhase,posted.handClosed,posted.phaseStartSeatNo⟩

theorem applyStartHand_live_iff (state : State) (cmd : StartHand) :
    Live (applyStartHand state cmd) ↔ actorSeatNos (postForcedBets state cmd) ≠ [] := by
  have same : actorSeatNos (applyStartHand state cmd) = actorSeatNos (postForcedBets state cmd) := by
    unfold actorSeatNos
    rw [applyStartHand_seats]
  constructor
  · intro live
    rw [← same]
    exact List.ne_nil_of_mem live
  · intro somebody
    have dealt : eligibleSeatNos (resetHand state) ≠ [] := by
      intro nobody
      apply somebody
      have none : contenderSeatNos (postForcedBets state cmd) = [] := by
        rw [(postForcedBets_posted state cmd).contenders,contenders_resetHand,← eligible_resetHand]
        exact nobody
      refine List.eq_nil_iff_forall_not_mem.mpr fun seatNo member => ?_
      obtain ⟨seat,found,able⟩ := mem_actorSeatNos.mp member
      have contends : seatNo ∈ contenderSeatNos (postForcedBets state cmd) :=
        OrdMap.mem_keysWhere.mpr ⟨seat,found,canAct_contends able⟩
      rw [none] at contends
      cases contends
    unfold Live applyStartHand
    rw [if_neg dealt]
    exact firstEligibleSeatFrom_mem { postForcedBets state cmd with
      currentToCall := largestCommitment (postForcedBets state cmd), minRaiseSize := cmd.minRaiseTo } _ somebody

/-- Accepted commands from the start of a hand on; a hand dealt on the way
leaves somebody able to act too. -/
inductive HandRun (start : State) : State → Prop where
  | start : HandRun start start
  | command {state next : State} {cmd : Command} {events : List Event} (run : HandRun start state)
    (accepted : apply state cmd = .ok (next,events))
    (dealt : ∀ restart, cmd = .startHand restart → actorSeatNos (postForcedBets state restart) ≠ []) :
    HandRun start next

theorem Turn.actors_quiet (turn : Turn before after seat next chips)
    (early : before.currentPhase = .signal ∨ before.currentPhase = .probe) :
    actorSeatNos after = actorSeatNos before := by
  obtain ⟨folded,allIn⟩ := turn.quiet early
  have present := bne_iff_ne.mpr turn.present
  have kept := bne_iff_ne.mpr turn.kept
  unfold actorSeatNos
  rw [turn.seats]
  exact OrdMap.keysWhere_insert_same _ turn.found (by rw [canAct,canAct,folded,allIn,present,kept])

theorem turn_live (turn : Turn before after seat next chips) (known : before.currentPhase.known = true)
    (live : Live before) (events : List Event) :
    let result := (advanceAfterTurn before (passed after before.actingSeatNo) events).1
    result.handClosed = true ∨ Live result := by
  have somebody : actorSeatNos before ≠ [] := List.ne_nil_of_mem live
  have seated : before.actingSeatNo ∈ after.seats.keys := by
    rw [turn.keys]
    exact OrdMap.mem_keys_iff.mpr ⟨seat,turn.found⟩
  have passes (others : actorSeatNos after ≠ []) : Live (passed after before.actingSeatNo) :=
    nextActiveSeat_mem after _ seated others
  dsimp only
  rcases advance_cases before (passed after before.actingSeatNo) events with
    ⟨_,closes⟩ | ⟨pending,_,stays⟩ | ⟨unknown,_⟩ | ⟨opening,early,_,opens⟩
  · rw [closes]
    exact .inl (applyCloseHand_frame _).1
  · rw [stays]
    refine .inr (passes ?_)
    by_cases wager : after.currentPhase = .wager
    · have notOver : ¬ wagerOver before (passed after before.actingSeatNo) = true := fun ended => pending ⟨wager,ended⟩
      simp only [wagerOver,Bool.or_eq_true,not_or,beq_iff_eq] at notOver
      have left : (actorSeatNos after).length ≠ 0 := notOver.1.2
      exact fun empty => left (by rw [empty]; rfl)
    · rw [turn.currentPhase] at wager
      have early : before.currentPhase = .signal ∨ before.currentPhase = .probe := by
        cases held : before.currentPhase <;> simp_all [Phase.known]
      rwa [turn.actors_quiet early]
  · change after.currentPhase.known = false at unknown
    rw [turn.currentPhase,known] at unknown
    contradiction
  · rw [opens]
    have quiet : before.currentPhase = .signal ∨ before.currentPhase = .probe := by
      rw [← turn.currentPhase]
      exact early.imp And.left And.left
    have others : actorSeatNos (passed after before.actingSeatNo) ≠ [] := by
      change actorSeatNos after ≠ []
      rwa [turn.actors_quiet quiet]
    exact .inr (firstEligibleSeatFrom_mem (passed after before.actingSeatNo) _ others)

theorem advance_frame (turn : Turn before after seat next chips) (events : List Event) :
    let result := (advanceAfterTurn before (passed after before.actingSeatNo) events).1
    (before.currentPhase.known = true → result.currentPhase.known = true) ∧
      (before.handClosed = true → result.handClosed = true) := by
  have phase := turn.currentPhase
  have closed := turn.handClosed
  dsimp only
  rcases advance_cases before (passed after before.actingSeatNo) events with
    ⟨_,same⟩ | ⟨_,_,same⟩ | ⟨_,same⟩ | ⟨opening,early,_,same⟩
  · rw [same]
    obtain ⟨shut,held⟩ := applyCloseHand_frame (passed after before.actingSeatNo)
    exact ⟨fun known => by rw [held]; exact phase ▸ known,fun _ => shut⟩
  · rw [same]
    exact ⟨fun known => phase ▸ known,fun shut => closed.trans shut⟩
  · rw [same]
    exact ⟨fun known => phase ▸ known,fun shut => closed.trans shut⟩
  · rw [same]
    refine ⟨fun _ => ?_,fun shut => closed.trans shut⟩
    rcases early with ⟨_,rfl⟩ | ⟨_,rfl⟩ <;> rfl

theorem HandRun.live {start : State} (known : start.currentPhase.known = true) (live : Live start)
    (run : HandRun start state) :
    state.currentPhase.known = true ∧ (state.handClosed = false → Live state) := by
  induction run with
  | start => exact ⟨known,fun _ => live⟩
  | command run accepted dealt ih =>
    obtain ⟨phase,alive⟩ := ih
    rcases apply_cases accepted with ⟨restart,rfl,rfl⟩ | ⟨rfl,rfl⟩ | ⟨after,seat,next,chips,event,turn,rfl⟩
    · obtain ⟨same,_⟩ := applyStartHand_frame _ restart
      exact ⟨by rwa [same],fun _ => (applyStartHand_live_iff _ restart).mpr (dealt restart rfl)⟩
    · obtain ⟨shut,same⟩ := applyCloseHand_frame _
      exact ⟨by rwa [same],fun unclosed => by rw [shut] at unclosed; contradiction⟩
    · obtain ⟨keeps,shut⟩ := advance_frame turn [event]
      refine ⟨keeps phase,fun unclosed => ?_⟩
      have wasOpen : _ = false := Bool.eq_false_iff.mpr fun closed => by
        rw [shut closed] at unclosed
        contradiction
      rcases turn_live turn phase (alive wasOpen) [event] with closed | result
      · rw [closed] at unclosed
        contradiction
      · exact result

theorem live_timeout (live : Live state) :
    ∃ seat result, state.seats.get? state.actingSeatNo = some seat ∧ canAct seat = true ∧
      apply state (.applyPhaseTimeout ⟨state.actingSeatNo⟩) = .ok result ∧
      result = passTurn state (takeTimeout state seat state.actingSeatNo) state.actingSeatNo
        { type := .timeoutApplied, seatNo := state.actingSeatNo, autoAction := some (timeoutAction state) } := by
  obtain ⟨seat,found,able⟩ := mem_actorSeatNos.mp live
  have acting := actingSeat_of_found found (canAct_present able).1
  refine ⟨seat,_,found,able,?_,rfl⟩
  simp only [apply,applyTimeout,acting,bind,Except.bind,pure,Except.pure]

theorem unknown_timeout (live : Live state) (unknown : state.currentPhase.known = false) :
    ∃ next events, apply state (.applyPhaseTimeout ⟨state.actingSeatNo⟩) = .ok (next,events) ∧
      next.currentPhase = state.currentPhase ∧ next.handClosed = state.handClosed ∧
      remainingActors next < remainingActors state := by
  obtain ⟨seat,result,found,able,accepted,same⟩ := live_timeout live
  cases phase : state.currentPhase with
  | other name =>
    have folds : timeoutAction state = .autoFold := by simp [timeoutAction,phase]
    have after : result.1 = passed (takeTimeout state seat state.actingSeatNo) state.actingSeatNo := by
      rw [same]
      simp [passTurn,advanceAfterTurn,takeTimeout,folds,phase,passed]
    have fewer : actorSeatNos result.1 = actorSeatNos (takeTimeout state seat state.actingSeatNo) := by
      rw [after]
      rfl
    refine ⟨result.1,result.2,accepted,?_,?_,?_⟩
    · rw [after]
      exact phase
    · rw [after]
      rfl
    · have distinct : (state.actingSeatNo :: actorSeatNos result.1).Nodup := by
        refine List.nodup_cons.mpr ⟨fun member => ?_,OrdMap.keysWhere_nodup _ _⟩
        rw [fewer] at member
        obtain ⟨held,heldFound,still⟩ := mem_actorSeatNos.mp member
        have folded := (canAct_present still).2.1
        simp only [takeTimeout,folds,if_true,OrdMap.get?_insert_self,Option.some.injEq] at heldFound
        rw [← heldFound] at folded
        contradiction
      have inside : (state.actingSeatNo :: actorSeatNos result.1) ⊆ actorSeatNos state := by
        intro seatNo member
        rcases List.mem_cons.mp member with rfl | other
        · exact live
        · have differ : seatNo ≠ state.actingSeatNo := fun equal =>
            (List.nodup_cons.mp distinct).1 (equal ▸ other)
          rw [fewer] at other
          obtain ⟨held,heldFound,still⟩ := mem_actorSeatNos.mp other
          rw [takeTimeout,OrdMap.get?_insert_of_ne _ _ differ] at heldFound
          exact mem_actorSeatNos.mpr ⟨held,heldFound,still⟩
      exact (List.subperm_of_subset distinct inside).length_le
  | _ => simp [phase,Phase.known] at unknown

theorem unknown_dies (count : Nat) {start : State} (run : HandRun start state)
    (unknown : state.currentPhase.known = false) (unclosed : state.handClosed = false)
    (bounded : remainingActors state ≤ count) :
    ∃ reached, HandRun start reached ∧ reached.handClosed = false ∧ ¬ Live reached := by
  induction count generalizing state with
  | zero =>
    refine ⟨state,run,unclosed,fun live => ?_⟩
    have somebody := List.length_pos_of_mem live
    unfold remainingActors at bounded
    omega
  | succ count ih =>
    by_cases live : Live state
    · obtain ⟨next,events,accepted,phase,closed,fewer⟩ := unknown_timeout live unknown
      exact ih (run.command accepted fun restart clash => by cases clash) (phase ▸ unknown)
        (closed.trans unclosed) (by omega)
    · exact ⟨state,run,unclosed,live⟩

/-- The acting seat of an open hand is in play and its timeout is accepted. -/
def Movable (state : State) : Prop :=
  ∃ seat, state.seats.get? state.actingSeatNo = some seat ∧ seat.state ≠ .eliminated ∧
    seat.folded = false ∧ seat.allInThisHand = false ∧
    ∃ result, apply state (.applyPhaseTimeout ⟨state.actingSeatNo⟩) = .ok result

theorem movable_iff_live (state : State) : Movable state ↔ Live state := by
  constructor
  · rintro ⟨seat,found,present,folded,allIn,_⟩
    refine mem_actorSeatNos.mpr ⟨seat,found,?_⟩
    rw [canAct,bne_iff_ne.mpr present,folded,allIn]
    rfl
  · intro live
    obtain ⟨seat,result,found,able,accepted,_⟩ := live_timeout live
    obtain ⟨present,folded,allIn⟩ := canAct_present able
    exact ⟨seat,found,present,folded,allIn,result,accepted⟩

/-- A hand stays movable until it closes exactly when its forced bets leave a
seat with chips behind and the table is in one of the three phases. -/
theorem hand_movable_iff (state : State) (cmd : StartHand) :
    (∀ reached, HandRun (applyStartHand state cmd) reached → reached.handClosed = false → Movable reached) ↔
      state.currentPhase.known = true ∧ SomebodyCovers state cmd := by
  obtain ⟨phase,unclosed,_⟩ := applyStartHand_frame state cmd
  have dealt := applyStartHand_live_iff state cmd
  rw [actors_postForcedBets_iff] at dealt
  simp only [movable_iff_live]
  constructor
  · intro always
    have live := always _ .start unclosed
    refine ⟨?_,dealt.mp live⟩
    by_contra unknown
    obtain ⟨reached,run,still,dead⟩ := unknown_dies _ (.start : HandRun (applyStartHand state cmd) _)
      (by rw [phase]; simpa using unknown) unclosed (le_refl _)
    exact dead (always reached run still)
  · rintro ⟨known,covers⟩ reached run still
    have invariant := run.live (by rwa [phase]) (dealt.mpr covers)
    exact invariant.2 still

/-- Two stacks of 10 under blinds 25 and 50: everybody is all-in before anybody acts. -/
theorem hand_dead_after_blinds :
    let state := tableOf .signal [(1,10),(2,10)]
    let dealt := applyStartHand state ⟨25,50,0,100⟩
    (state.seats.keysWhere fun _ seat => seat.state != .eliminated && decide (0 < seat.stack)).length = 2 ∧
      dealt.handClosed = false ∧ dealt.actingSeatNo = 0 ∧
      apply dealt (.applyPhaseTimeout ⟨dealt.actingSeatNo⟩) = .error (.illegalAction "seat unavailable") ∧
      ¬ ∀ reached, HandRun dealt reached → reached.handClosed = false → Movable reached := by
  refine ⟨by decide,by decide,by decide,by rfl,fun always => ?_⟩
  obtain ⟨seat,found,_⟩ := always _ .start (by decide)
  have nobody : (applyStartHand (tableOf .signal [(1,10),(2,10)]) ⟨25,50,0,100⟩).seats.get?
      (applyStartHand (tableOf .signal [(1,10),(2,10)]) ⟨25,50,0,100⟩).actingSeatNo = none := by decide
  rw [nobody] at found
  contradiction

end Clawchain.Arena.Table
