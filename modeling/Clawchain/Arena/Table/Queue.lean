import Clawchain.Arena.Table.Live

/-! The turn order of a live hand as a queue: a timeout serves its head, who
rejoins at the end unless it is folded for the chips it owes. -/
namespace Clawchain.Arena.Table
open Clawchain.Lib Clawchain.Lib.Rotation

def turnQueue (state : State) : List Int :=
  state.actingSeatNo ::
    (rotateAfter state.seats.keys state.actingSeatNo).filter fun seatNo => canAct (state.seat seatNo)

section Queue
variable {state : State}

theorem live_seated (live : Live state) : state.actingSeatNo ∈ state.seats.keys :=
  actorSeatNos_subset state _ live

theorem turnQueue_nodup (live : Live state) : (turnQueue state).Nodup := by
  have circle := rotateAfter_perm state.seats.keys state.actingSeatNo (live_seated live)
  have distinct := circle.nodup_iff.mpr state.seats.keys_nodup
  exact distinct.sublist (List.filter_sublist.cons_cons _)

theorem mem_turnQueue (live : Live state) (seatNo : Int) :
    seatNo ∈ turnQueue state ↔ seatNo ∈ actorSeatNos state := by
  have circle := rotateAfter_perm state.seats.keys state.actingSeatNo (live_seated live)
  unfold turnQueue
  rw [List.mem_cons,List.mem_filter]
  constructor
  · rintro (rfl | ⟨inside,able⟩)
    · exact live
    · exact (canAct_seat (circle.subset (List.mem_cons_of_mem _ inside))).mp able
  · intro member
    have present := actorSeatNos_subset state seatNo member
    rcases List.mem_cons.mp (circle.symm.subset present) with rfl | inside
    · exact .inl rfl
    · exact .inr ⟨inside,(canAct_seat present).mpr member⟩

theorem turnQueue_perm (live : Live state) : (turnQueue state).Perm (actorSeatNos state) :=
  (List.perm_ext_iff_of_nodup (turnQueue_nodup live) (OrdMap.keysWhere_nodup _ _)).mpr (mem_turnQueue live)

end Queue

section Pass
variable {before after : State} {next : Seat}

theorem ability_insert (seats : after.seats = before.seats.insert before.actingSeatNo next) (seatNo : Int)
    (other : seatNo ≠ before.actingSeatNo) : after.seat seatNo = before.seat seatNo := by
  rw [State.seat,State.seat,seats,OrdMap.get?_insert_of_ne _ _ other]

theorem seat_insert (seats : after.seats = before.seats.insert before.actingSeatNo next) :
    after.seat before.actingSeatNo = next := by
  rw [State.seat,seats,OrdMap.get?_insert_self]
  rfl

theorem filter_insert (live : Live before)
    (seats : after.seats = before.seats.insert before.actingSeatNo next) :
    (rotateAfter before.seats.keys before.actingSeatNo).filter (fun seatNo => canAct (after.seat seatNo)) =
      (rotateAfter before.seats.keys before.actingSeatNo).filter fun seatNo => canAct (before.seat seatNo) := by
  have circle := rotateAfter_perm before.seats.keys before.actingSeatNo (live_seated live)
  have distinct := circle.nodup_iff.mpr before.seats.keys_nodup
  apply List.filter_congr
  intro seatNo inside
  have other : seatNo ≠ before.actingSeatNo := by
    rintro rfl
    exact (List.nodup_cons.mp distinct).1 inside
  rw [ability_insert seats seatNo other]

theorem keys_turn (live : Live before)
    (seats : after.seats = before.seats.insert before.actingSeatNo next) :
    after.seats.keys = before.seats.keys := by
  rw [seats]
  exact OrdMap.keys_insert_of_mem _ _ (live_seated live)

theorem pass_alone (live : Live before) (seats : after.seats = before.seats.insert before.actingSeatNo next)
    (alone : (turnQueue before).tail = []) : nextActiveSeat after before.actingSeatNo = before.actingSeatNo := by
  have keys := keys_turn live seats
  have member : before.actingSeatNo ∈ after.seats.keys := by rw [keys]; exact live_seated live
  rw [nextActiveSeat_eq after _ member,keys]
  have nobody : (rotateAfter before.seats.keys before.actingSeatNo).find?
      (fun seatNo => canAct (after.seat seatNo)) = none := by
    rw [List.find?_eq_none]
    intro seatNo inside able
    have listed : seatNo ∈ (rotateAfter before.seats.keys before.actingSeatNo).filter
        (fun seatNo => canAct (after.seat seatNo)) := List.mem_filter.mpr ⟨inside,able⟩
    rw [filter_insert live seats] at listed
    change seatNo ∈ (turnQueue before).tail at listed
    rw [alone] at listed
    cases listed
  rw [nobody]
  rfl

theorem pass_queue (live : Live before) (seats : after.seats = before.seats.insert before.actingSeatNo next)
    {second : Int} {rest : List Int} (others : (turnQueue before).tail = second :: rest) :
    nextActiveSeat after before.actingSeatNo = second ∧
      turnQueue (passed after before.actingSeatNo) =
        serve (fun seatNo => canAct (after.seat seatNo)) (turnQueue before) := by
  have keys := keys_turn live seats
  have seated := live_seated live
  have member : before.actingSeatNo ∈ after.seats.keys := by rw [keys]; exact seated
  have filtered := filter_insert live seats
  change _ = (turnQueue before).tail at filtered
  rw [others] at filtered
  obtain ⟨skipped,later,split,unable,able,kept⟩ := List.filter_eq_cons_iff.mp filtered
  have chosen : (rotateAfter before.seats.keys before.actingSeatNo).find?
      (fun seatNo => canAct (after.seat seatNo)) = some second := by
    rw [split,List.find?_append,List.find?_eq_none.mpr unable]
    simp [able]
  have target : nextActiveSeat after before.actingSeatNo = second := by
    rw [nextActiveSeat_eq after _ member,keys,chosen]
    rfl
  refine ⟨target,?_⟩
  have order := rotateAfter_next before.seats.keys_nodup seated split
  have emptied : skipped.filter (fun seatNo => canAct (after.seat seatNo)) = [] :=
    List.filter_eq_nil_iff.mpr unable
  have queue : turnQueue before = before.actingSeatNo :: second :: rest := by
    rw [← others]
    rfl
  have view : turnQueue (passed after before.actingSeatNo) =
      second :: (rotateAfter before.seats.keys second).filter fun seatNo => canAct (after.seat seatNo) := by
    unfold turnQueue passed
    rw [target,keys]
    rfl
  rw [view,order,queue,List.filter_append,kept]
  cases still : canAct (after.seat before.actingSeatNo) with
  | true =>
    rw [serve_stays (fun seatNo => canAct (after.seat seatNo)) _ still,
      List.filter_cons_of_pos (by simpa using still),emptied]
    rfl
  | false =>
    rw [serve_leaves (fun seatNo => canAct (after.seat seatNo)) _ still,
      List.filter_cons_of_neg (by simpa using still),emptied,List.append_nil]

theorem pass_live (live : Live before) (seats : after.seats = before.seats.insert before.actingSeatNo next)
    {second : Int} {rest : List Int} (others : (turnQueue before).tail = second :: rest) :
    second ∈ actorSeatNos before ∧ second ≠ before.actingSeatNo ∧ Live (passed after before.actingSeatNo) := by
  obtain ⟨target,_⟩ := pass_queue live seats others
  have queue : turnQueue before = before.actingSeatNo :: second :: rest := by
    rw [← others]
    rfl
  have able : second ∈ actorSeatNos before := by
    rw [← mem_turnQueue live,queue]
    simp
  have differ : second ≠ before.actingSeatNo := by
    have distinct := turnQueue_nodup live
    rw [queue] at distinct
    rintro rfl
    simp at distinct
  obtain ⟨held,found,canAct⟩ := mem_actorSeatNos.mp able
  refine ⟨able,differ,mem_actorSeatNos.mpr ⟨held,?_,canAct⟩⟩
  change after.seats.get? (nextActiveSeat after before.actingSeatNo) = some held
  rw [target,seats,OrdMap.get?_insert_of_ne _ _ differ,found]

theorem actors_after_fold (live : Live before) (seats : after.seats = before.seats.insert before.actingSeatNo next)
    (out : canAct next = false) (alone : (turnQueue before).tail = []) : remainingActors after = 0 := by
  refine List.length_eq_zero_iff.mpr (List.eq_nil_iff_forall_not_mem.mpr fun seatNo member => ?_)
  obtain ⟨held,found,able⟩ := mem_actorSeatNos.mp member
  rw [seats,OrdMap.get?_insert] at found
  split_ifs at found with own
  · cases found
    rw [out] at able
    contradiction
  · have queued := (mem_turnQueue live seatNo).mpr (mem_actorSeatNos.mpr ⟨held,found,able⟩)
    rcases List.mem_cons.mp queued with same | waiting
    · exact own same
    · change seatNo ∈ (turnQueue before).tail at waiting
      rw [alone] at waiting
      cases waiting

end Pass

def timedOut (state : State) : State :=
  if state.handClosed then state else applied state (.applyPhaseTimeout ⟨state.actingSeatNo⟩)

def matched (state : State) (seatNo : Int) : Bool := chipsToCall state (state.seat seatNo) == 0

def allInContenders (state : State) : Nat :=
  (state.seats.keysWhere fun _ seat => isContender seat && !canAct seat).length

theorem contenders_split (state : State) :
    remainingContenders state = allInContenders state + remainingActors state := by
  have split := List.length_eq_length_filter_add (l := state.seats.entries.filter fun e => isContender e.2)
    fun e => canAct e.2
  have actors : (state.seats.entries.filter fun e => isContender e.2).filter (fun e => canAct e.2) =
      state.seats.entries.filter fun e => canAct e.2 := by
    rw [List.filter_filter]
    apply List.filter_congr
    intro e _
    cases able : canAct e.2 with
    | true => simp [canAct_contends able]
    | false => simp
  rw [actors,List.filter_filter] at split
  unfold remainingContenders contenderSeatNos allInContenders remainingActors actorSeatNos OrdMap.keysWhere
  simp only [List.length_map]
  rw [split,Nat.add_comm]
  congr 2
  apply List.filter_congr
  intro e _
  rw [Bool.and_comm]

def timedOutSeat (state : State) (seat : Seat) : Seat :=
  if timeoutAction state = .autoFold then { seat with timedOutThisHand := true, folded := true }
  else { seat with timedOutThisHand := true }

theorem takeTimeout_eq (state : State) (seat : Seat) (seatNo : Int) :
    takeTimeout state seat seatNo =
      { state with seats := state.seats.insert seatNo (timedOutSeat state seat) } := by
  unfold takeTimeout timedOutSeat
  split_ifs <;> rfl

variable {state : State}

theorem timedOut_eq {seat : Seat} (unclosed : state.handClosed = false) (live : Live state)
    (found : state.seats.get? state.actingSeatNo = some seat) :
    ∃ events, timedOut state = (advanceAfterTurn state
      (passed (takeTimeout state seat state.actingSeatNo) state.actingSeatNo) events).1 := by
  obtain ⟨held,result,heldFound,_,accepted,same⟩ := live_timeout live
  have equal : held = seat := Option.some.inj (heldFound.symm.trans found)
  subst equal
  have moved : timedOut state = result.1 := by
    unfold timedOut applied
    rw [unclosed,accepted]
    rfl
  exact ⟨_,moved.trans (congrArg Prod.fst same)⟩

theorem advance_wager (previous next : State) (events : List Event) (wager : next.currentPhase = .wager) :
    (advanceAfterTurn previous next events).1 =
      if wagerOver previous next || phaseCompleted previous next then (applyCloseHand next).1 else next := by
  unfold advanceAfterTurn
  cases ended : wagerOver previous next <;> cases done : phaseCompleted previous next <;> simp [wager,closeAfter]

theorem advance_quiet (previous next : State) (events : List Event) (phase following : Phase)
    (current : next.currentPhase = phase)
    (order : phase = .signal ∧ following = .probe ∨ phase = .probe ∧ following = .wager) :
    (advanceAfterTurn previous next events).1 =
      if phaseCompleted previous next then openNextPhase previous next following else next := by
  unfold advanceAfterTurn
  rcases order with ⟨rfl,rfl⟩ | ⟨rfl,rfl⟩ <;> cases done : phaseCompleted previous next <;> simp [current]

section Timeout
variable {state : State} {seat : Seat}

theorem timedOutSeat_committed (state : State) (seat : Seat) :
    (timedOutSeat state seat).committedThisHand = seat.committedThisHand := by
  unfold timedOutSeat
  split_ifs <;> rfl

theorem matched_timeout (found : state.seats.get? state.actingSeatNo = some seat) :
    matched (takeTimeout state seat state.actingSeatNo) = matched state := by
  funext seatNo
  rw [takeTimeout_eq]
  unfold matched
  by_cases own : seatNo = state.actingSeatNo
  · subst own
    rw [seat_insert rfl,seat_of_get? found,chipsToCall_eq,chipsToCall_eq,timedOutSeat_committed]
  · rw [ability_insert rfl seatNo own]
    rfl

theorem allIn_timeout (found : state.seats.get? state.actingSeatNo = some seat) (able : canAct seat = true) :
    allInContenders (takeTimeout state seat state.actingSeatNo) = allInContenders state := by
  unfold allInContenders
  rw [takeTimeout_eq,OrdMap.keysWhere_insert_same _ found]
  obtain ⟨present,folded,allIn⟩ := canAct_present able
  unfold timedOutSeat
  split_ifs <;> simp [isContender,canAct,folded,allIn]

theorem canAct_wager (wager : state.currentPhase = .wager)
    (found : state.seats.get? state.actingSeatNo = some seat) (able : canAct seat = true) :
    canAct (timedOutSeat state seat) = matched state state.actingSeatNo := by
  obtain ⟨present,folded,allIn⟩ := canAct_present able
  have owes : matched state state.actingSeatNo = (chipsToCall state seat == 0) := by
    rw [matched,seat_of_get? found]
  rw [owes]
  unfold timedOutSeat timeoutAction
  by_cases even : chipsToCall state seat = 0
  · simp [wager,found,even,canAct,present,folded,allIn]
  · simp [wager,found,even,canAct]

end Timeout

/-- A hand in its wager phase, with everything a run of timeouts depends on. -/
structure Wagering (stay : Int → Bool) (start : Int) (others : Nat) (queue : List Int) (state : State) : Prop where
  unclosed : state.handClosed = false
  wager : state.currentPhase = .wager
  live : Live state
  numbered : SeatsNumbered state
  startSeat : state.phaseStartSeatNo = start
  started : start ≠ 0
  order : turnQueue state = queue
  bets : matched state = stay
  allIn : allInContenders state = others

theorem phaseCompleted_iff {previous next : State} (onTurn : next.actingSeatNo ≠ 0)
    (started : previous.phaseStartSeatNo ≠ 0) :
    phaseCompleted previous next = true ↔ next.actingSeatNo = previous.phaseStartSeatNo := by
  unfold phaseCompleted
  rw [if_neg onTurn,if_neg started]
  exact beq_iff_eq

section Wager
variable {stay : Int → Bool} {start : Int} {others : Nat} {queue : List Int} {state after : State} {next : Seat}

theorem Wagering.over_alone (wagering : Wagering stay start others queue state)
    (seats : after.seats = state.seats.insert state.actingSeatNo next) (bets : matched after = stay)
    (still : canAct next = stay state.actingSeatNo) (alone : (turnQueue state).tail = []) :
    wagerOver state (passed after state.actingSeatNo) = true := by
  have live := wagering.live
  have stays := pass_alone live seats alone
  have onTurn := wagering.numbered _ (live_seated live)
  have here : after.seats.get? state.actingSeatNo = some next := by rw [seats,OrdMap.get?_insert_self]
  simp only [wagerOver,Bool.or_eq_true,beq_iff_eq]
  cases even : stay state.actingSeatNo with
  | true =>
    have owes : matched after state.actingSeatNo = true := by rw [bets,even]
    rw [matched,seat_of_get? here] at owes
    refine .inr ?_
    unfold noFurtherWagerActionsRequired passed
    simp only [stays]
    rw [if_neg (by simp; omega)]
    simp only [here]
    exact owes
  | false => exact .inl (.inr (actors_after_fold live seats (still.trans even) alone))

theorem Wagering.closes_iff (wagering : Wagering stay start others queue state)
    (seats : after.seats = state.seats.insert state.actingSeatNo next) (allIn : allInContenders after = others)
    (still : canAct next = stay state.actingSeatNo) {second : Int} {rest : List Int}
    (waiting : (turnQueue state).tail = second :: rest) :
    turnQueue (passed after state.actingSeatNo) = serve stay queue ∧
      ((wagerOver state (passed after state.actingSeatNo) ||
        phaseCompleted state (passed after state.actingSeatNo)) = true ↔ Halts stay start others queue) := by
  have live := wagering.live
  obtain ⟨target,order⟩ := pass_queue live seats waiting
  obtain ⟨secondAble,differ,nextLive⟩ := pass_live live seats waiting
  have shape : queue = state.actingSeatNo :: second :: rest := by
    rw [← wagering.order,← waiting]
    rfl
  have served : turnQueue (passed after state.actingSeatNo) = serve stay queue := by
    rw [order,wagering.order,shape,serve,serve,seat_insert seats,still]
  have goes : (passed after state.actingSeatNo).actingSeatNo = second := target
  have count : remainingActors (passed after state.actingSeatNo) = (serve stay queue).length := by
    rw [← served]
    exact (turnQueue_perm nextLive).length_eq.symm
  have contenders : remainingContenders (passed after state.actingSeatNo) =
      others + (serve stay queue).length := by
    rw [contenders_split,count,← allIn]
    rfl
  have front : (serve stay queue).head? = some second := by
    rw [← served,turnQueue,List.head?_cons,goes]
  have somebody : serve stay queue ≠ [] := by
    rintro empty
    rw [empty] at front
    contradiction
  have positive := wagering.numbered _ (actorSeatNos_subset state _ secondAble)
  have completed : phaseCompleted state (passed after state.actingSeatNo) = true ↔ second = start := by
    rw [phaseCompleted_iff (by omega) (by rw [wagering.startSeat]; exact wagering.started),goes,wagering.startSeat]
  have moves : noFurtherWagerActionsRequired state (passed after state.actingSeatNo) = false := by
    unfold noFurtherWagerActionsRequired
    rw [if_pos (.inr (by rw [goes]; exact differ))]
  refine ⟨served,?_⟩
  have long : ¬ queue.length ≤ 1 := by rw [shape]; simp
  have left := List.length_pos_iff.mpr somebody
  unfold Halts
  rw [Bool.or_eq_true,completed,front,Option.some.injEq]
  simp only [wagerOver,moves,Bool.or_false,Bool.or_eq_true,decide_eq_true_eq,beq_iff_eq,contenders,count]
  constructor
  · rintro ((few | none) | reached)
    · exact .inr (.inr few)
    · omega
    · exact .inl reached
  · rintro (reached | short | few)
    · exact .inr reached
    · exact absurd short long
    · exact .inl (.inl few)

theorem Wagering.timeout (wagering : Wagering stay start others queue state) :
    (Halts stay start others queue → (timedOut state).handClosed = true) ∧
      (¬ Halts stay start others queue → Wagering stay start others (serve stay queue) (timedOut state)) := by
  have live := wagering.live
  obtain ⟨seat,found,able⟩ := mem_actorSeatNos.mp live
  obtain ⟨events,result⟩ := timedOut_eq wagering.unclosed live found
  have frame := takeTimeout_eq state seat state.actingSeatNo
  have bets := (matched_timeout found).trans wagering.bets
  have allIn := (allIn_timeout found able).trans wagering.allIn
  have still := canAct_wager wagering.wager found able
  rw [wagering.bets] at still
  generalize takeTimeout state seat state.actingSeatNo = after at result frame bets allIn
  have seats : after.seats = state.seats.insert state.actingSeatNo (timedOutSeat state seat) := by rw [frame]
  have wager : (passed after state.actingSeatNo).currentPhase = .wager := by
    rw [frame]
    exact wagering.wager
  rw [advance_wager _ _ _ wager] at result
  cases waiting : (turnQueue state).tail with
  | nil =>
    have ended := wagering.over_alone seats bets still waiting
    have closed : (timedOut state).handClosed = true := by
      rw [result,ended]
      exact (applyCloseHand_frame _).1
    refine ⟨fun _ => closed,fun running => absurd (.inr (.inl ?_)) running⟩
    have short := congrArg List.length waiting
    rw [List.length_tail,List.length_nil] at short
    rw [← wagering.order]
    omega
  | cons second rest =>
    obtain ⟨served,closes⟩ := wagering.closes_iff seats allIn still waiting
    have nextLive := (pass_live live seats waiting).2.2
    constructor
    · intro halts
      rw [result,if_pos (closes.mpr halts)]
      exact (applyCloseHand_frame _).1
    · intro running
      rw [result,if_neg (fun closed => running (closes.mp closed))]
      refine ⟨?_,wager,nextLive,?_,?_,wagering.started,served,bets,allIn⟩
      · rw [frame]
        exact wagering.unclosed
      · unfold SeatsNumbered
        change ∀ seatNo ∈ after.seats.keys, 1 ≤ seatNo
        rw [keys_turn live seats]
        exact wagering.numbered
      · rw [frame]
        exact wagering.startSeat

end Wager

def ClosesWithin (state : State) (steps : Nat) : Prop := ∃ j ≤ steps, (timedOut^[j] state).handClosed = true

theorem timedOut_closed (closed : state.handClosed = true) : timedOut state = state := by
  unfold timedOut
  rw [closed]
  rfl

theorem iterate_closed (closed : state.handClosed = true) (j : Nat) : timedOut^[j] state = state :=
  Function.iterate_fixed (timedOut_closed closed) j

theorem closesWithin_of_closed (closed : state.handClosed = true) (steps : Nat) :
    ClosesWithin state steps := ⟨0,Nat.zero_le _,closed⟩

theorem closesWithin_succ (unclosed : state.handClosed = false) (steps : Nat) :
    ClosesWithin state (steps + 1) ↔ ClosesWithin (timedOut state) steps := by
  constructor
  · rintro ⟨j,bounded,closed⟩
    cases j with
    | zero =>
      change state.handClosed = true at closed
      rw [unclosed] at closed
      contradiction
    | succ j => exact ⟨j,by omega,closed⟩
  · rintro ⟨j,bounded,closed⟩
    exact ⟨j + 1,by omega,closed⟩

theorem closesWithin_later (i : Nat) (unclosed : (timedOut^[i] state).handClosed = false) (steps : Nat)
    (enough : i ≤ steps) : ClosesWithin state steps ↔ ClosesWithin (timedOut^[i] state) (steps - i) := by
  induction i generalizing state steps with
  | zero => rfl
  | succ i ih =>
    have before : state.handClosed = false := by
      rw [Bool.eq_false_iff]
      intro closed
      rw [iterate_closed closed,closed] at unclosed
      contradiction
    obtain ⟨fewer,rfl⟩ : ∃ fewer, steps = fewer + 1 := ⟨steps - 1,by omega⟩
    rw [closesWithin_succ before,ih unclosed fewer (by omega),Function.iterate_succ_apply]
    congr! 1
    omega

theorem Wagering.closesWithin_iff {stay : Int → Bool} {start : Int} {others : Nat} (steps : Nat) {queue : List Int}
    (wagering : Wagering stay start others queue state) :
    ClosesWithin state steps ↔ ∃ j < steps, Halts stay start others ((serve stay)^[j] queue) := by
  induction steps generalizing queue state with
  | zero =>
    constructor
    · rintro ⟨j,bounded,closed⟩
      obtain rfl : j = 0 := by omega
      change state.handClosed = true at closed
      rw [wagering.unclosed] at closed
      contradiction
    · rintro ⟨j,early,_⟩
      omega
  | succ steps ih =>
    obtain ⟨stops,runs⟩ := wagering.timeout
    rw [closesWithin_succ wagering.unclosed]
    by_cases halts : Halts stay start others queue
    · exact ⟨fun _ => ⟨0,by omega,halts⟩,fun _ => closesWithin_of_closed (stops halts) steps⟩
    · rw [ih (runs halts)]
      constructor
      · rintro ⟨j,early,later⟩
        exact ⟨j + 1,by omega,later⟩
      · rintro ⟨j,early,later⟩
        cases j with
        | zero => exact absurd later halts
        | succ j => exact ⟨j,by omega,later⟩

/-- What a timeout in a quiet phase leaves alone. -/
structure Same (before after : State) : Prop where
  handClosed : after.handClosed = before.handClosed
  bets : matched after = matched before
  allIn : allInContenders after = allInContenders before
  actors : actorSeatNos after = actorSeatNos before
  keys : after.seats.keys = before.seats.keys
  startSeat : after.phaseStartSeatNo = before.phaseStartSeatNo

theorem Same.trans {first second third : State} (left : Same first second) (right : Same second third) :
    Same first third :=
  ⟨right.handClosed.trans left.handClosed,right.bets.trans left.bets,right.allIn.trans left.allIn,
    right.actors.trans left.actors,right.keys.trans left.keys,right.startSeat.trans left.startSeat⟩

theorem firstEligibleSeatFrom_self (state : State) (seatNo : Int) (member : seatNo ∈ actorSeatNos state)
    (nonzero : seatNo ≠ 0) : firstEligibleSeatFrom state seatNo = seatNo := by
  have increasing : (actorSeatNos state).Pairwise (· < ·) := OrdMap.keysWhere_sorted _ _
  unfold firstEligibleSeatFrom
  cases listed : actorSeatNos state with
  | nil =>
    rw [listed] at member
    cases member
  | cons first rest =>
    dsimp only
    rw [if_neg nonzero]
    rw [listed] at member increasing
    obtain ⟨before,after,split⟩ := List.append_of_mem member
    rw [split] at increasing ⊢
    have below : ∀ other ∈ before, ¬ decide (seatNo ≤ other) = true := by
      intro other inside
      have less := (List.pairwise_append.mp increasing).2.2 other inside seatNo List.mem_cons_self
      simpa using less
    rw [List.find?_append,List.find?_eq_none.mpr below]
    simp

structure Waiting (phase : Phase) (queue : List Int) (state : State) : Prop where
  unclosed : state.handClosed = false
  phase : state.currentPhase = phase
  live : Live state
  numbered : SeatsNumbered state
  startable : state.phaseStartSeatNo ∈ actorSeatNos state
  order : turnQueue state = queue

section Quiet
variable {phase following : Phase} {queue : List Int} {state : State}

theorem Turn.quiet_marks {after : State} {seat next : Seat} (turn : Turn state after seat next 0)
    (early : state.currentPhase = .signal ∨ state.currentPhase = .probe)
    (level : after.currentToCall = state.currentToCall) :
    matched after = matched state ∧ allInContenders after = allInContenders state := by
  obtain ⟨folded,allIn⟩ := turn.quiet early
  have present := bne_iff_ne.mpr turn.present
  have kept := bne_iff_ne.mpr turn.kept
  constructor
  · funext seatNo
    unfold matched
    by_cases own : seatNo = state.actingSeatNo
    · subst own
      rw [seat_insert turn.seats,seat_of_get? turn.found,chipsToCall_eq,chipsToCall_eq,turn.committed,level,Int.add_zero]
    · rw [ability_insert turn.seats seatNo own,chipsToCall_eq,chipsToCall_eq,level]
  · unfold allInContenders
    rw [turn.seats,OrdMap.keysWhere_insert_same _ turn.found]
    simp only [isContender,canAct,folded,allIn,present,kept]

theorem Waiting.turn (waiting : Waiting phase queue state)
    (order : phase = .signal ∧ following = .probe ∨ phase = .probe ∧ following = .wager)
    {after : State} {seat next : Seat} (turn : Turn state after seat next 0)
    (level : after.currentToCall = state.currentToCall) (events : List Event) :
    let result := (advanceAfterTurn state (passed after state.actingSeatNo) events).1
    Same state result ∧
      ((serve (fun _ => true) queue).head? = some state.phaseStartSeatNo →
        result.currentPhase = following ∧ result.actingSeatNo = state.phaseStartSeatNo) ∧
      ((serve (fun _ => true) queue).head? ≠ some state.phaseStartSeatNo →
        Waiting phase (serve (fun _ => true) queue) result) := by
  have live := waiting.live
  have early : state.currentPhase = .signal ∨ state.currentPhase = .probe := by
    rw [waiting.phase]
    exact order.imp And.left And.left
  obtain ⟨bets,allIn⟩ := turn.quiet_marks early level
  have actors := turn.actors_quiet early
  have seats := turn.seats
  have keys := keys_turn live seats
  have still : canAct next = true := by
    obtain ⟨held,found,able⟩ := mem_actorSeatNos.mp live
    rw [turn.found,Option.some.injEq] at found
    subst found
    obtain ⟨_,folded,out⟩ := canAct_present able
    obtain ⟨foldedSame,allInSame⟩ := turn.quiet early
    rw [canAct,bne_iff_ne.mpr turn.kept,foldedSame,allInSame,folded,out]
    rfl
  have seated : state.actingSeatNo ∈ after.seats.keys := by rw [keys]; exact live_seated live
  have nextLive : Live (passed after state.actingSeatNo) :=
    nextActiveSeat_mem after _ seated (by rw [actors]; exact List.ne_nil_of_mem live)
  have served : turnQueue (passed after state.actingSeatNo) = serve (fun _ => true) queue := by
    rw [← waiting.order]
    cases rest : (turnQueue state).tail with
    | nil =>
      have stays := pass_alone live seats rest
      have alone : turnQueue state = [state.actingSeatNo] := by rw [← rest]; rfl
      have emptied := filter_insert live seats
      change _ = (turnQueue state).tail at emptied
      rw [alone]
      unfold turnQueue passed
      rw [stays,keys]
      change state.actingSeatNo :: (rotateAfter state.seats.keys state.actingSeatNo).filter
        (fun seatNo => canAct (after.seat seatNo)) = _
      rw [emptied,rest]
      rfl
    | cons second others =>
      have shape : turnQueue state = state.actingSeatNo :: second :: others := by rw [← rest]; rfl
      rw [(pass_queue live seats rest).2,shape,serve,serve,seat_insert seats,still]
  have startPositive := waiting.numbered _ (actorSeatNos_subset state _ waiting.startable)
  have headPositive : 1 ≤ nextActiveSeat after state.actingSeatNo := by
    have member := actorSeatNos_subset after _ nextLive
    rw [keys] at member
    exact waiting.numbered _ member
  have completed : phaseCompleted state (passed after state.actingSeatNo) = true ↔
      (serve (fun _ => true) queue).head? = some state.phaseStartSeatNo := by
    rw [phaseCompleted_iff (by change nextActiveSeat after state.actingSeatNo ≠ 0; omega) (by omega),← served]
    exact (Option.some.injEq _ _).symm.to_iff
  have chosen : firstEligibleSeatFrom (passed after state.actingSeatNo) state.phaseStartSeatNo =
      state.phaseStartSeatNo := by
    apply firstEligibleSeatFrom_self
    · change state.phaseStartSeatNo ∈ actorSeatNos after
      rw [actors]
      exact waiting.startable
    · omega
  have advanced := advance_quiet state (passed after state.actingSeatNo) events phase following
    (turn.currentPhase.trans waiting.phase) order
  dsimp only
  by_cases done : phaseCompleted state (passed after state.actingSeatNo) = true
  · rw [if_pos done] at advanced
    rw [advanced]
    exact ⟨⟨turn.handClosed,bets,allIn,actors,keys,chosen⟩,fun _ => ⟨rfl,chosen⟩,
      fun other => absurd (completed.mp done) other⟩
  · rw [if_neg done] at advanced
    rw [advanced]
    refine ⟨⟨turn.handClosed,bets,allIn,actors,keys,turn.phaseStartSeatNo⟩,
      fun front => absurd (completed.mpr front) done,fun _ => ?_⟩
    refine ⟨turn.handClosed.trans waiting.unclosed,turn.currentPhase.trans waiting.phase,nextLive,?_,?_,served⟩
    · unfold SeatsNumbered
      change ∀ seatNo ∈ after.seats.keys, 1 ≤ seatNo
      rw [keys]
      exact waiting.numbered
    · change after.phaseStartSeatNo ∈ actorSeatNos after
      rw [actors,turn.phaseStartSeatNo]
      exact waiting.startable

theorem Waiting.timeout (waiting : Waiting phase queue state)
    (order : phase = .signal ∧ following = .probe ∨ phase = .probe ∧ following = .wager) :
    Same state (timedOut state) ∧
      ((serve (fun _ => true) queue).head? = some state.phaseStartSeatNo →
        (timedOut state).currentPhase = following ∧ (timedOut state).actingSeatNo = state.phaseStartSeatNo) ∧
      ((serve (fun _ => true) queue).head? ≠ some state.phaseStartSeatNo →
        Waiting phase (serve (fun _ => true) queue) (timedOut state)) := by
  obtain ⟨seat,found,able⟩ := mem_actorSeatNos.mp waiting.live
  obtain ⟨events,result⟩ := timedOut_eq waiting.unclosed waiting.live found
  obtain ⟨next,turn⟩ := takeTimeout_turn state seat found (canAct_present able).1
  rw [result]
  exact waiting.turn order turn (by rw [takeTimeout_eq]) events

theorem Waiting.reaches (waiting : Waiting phase queue state)
    (order : phase = .signal ∧ following = .probe ∨ phase = .probe ∧ following = .wager) (j : Nat)
    (front : (serve (fun _ => true) ((serve fun _ => true)^[j] queue)).head? = some state.phaseStartSeatNo) :
    ∃ i ≤ j + 1, Same state (timedOut^[i] state) ∧ (timedOut^[i] state).currentPhase = following ∧
      (timedOut^[i] state).actingSeatNo = state.phaseStartSeatNo := by
  induction j generalizing queue state with
  | zero =>
    obtain ⟨same,opens,_⟩ := waiting.timeout order
    exact ⟨1,le_refl _,same,opens front⟩
  | succ j ih =>
    obtain ⟨same,opens,waits⟩ := waiting.timeout order
    by_cases first : (serve (fun _ => true) queue).head? = some state.phaseStartSeatNo
    · exact ⟨1,by omega,same,opens first⟩
    · rw [← same.startSeat] at front
      obtain ⟨i,bounded,later,phase,acting⟩ := ih (waits first) front
      exact ⟨i + 1,by omega,same.trans later,phase,acting.trans same.startSeat⟩

theorem Waiting.next_phase (waiting : Waiting phase queue state)
    (order : phase = .signal ∧ following = .probe ∨ phase = .probe ∧ following = .wager) :
    ∃ i ≤ remainingActors state, Same state (timedOut^[i] state) ∧ (timedOut^[i] state).currentPhase = following ∧
      (timedOut^[i] state).actingSeatNo = state.phaseStartSeatNo := by
  have queued : state.phaseStartSeatNo ∈ queue := by
    rw [← waiting.order,mem_turnQueue waiting.live]
    exact waiting.startable
  obtain ⟨j,early,front⟩ := reaches_member (fun _ => true) queue (fun _ => rfl) queued
  obtain ⟨i,bounded,rest⟩ := waiting.reaches order j front
  have count : queue.length = remainingActors state := by
    rw [← waiting.order]
    exact (turnQueue_perm waiting.live).length_eq
  exact ⟨i,by omega,rest⟩

end Quiet

end Clawchain.Arena.Table
