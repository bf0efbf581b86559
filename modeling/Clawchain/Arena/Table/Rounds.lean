import Clawchain.Arena.Table.Drive
import Clawchain.Arena.Table.Marks

/-! The signal and the probe round of a hand. Whoever takes a turn, and whether
the seat acts or its time runs out, the turns of a round go once around the
seats able to act, and no chip moves before the wager phase. -/
namespace Clawchain.Arena.Table
open Clawchain.Lib Clawchain.Lib.Rotation

def cyclicFrom (seatNos : List Int) (first : Int) : List Int :=
  seatNos.filter (first ≤ ·) ++ seatNos.filter (· < first)

theorem actorSeatNos_filter (state : State) :
    actorSeatNos state = state.seats.keys.filter fun seatNo => canAct (state.seat seatNo) := by
  unfold actorSeatNos OrdMap.keysWhere OrdMap.keys
  rw [List.filter_map]
  congr 1
  apply List.filter_congr
  intro entry member
  rw [Function.comp_apply,seat_of_get? (OrdMap.get?_eq_some_iff.mpr member)]

variable {state : State}

theorem turnQueue_cyclic (live : Live state) :
    turnQueue state = cyclicFrom (actorSeatNos state) state.actingSeatNo := by
  have sorted : (actorSeatNos state).Pairwise (· < ·) := OrdMap.keysWhere_sorted _ _
  unfold turnQueue cyclicFrom
  rw [(filter_sorted sorted live).2,rotateAfter_sorted state.seats.keys_sorted (live_seated live),
    List.filter_append,actorSeatNos_filter]
  simp only [List.filter_filter,Bool.and_comm,List.cons_append]

structure Unbet (before after : State) : Prop where
  purses : (after.seats.mapVals fun _ seat => (seat.stack,seat.committedThisHand)) =
    before.seats.mapVals fun _ seat => (seat.stack,seat.committedThisHand)
  potMain : after.potMain = before.potMain
  currentToCall : after.currentToCall = before.currentToCall

theorem Unbet.trans {first second third : State} (left : Unbet first second) (right : Unbet second third) :
    Unbet first third :=
  ⟨right.purses.trans left.purses,right.potMain.trans left.potMain,right.currentToCall.trans left.currentToCall⟩

theorem Turn.unbet {after : State} {seat next : Seat} (turn : Turn state after seat next 0)
    (level : after.currentToCall = state.currentToCall) : Unbet state after where
  purses := by
    have stack := turn.stack
    have committed := turn.committed
    apply OrdMap.ext_get?
    intro seatNo
    simp only [OrdMap.get?_mapVals,turn.seats,OrdMap.get?_insert]
    by_cases own : seatNo = state.actingSeatNo
    · subst own
      rw [if_pos rfl,turn.found]
      simp [stack,committed]
    · rw [if_neg own]
  potMain := by rw [turn.potMain,Int.add_zero]
  currentToCall := level

def turnSeat : Command → Option Int
  | .submitArenaAction cmd => some cmd.seatNo
  | .applyPhaseTimeout cmd => some cmd.seatNo
  | _ => none

theorem validateAction_quiet {seat : Seat} {cmd : SubmitArenaAction}
    (early : state.currentPhase = .signal ∨ state.currentPhase = .probe)
    (valid : validateAction state seat cmd = .ok ()) :
    cmd.actionType = .signalNone ∨ cmd.actionType = .passProbe := by
  unfold validateAction at valid
  rcases early with phase | phase
  · simp only [phase,illegal] at valid
    split_ifs at valid with other
    exact .inl (not_not.mp other)
  · simp only [phase,illegal] at valid
    split_ifs at valid with other
    exact .inr (not_not.mp other)

theorem quiet_turn {result : State} {cmd : Command} {seatNo : Int} {events : List Event}
    (early : state.currentPhase = .signal ∨ state.currentPhase = .probe) (named : turnSeat cmd = some seatNo)
    (accepted : apply state cmd = .ok (result,events)) :
    seatNo = state.actingSeatNo ∧ ∃ after seat next event, Turn state after seat next 0 ∧
      after.currentToCall = state.currentToCall ∧
      result = (advanceAfterTurn state (passed after state.actingSeatNo) [event]).1 := by
  cases cmd with
  | submitArenaAction action =>
    cases named
    obtain ⟨own,seat,found,present,valid,event,same⟩ := applyAction_taken accepted
    have kind := validateAction_quiet early valid
    have still : chipless action.actionType = true := by rcases kind with same | same <;> rw [same] <;> rfl
    have calm : action.actionType ≠ .fold := by rcases kind with same | same <;> rw [same] <;> decide
    obtain ⟨next,turn⟩ := takeAction_chipless state seat action own found present still fun _ => calm
    refine ⟨own,_,seat,next,event,turn,?_,same⟩
    unfold takeAction
    rcases kind with same | same <;> rw [same]
  | applyPhaseTimeout timeout =>
    cases named
    obtain ⟨own,seat,found,present,event,same⟩ := applyTimeout_taken accepted
    obtain ⟨next,turn⟩ := takeTimeout_turn state seat found present
    exact ⟨own,_,seat,next,event,turn,by rw [takeTimeout_eq],same⟩
  | startHand deal => cases named
  | closeHand => cases named
  | unknown => cases named

theorem advance_unbet {previous after : State} {phase following : Phase} (current : after.currentPhase = phase)
    (order : phase = .signal ∧ following = .probe ∨ phase = .probe ∧ following = .wager) (seatNo : Int)
    (events : List Event) : Unbet after (advanceAfterTurn previous (passed after seatNo) events).1 := by
  rw [advance_quiet previous (passed after seatNo) events phase following current order]
  split_ifs <;> exact ⟨rfl,rfl,rfl⟩

def turnOrder (start : State) : List Int := cyclicFrom (actorSeatNos start) start.actingSeatNo

structure Opened (phase : Phase) (seatNo : Int) (state : State) : Prop where
  unclosed : state.handClosed = false
  phase : state.currentPhase = phase
  numbered : SeatsNumbered state
  acting : state.actingSeatNo = seatNo
  startSeat : state.phaseStartSeatNo = seatNo
  live : Live state

structure Round (start : State) (phase : Phase) (i : Nat) (state : State) : Prop where
  early : i < (turnOrder start).length
  waiting : Waiting phase ((serve fun _ => true)^[i] (turnOrder start)) state
  startSeat : state.phaseStartSeatNo = start.actingSeatNo
  actors : actorSeatNos state = actorSeatNos start
  unbet : Unbet start state

section Round
variable {start state : State} {phase following : Phase}

theorem Opened.round (opened : Opened phase start.actingSeatNo state) (actors : actorSeatNos state = actorSeatNos start)
    (unbet : Unbet start state) : Round start phase 0 state := by
  have order : turnQueue state = turnOrder start := by
    rw [turnQueue_cyclic opened.live,opened.acting,actors]
    rfl
  have startable : state.phaseStartSeatNo ∈ actorSeatNos state := by
    rw [opened.startSeat,← opened.acting]
    exact opened.live
  refine ⟨?_,⟨opened.unclosed,opened.phase,opened.live,opened.numbered,startable,order⟩,opened.startSeat,actors,unbet⟩
  rw [← order]
  exact Nat.succ_pos _

theorem serve_head {queue : List Int} (i : Nat) (early : i < queue.length) :
    ((serve fun _ => true)^[i] queue).head? = queue[i]? := by
  rw [serve_iterate (fun _ => true) queue i early.le,List.drop_eq_getElem_cons early]
  simp [early]

theorem turnOrder_spec (live : Live start) :
    (turnOrder start).Nodup ∧ (turnOrder start).head? = some start.actingSeatNo ∧
      (turnOrder start).Perm (actorSeatNos start) := by
  unfold turnOrder
  rw [← turnQueue_cyclic live]
  exact ⟨turnQueue_nodup live,rfl,turnQueue_perm live⟩

theorem serve_back (live : Live start) (i : Nat) (early : i < (turnOrder start).length) :
    (serve (fun _ => true) ((serve fun _ => true)^[i] (turnOrder start))).head? = some start.actingSeatNo ↔
      i + 1 = (turnOrder start).length := by
  obtain ⟨distinct,head,_⟩ := turnOrder_spec live
  rw [← Function.iterate_succ_apply' (serve fun _ => true)]
  constructor
  · intro front
    by_contra short
    have more : i + 1 < (turnOrder start).length := by omega
    rw [Nat.succ_eq_add_one,serve_head (i + 1) more,← head,List.head?_eq_getElem?,
      List.getElem?_eq_getElem more,List.getElem?_eq_getElem (by omega),Option.some.injEq] at front
    have equal := distinct.getElem_inj_iff.mp front
    omega
  · intro lap
    rw [Nat.succ_eq_add_one,lap,serve_lap]
    simpa using head

theorem Round.turn (round : Round start phase i state) (live : Live start)
    (order : phase = .signal ∧ following = .probe ∨ phase = .probe ∧ following = .wager)
    {cmd : Command} {seatNo : Int} {next : State} {events : List Event} (named : turnSeat cmd = some seatNo)
    (accepted : apply state cmd = .ok (next,events)) :
    (turnOrder start)[i]? = some seatNo ∧ (i + 1 < (turnOrder start).length → Round start phase (i + 1) next) ∧
      (i + 1 = (turnOrder start).length → Opened following start.actingSeatNo next ∧
        actorSeatNos next = actorSeatNos start ∧ Unbet start next) := by
  have waiting := round.waiting
  have early : state.currentPhase = .signal ∨ state.currentPhase = .probe := by
    rw [waiting.phase]
    exact order.imp And.left And.left
  obtain ⟨rfl,after,seat,record,event,turn,level,rfl⟩ := quiet_turn early named accepted
  obtain ⟨same,opens,waits⟩ := waiting.turn order turn level [event]
  have back := serve_back live i round.early
  rw [← round.startSeat] at back
  have actors := same.actors.trans round.actors
  have unbet : Unbet start (advanceAfterTurn state (passed after state.actingSeatNo) [event]).1 :=
    (round.unbet.trans (turn.unbet level)).trans
    (advance_unbet (turn.currentPhase.trans waiting.phase) order state.actingSeatNo [event])
  refine ⟨?_,fun more => ?_,fun lap => ?_⟩
  · rw [← serve_head i round.early,← waiting.order]
    rfl
  · have goes := waits (mt back.mp (by omega))
    rw [← Function.iterate_succ_apply' (serve fun _ => true)] at goes
    exact ⟨more,goes,same.startSeat.trans round.startSeat,actors,unbet⟩
  · obtain ⟨opened,acting⟩ := opens (back.mpr lap)
    have numbered : SeatsNumbered (advanceAfterTurn state (passed after state.actingSeatNo) [event]).1 := by
      unfold SeatsNumbered
      rw [same.keys]
      exact waiting.numbered
    refine ⟨⟨same.handClosed.trans waiting.unclosed,opened,numbered,acting.trans round.startSeat,
      same.startSeat.trans round.startSeat,?_⟩,actors,unbet⟩
    unfold Live
    rw [acting,same.actors]
    exact waiting.startable

end Round

/-- A hand the runtime drives, with the phase and the seat of every turn so far. -/
inductive Turns (start : ActorState) : List (Phase × Int) → ActorState → Prop where
  | opened : Turns start [] start
  | turn {turns : List (Phase × Int)} {state : ActorState} {next : State} {cmd : Command} {events : List Event}
    {seatNo : Int} (run : Turns start turns state) (named : turnSeat cmd = some seatNo)
    (accepted : apply state.table cmd = .ok (next,events)) (now : Int) :
    Turns start (turns ++ [(state.table.currentPhase,seatNo)]) (reopened (committedState state next) now)

def schedule (start : State) : List (Phase × Int) :=
  (turnOrder start).map (Phase.signal,·) ++ (turnOrder start).map (Phase.probe,·)

structure Standing (start : State) (count : Nat) (state : State) : Prop where
  signal : count < (turnOrder start).length → Round start .signal count state
  probe : (turnOrder start).length ≤ count → count < 2 * (turnOrder start).length →
    Round start .probe (count - (turnOrder start).length) state
  wager : count = 2 * (turnOrder start).length → Opened .wager start.actingSeatNo state ∧ Unbet start state

section Schedule
variable {start state : State} {count : Nat}

theorem schedule_length (start : State) : (schedule start).length = 2 * (turnOrder start).length := by
  simp [schedule]
  omega

theorem Standing.turn (standing : Standing start count state) (live : Live start) (early : count < (schedule start).length)
    {cmd : Command} {seatNo : Int} {next : State} {events : List Event} (named : turnSeat cmd = some seatNo)
    (accepted : apply state cmd = .ok (next,events)) :
    (schedule start)[count]? = some (state.currentPhase,seatNo) ∧ Standing start (count + 1) next := by
  rw [schedule_length] at early
  by_cases first : count < (turnOrder start).length
  · have round := standing.signal first
    obtain ⟨place,more,lap⟩ := round.turn live (.inl ⟨rfl,rfl⟩) named accepted
    refine ⟨?_,more,fun reached below => ?_,fun done => ?_⟩
    · rw [schedule,List.getElem?_append_left (by simpa using first),List.getElem?_map,place,round.waiting.phase]
      rfl
    · obtain ⟨opened,actors,unbet⟩ := lap (by omega)
      have zero : count + 1 - (turnOrder start).length = 0 := by omega
      rw [zero]
      exact opened.round actors unbet
    · omega
  · have round := standing.probe (by omega) early
    obtain ⟨place,more,lap⟩ := round.turn live (.inr ⟨rfl,rfl⟩) named accepted
    refine ⟨?_,fun early => by omega,fun reached below => ?_,fun done => ?_⟩
    · rw [schedule,List.getElem?_append_right (by simp; omega),List.length_map,List.getElem?_map,place,
        round.waiting.phase]
      rfl
    · have shifted : count + 1 - (turnOrder start).length = count - (turnOrder start).length + 1 := by omega
      rw [shifted]
      exact more (by omega)
    · obtain ⟨opened,_,unbet⟩ := lap (by omega)
      exact ⟨opened,unbet⟩

theorem Standing.inside (standing : Standing start count state) (early : count ≤ (schedule start).length) :
    state.handClosed = false ∧ state.phaseStartSeatNo = start.actingSeatNo ∧ Unbet start state := by
  rw [schedule_length] at early
  by_cases first : count < (turnOrder start).length
  · have round := standing.signal first
    exact ⟨round.waiting.unclosed,round.startSeat,round.unbet⟩
  · by_cases second : count < 2 * (turnOrder start).length
    · have round := standing.probe (by omega) second
      exact ⟨round.waiting.unclosed,round.startSeat,round.unbet⟩
    · obtain ⟨opened,unbet⟩ := standing.wager (by omega)
      exact ⟨opened.unclosed,opened.startSeat,unbet⟩

end Schedule

theorem Opened.standing {start : State} (opened : Opened .signal start.actingSeatNo start) : Standing start 0 start := by
  have unbet : Unbet start start := ⟨rfl,rfl,rfl⟩
  have round := opened.round rfl unbet
  refine ⟨fun _ => round,fun reached => ?_,fun done => ?_⟩
  · have early := round.early
    omega
  · have early := round.early
    omega

theorem Turns.standing {start : ActorState} (opened : Opened .signal start.table.actingSeatNo start.table)
    {turns : List (Phase × Int)} {state : ActorState} (run : Turns start turns state) :
    turns.take (schedule start.table).length = (schedule start.table).take turns.length ∧
      (turns.length ≤ (schedule start.table).length → Standing start.table turns.length state.table) := by
  induction run with
  | opened => exact ⟨by simp,fun _ => opened.standing⟩
  | @turn turns state next cmd events seatNo run named accepted now ih =>
    obtain ⟨places,stands⟩ := ih
    rw [List.length_append,List.length_singleton]
    by_cases early : turns.length < (schedule start.table).length
    · obtain ⟨place,after⟩ := (stands early.le).turn opened.live early named accepted
      refine ⟨?_,fun within => ?_⟩
      · rw [List.take_of_length_le (by omega)] at places
        rw [List.take_of_length_le (by simp; omega),List.take_add_one,← places,place]
        rfl
      · have started := (after.inside within).2.1
        have positive := opened.numbered _ (live_seated opened.live)
        rw [reopened_table (committedState state next) now (by rw [show (committedState state next).table = next from rfl]; omega)]
        exact after
    · refine ⟨?_,fun within => by omega⟩
      rw [List.take_append_of_le_length (by omega),places,List.take_of_length_le (by omega),
        List.take_of_length_le (by omega)]

end Clawchain.Arena.Table
