import Clawchain.Arena.Table.Actor
import Clawchain.Arena.Table.Queue

/-! A hand as the runtime drives it: the phase is reopened with the engine's own
fields after every accepted command, and turns nobody takes are timed out. -/
namespace Clawchain.Arena.Table
open Clawchain.Lib Clawchain.Lib.Rotation

def nextTurnPhaseID (handID : String) (phase : Phase) (stateSeq : Int) : String :=
  "phase:" ++ handID ++ ":" ++ phase.name ++ ":" ++ Format.padInt 3 stateSeq

def phaseID (handID : String) (phase : Phase) : String := "phase:" ++ handID ++ ":" ++ phase.name

def firstActiveSeat (state : State) : Int := (eligibleSeatNos state).headD 0

def firstSeatForOpenedPhase (state : State) : Int :=
  if state.actingSeatNo ≠ 0 then state.actingSeatNo else firstActiveSeat state

def signalPhase (state : ActorState) (handID : String) (now : Int) : PhaseDefinition :=
  { id := phaseID handID .signal
    handID := handID
    type := .signal
    actingSeat := firstSeatForOpenedPhase state.table
    toCall := state.table.currentToCall
    deadlineAt := some (now + 30) }

def turnPhase (state : ActorState) (now : Int) : PhaseDefinition :=
  { id := nextTurnPhaseID state.handID state.table.currentPhase (state.stateSeq + 1)
    handID := state.handID
    type := state.table.currentPhase
    actingSeat := state.table.actingSeatNo
    toCall := state.table.currentToCall
    deadlineAt := some (now + 30) }

def committedState (state : ActorState) (next : State) : ActorState :=
  { state with table := next, stateSeq := state.stateSeq + 1 }

def phaseOpened (state : ActorState) (phase : PhaseDefinition) : ActorState :=
  { openedState state phase with stateSeq := state.stateSeq + 1 }

def dealHand (state : ActorState) (cmd : StartHand) (handID : String) (now : Int) : ActorState :=
  let started := committedState state (applyStartHand state.table cmd)
  phaseOpened started (signalPhase started handID now)

def reopened (state : ActorState) (now : Int) : ActorState :=
  if state.table.handClosed = false ∧ state.table.actingSeatNo ≠ 0 then phaseOpened state (turnPhase state now)
  else state

/-- The states of one hand, from its first phase on. -/
inductive DrivenHand (start : ActorState) : ActorState → Prop where
  | dealt : DrivenHand start start
  | command {state : ActorState} {next : State} {cmd : Command} {events : List Event} (run : DrivenHand start state)
    (sameHand : ∀ restart, cmd ≠ .startHand restart)
    (accepted : apply state.table cmd = .ok (next,events)) (now : Int) :
    DrivenHand start (reopened (committedState state next) now)

def timeoutTurn (state : ActorState) (now : Int) : ActorState :=
  if state.table.handClosed then state
  else match apply state.table (.applyPhaseTimeout ⟨state.table.actingSeatNo⟩) with
    | .ok (next,_) => reopened (committedState state next) now
    | .error _ => state

def timeoutTurns (times : List Int) (state : ActorState) : ActorState := times.foldl timeoutTurn state

/-- At least two seats are in and even, and the turn order has no way back to
the seat the phase started with. -/
def StuckTurn (state : State) : Prop :=
  2 ≤ ((actorSeatNos state).filter (matched state)).length ∧
    (state.phaseStartSeatNo ∉ actorSeatNos state ∨
      matched state state.phaseStartSeatNo = false ∧
        (state.currentPhase ≠ .wager ∨ state.actingSeatNo = state.phaseStartSeatNo))

structure InHand (state : State) : Prop where
  unclosed : state.handClosed = false
  known : state.currentPhase.known = true
  live : Live state
  numbered : SeatsNumbered state
  started : state.phaseStartSeatNo ≠ 0
  startable : state.currentPhase ≠ .wager → state.phaseStartSeatNo ∈ actorSeatNos state

section Close
variable {state : State}
variable {after : State}

theorem InHand.wagering (inHand : InHand state) (wager : state.currentPhase = .wager) :
    Wagering (matched state) state.phaseStartSeatNo (allInContenders state) (turnQueue state) state :=
  ⟨inHand.unclosed,wager,inHand.live,inHand.numbered,rfl,inHand.started,rfl,rfl,rfl⟩

theorem InHand.waiting (inHand : InHand state) (early : state.currentPhase ≠ .wager) :
    Waiting state.currentPhase (turnQueue state) state :=
  ⟨inHand.unclosed,rfl,inHand.live,inHand.numbered,inHand.startable early,rfl⟩

def Enough (state : State) (laps steps : Nat) : Prop :=
  laps * remainingActors state < steps ∨ allInContenders state = 0 ∧ laps * remainingActors state ≤ steps

theorem stuck_queue_iff (live : Live state) :
    Stuck (matched state) state.phaseStartSeatNo (turnQueue state) ↔
      2 ≤ ((actorSeatNos state).filter (matched state)).length ∧
        (state.phaseStartSeatNo ∉ actorSeatNos state ∨
          state.actingSeatNo = state.phaseStartSeatNo ∧ matched state state.phaseStartSeatNo = false) := by
  unfold Stuck
  rw [((turnQueue_perm live).filter _).length_eq,mem_turnQueue live,turnQueue,List.head?_cons,Option.some.injEq]

theorem wager_closesWithin_iff (inHand : InHand state) (wager : state.currentPhase = .wager) (steps : Nat)
    (enough : Enough state 1 steps) : ClosesWithin state steps ↔ ¬ StuckTurn state := by
  have live := inHand.live
  have count : (turnQueue state).length = remainingActors state := (turnQueue_perm live).length_eq
  rw [(inHand.wagering wager).closesWithin_iff steps,
    halts_within_iff (matched state) (turnQueue_nodup live) (List.cons_ne_nil _ _) steps
      (by unfold Enough at enough; omega),stuck_queue_iff live]
  unfold StuckTurn
  simp only [wager,ne_eq,not_true_eq_false,false_or]
  rw [and_comm (a := state.actingSeatNo = state.phaseStartSeatNo)]

theorem Same.remaining {before : State} (same : Same before after) :
    remainingActors after = remainingActors before := by
  unfold remainingActors
  rw [same.actors]

theorem InHand.advanced (inHand : InHand state) (early : state.currentPhase ≠ .wager) (same : Same state after)
    (known : after.currentPhase.known = true) (acting : after.actingSeatNo = state.phaseStartSeatNo) : InHand after where
  unclosed := same.handClosed.trans inHand.unclosed
  known := known
  live := by
    unfold Live
    rw [acting,same.actors]
    exact inHand.startable early
  numbered := by
    unfold SeatsNumbered
    rw [same.keys]
    exact inHand.numbered
  started := by
    rw [same.startSeat]
    exact inHand.started
  startable := fun _ => by
    rw [same.startSeat,same.actors]
    exact inHand.startable early

theorem stuckTurn_advanced (inHand : InHand state) (early : state.currentPhase ≠ .wager) (same : Same state after)
    (acting : after.actingSeatNo = state.phaseStartSeatNo) :
    StuckTurn after ↔ StuckTurn state := by
  have startable := inHand.startable early
  have again : after.actingSeatNo = after.phaseStartSeatNo := acting.trans same.startSeat.symm
  unfold StuckTurn
  rw [same.actors,same.bets,same.startSeat] at *
  simp only [startable,not_true_eq_false,false_or,early,ne_eq,not_false_eq_true,true_or,and_true,again,or_true]

theorem quiet_closesWithin_iff {following : Phase} (inHand : InHand state)
    (order : state.currentPhase = .signal ∧ following = .probe ∨ state.currentPhase = .probe ∧ following = .wager)
    (laps steps : Nat) (enough : Enough state (laps + 1) steps)
    (rest : ∀ after, InHand after → after.currentPhase = following →
      ∀ steps, Enough after laps steps → (ClosesWithin after steps ↔ ¬ StuckTurn after)) :
    ClosesWithin state steps ↔ ¬ StuckTurn state := by
  have early : state.currentPhase ≠ .wager := by
    rcases order with ⟨phase,_⟩ | ⟨phase,_⟩ <;> rw [phase] <;> decide
  obtain ⟨i,bounded,same,phase,acting⟩ := (inHand.waiting early).next_phase order
  have known : (timedOut^[i] state).currentPhase.known = true := by
    rw [phase]
    rcases order with ⟨_,rfl⟩ | ⟨_,rfl⟩ <;> rfl
  have unclosed := same.handClosed.trans inHand.unclosed
  have spent : (laps + 1) * remainingActors state = laps * remainingActors state + remainingActors state :=
    Nat.succ_mul _ _
  have left : Enough (timedOut^[i] state) laps (steps - i) := by
    unfold Enough at enough ⊢
    rw [same.remaining,same.allIn]
    omega
  have within : i ≤ steps := by
    unfold Enough at enough
    omega
  rw [closesWithin_later i unclosed steps within,
    rest _ (inHand.advanced early same known acting) phase _ left,stuckTurn_advanced inHand early same acting]

theorem closesWithin_iff (inHand : InHand state) (steps : Nat) (enough : Enough state 3 steps) :
    ClosesWithin state steps ↔ ¬ StuckTurn state := by
  have fewer (laps : Nat) (small : laps ≤ 3) : Enough state laps steps := by
    have less := Nat.mul_le_mul_right (remainingActors state) small
    unfold Enough at enough ⊢
    omega
  have probes (after : State) (inside : InHand after) (phase : after.currentPhase = .probe) (bound : Nat)
      (covers : Enough after 2 bound) : ClosesWithin after bound ↔ ¬ StuckTurn after :=
    quiet_closesWithin_iff inside (.inr ⟨phase,rfl⟩) 1 bound covers
      fun later inside phase bound covers => wager_closesWithin_iff inside phase bound covers
  cases phase : state.currentPhase with
  | signal => exact quiet_closesWithin_iff inHand (.inl ⟨phase,rfl⟩) 2 steps enough probes
  | probe => exact probes state inHand phase steps (fewer 2 (by omega))
  | wager => exact wager_closesWithin_iff inHand phase steps (fewer 1 (by omega))
  | other name =>
    have known := inHand.known
    rw [phase] at known
    contradiction

theorem remainingContenders_le_size (state : State) : remainingContenders state ≤ state.seats.size := by
  rw [← OrdMap.length_keys]
  exact (OrdMap.keysWhere_sublist _ _).length_le

theorem enough_laps (state : State) : Enough state 3 (3 * state.seats.size) := by
  have bounded := remainingContenders_le_size state
  have split := contenders_split state
  unfold Enough
  omega

end Close

theorem reopened_table (state : ActorState) (now : Int) (started : state.table.phaseStartSeatNo ≠ 0) :
    (reopened state now).table = state.table := by
  unfold reopened
  split_ifs with running
  · have kept : phaseStartFor state (turnPhase state now) = state.table.phaseStartSeatNo := if_pos ⟨rfl,rfl,started⟩
    change { state.table with
      phaseStartSeatNo := phaseStartFor state (turnPhase state now), handClosed := false } = state.table
    rw [kept,← running.1]
  · rfl

theorem reopened_closed (state : ActorState) (now : Int) (closed : state.table.handClosed = true) :
    (reopened state now).table = state.table := by
  unfold reopened
  rw [if_neg (by simp [closed])]

theorem dealHand_inHand (start : ActorState) (cmd : StartHand) (handID : String) (now : Int)
    (numbered : SeatsNumbered start.table) (able : actorSeatNos (postForcedBets start.table cmd) ≠ []) :
    InHand (dealHand start cmd handID now).table := by
  obtain ⟨_,_,unstarted⟩ := applyStartHand_frame start.table cmd
  have live := (applyStartHand_live_iff start.table cmd).mpr able
  have keys : (applyStartHand start.table cmd).seats.keys = start.table.seats.keys := by
    rw [applyStartHand_seats]
    exact (postForcedBets_posted start.table cmd).keys.trans (keys_resetHand start.table)
  have stillNumbered : SeatsNumbered (applyStartHand start.table cmd) := by
    unfold SeatsNumbered
    rwa [keys]
  have positive := stillNumbered _ (live_seated live)
  have first : firstSeatForOpenedPhase (applyStartHand start.table cmd) =
      (applyStartHand start.table cmd).actingSeatNo := if_pos (by omega)
  have startSeat : (dealHand start cmd handID now).table.phaseStartSeatNo =
      (applyStartHand start.table cmd).actingSeatNo := by
    rw [← first]
    refine if_neg fun kept => kept.2.2 ?_
    exact unstarted
  have acting : (dealHand start cmd handID now).table.actingSeatNo =
      (applyStartHand start.table cmd).actingSeatNo := first
  refine ⟨rfl,rfl,?_,stillNumbered,?_,fun _ => ?_⟩
  · unfold Live
    rw [acting]
    exact live
  · rw [startSeat]
    omega
  · rw [startSeat]
    exact live

theorem InHand.turn {state after : State} {seat next : Seat} {chips : Int} (inHand : InHand state)
    (turn : Turn state after seat next chips) (events : List Event) :
    let result := (advanceAfterTurn state (passed after state.actingSeatNo) events).1
    result.handClosed = true ∨ InHand result := by
  have alive := turn_live turn inHand.known inHand.live events
  have known := (advance_frame turn events).1 inHand.known
  have numbered := turn.numbered inHand.numbered
  have unclosed := turn.handClosed.trans inHand.unclosed
  dsimp only at alive known ⊢
  rcases alive with closed | live
  · exact .inl closed
  rcases advance_cases state (passed after state.actingSeatNo) events with
    ⟨_,closes⟩ | ⟨_,_,stays⟩ | ⟨unknown,_⟩ | ⟨opening,early,_,opens⟩
  · rw [closes]
    exact .inl (applyCloseHand_frame _).1
  · rw [stays] at live known ⊢
    refine .inr ⟨unclosed,known,live,numbered,?_,fun notWager => ?_⟩
    · change after.phaseStartSeatNo ≠ 0
      rw [turn.phaseStartSeatNo]
      exact inHand.started
    · change after.currentPhase ≠ .wager at notWager
      change after.phaseStartSeatNo ∈ actorSeatNos after
      rw [turn.currentPhase] at notWager
      have quiet : state.currentPhase = .signal ∨ state.currentPhase = .probe := by
        have held := inHand.known
        cases phase : state.currentPhase <;> simp_all [Phase.known]
      rw [turn.phaseStartSeatNo,turn.actors_quiet quiet]
      exact inHand.startable notWager
  · change after.currentPhase.known = false at unknown
    rw [turn.currentPhase,inHand.known] at unknown
    contradiction
  · rw [opens] at live known ⊢
    have seated : (openNextPhase state (passed after state.actingSeatNo) opening).actingSeatNo ∈ after.seats.keys :=
      live_seated live
    have positive := numbered _ seated
    refine .inr ⟨unclosed,known,live,numbered,?_,fun _ => live⟩
    change (openNextPhase state (passed after state.actingSeatNo) opening).actingSeatNo ≠ 0
    omega

variable {state : ActorState}

theorem DrivenHand.inHand {start : ActorState} (dealt : InHand start.table) (run : DrivenHand start state) :
    state.table.handClosed = true ∨ InHand state.table := by
  induction run with
  | dealt => exact .inr dealt
  | @command state next cmd events run sameHand accepted now ih =>
    have moved : next.handClosed = true ∨ InHand next := by
      rcases apply_cases accepted with ⟨restart,rfl,_⟩ | ⟨rfl,rfl⟩ | ⟨after,seat,held,chips,event,turn,rfl⟩
      · exact absurd rfl (sameHand restart)
      · exact .inl (applyCloseHand_frame _).1
      · rcases ih with closed | inHand
        · exact .inl ((advance_frame turn [event]).2 closed)
        · exact inHand.turn turn [event]
    rcases moved with closed | inHand
    · rw [reopened_closed (committedState state next) now closed]
      exact .inl closed
    · rw [reopened_table (committedState state next) now inHand.started]
      exact .inr inHand

theorem timedOut_inHand {state : State} (inHand : InHand state) :
    (timedOut state).handClosed = true ∨ InHand (timedOut state) := by
  obtain ⟨seat,found,able⟩ := mem_actorSeatNos.mp inHand.live
  obtain ⟨events,result⟩ := timedOut_eq inHand.unclosed inHand.live found
  obtain ⟨next,turn⟩ := takeTimeout_turn state seat found (canAct_present able).1
  rw [result]
  exact inHand.turn turn events

theorem timeoutTurn_table (inside : state.table.handClosed = true ∨ InHand state.table) (now : Int)
    : (timeoutTurn state now).table = timedOut state.table := by
  rcases inside with closed | inHand
  · rw [timedOut_closed closed,timeoutTurn,if_pos closed]
  · obtain ⟨_,result,_,_,accepted,_⟩ := live_timeout inHand.live
    have moved : timedOut state.table = result.1 := by
      unfold timedOut applied
      rw [inHand.unclosed,accepted]
      rfl
    have turned : (timeoutTurn state now).table = (reopened (committedState state result.1) now).table := by
      unfold timeoutTurn
      rw [inHand.unclosed,accepted]
      rfl
    rw [turned,moved]
    rcases timedOut_inHand inHand with closed | after
    · rw [moved] at closed
      exact reopened_closed (committedState state result.1) now closed
    · rw [moved] at after
      exact reopened_table (committedState state result.1) now after.started

theorem timeoutTurns_table (times : List Int) (inside : state.table.handClosed = true ∨ InHand state.table) :
    (timeoutTurns times state).table = timedOut^[times.length] state.table := by
  induction times generalizing state with
  | nil => rfl
  | cons now rest ih =>
    have step := timeoutTurn_table inside now
    have next : (timeoutTurn state now).table.handClosed = true ∨ InHand (timeoutTurn state now).table := by
      rw [step]
      rcases inside with closed | inHand
      · rw [timedOut_closed closed]
        exact .inl closed
      · exact timedOut_inHand inHand
    have tail := ih next
    rw [step] at tail
    exact tail

theorem closesWithin_iff_closed (state : State) (steps : Nat) :
    ClosesWithin state steps ↔ (timedOut^[steps] state).handClosed = true := by
  constructor
  · rintro ⟨j,bounded,closed⟩
    obtain ⟨more,rfl⟩ := Nat.exists_eq_add_of_le bounded
    rw [Nat.add_comm,Function.iterate_add_apply,iterate_closed closed]
    exact closed
  · exact fun closed => ⟨steps,le_refl _,closed⟩

/-- A driven hand closes within three timeouts per seat unless its turn order is
stuck: two seats in and even, and the seat the phase started with gone from the
order or about to be folded. -/
theorem driven_hand_closes_iff {start state : ActorState} {cmd : StartHand} {handID : String} {dealtAt : Int}
    (numbered : SeatsNumbered start.table) (able : 2 ≤ remainingActors (postForcedBets start.table cmd))
    (run : DrivenHand (dealHand start cmd handID dealtAt) state) (unclosed : state.table.handClosed = false)
    (times : List Int) (count : times.length = 3 * state.table.seats.size) :
    (timeoutTurns times state).table.handClosed = true ↔ ¬ StuckTurn state.table := by
  have somebody : actorSeatNos (postForcedBets start.table cmd) ≠ [] := List.length_pos_iff.mp (by
    change 0 < remainingActors _
    omega)
  have inside := run.inHand (dealHand_inHand start cmd handID dealtAt numbered somebody)
  have inHand : InHand state.table := inside.resolve_left (by simp [unclosed])
  rw [timeoutTurns_table times inside,count,← closesWithin_iff_closed]
  exact closesWithin_iff inHand _ (enough_laps state.table)

def threeHanded : ActorState :=
  dealHand { table := tableOf .signal [(1,100),(2,100),(3,100)] } ⟨5,10,0,20⟩ "hand:1" 0

theorem driven_hand_closes_from_the_deal :
    2 ≤ remainingActors (postForcedBets (tableOf .signal [(1,100),(2,100),(3,100)]) ⟨5,10,0,20⟩) ∧
      threeHanded.table.handClosed = false ∧
      ((timeoutTurns (List.replicate 9 0) threeHanded).table.handClosed = true ↔ ¬ StuckTurn threeHanded.table) :=
  ⟨by decide,by decide,driven_hand_closes_iff (by unfold SeatsNumbered; decide) (by decide) .dealt (by decide) _ (by decide)⟩

def playCommands (now : Int) : List Command → ActorState → Option ActorState
  | [],state => some state
  | cmd :: rest,state =>
    match cmd,apply state.table cmd with
    | .startHand _,_ => none
    | _,.error _ => none
    | _,.ok (next,_) => playCommands now rest (reopened (committedState state next) now)

theorem playCommands_driven (now : Int) (cmds : List Command) {start final : ActorState} (run : DrivenHand start state)
    (played : playCommands now cmds state = some final) : DrivenHand start final := by
  induction cmds generalizing state with
  | nil =>
    cases played
    exact run
  | cons cmd rest ih =>
    cases accepted : apply state.table cmd with
    | error e =>
      unfold playCommands at played
      rw [accepted] at played
      split at played <;> simp_all
    | ok result =>
      obtain ⟨next,events⟩ := result
      by_cases restart : ∃ start, cmd = .startHand start
      · obtain ⟨start,rfl⟩ := restart
        simp [playCommands] at played
      · push Not at restart
        refine ih (run.command restart accepted now) ?_
        unfold playCommands at played
        rw [accepted] at played
        split at played <;> simp_all

def evenAfterFold : List Command :=
  [3,1,2].map (fun seatNo => .submitArenaAction ⟨seatNo,.signalNone,0⟩) ++
    [3,1,2].map (fun seatNo => .submitArenaAction ⟨seatNo,.passProbe,0⟩) ++
    [.submitArenaAction ⟨3,.fold,0⟩,.submitArenaAction ⟨1,.call,0⟩,.submitArenaAction ⟨2,.check,0⟩]

theorem driven_hand_stays_open :
    2 ≤ remainingActors (postForcedBets (tableOf .signal [(1,100),(2,100),(3,100)]) ⟨5,10,0,20⟩) ∧
    ∃ state, DrivenHand threeHanded state ∧ state.table.handClosed = false ∧ state.table.seats.size = 3 ∧
      (timeoutTurns (List.replicate 9 0) state).table.handClosed = false := by
  have played : (playCommands 0 evenAfterFold threeHanded).isSome = true := by decide
  obtain ⟨state,final⟩ := Option.isSome_iff_exists.mp played
  have open9 : ((playCommands 0 evenAfterFold threeHanded).map fun state =>
      (state.table.handClosed,state.table.seats.size,
        (timeoutTurns (List.replicate 9 0) state).table.handClosed)) = some (false,3,false) := by decide
  rw [final,Option.map_some,Option.some.injEq,Prod.mk.injEq,Prod.mk.injEq] at open9
  exact ⟨by decide,state,playCommands_driven 0 evenAfterFold .dealt final,open9⟩

end Clawchain.Arena.Table
