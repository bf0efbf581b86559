import Clawchain.Arena.Table.Marks
import Clawchain.Arena.Table.Queue
import Clawchain.Lib.Runs

/-! Seats without chips. A seat that bet its last chip is marked all-in and left
alone for the rest of the hand, except by a call for exactly its stack: the
call leaves the mark out, and the turn comes back to a seat with nothing to bet. -/
namespace Clawchain.Arena.Table
open Clawchain.Lib Clawchain.Lib.Rotation

structure Spent (seat : Seat) : Prop where
  present : seat.state ≠ .eliminated
  folded : seat.folded = false
  committed : 0 < seat.committedThisHand
  stack : seat.stack = 0

def AllInMarked (state : State) : Prop := state.seats.All fun _ seat => Spent seat → seat.allInThisHand = true

/-- A call for the seat's last chip, after which the turn passes on in the same phase. -/
def LastChipCall (state : State) (cmd : Command) : Prop :=
  ∃ action seat, cmd = .submitArenaAction action ∧ action.actionType = .call ∧ action.seatNo = state.actingSeatNo ∧
    state.currentPhase = .wager ∧ state.seats.get? state.actingSeatNo = some seat ∧ 0 < seat.stack ∧
    chipsToCall state seat = seat.stack ∧ nextActiveSeat state state.actingSeatNo ≠ state.actingSeatNo ∧
    nextActiveSeat state state.actingSeatNo ≠ state.phaseStartSeatNo

variable {state : State} {seat : Seat}

theorem spent_unable (able : canAct seat = true) (marked : Spent seat → seat.allInThisHand = true) :
    ¬ Spent seat := by
  intro spent
  have flagged := (canAct_present able).2.2
  rw [marked spent] at flagged
  contradiction

theorem takenSeat_spent {cmd : SubmitArenaAction} (valid : validateAction state seat cmd = .ok ())
    (before : ¬ Spent seat) (present : seat.state ≠ .eliminated) (spent : Spent (takenSeat state seat cmd)) :
    (takenSeat state seat cmd).allInThisHand = true ∨
      cmd.actionType = .call ∧ state.currentPhase = .wager ∧ 0 < seat.stack ∧ chipsToCall state seat = seat.stack := by
  obtain ⟨_,folded,committed,stack⟩ := spent
  unfold validateAction at valid
  unfold takenSeat at folded committed stack ⊢
  cases phase : state.currentPhase with
  | signal =>
    simp only [phase,illegal] at valid
    split_ifs at valid with other
    rw [not_not.mp other] at folded committed stack
    exact absurd ⟨present,folded,committed,stack⟩ before
  | probe =>
    simp only [phase,illegal] at valid
    split_ifs at valid with other
    rw [not_not.mp other] at folded committed stack
    exact absurd ⟨present,folded,committed,stack⟩ before
  | other name => simp [phase,illegal] at valid
  | wager =>
    simp only [phase,validateWager] at valid
    cases kind : cmd.actionType with
    | check =>
      rw [kind] at folded committed stack
      exact absurd ⟨present,folded,committed,stack⟩ before
    | fold =>
      rw [kind] at folded
      cases folded
    | call =>
      simp only [kind,illegal] at valid stack
      split_ifs at valid with bad
      push Not at bad
      change seat.stack - chipsToCall state seat = 0 at stack
      exact .inr ⟨rfl,rfl,by omega,by omega⟩
    | raise =>
      simp only [kind,illegal] at valid stack
      split_ifs at valid with low small flat deep
      omega
    | allIn => exact .inl rfl
    | _ => simp [kind,illegal] at valid

theorem timedOutSeat_turn (found : state.seats.get? state.actingSeatNo = some seat) (present : seat.state ≠ .eliminated) :
    Turn state (takeTimeout state seat state.actingSeatNo) seat (timedOutSeat state seat) 0 := by
  obtain ⟨next,turn⟩ := takeTimeout_turn state seat found present
  have both := turn.seats.symm.trans (congrArg State.seats (takeTimeout_eq state seat state.actingSeatNo))
  have here := congrArg (OrdMap.get? · state.actingSeatNo) both
  have record : next = timedOutSeat state seat := by simpa [OrdMap.get?_insert_self] using here
  exact record ▸ turn

theorem nextActiveSeat_insert {before after : State} {next : Seat} (live : Live before)
    (seats : after.seats = before.seats.insert before.actingSeatNo next) :
    nextActiveSeat after before.actingSeatNo = nextActiveSeat before before.actingSeatNo := by
  have seated := live_seated live
  have keys := keys_turn live seats
  rw [nextActiveSeat_eq after _ (by rwa [keys]),nextActiveSeat_eq before _ seated,keys]
  have same := congrArg List.head? (filter_insert live seats)
  rw [List.head?_filter,List.head?_filter] at same
  rw [same]

section Call
variable {before after : State} {seat next : Seat} {chips : Int}

theorem call_ends (turn : Turn before after seat next chips) (live : Live before) (numbered : SeatsNumbered before)
    (wager : before.currentPhase = .wager) (even : chipsToCall after next = 0)
    (back : nextActiveSeat before before.actingSeatNo = before.actingSeatNo ∨
      nextActiveSeat before before.actingSeatNo = before.phaseStartSeatNo) (events : List Event) :
    (advanceAfterTurn before (passed after before.actingSeatNo) events).1.handClosed = true := by
  have onTurn := numbered _ (live_seated live)
  have target := nextActiveSeat_insert live turn.seats
  have phase : (passed after before.actingSeatNo).currentPhase = .wager := turn.currentPhase.trans wager
  have here : after.seats.get? before.actingSeatNo = some next := by rw [turn.seats,OrdMap.get?_insert_self]
  rw [advance_wager _ _ _ phase,if_pos]
  · exact (applyCloseHand_frame _).1
  · rw [Bool.or_eq_true]
    rcases back with alone | around
    · refine .inl ?_
      have past : noFurtherWagerActionsRequired before (passed after before.actingSeatNo) = true := by
        unfold noFurtherWagerActionsRequired passed
        simp only [target,alone]
        rw [if_neg (by simp; omega)]
        simp only [here]
        exact beq_iff_eq.mpr even
      simp [wagerOver,past]
    · refine .inr ?_
      have seated := nextActiveSeat_mem before _ (live_seated live) (List.ne_nil_of_mem live)
      have positive := numbered _ (actorSeatNos_subset before _ seated)
      rw [phaseCompleted_iff]
      · exact target.trans around
      · change nextActiveSeat after before.actingSeatNo ≠ 0
        rw [target]
        omega
      · omega

theorem call_goes_on (turn : Turn before after seat next chips) (live : Live before) (numbered : SeatsNumbered before)
    (wager : before.currentPhase = .wager) (contends : isContender next = true)
    (other : nextActiveSeat before before.actingSeatNo ≠ before.actingSeatNo)
    (early : nextActiveSeat before before.actingSeatNo ≠ before.phaseStartSeatNo) (events : List Event) :
    (advanceAfterTurn before (passed after before.actingSeatNo) events).1 = passed after before.actingSeatNo := by
  have target := nextActiveSeat_insert live turn.seats
  have phase : (passed after before.actingSeatNo).currentPhase = .wager := turn.currentPhase.trans wager
  have able := nextActiveSeat_mem before _ (live_seated live) (List.ne_nil_of_mem live)
  have positive := numbered _ (actorSeatNos_subset before _ able)
  obtain ⟨held,found,acts⟩ := mem_actorSeatNos.mp able
  have still : after.seats.get? (nextActiveSeat before before.actingSeatNo) = some held := by
    rw [turn.seats,OrdMap.get?_insert_of_ne _ _ other,found]
  have here : after.seats.get? before.actingSeatNo = some next := by rw [turn.seats,OrdMap.get?_insert_self]
  have actor : nextActiveSeat before before.actingSeatNo ∈ actorSeatNos after := mem_actorSeatNos.mpr ⟨held,still,acts⟩
  have both : [before.actingSeatNo,nextActiveSeat before before.actingSeatNo] ⊆ contenderSeatNos after := by
    intro seatNo member
    rcases List.mem_pair.mp member with rfl | rfl
    · exact mem_contenderSeatNos.mpr ⟨next,here,contends⟩
    · exact mem_contenderSeatNos.mpr ⟨held,still,canAct_contends acts⟩
  have distinct : [before.actingSeatNo,nextActiveSeat before before.actingSeatNo].Nodup := by simp [Ne.symm other]
  have two := (List.subperm_of_subset distinct both).length_le
  have somebody := List.length_pos_of_mem actor
  have running : wagerOver before (passed after before.actingSeatNo) = false := by
    have moves : noFurtherWagerActionsRequired before (passed after before.actingSeatNo) = false := by
      unfold noFurtherWagerActionsRequired
      exact if_pos (.inr (by change nextActiveSeat after before.actingSeatNo ≠ _; rw [target]; exact other))
    change 2 ≤ remainingContenders after at two
    change 0 < remainingActors after at somebody
    have contested : ¬ remainingContenders (passed after before.actingSeatNo) ≤ 1 := by
      change ¬ remainingContenders after ≤ 1
      omega
    have actors : remainingActors (passed after before.actingSeatNo) ≠ 0 := by
      change remainingActors after ≠ 0
      omega
    simp [wagerOver,moves,contested,actors]
  have pending : phaseCompleted before (passed after before.actingSeatNo) = false := by
    unfold phaseCompleted
    change (if nextActiveSeat after before.actingSeatNo = 0 then _ else _) = false
    rw [target,if_neg (by omega)]
    split_ifs
    · simpa [passed,target] using other
    · simpa [passed,target] using early
  rw [advance_wager _ _ _ phase,running,pending]
  rfl

end Call

structure Marked (state : State) : Prop where
  numbered : SeatsNumbered state
  known : state.currentPhase.known = true
  idle : ¬ handOpen state → state.actingSeatNo = 0
  onTurn : handOpen state → state.actingSeatNo = 0 ∨ Live state
  marked : handOpen state → AllInMarked state
  bets : handOpen state → CommittedNonneg state

theorem FreshTable.marked (fresh : FreshTable state) : Marked state := by
  have between : ¬ handOpen state := fun opened => by
    have positive := opened.1
    have zero := fresh.handNumber
    omega
  exact ⟨fresh.numbered,fresh.phase,fun _ => fresh.actingSeatNo,fun opened => absurd opened between,
    fun opened => absurd opened between,fun opened => absurd opened between⟩

theorem applyStartHand_keys (state : State) (cmd : StartHand) :
    (applyStartHand state cmd).seats.keys = state.seats.keys := by
  rw [applyStartHand_seats,(postForcedBets_forces state cmd).keys,keys_resetHand]

theorem applyStartHand_number (state : State) (cmd : StartHand) :
    (applyStartHand state cmd).handNumber = state.handNumber + 1 := by
  have posted : (postForcedBets state cmd).handNumber = state.handNumber + 1 :=
    (postForcedBets_posted state cmd).handNumber
  unfold applyStartHand
  dsimp only
  split_ifs
  · rfl
  · exact posted

theorem firstEligibleSeatFrom_none {start : Int} (able : actorSeatNos state = []) :
    firstEligibleSeatFrom state start = 0 := by
  simp [firstEligibleSeatFrom,able]

theorem applyStartHand_onTurn (state : State) (cmd : StartHand) :
    (applyStartHand state cmd).actingSeatNo = 0 ∨ Live (applyStartHand state cmd) := by
  by_cases able : actorSeatNos (postForcedBets state cmd) = []
  · left
    unfold applyStartHand
    dsimp only
    split_ifs
    · rfl
    · exact firstEligibleSeatFrom_none able
  · exact .inr ((applyStartHand_live_iff state cmd).mpr able)

theorem applyStartHand_marked (state : State) (cmd : StartHand) : AllInMarked (applyStartHand state cmd) := by
  intro seatNo seat found spent
  obtain ⟨before,was,same,_⟩ := applyStartHand_found cmd found
  have present : before.state ≠ .eliminated := by
    have kept := congrArg Seat.state same
    change seat.state = before.state at kept
    rw [← kept]
    exact spent.present
  obtain ⟨held,heldFound,asked⟩ := postForcedBets_asked state cmd was present
  rw [applyStartHand_seats,heldFound,Option.some.injEq] at found
  subst found
  have committed := spent.committed
  have stack := spent.stack
  rw [asked.committed] at committed
  rw [asked.behind] at stack
  rw [asked.allIn,decide_eq_true_eq]
  split_ifs at committed stack
  · omega
  · omega

section Step
variable {state : State}

theorem Marked.turn_live (marked : Marked state) {seat : Seat}
    (found : state.seats.get? state.actingSeatNo = some seat) : handOpen state ∧ Live state := by
  have positive := marked.numbered _ (OrdMap.mem_keys_iff.mpr ⟨seat,found⟩)
  have opened : handOpen state := by
    by_contra between
    have nobody := marked.idle between
    omega
  exact ⟨opened,(marked.onTurn opened).resolve_left (by omega)⟩

theorem Marked.turn (marked : Marked state) {after : State} {seat next : Seat} {chips : Int}
    (turn : Turn state after seat next chips) (events : List Event)
    (own : (advanceAfterTurn state (passed after state.actingSeatNo) events).1.handClosed = true ∨
      (Spent next → next.allInThisHand = true)) :
    Marked (advanceAfterTurn state (passed after state.actingSeatNo) events).1 := by
  obtain ⟨opened,live⟩ := marked.turn_live turn.found
  have alive := Table.turn_live turn marked.known live events
  have known := (advance_frame turn events).1 marked.known
  have ends := advance_ends state (passed after state.actingSeatNo) events
  dsimp only at alive known
  have numbered : SeatsNumbered (advanceAfterTurn state (passed after state.actingSeatNo) events).1 := by
    unfold SeatsNumbered
    rcases ends with closes | ⟨seats,_,_⟩
    · obtain ⟨paid,ended⟩ := applyCloseHand_end (passed after state.actingSeatNo)
      rw [closes,ended.keys]
      exact turn.numbered marked.numbered
    · rw [seats]
      exact turn.numbered marked.numbered
  refine ⟨numbered,known,fun between => ?_,fun still => ?_,fun still => ?_,fun still => ?_⟩
  · rcases ends with closes | ⟨_,closed,number⟩
    · obtain ⟨paid,ended⟩ := applyCloseHand_end (passed after state.actingSeatNo)
      rw [closes]
      exact ended.actingSeatNo
    · exfalso
      apply between
      unfold handOpen
      rw [closed,number]
      change 0 < after.handNumber ∧ after.handClosed = false
      rw [turn.handNumber,turn.handClosed]
      exact opened
  · refine .inr (alive.resolve_left ?_)
    simp [still.2]
  · rcases ends with closes | ⟨seats,_,_⟩
    · rw [closes] at still
      have closed := (applyCloseHand_frame (passed after state.actingSeatNo)).1
      rw [still.2] at closed
      contradiction
    · unfold AllInMarked
      rw [seats]
      change after.seats.All _
      rw [turn.seats]
      exact OrdMap.All.insert (marked.marked opened) (own.resolve_left (by simp [still.2]))
  · rcases ends with closes | ⟨seats,_,_⟩
    · rw [closes] at still
      have closed := (applyCloseHand_frame (passed after state.actingSeatNo)).1
      rw [still.2] at closed
      contradiction
    · unfold CommittedNonneg
      rw [seats]
      change after.seats.All _
      have before := marked.bets opened _ _ turn.found
      have bet := turn.committed
      have nonneg := turn.nonneg
      rw [turn.seats]
      exact OrdMap.All.insert (marked.bets opened) (by omega)

theorem Marked.closeHand (marked : Marked state) : Marked (applyCloseHand state).1 := by
  obtain ⟨paid,ended⟩ := applyCloseHand_end state
  have between : ¬ handOpen (applyCloseHand state).1 := by simp [handOpen,ended.handClosed]
  refine ⟨?_,?_,fun _ => ended.actingSeatNo,fun opened => absurd opened between,fun opened => absurd opened between,
    fun opened => absurd opened between⟩
  · unfold SeatsNumbered
    rw [ended.keys]
    exact marked.numbered
  · rw [(applyCloseHand_frame state).2]
    exact marked.known

theorem Marked.startHand (marked : Marked state) (cmd : StartHand) : Marked (applyStartHand state cmd) := by
  obtain ⟨phase,unclosed,_⟩ := applyStartHand_frame state cmd
  refine ⟨?_,?_,fun between => absurd ⟨?_,unclosed⟩ between,fun _ => applyStartHand_onTurn state cmd,
    fun _ => applyStartHand_marked state cmd,fun _ => ?_⟩
  · unfold SeatsNumbered
    rw [applyStartHand_keys]
    exact marked.numbered
  · rw [phase]
    exact marked.known
  · have committed := (postForcedBets_posted state cmd).committed (committed_resetHand state)
    unfold CommittedNonneg
    rwa [applyStartHand_seats]
  · rw [applyStartHand_number]
    omega

theorem Marked.action (marked : Marked state) {cmd : SubmitArenaAction} {result : State} {events : List Event}
    (accepted : applyAction state cmd = .ok (result,events))
    (other : ¬ LastChipCall state (.submitArenaAction cmd)) : Marked result := by
  obtain ⟨own,seat,found,present,valid,event,rfl⟩ := applyAction_taken accepted
  obtain ⟨opened,live⟩ := marked.turn_live found
  obtain ⟨held,heldFound,able⟩ := mem_actorSeatNos.mp live
  rw [found,Option.some.injEq] at heldFound
  subst heldFound
  obtain ⟨chips,turn⟩ := takenSeat_turn own found present valid
  refine marked.turn turn [event] ?_
  by_cases spent : Spent (takenSeat state seat cmd)
  · rcases takenSeat_spent valid (spent_unable able (marked.marked opened _ _ found)) present spent with
      flagged | ⟨kind,wager,rich,whole⟩
    · exact .inr fun _ => flagged
    · left
      refine call_ends turn live marked.numbered wager ?_ ?_ [event]
      · rw [chipsToCall_eq]
        unfold takenSeat takeAction
        rw [kind]
        change max 0 (state.currentToCall - (seat.committedThisHand + chipsToCall state seat)) = 0
        have due := chipsToCall_eq state seat
        omega
      · by_contra passes
        push Not at passes
        exact other ⟨cmd,seat,rfl,kind,own,wager,found,rich,whole,passes⟩
  · exact .inr fun spends => absurd spends spent

theorem Marked.timeout (marked : Marked state) {cmd : ApplyPhaseTimeout} {result : State} {events : List Event}
    (accepted : applyTimeout state cmd = .ok (result,events)) : Marked result := by
  obtain ⟨own,seat,found,present,event,rfl⟩ := applyTimeout_taken accepted
  obtain ⟨opened,live⟩ := marked.turn_live found
  obtain ⟨held,heldFound,able⟩ := mem_actorSeatNos.mp live
  rw [found,Option.some.injEq] at heldFound
  subst heldFound
  refine marked.turn (timedOutSeat_turn found present) [event] (.inr fun spent => ?_)
  exfalso
  apply spent_unable able (marked.marked opened _ _ found)
  obtain ⟨_,folded,committed,stack⟩ := spent
  unfold timedOutSeat at folded committed stack
  split_ifs at folded committed stack
  exact ⟨present,folded,committed,stack⟩

theorem Marked.step (marked : Marked state) (cmd : Command) (other : ¬ LastChipCall state cmd) :
    Marked (applied state cmd) := by
  unfold applied
  cases outcome : apply state cmd with
  | error e => exact marked
  | ok result =>
    obtain ⟨result,events⟩ := result
    cases cmd with
    | startHand deal =>
      cases outcome
      exact marked.startHand deal
    | submitArenaAction action => exact marked.action outcome other
    | applyPhaseTimeout timeout => exact marked.timeout outcome
    | closeHand =>
      have same : result = (applyCloseHand state).1 := by
        simp only [apply,Except.ok.injEq] at outcome
        rw [outcome]
      rw [same]
      exact marked.closeHand
    | unknown => cases outcome

end Step

def Spared (state : State) : Move → Prop
  | .command cmd => ¬ LastChipCall state cmd
  | .openPhase phase actingSeatNo _ _ =>
    phase.known = true ∧ actingSeatNo = state.actingSeatNo ∧ handOpen state

def SameHand (state : State) (move : Move) : Prop :=
  Spared state move ∧ ∀ deal, move ≠ .command (.startHand deal)

theorem Marked.moved (marked : Marked state) {move : Move} (spared : Spared state move) :
    Marked (moved state move) := by
  cases move with
  | command cmd => exact marked.step cmd spared
  | openPhase phase acting start toCall =>
    obtain ⟨known,rfl,opened⟩ := spared
    exact ⟨marked.numbered,known,fun between => absurd ⟨opened.1,rfl⟩ between,fun _ => marked.onTurn opened,
      fun _ => marked.marked opened,fun _ => marked.bets opened⟩

/-- A seat that bet its last chip, in the states of the hand after that: still in,
and untouched as long as the hand is open. -/
structure Benched (seatNo : Int) (seat : Seat) (later : State) : Prop where
  marked : Marked later
  held : ∃ held, later.seats.get? seatNo = some held ∧ held.folded = false
  same : handOpen later → later.seats.get? seatNo = some seat

section Benched
variable {seatNo : Int} {seat : Seat} {later : State}

theorem Benched.waits (benched : Benched seatNo seat later) (spent : Spent seat) : later.actingSeatNo ≠ seatNo := by
  obtain ⟨held,found,_⟩ := benched.held
  have positive := benched.marked.numbered _ (OrdMap.mem_keys_iff.mpr ⟨held,found⟩)
  by_cases opened : handOpen later
  · have here := benched.same opened
    rcases benched.marked.onTurn opened with nobody | live
    · omega
    · rintro rfl
      obtain ⟨other,otherFound,able⟩ := mem_actorSeatNos.mp live
      rw [here,Option.some.injEq] at otherFound
      subst otherFound
      exact spent_unable able (benched.marked.marked opened _ _ here) spent
  · have nobody := benched.marked.idle opened
    omega

theorem closeSeat_folded (seat : Seat) : (closeSeat seat).folded = seat.folded := by
  unfold closeSeat
  split_ifs <;> rfl

theorem HandEnd.folded {before after : State} {paid : OrdMap Int Seat} (ended : HandEnd before after paid)
    {held : Seat} (found : before.seats.get? seatNo = some held) (folded : held.folded = false) :
    ∃ closed, after.seats.get? seatNo = some closed ∧ closed.folded = false := by
  obtain ⟨rich,_,same,closed⟩ := ended.closed found
  have kept := congrArg Seat.folded same
  change rich.folded = held.folded at kept
  exact ⟨closeSeat rich,closed,by rw [closeSeat_folded,kept,folded]⟩

theorem Benched.turn (benched : Benched seatNo seat later) (spent : Spent seat) {after : State} {own next : Seat}
    {chips : Int} (turn : Turn later after own next chips) (events : List Event)
    (marked : Marked (advanceAfterTurn later (passed after later.actingSeatNo) events).1) :
    Benched seatNo seat (advanceAfterTurn later (passed after later.actingSeatNo) events).1 := by
  have waits := benched.waits spent
  obtain ⟨opened,_⟩ := benched.marked.turn_live turn.found
  have untouched : after.seats.get? seatNo = later.seats.get? seatNo := by
    rw [turn.seats,OrdMap.get?_insert_of_ne _ _ (Ne.symm waits)]
  obtain ⟨held,found,folded⟩ := benched.held
  rcases advance_ends later (passed after later.actingSeatNo) events with closes | ⟨seats,_,_⟩
  · obtain ⟨paid,ended⟩ := applyCloseHand_end (passed after later.actingSeatNo)
    rw [← closes] at ended
    refine ⟨marked,ended.folded (untouched.trans found) folded,fun still => ?_⟩
    have closed := ended.handClosed
    rw [still.2] at closed
    contradiction
  · have same : (advanceAfterTurn later (passed after later.actingSeatNo) events).1.seats.get? seatNo =
        later.seats.get? seatNo := by
      rw [seats]
      exact untouched
    exact ⟨marked,⟨held,same.trans found,folded⟩,fun _ => same.trans (benched.same opened)⟩

theorem Benched.moved (benched : Benched seatNo seat later) (spent : Spent seat) {move : Move}
    (allowed : SameHand later move) : Benched seatNo seat (moved later move) := by
  obtain ⟨spared,sameHand⟩ := allowed
  have marked := benched.marked.moved spared
  cases move with
  | openPhase phase acting start toCall => exact ⟨marked,benched.held,fun _ => benched.same spared.2.2⟩
  | command cmd =>
    change Marked (applied later cmd) at marked
    change Benched seatNo seat (applied later cmd)
    unfold applied at marked ⊢
    cases outcome : apply later cmd with
    | error e => exact benched
    | ok result =>
      obtain ⟨result,events⟩ := result
      rw [outcome] at marked
      rcases apply_cases outcome with ⟨deal,rfl,_⟩ | ⟨rfl,rfl⟩ | ⟨after,own,next,chips,event,turn,rfl⟩
      · exact absurd rfl (sameHand deal)
      · obtain ⟨paid,ended⟩ := applyCloseHand_end later
        obtain ⟨held,found,folded⟩ := benched.held
        refine ⟨marked,ended.folded found folded,fun still => ?_⟩
        have closed := ended.handClosed
        rw [still.2] at closed
        contradiction
      · exact benched.turn spent turn [event] marked

end Benched

theorem lastChipCall_unmarked (marked : Marked state) {cmd : Command} (call : LastChipCall state cmd) :
    handOpen (applied state cmd) ∧ ¬ AllInMarked (applied state cmd) := by
  obtain ⟨action,seat,rfl,kind,own,wager,found,rich,whole,other,early⟩ := call
  obtain ⟨opened,live⟩ := marked.turn_live found
  obtain ⟨held,heldFound,able⟩ := mem_actorSeatNos.mp live
  rw [found,Option.some.injEq] at heldFound
  subst heldFound
  obtain ⟨present,folded,allIn⟩ := canAct_present able
  have valid : validateAction state seat action = .ok () := by
    simp only [validateAction,validateWager,wager,kind]
    rw [if_neg (by omega)]
  obtain ⟨chips,turn⟩ := takenSeat_turn own found present valid
  have same : (takeAction state seat action).seats.get? state.actingSeatNo = some (takenSeat state seat action) := by
    rw [takeAction_seats,own,OrdMap.get?_insert_self]
  have called : takenSeat state seat action = { seat with
      manualActionThisHand := true
      timedOutThisHand := false
      state := if seat.state = .sitOut then .active else seat.state
      stack := seat.stack - chipsToCall state seat
      committedThisHand := seat.committedThisHand + chipsToCall state seat } := by
    unfold takenSeat
    rw [kind]
    rfl
  have contends : isContender (takenSeat state seat action) = true := by
    have stays := turn.kept
    have kept : (takenSeat state seat action).folded = false := by rw [called]; exact folded
    simp [isContender,stays,kept]
  have acting : actingSeat state action.seatNo = .ok seat := by
    rw [own]
    exact actingSeat_of_found found present
  have result : applied state (.submitArenaAction action) =
      passed (takeAction state seat action) state.actingSeatNo := by
    have goes := call_goes_on turn live marked.numbered wager contends other early
      [{ type := .actionApplied, seatNo := action.seatNo, actionType := some action.actionType, amount := action.amount }]
    rw [← own] at goes ⊢
    unfold applied
    simp only [apply,applyAction,acting,valid,bind,Except.bind,pure,Except.pure]
    exact goes
  rw [result]
  constructor
  · unfold handOpen
    change 0 < (takeAction state seat action).handNumber ∧ (takeAction state seat action).handClosed = false
    rw [turn.handNumber,turn.handClosed]
    exact opened
  · intro all
    have mark := all state.actingSeatNo (takenSeat state seat action) same ⟨?_,?_,?_,?_⟩
    · rw [called] at mark
      change seat.allInThisHand = true at mark
      rw [allIn] at mark
      contradiction
    · exact turn.kept
    · rw [called]
      exact folded
    · have before := marked.bets opened _ _ found
      rw [called]
      change 0 < seat.committedThisHand + chipsToCall state seat
      omega
    · rw [called]
      change seat.stack - chipsToCall state seat = 0
      omega

/-- In a run without last-chip calls every seat that bet its last chip is marked
all-in, never gets the turn again in that hand, and is not folded; a last-chip
call breaks this at once. -/
theorem spent_seats_marked {start state : State} (fresh : FreshTable start) (run : Lib.Run moved Spared start state) :
    (handOpen state → ∀ seatNo seat, state.seats.get? seatNo = some seat → Spent seat →
      seat.allInThisHand = true ∧ ∀ later, Lib.Run moved SameHand state later →
        later.actingSeatNo ≠ seatNo ∧ ∃ held, later.seats.get? seatNo = some held ∧ held.folded = false) ∧
    ∀ cmd, LastChipCall state cmd → handOpen (applied state cmd) ∧ ¬ AllInMarked (applied state cmd) := by
  have marked : Marked state := run.invariant fresh.marked fun _ _ marked spared => marked.moved spared
  refine ⟨fun opened seatNo seat found spent => ⟨marked.marked opened seatNo seat found spent,fun later rest => ?_⟩,
    fun cmd call => lastChipCall_unmarked marked call⟩
  have benched : Benched seatNo seat later := rest.invariant
    ⟨marked,⟨seat,found,spent.folded⟩,fun _ => found⟩ fun _ _ benched allowed => benched.moved spent allowed
  exact ⟨benched.waits spent,benched.held⟩

instance (state : State) : Decidable (handOpen state) := inferInstanceAs (Decidable (_ ∧ _))

def shortTable : State := tableOf .wager [(1,100),(2,100),(3,10)]

def shortHand (cmds : List Command) : State := cmds.foldl applied (applied shortTable (.startHand ⟨5,10,0,20⟩))

theorem shortTable_fresh : FreshTable shortTable :=
  ⟨rfl,rfl,rfl,by unfold SeatsNumbered; decide,by unfold StacksNonneg; decide,rfl⟩

/-- The seat goes all-in instead of calling: it is marked. -/
theorem spent_seats_marked_all_in :
    (shortHand [.submitArenaAction ⟨3,.allIn,0⟩]).seats.get? 3 =
      some ((shortHand [.submitArenaAction ⟨3,.allIn,0⟩]).seat 3) ∧
    ((shortHand [.submitArenaAction ⟨3,.allIn,0⟩]).seat 3).allInThisHand = true := by
  have dealing : Spared shortTable (.command (.startHand ⟨5,10,0,20⟩)) := fun ⟨_,_,same,_⟩ => by cases same
  have betting : Spared (shortHand []) (.command (.submitArenaAction ⟨3,.allIn,0⟩)) :=
    fun ⟨_,_,same,kind,_⟩ => by cases same; cases kind
  have dealt : Lib.Run moved Spared shortTable (moved shortTable (.command (.startHand ⟨5,10,0,20⟩))) :=
    .step .start _ dealing
  have run : Lib.Run moved Spared shortTable (moved (shortHand []) (.command (.submitArenaAction ⟨3,.allIn,0⟩))) :=
    .step dealt _ betting
  have found : (shortHand [.submitArenaAction ⟨3,.allIn,0⟩]).seats.get? 3 =
      some ((shortHand [.submitArenaAction ⟨3,.allIn,0⟩]).seat 3) := by decide
  exact ⟨found,((spent_seats_marked shortTable_fresh run).1 (by decide) 3 _ found
    ⟨by decide,by decide,by decide,by decide⟩).1⟩

/-- A call of the last ten chips is not marked; after the next raise the seat is
on turn again, owes chips it does not have, and its timeout folds it. -/
theorem last_chip_call_folded :
    let called := shortHand [.submitArenaAction ⟨3,.call,0⟩]
    let raised := shortHand [.submitArenaAction ⟨3,.call,0⟩,.submitArenaAction ⟨1,.raise,40⟩,
      .submitArenaAction ⟨2,.call,0⟩]
    FreshTable shortTable ∧ handOpen called ∧ Spent (called.seat 3) ∧ (called.seat 3).allInThisHand = false ∧
      handOpen raised ∧ raised.actingSeatNo = 3 ∧ Spent (raised.seat 3) ∧
      ((applied raised (.applyPhaseTimeout ⟨3⟩)).seat 3).folded = true :=
  ⟨shortTable_fresh,by decide,⟨by decide,by decide,by decide,by decide⟩,by decide,by decide,by decide,
    ⟨by decide,by decide,by decide,by decide⟩,by decide⟩

end Clawchain.Arena.Table
