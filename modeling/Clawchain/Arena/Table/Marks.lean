import Clawchain.Arena.Table.SidePots
import Clawchain.Arena.Table.Live
import Clawchain.Arena.Table.Actor

/-! The record of one seat over a hand: what an accepted action, a timeout, the
forced bets and the close of the hand write to it, and what they leave alone. -/
namespace Clawchain.Arena.Table
open Clawchain.Lib

def takenSeat (state : State) (seat : Seat) (cmd : SubmitArenaAction) : Seat :=
  let seat := { seat with
    manualActionThisHand := true
    timedOutThisHand := false
    state := if seat.state = .sitOut then .active else seat.state }
  match cmd.actionType with
  | .fold => { seat with folded := true }
  | .call => { seat with
      stack := seat.stack - chipsToCall state seat
      committedThisHand := seat.committedThisHand + chipsToCall state seat }
  | .raise => { seat with
      stack := seat.stack - (cmd.amount - seat.committedThisHand), committedThisHand := cmd.amount }
  | .allIn => { seat with
      stack := 0, committedThisHand := seat.committedThisHand + seat.stack, allInThisHand := true }
  | _ => seat

theorem takeAction_seats (state : State) (seat : Seat) (cmd : SubmitArenaAction) :
    (takeAction state seat cmd).seats = state.seats.insert cmd.seatNo (takenSeat state seat cmd) := by
  unfold takeAction takenSeat
  cases cmd.actionType <;> rfl

theorem takenSeat_marks (state : State) (seat : Seat) (cmd : SubmitArenaAction) :
    (takenSeat state seat cmd).manualActionThisHand = true ∧
      (takenSeat state seat cmd).state = (if seat.state = .sitOut then .active else seat.state) ∧
      (takenSeat state seat cmd).timeoutStreak = seat.timeoutStreak := by
  unfold takenSeat
  cases cmd.actionType <;> exact ⟨rfl,rfl,rfl⟩

theorem applyAction_taken {state result : State} {cmd : SubmitArenaAction} {events : List Event}
    (accepted : applyAction state cmd = .ok (result,events)) :
    cmd.seatNo = state.actingSeatNo ∧ ∃ seat, state.seats.get? state.actingSeatNo = some seat ∧
      seat.state ≠ .eliminated ∧ validateAction state seat cmd = .ok () ∧
      ∃ event, result = (advanceAfterTurn state (passed (takeAction state seat cmd) state.actingSeatNo) [event]).1 := by
  unfold applyAction at accepted
  cases acting : actingSeat state cmd.seatNo with
  | error e => simp [acting,bind,Except.bind] at accepted
  | ok seat =>
    obtain ⟨own,found,present⟩ := actingSeat_found acting
    cases valid : validateAction state seat cmd with
    | error e => simp [acting,valid,bind,Except.bind] at accepted
    | ok checked =>
      simp only [acting,valid,bind,Except.bind,pure,Except.pure,Except.ok.injEq] at accepted
      rw [own] at accepted
      exact ⟨own,seat,found,present,valid,_,(congrArg Prod.fst accepted).symm⟩

variable {out : Int → Prop} {before after state : State} {seat : Seat} {paid : OrdMap Int Seat} {seatNo : Int}

theorem takenSeat_turn {cmd : SubmitArenaAction} (own : cmd.seatNo = state.actingSeatNo)
    (found : state.seats.get? state.actingSeatNo = some seat) (present : seat.state ≠ .eliminated)
    (valid : validateAction state seat cmd = .ok ()) :
    ∃ chips, Turn state (takeAction state seat cmd) seat (takenSeat state seat cmd) chips := by
  obtain ⟨_,next,chips,turn⟩ := validateAction_turn state seat cmd own found present valid
  have both := turn.seats.symm.trans (takeAction_seats state seat cmd)
  have here := congrArg (OrdMap.get? · state.actingSeatNo) both
  have record : next = takenSeat state seat cmd := by
    rw [own] at here
    simpa [OrdMap.get?_insert_self] using here
  exact ⟨chips,record ▸ turn⟩

theorem applyTimeout_taken {state result : State} {cmd : ApplyPhaseTimeout} {events : List Event}
    (accepted : applyTimeout state cmd = .ok (result,events)) :
    cmd.seatNo = state.actingSeatNo ∧ ∃ seat, state.seats.get? state.actingSeatNo = some seat ∧
      seat.state ≠ .eliminated ∧
      ∃ event, result = (advanceAfterTurn state (passed (takeTimeout state seat state.actingSeatNo) state.actingSeatNo) [event]).1 := by
  unfold applyTimeout at accepted
  cases acting : actingSeat state cmd.seatNo with
  | error e => simp [acting,bind,Except.bind] at accepted
  | ok seat =>
    obtain ⟨own,found,present⟩ := actingSeat_found acting
    simp only [acting,bind,Except.bind,pure,Except.pure,Except.ok.injEq] at accepted
    rw [own] at accepted
    exact ⟨own,seat,found,present,_,(congrArg Prod.fst accepted).symm⟩

theorem advance_ends (previous next : State) (events : List Event) :
    (advanceAfterTurn previous next events).1 = (applyCloseHand next).1 ∨
    (advanceAfterTurn previous next events).1.seats = next.seats ∧
      (advanceAfterTurn previous next events).1.handClosed = next.handClosed ∧
      (advanceAfterTurn previous next events).1.handNumber = next.handNumber := by
  rcases advance_cases previous next events with ⟨_,same⟩ | ⟨_,_,same⟩ | ⟨_,same⟩ | ⟨_,_,_,same⟩
  · exact .inl same
  · exact .inr (by rw [same]; exact ⟨rfl,rfl,rfl⟩)
  · exact .inr (by rw [same]; exact ⟨rfl,rfl,rfl⟩)
  · exact .inr (by rw [same]; exact ⟨rfl,rfl,rfl⟩)

def Seat.unpaid (seat : Seat) : Seat := { seat with stack := 0, wonThisHand := 0, showdownValue := 0 }

structure Pays (out : Int → Prop) (before after : State) : Prop where
  unpaid : (after.seats.mapVals fun _ seat => seat.unpaid) = before.seats.mapVals fun _ seat => seat.unpaid
  spared : ∀ seatNo, out seatNo → after.seats.get? seatNo = before.seats.get? seatNo

theorem Pays.refl (out : Int → Prop) (state : State) : Pays out state state := ⟨rfl,fun _ _ => rfl⟩

theorem Pays.trans {first second third : State} (left : Pays out first second) (right : Pays out second third)
    : Pays out first third :=
  ⟨right.unpaid.trans left.unpaid,fun seatNo held => (right.spared seatNo held).trans (left.spared seatNo held)⟩

theorem bets_unpaid (state : State) :
    bets state = (state.seats.mapVals fun _ seat => seat.unpaid).mapVals fun _ seat => seat.bet := by
  apply OrdMap.ext_get?
  intro seatNo
  simp only [bets,OrdMap.get?_mapVals]
  cases state.seats.get? seatNo <;> rfl

theorem Pays.bets (pays : Pays out before after) :
    bets after = bets before := by
  rw [bets_unpaid,pays.unpaid,← bets_unpaid]

theorem paySeat_pays (state : State) (seatNo chips : Int) (member : seatNo ∈ state.seats.keys) (inside : ¬ out seatNo)
    : Pays out state (paySeat state seatNo chips) := by
  constructor
  · apply OrdMap.ext_get?
    intro other
    simp only [paySeat,OrdMap.get?_mapVals,OrdMap.get?_insert]
    by_cases own : other = seatNo
    · subst own
      rw [if_pos rfl,get?_of_mem_keys member]
      rfl
    · rw [if_neg own]
  · intro other held
    have differ : other ≠ seatNo := by
      rintro rfl
      exact inside held
    exact OrdMap.get?_insert_of_ne _ _ differ

theorem distributeChips_pays (state : State) (seatNos : List Int) (amount : Int)
    (payable : ∀ seatNo ∈ seatNos, seatNo ∈ state.seats.keys ∧ ¬ out seatNo) :
    Pays out state (distributeChips state seatNos amount) := by
  have folded (pay : Nat → Int) (entries : List (Int × Nat)) : ∀ start : State,
      (∀ entry ∈ entries, entry.1 ∈ start.seats.keys ∧ ¬ out entry.1) → Pays out start
        (entries.foldl (fun next entry => paySeat next entry.1 (pay entry.2)) start) := by
    induction entries with
    | nil => exact fun start _ => Pays.refl out start
    | cons entry rest ih =>
      intro start inside
      obtain ⟨member,allowed⟩ := inside entry List.mem_cons_self
      refine (paySeat_pays start entry.1 (pay entry.2) member allowed).trans (ih _ fun other later => ?_)
      rw [paySeat_keys start entry.1 (pay entry.2) member]
      exact inside other (List.mem_cons_of_mem _ later)
  unfold distributeChips
  split_ifs
  · exact Pays.refl out state
  · exact folded _ _ state fun entry member => payable entry.1 (List.fst_mem_of_mem_zipIdx member)

def Idle (state : State) (seatNo : Int) : Prop :=
  committed state seatNo ≤ 0 ∧ seatNo ∉ contenderSeatNos state

theorem committed_bets {other : State} (same : bets other = bets state) (seatNo : Int) :
    committed other seatNo = committed state seatNo := by
  have entry := congrArg (OrdMap.get? · seatNo) same
  simp only [bets,OrdMap.get?_mapVals] at entry
  unfold committed State.seat
  cases left : other.seats.get? seatNo <;> cases right : state.seats.get? seatNo <;> simp_all [Seat.bet]

theorem awardLayer_pays {start : State} {loop : AwardLoop} (level : Int) (positive : 0 < level)
    (same : bets loop.state = bets start) : Pays (Idle start) loop.state (awardLayer loop level).state := by
  have payable : ∀ seatNo ∈ contributorsAtOrAbove loop.state level,
      seatNo ∈ loop.state.seats.keys ∧ ¬ Idle start seatNo := by
    intro seatNo member
    have seated := contributors_subset loop.state level seatNo member
    refine ⟨seated,fun idle => ?_⟩
    have reaches := (mem_contributors seated level).mp member
    have nothing := idle.1
    rw [committed_bets same] at reaches
    omega
  have best : ∀ seatNo ∈ bestShowdownSeats loop.state (eligibleContendersAtOrAbove loop.state level),
      seatNo ∈ loop.state.seats.keys ∧ ¬ Idle start seatNo := by
    intro seatNo member
    have eligible := bestShowdownSeats_subset _ _ seatNo member
    have seated := eligible_subset _ _ seatNo eligible
    exact payable seatNo ((mem_contributors seated level).mpr ((mem_eligible level).mp eligible).2)
  unfold awardLayer
  dsimp only
  split_ifs
  · exact Pays.refl _ _
  · exact Pays.refl _ _
  · exact distributeChips_pays _ _ _ payable
  · exact distributeChips_pays _ _ _ payable
  · exact distributeChips_pays _ _ _ best

theorem awardLayers_pays (state : State) : Pays (Idle state) state (awardLayers state).state := by
  have folded (levels : List Int) (positive : ∀ level ∈ levels, 0 < level) : ∀ loop : AwardLoop,
      bets loop.state = bets state → Pays (Idle state) loop.state (levels.foldl awardLayer loop).state := by
    induction levels with
    | nil => exact fun loop _ => Pays.refl _ _
    | cons level rest ih =>
      intro loop same
      have head := awardLayer_pays level (positive level List.mem_cons_self) same
      exact head.trans (ih (fun next member => positive next (List.mem_cons_of_mem _ member)) _ (head.bets.trans same))
  exact folded _ (fun level member => ((commitmentLevels_mem state level).mp member).1) ⟨state,0,OrdMap.empty⟩ rfl

theorem resolveWinners_contend (state : State) :
    ∀ seatNo ∈ resolveWinners state, seatNo ∈ state.seats.keys ∧ ¬ Idle state seatNo := by
  intro seatNo member
  have contends := bestShowdownSeats_subset _ _ seatNo member
  exact ⟨(OrdMap.keysWhere_sublist _ _).subset contends,fun idle => idle.2 contends⟩

structure HandEnd (before after : State) (paid : OrdMap Int Seat) : Prop where
  seats : after.seats = paid.mapVals fun _ seat => closeSeat seat
  unpaid : (paid.mapVals fun _ seat => seat.unpaid) = before.seats.mapVals fun _ seat => seat.unpaid
  idle : ∀ seatNo, Idle before seatNo → paid.get? seatNo = before.seats.get? seatNo
  handClosed : after.handClosed = true
  actingSeatNo : after.actingSeatNo = 0
  handNumber : after.handNumber = before.handNumber
  unclaimed : before.potMain ≤ 0 ∨ resolveWinners before = [] → paid = before.seats ∧ after.potMain = before.potMain
  claimed : ¬ (before.potMain ≤ 0 ∨ resolveWinners before = []) → after.potMain = 0

theorem applyCloseHand_end (state : State) : ∃ paid, HandEnd state (applyCloseHand state).1 paid := by
  let next : State := { state with handClosed := true, actingSeatNo := 0, currentToCall := 0 }
  have shape (awarded : State × List Int) (award : awardPot next (resolveWinners next) = awarded)
      (pays : Pays (Idle next) next awarded.1) (same : SeatsOnly next { awarded.1 with potMain := state.potMain })
      (unclaimed : state.potMain ≤ 0 ∨ resolveWinners state = [] → awarded.1 = next)
      (claimed : ¬ (state.potMain ≤ 0 ∨ resolveWinners state = []) → awarded.1.potMain = 0) :
      HandEnd state (applyCloseHand state).1 awarded.1.seats := by
    unfold SeatsOnly at same
    have result : (applyCloseHand state).1 = { awarded.1 with
        winnerSeatNos := (applyCloseHand state).1.winnerSeatNos
        seats := awarded.1.seats.mapVals fun _ seat => closeSeat seat } := by
      rw [← award]
      rfl
    refine ⟨?_,pays.unpaid,pays.spared,?_,?_,?_,fun nobody => ?_,fun somebody => ?_⟩
    · rw [result]
    · rw [result]
      exact congrArg State.handClosed same
    · rw [result]
      exact congrArg State.actingSeatNo same
    · have number := congrArg State.handNumber same
      rw [result]
      exact number
    · rw [result,unclaimed nobody]
      exact ⟨rfl,rfl⟩
    · rw [result]
      exact claimed somebody
  have winners := resolveWinners_contend next
  by_cases unpaid : next.potMain ≤ 0 ∨ resolveWinners next = []
  · exact ⟨_,shape (next,[]) (if_pos unpaid) (Pays.refl _ _) rfl (fun _ => rfl) fun claimed => absurd unpaid claimed⟩
  · by_cases uncommitted : totalCommitted next ≤ 0
    · refine ⟨_,shape ({ distributeChips next (resolveWinners next) next.potMain with potMain := 0 },resolveWinners next)
        ((if_neg unpaid).trans (if_pos uncommitted)) ?_ ?_ (fun nobody => absurd nobody unpaid) fun _ => rfl⟩
      · have pays := distributeChips_pays next _ next.potMain winners
        exact ⟨pays.unpaid,pays.spared⟩
      · have frame := distributeChips_seatsOnly next (resolveWinners next) next.potMain
        unfold SeatsOnly at frame ⊢
        rw [frame]
    · refine ⟨_,shape ({ (awardLayers next).state with potMain := 0 },(awardLayers next).potWinners.keys)
        ((if_neg unpaid).trans (if_neg uncommitted)) ?_ ?_ (fun nobody => absurd nobody unpaid) fun _ => rfl⟩
      · have pays := awardLayers_pays next
        exact ⟨pays.unpaid,pays.spared⟩
      · have frame := awardLayers_seatsOnly next
        unfold SeatsOnly at frame ⊢
        rw [frame]

theorem HandEnd.closed (ended : HandEnd before after paid) (found : before.seats.get? seatNo = some seat) :
    ∃ rich, paid.get? seatNo = some rich ∧ rich.unpaid = seat.unpaid ∧ after.seats.get? seatNo = some (closeSeat rich) := by
  have same := congrArg (OrdMap.get? · seatNo) ended.unpaid
  simp only [OrdMap.get?_mapVals,found,Option.map_some] at same
  obtain ⟨rich,held,equal⟩ := Option.map_eq_some_iff.mp same
  exact ⟨rich,held,equal,by rw [ended.seats,OrdMap.get?_mapVals,held]; rfl⟩

theorem HandEnd.opened (ended : HandEnd before after paid) (found : after.seats.get? seatNo = some seat) :
    ∃ poor rich, before.seats.get? seatNo = some poor ∧ paid.get? seatNo = some rich ∧ rich.unpaid = poor.unpaid ∧
      seat = closeSeat rich := by
  rw [ended.seats,OrdMap.get?_mapVals] at found
  obtain ⟨rich,held,rfl⟩ := Option.map_eq_some_iff.mp found
  have same := congrArg (OrdMap.get? · seatNo) ended.unpaid
  simp only [OrdMap.get?_mapVals,held,Option.map_some] at same
  obtain ⟨poor,before,equal⟩ := Option.map_eq_some_iff.mp same.symm
  exact ⟨poor,rich,before,held,equal.symm,rfl⟩

theorem HandEnd.keys (ended : HandEnd before after paid) :
    after.seats.keys = before.seats.keys := by
  have same := congrArg OrdMap.keys ended.unpaid
  rw [OrdMap.keys_mapVals,OrdMap.keys_mapVals] at same
  rw [ended.seats,OrdMap.keys_mapVals,same]

def Seat.unforced (seat : Seat) : Seat := { seat with stack := 0, committedThisHand := 0, allInThisHand := false }

structure Forces (out : Int → Prop) (before after : State) : Prop where
  unforced : (after.seats.mapVals fun _ seat => seat.unforced) = before.seats.mapVals fun _ seat => seat.unforced
  spared : ∀ seatNo, out seatNo → after.seats.get? seatNo = before.seats.get? seatNo

theorem Forces.refl (out : Int → Prop) (state : State) : Forces out state state := ⟨rfl,fun _ _ => rfl⟩

theorem Forces.trans {first second third : State} (left : Forces out first second) (right : Forces out second third)
    : Forces out first third :=
  ⟨right.unforced.trans left.unforced,fun seatNo held => (right.spared seatNo held).trans (left.spared seatNo held)⟩

theorem Forces.keys (forces : Forces out before after) :
    after.seats.keys = before.seats.keys := by
  have same := congrArg OrdMap.keys forces.unforced
  rwa [OrdMap.keys_mapVals,OrdMap.keys_mapVals] at same

section Forced
variable {out : Int → Prop} {seatNos : List Int}

theorem postForced_forces (state : State) (seatNo amount : Int) (member : seatNo ∈ state.seats.keys)
    (inside : ¬ out seatNo) : Forces out state (postForced state seatNo amount) := by
  constructor
  · apply OrdMap.ext_get?
    intro other
    simp only [postForced,OrdMap.get?_mapVals,OrdMap.get?_insert]
    by_cases own : other = seatNo
    · subst own
      rw [if_pos rfl,get?_of_mem_keys member]
      rfl
    · rw [if_neg own]
  · intro other held
    have differ : other ≠ seatNo := by
      rintro rfl
      exact inside held
    exact OrdMap.get?_insert_of_ne _ _ differ

theorem postAntes_forces (state : State) (ante : Int)
    (inside : ∀ seatNo ∈ seatNos, seatNo ∈ state.seats.keys ∧ ¬ out seatNo) :
    Forces out state (postAntes state seatNos ante) := by
  have folded : ∀ start : State, (∀ seatNo ∈ seatNos, seatNo ∈ start.seats.keys ∧ ¬ out seatNo) →
      Forces out start (seatNos.foldl (fun next seatNo => postForced next seatNo ante) start) := by
    clear inside
    induction seatNos with
    | nil => exact fun start _ => Forces.refl out start
    | cons first rest ih =>
      intro start inside
      obtain ⟨member,allowed⟩ := inside first List.mem_cons_self
      have head := postForced_forces start first ante member allowed
      refine head.trans (ih _ fun other later => ?_)
      rw [head.keys]
      exact inside other (List.mem_cons_of_mem _ later)
  unfold postAntes
  split_ifs
  · exact folded state inside
  · exact Forces.refl out state

theorem postBlinds_forces (state : State) (cmd : StartHand)
    (inside : ∀ seatNo ∈ seatNos, seatNo ∈ state.seats.keys ∧ ¬ out seatNo) :
    Forces out state (postBlinds state seatNos cmd) := by
  unfold postBlinds
  by_cases enough : seatNos.length ≥ 2
  · obtain ⟨small,big⟩ := blindSeatNos_mem state.handNumber seatNos enough
    have smallForces := postForced_forces state _ cmd.smallBlind (inside _ small).1 (inside _ small).2
    simp only [if_pos enough]
    split_ifs
    · refine smallForces.trans (postForced_forces _ _ _ ?_ (inside _ big).2)
      rw [smallForces.keys]
      exact (inside _ big).1
    · exact postForced_forces _ _ _ (inside _ big).1 (inside _ big).2
    · exact smallForces
    · exact Forces.refl out state
  · rw [if_neg enough]
    exact Forces.refl out state

end Forced

theorem postForcedBets_forces (state : State) (cmd : StartHand) :
    Forces (fun seatNo => seatNo ∉ eligibleSeatNos state) (resetHand state) (postForcedBets state cmd) := by
  have inside : ∀ seatNo ∈ eligibleSeatNos (resetHand state),
      seatNo ∈ (resetHand state).seats.keys ∧ ¬ seatNo ∉ eligibleSeatNos state := by
    intro seatNo member
    refine ⟨(OrdMap.keysWhere_sublist _ _).subset member,fun absent => absent ?_⟩
    rwa [eligible_resetHand] at member
  have antes := postAntes_forces (resetHand state) cmd.ante inside
  refine antes.trans (postBlinds_forces _ cmd fun seatNo member => ?_)
  rw [antes.keys]
  exact inside seatNo member

theorem applyStartHand_found (cmd : StartHand) (found : (applyStartHand state cmd).seats.get? seatNo = some seat) :
    ∃ before, state.seats.get? seatNo = some before ∧
      seat.unforced = (resetSeat (state.handNumber + 1) seatNo before).unforced ∧
      (before.state = .eliminated → seat = resetSeat (state.handNumber + 1) seatNo before) := by
  rw [applyStartHand_seats] at found
  have forces := postForcedBets_forces state cmd
  have same := congrArg (OrdMap.get? · seatNo) forces.unforced
  simp only [OrdMap.get?_mapVals,found,Option.map_some,resetHand] at same
  obtain ⟨reset,held,equal⟩ := Option.map_eq_some_iff.mp same.symm
  obtain ⟨before,was,rfl⟩ := Option.map_eq_some_iff.mp held
  refine ⟨before,was,equal.symm,fun gone => ?_⟩
  have spared := forces.spared seatNo fun eligible => by
    obtain ⟨other,otherFound,present⟩ := OrdMap.mem_keysWhere.mp eligible
    rw [was,Option.some.injEq] at otherFound
    subst otherFound
    simp [gone] at present
  rw [found,resetHand,OrdMap.get?_mapVals,was] at spared
  exact Option.some.inj spared

/-- A command, or the opening of a phase with the fields its definition gives. -/
inductive Move where
  | command (cmd : Command)
  | openPhase (phase : Phase) (actingSeatNo phaseStartSeatNo currentToCall : Int)

def moved (state : State) : Move → State
  | .command cmd => applied state cmd
  | .openPhase phase actingSeatNo phaseStartSeatNo currentToCall => { state with
      currentPhase := phase
      actingSeatNo := actingSeatNo
      phaseStartSeatNo := phaseStartSeatNo
      currentToCall := currentToCall
      handClosed := false }

end Clawchain.Arena.Table
