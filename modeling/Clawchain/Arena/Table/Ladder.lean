import Clawchain.Arena.Table.Marks
import Clawchain.Arena.Table.AllIn
import Clawchain.Arena.Table.Rounds

/-! The timeout ladder. A hand flags a seat that ran out of time and a seat that
acted; the close of the hand turns the flags into the streak, and the streak
into the state of the seat. -/
namespace Clawchain.Arena.Table
open Clawchain.Lib

def Placed (seat : Seat) : Prop :=
  (seat.state = .active ∧ (seat.timeoutStreak = 0 ∨ seat.timeoutStreak = 1)) ∨
    (seat.state = .sitOut ∧ (seat.timeoutStreak = 2 ∨ seat.timeoutStreak = 3))

def Climbing (seat : Seat) : Prop :=
  seat.state ≠ .eliminated → if seat.manualActionThisHand then seat.state = .active else Placed seat

def Retired (seat : Seat) : Prop :=
  seat.state = .eliminated → seat.manualActionThisHand = false ∧ seat.timedOutThisHand = false

variable {seat : Seat}

theorem placed_iff (placed : Placed seat) :
    (seat.state = .sitOut ↔ seat.timeoutStreak = 2 ∨ seat.timeoutStreak = 3) ∧
      (seat.state = .active ↔ seat.timeoutStreak = 0 ∨ seat.timeoutStreak = 1) := by
  rcases placed with ⟨state,streak⟩ | ⟨state,streak⟩
  · simp only [state,reduceCtorEq,false_iff,true_iff]
    omega
  · simp only [state,reduceCtorEq,false_iff,true_iff]
    omega

theorem closeSeat_flags (seat : Seat) :
    (closeSeat seat).manualActionThisHand = false ∧ (closeSeat seat).timedOutThisHand = false := ⟨rfl,rfl⟩

theorem closeSeat_streak (seat : Seat) : (closeSeat seat).timeoutStreak =
    if seat.manualActionThisHand then 0 else if seat.timedOutThisHand then seat.timeoutStreak + 1 else seat.timeoutStreak := by
  unfold closeSeat
  split_ifs <;> rfl

theorem closeSeat_broke (broke : (closeSeat seat).stack ≤ 0) : (closeSeat seat).state = .eliminated := by
  rw [closeSeat_stack] at broke
  unfold closeSeat
  split_ifs <;> simp_all

theorem closeSeat_placed (climbing : Climbing seat) (stays : (closeSeat seat).state ≠ .eliminated) :
    Placed (closeSeat seat) := by
  have streak := closeSeat_streak seat
  have rich : ¬ seat.stack ≤ 0 := fun broke => stays (closeSeat_broke (by rwa [closeSeat_stack]))
  by_cases manual : seat.manualActionThisHand = true
  · have state : (closeSeat seat).state = if seat.state = .sitOut then .active else seat.state := by
      simp [closeSeat,manual,rich]
    have present : seat.state ≠ .eliminated := by
      intro gone
      rw [state,gone] at stays
      exact stays rfl
    have active := climbing present
    rw [if_pos manual] at active streak
    rw [active] at state
    exact .inl ⟨state,.inl streak⟩
  · by_cases late : seat.timedOutThisHand = true
    · have state : (closeSeat seat).state =
          if seat.timeoutStreak + 1 ≥ 4 then .eliminated else if seat.timeoutStreak + 1 ≥ 2 then .sitOut else seat.state := by
        simp [closeSeat,manual,late,rich]
      rw [if_neg manual,if_pos late] at streak
      have below : ¬ seat.timeoutStreak + 1 ≥ 4 := by
        intro top
        rw [if_pos top] at state
        exact stays state
      rw [if_neg below] at state
      by_cases second : seat.timeoutStreak + 1 ≥ 2
      · rw [if_pos second] at state
        exact .inr ⟨state,by omega⟩
      · rw [if_neg second] at state
        have placed := climbing (by rw [← state]; exact stays)
        rw [if_neg manual] at placed
        rcases placed with ⟨active,_⟩ | ⟨_,high⟩
        · exact .inl ⟨state.trans active,by omega⟩
        · omega
    · have state : (closeSeat seat).state = seat.state := by simp [closeSeat,manual,late,rich]
      rw [if_neg manual,if_neg late] at streak
      have placed := climbing (by rw [← state]; exact stays)
      rw [if_neg manual] at placed
      unfold Placed
      rwa [state,streak]

theorem closeSeat_retired (gone : seat.state = .eliminated) (retired : Retired seat) :
    (closeSeat seat).state = .eliminated := by
  obtain ⟨manual,late⟩ := retired gone
  unfold closeSeat
  simp [manual,late,gone]

theorem takenSeat_climbing (state : State) (cmd : SubmitArenaAction) (present : seat.state ≠ .eliminated)
    (climbing : Climbing seat) : Climbing (takenSeat state seat cmd) := by
  obtain ⟨manual,joined,_⟩ := takenSeat_marks state seat cmd
  intro _
  rw [if_pos manual,joined]
  have before := climbing present
  split_ifs at before with already
  · rw [before]
    rfl
  · rcases before with ⟨active,_⟩ | ⟨out,_⟩
    · rw [active]
      rfl
    · rw [out]
      rfl

theorem timedOutSeat_marks (state : State) (seat : Seat) :
    (timedOutSeat state seat).manualActionThisHand = seat.manualActionThisHand ∧
      (timedOutSeat state seat).state = seat.state ∧ (timedOutSeat state seat).timeoutStreak = seat.timeoutStreak := by
  unfold timedOutSeat
  split_ifs <;> exact ⟨rfl,rfl,rfl⟩

theorem climbing_congr {other : Seat} (manual : other.manualActionThisHand = seat.manualActionThisHand)
    (state : other.state = seat.state) (streak : other.timeoutStreak = seat.timeoutStreak) (climbing : Climbing seat) :
    Climbing other := by
  unfold Climbing Placed at climbing ⊢
  rwa [manual,state,streak]

theorem bestStep_nothing (value : Int → Int) (seatNos : List Int) :
    (seatNos.foldl (bestStep value) (-1,[])).2 = [] ↔ ∀ seatNo ∈ seatNos, value seatNo < -1 := by
  induction seatNos with
  | nil => simp
  | cons head rest ih =>
    rw [List.foldl_cons]
    by_cases low : value head < -1
    · have skipped : bestStep value (-1,[]) head = (-1,[]) := by
        unfold bestStep
        rw [if_neg (by dsimp only; omega),if_neg (by dsimp only; omega)]
      rw [skipped,ih]
      simp [low]
    · have found : (bestStep value (-1,[]) head).2 ≠ [] := by
        unfold bestStep
        split_ifs <;> simp_all
        omega
      refine ⟨fun empty => absurd empty (bestStep_nonempty value rest _ found),fun all => ?_⟩
      exact absurd (all head List.mem_cons_self) low

theorem resolveWinners_nothing (state : State) :
    resolveWinners state = [] ↔ ∀ seatNo ∈ contenderSeatNos state, worth state seatNo < -1 := by
  rw [← bestStep_nothing]
  change ((contenderSeatNos state).foldl (bestStep (worth state)) (-1,[])).2.insertionSort (· ≤ ·) = [] ↔ _
  rw [← List.length_eq_zero_iff,← List.length_eq_zero_iff,List.length_insertionSort]

theorem resolveWinners_closed {before after : State} (seats : after.seats = before.seats.mapVals fun _ seat => closeSeat seat)
    (number : after.handNumber = before.handNumber) (retired : before.seats.All fun _ seat => Retired seat)
    (nobody : resolveWinners before = []) : resolveWinners after = [] := by
  rw [resolveWinners_nothing] at nobody ⊢
  intro seatNo member
  obtain ⟨closed,found,contends⟩ := mem_contenderSeatNos.mp member
  rw [seats,OrdMap.get?_mapVals] at found
  obtain ⟨seat,held,rfl⟩ := Option.map_eq_some_iff.mp found
  have kept : (closeSeat seat).folded = seat.folded ∧ (closeSeat seat).showdownValue = seat.showdownValue := by
    unfold closeSeat
    split_ifs <;> exact ⟨rfl,rfl⟩
  simp only [isContender,Bool.and_eq_true,bne_iff_ne,ne_eq,Bool.not_eq_true'] at contends
  have stays : seat.state ≠ .eliminated := fun gone =>
    contends.1 (closeSeat_retired gone (retired seatNo seat held))
  have before_contends : seatNo ∈ contenderSeatNos before := by
    refine mem_contenderSeatNos.mpr ⟨seat,held,?_⟩
    simp [isContender,stays,← kept.1,contends.2]
  have low := nobody seatNo before_contends
  have here : after.seats.get? seatNo = some (closeSeat seat) := by rw [seats,OrdMap.get?_mapVals,held]; rfl
  unfold worth showdownValue at low ⊢
  rwa [seat_of_get? here,kept.2,number,← seat_of_get? held]

def HandByHand (state : State) : Move → Prop
  | .command (.startHand _) => ¬ handOpen state
  | .command _ => True
  | .openPhase _ _ _ _ => handOpen state

structure Seated (state : State) : Prop where
  numbered : SeatsNumbered state
  idle : ¬ handOpen state → state.actingSeatNo = 0 ∧ (state.potMain ≤ 0 ∨ resolveWinners state = [])
  placed : ¬ handOpen state → state.seats.All fun _ seat => seat.state ≠ .eliminated → Placed seat
  climbing : state.seats.All fun _ seat => Climbing seat
  retired : state.seats.All fun _ seat => Retired seat
  unbet : handOpen state → state.seats.All fun _ seat => seat.state = .eliminated → seat.committedThisHand = 0

structure Fresh (state : State) : Prop where
  table : FreshTable state
  active : state.seats.All fun _ seat => seat.state = .active ∧ seat.timeoutStreak = 0 ∧ 0 < seat.stack

theorem Fresh.seated {state : State} (fresh : Fresh state) : Seated state := by
  have between : ¬ handOpen state := fun opened => by
    have positive := opened.1
    have zero := fresh.table.handNumber
    omega
  have placed : state.seats.All fun _ seat => Placed seat := fun seatNo seat found => by
    obtain ⟨active,streak,_⟩ := fresh.active seatNo seat found
    exact .inl ⟨active,.inl streak⟩
  refine ⟨fresh.table.numbered,fun _ => ⟨fresh.table.actingSeatNo,.inl fresh.table.potMain.le⟩,
    fun _ seatNo seat found _ => placed seatNo seat found,fun seatNo seat found present => ?_,
    fun seatNo seat found gone => ?_,fun opened => absurd opened between⟩
  · split_ifs
    · exact (fresh.active seatNo seat found).1
    · exact placed seatNo seat found
  · rw [(fresh.active seatNo seat found).1] at gone
    cases gone

section Step
variable {state : State}

theorem Seated.closeHand (seated : Seated state) : Seated (applyCloseHand state).1 := by
  obtain ⟨paid,ended⟩ := applyCloseHand_end state
  have between : ¬ handOpen (applyCloseHand state).1 := by simp [handOpen,ended.handClosed]
  have closed (seatNo : Int) (seat : Seat) (found : (applyCloseHand state).1.seats.get? seatNo = some seat) :
      ∃ rich, seat = closeSeat rich ∧ Climbing rich := by
    obtain ⟨poor,rich,before,_,same,rfl⟩ := ended.opened found
    refine ⟨rich,rfl,climbing_congr ?_ ?_ ?_ (seated.climbing seatNo poor before)⟩
    · exact (congrArg Seat.manualActionThisHand same :)
    · exact (congrArg Seat.state same :)
    · exact (congrArg Seat.timeoutStreak same :)
  have placed : (applyCloseHand state).1.seats.All fun _ seat => seat.state ≠ .eliminated → Placed seat := by
    intro seatNo seat found stays
    obtain ⟨rich,rfl,climbing⟩ := closed seatNo seat found
    exact closeSeat_placed climbing stays
  refine ⟨?_,fun _ => ⟨ended.actingSeatNo,?_⟩,fun _ => placed,fun seatNo seat found present => ?_,
    fun seatNo seat found _ => ?_,fun opened => absurd opened between⟩
  · unfold SeatsNumbered
    rw [ended.keys]
    exact seated.numbered
  · by_cases nobody : state.potMain ≤ 0 ∨ resolveWinners state = []
    · obtain ⟨untouched,pot⟩ := ended.unclaimed nobody
      rw [pot]
      refine nobody.imp id fun nobody => resolveWinners_closed ?_ ended.handNumber seated.retired nobody
      rw [ended.seats,untouched]
    · exact .inl (ended.claimed nobody).le
  · obtain ⟨rich,rfl,_⟩ := closed seatNo seat found
    rw [if_neg (by simp [(closeSeat_flags rich).1])]
    exact placed seatNo _ found present
  · obtain ⟨rich,rfl,_⟩ := closed seatNo seat found
    exact closeSeat_flags rich

theorem Seated.startHand (seated : Seated state) (between : ¬ handOpen state) (cmd : StartHand) :
    Seated (applyStartHand state cmd) := by
  obtain ⟨_,unclosed,_⟩ := applyStartHand_frame state cmd
  have opened : handOpen (applyStartHand state cmd) := by
    refine ⟨?_,unclosed⟩
    rw [applyStartHand_number]
    omega
  have dealt (seatNo : Int) (seat : Seat) (found : (applyStartHand state cmd).seats.get? seatNo = some seat) :
      ∃ before, state.seats.get? seatNo = some before ∧ seat.manualActionThisHand = false ∧
        seat.timedOutThisHand = false ∧ seat.state = before.state ∧ seat.timeoutStreak = before.timeoutStreak ∧
        (before.state = .eliminated → seat.committedThisHand = 0) := by
    obtain ⟨before,was,same,gone⟩ := applyStartHand_found cmd found
    refine ⟨before,was,(congrArg Seat.manualActionThisHand same :),(congrArg Seat.timedOutThisHand same :),
      (congrArg Seat.state same :),(congrArg Seat.timeoutStreak same :),fun out => ?_⟩
    rw [gone out]
    rfl
  refine ⟨?_,fun closed => absurd opened closed,fun closed => absurd opened closed,fun seatNo seat found present => ?_,
    fun seatNo seat found _ => ?_,fun _ seatNo seat found out => ?_⟩
  · unfold SeatsNumbered
    rw [applyStartHand_keys]
    exact seated.numbered
  · obtain ⟨before,was,manual,_,kept,streak,_⟩ := dealt seatNo seat found
    have placed := seated.placed between seatNo before was (by rw [← kept]; exact present)
    rw [if_neg (by simp [manual])]
    unfold Placed
    rwa [kept,streak]
  · obtain ⟨before,_,manual,late,_⟩ := dealt seatNo seat found
    exact ⟨manual,late⟩
  · obtain ⟨before,_,_,_,kept,_,unbet⟩ := dealt seatNo seat found
    exact unbet (kept.symm.trans out)

theorem Seated.turn_open (seated : Seated state) {seat : Seat}
    (found : state.seats.get? state.actingSeatNo = some seat) : handOpen state := by
  by_contra between
  have nobody := (seated.idle between).1
  have positive := seated.numbered _ (OrdMap.mem_keys_iff.mpr ⟨seat,found⟩)
  omega

theorem Seated.turn (seated : Seated state) {after : State} {seat next : Seat} {chips : Int}
    (turn : Turn state after seat next chips) (climbing : Climbing next) (events : List Event) :
    Seated after ∧ Seated (advanceAfterTurn state (passed after state.actingSeatNo) events).1 := by
  have opened := seated.turn_open turn.found
  have still : handOpen after := by
    unfold handOpen
    rw [turn.handNumber,turn.handClosed]
    exact opened
  have kept (target : State) (seats : target.seats = after.seats) (number : target.handNumber = after.handNumber)
      (unclosed : target.handClosed = after.handClosed) : Seated target := by
    have running : handOpen target := by
      unfold handOpen
      rw [number,unclosed]
      exact still
    refine ⟨?_,fun closed => absurd running closed,fun closed => absurd running closed,?_,?_,fun _ => ?_⟩
    · unfold SeatsNumbered
      rw [seats]
      exact turn.numbered seated.numbered
    · rw [seats,turn.seats]
      exact OrdMap.All.insert seated.climbing climbing
    · rw [seats,turn.seats]
      exact OrdMap.All.insert seated.retired fun gone => absurd gone turn.kept
    · rw [seats,turn.seats]
      exact OrdMap.All.insert (seated.unbet opened) fun gone => absurd gone turn.kept
  refine ⟨kept after rfl rfl rfl,?_⟩
  rcases advance_ends state (passed after state.actingSeatNo) events with closes | ⟨seats,unclosed,number⟩
  · rw [closes]
    exact (kept (passed after state.actingSeatNo) rfl rfl rfl).closeHand
  · exact kept _ seats number unclosed

structure Written (seat next : Seat) (acted : Bool) : Prop where
  climbing : Climbing seat → Climbing next
  streak : next.timeoutStreak = seat.timeoutStreak
  manual : next.manualActionThisHand = (acted || seat.manualActionThisHand)

theorem action_written {cmd : SubmitArenaAction} {result : State} {events : List Event}
    (accepted : applyAction state cmd = .ok (result,events)) :
    cmd.seatNo = state.actingSeatNo ∧ ∃ after seat next chips event, Turn state after seat next chips ∧
      Written seat next true ∧ result = (advanceAfterTurn state (passed after state.actingSeatNo) [event]).1 := by
  obtain ⟨own,seat,found,present,valid,event,same⟩ := applyAction_taken accepted
  obtain ⟨chips,turn⟩ := takenSeat_turn own found present valid
  obtain ⟨manual,_,streak⟩ := takenSeat_marks state seat cmd
  exact ⟨own,_,seat,_,chips,event,turn,⟨takenSeat_climbing state cmd present,streak,manual⟩,same⟩

theorem timeout_written {cmd : ApplyPhaseTimeout} {result : State} {events : List Event}
    (accepted : applyTimeout state cmd = .ok (result,events)) :
    cmd.seatNo = state.actingSeatNo ∧ ∃ after seat next event, Turn state after seat next 0 ∧
      Written seat next false ∧ result = (advanceAfterTurn state (passed after state.actingSeatNo) [event]).1 := by
  obtain ⟨own,seat,found,present,event,same⟩ := applyTimeout_taken accepted
  obtain ⟨manual,kept,streak⟩ := timedOutSeat_marks state seat
  exact ⟨own,_,seat,_,event,timedOutSeat_turn found present,⟨climbing_congr manual kept streak,streak,manual⟩,same⟩

theorem Seated.moved (seated : Seated state) {move : Move} (allowed : HandByHand state move) :
    Seated (moved state move) := by
  cases move with
  | openPhase phase acting start toCall =>
    have opened : handOpen state := allowed
    have running : handOpen (Table.moved state (.openPhase phase acting start toCall)) := ⟨opened.1,rfl⟩
    exact ⟨seated.numbered,fun closed => absurd running closed,fun closed => absurd running closed,seated.climbing,
      seated.retired,fun _ => seated.unbet opened⟩
  | command cmd =>
    change Seated (applied state cmd)
    unfold applied
    cases outcome : apply state cmd with
    | error e => exact seated
    | ok result =>
      obtain ⟨result,events⟩ := result
      cases cmd with
      | startHand deal =>
        cases outcome
        exact seated.startHand allowed deal
      | submitArenaAction action =>
        obtain ⟨_,after,seat,next,chips,event,turn,written,rfl⟩ := action_written outcome
        exact (seated.turn turn (written.climbing (seated.climbing _ _ turn.found)) [event]).2
      | applyPhaseTimeout timeout =>
        obtain ⟨_,after,seat,next,event,turn,written,rfl⟩ := timeout_written outcome
        exact (seated.turn turn (written.climbing (seated.climbing _ _ turn.found)) [event]).2
      | closeHand =>
        have same : result = (applyCloseHand state).1 := by
          simp only [apply,Except.ok.injEq] at outcome
          rw [outcome]
        rw [same]
        exact seated.closeHand
      | unknown => cases outcome

end Step

/-- A hand from its deal, with the seats that acted in it. -/
inductive Hand (dealt : State) : List Int → State → Prop where
  | dealt : Hand dealt [] dealt
  | openPhase {acted : List Int} {state : State} (hand : Hand dealt acted state) (opened : handOpen state)
    (phase : Phase) (actingSeatNo phaseStartSeatNo currentToCall : Int) :
    Hand dealt acted (moved state (.openPhase phase actingSeatNo phaseStartSeatNo currentToCall))
  | action {acted : List Int} {state next : State} {cmd : SubmitArenaAction} {events : List Event}
    (hand : Hand dealt acted state) (accepted : applyAction state cmd = .ok (next,events)) :
    Hand dealt (cmd.seatNo :: acted) next
  | timeout {acted : List Int} {state next : State} {cmd : ApplyPhaseTimeout} {events : List Event}
    (hand : Hand dealt acted state) (accepted : applyTimeout state cmd = .ok (next,events)) : Hand dealt acted next
  | closeHand {acted : List Int} {state : State} (hand : Hand dealt acted state) :
    Hand dealt acted (applyCloseHand state).1

structure Flagged (before seat : Seat) (acted : Prop) : Prop where
  streak : seat.timeoutStreak = before.timeoutStreak
  manual : acted → seat.manualActionThisHand = true
  floor : seat.manualActionThisHand = true → 0 ≤ before.timeoutStreak
  out : before.state = .eliminated → seat.state = .eliminated

structure Scored (before seat : Seat) (acted : Prop) : Prop where
  climbed : seat.timeoutStreak ≤ before.timeoutStreak + 1
  cleared : acted → seat.timeoutStreak = 0
  flags : seat.manualActionThisHand = false ∧ seat.timedOutThisHand = false
  broke : seat.stack ≤ 0 → seat.state = .eliminated

structure Played (start : State) (acted : List Int) (state : State) : Prop where
  seated : Seated state
  dealt : ∀ seatNo seat, state.seats.get? seatNo = some seat → ∃ before, start.seats.get? seatNo = some before ∧
    (handOpen state → Flagged before seat (seatNo ∈ acted)) ∧ (¬ handOpen state → Scored before seat (seatNo ∈ acted))

section Hand
variable {start state : State} {acted : List Int}

theorem Played.closeHand (played : Played start acted state) : Played start acted (applyCloseHand state).1 := by
  obtain ⟨paid,ended⟩ := applyCloseHand_end state
  refine ⟨played.seated.closeHand,fun seatNo seat found => ?_⟩
  obtain ⟨poor,rich,was,_,same,rfl⟩ := ended.opened found
  obtain ⟨before,dealt,running,past⟩ := played.dealt seatNo poor was
  have streak : rich.timeoutStreak = poor.timeoutStreak := (congrArg Seat.timeoutStreak same :)
  have manual : rich.manualActionThisHand = poor.manualActionThisHand := (congrArg Seat.manualActionThisHand same :)
  have late : rich.timedOutThisHand = poor.timedOutThisHand := (congrArg Seat.timedOutThisHand same :)
  have place : rich.state = poor.state := (congrArg Seat.state same :)
  refine ⟨before,dealt,fun opened => absurd opened (by simp [handOpen,ended.handClosed]),fun _ => ?_⟩
  have scored := closeSeat_streak rich
  rw [streak,manual,late] at scored
  refine ⟨?_,fun did => ?_,closeSeat_flags rich,closeSeat_broke⟩
  · by_cases opened : handOpen state
    · have flagged := running opened
      have floor := flagged.floor
      have kept := flagged.streak
      split_ifs at scored with acts lateNow
      · have low := floor acts
        omega
      · omega
      · omega
    · have before := past opened
      have climbed := before.climbed
      rw [if_neg (by simp [before.flags.1]),if_neg (by simp [before.flags.2])] at scored
      omega
  · by_cases opened : handOpen state
    · rwa [if_pos ((running opened).manual did)] at scored
    · have before := past opened
      rw [if_neg (by simp [before.flags.1]),if_neg (by simp [before.flags.2])] at scored
      exact scored.trans (before.cleared did)

theorem Played.turn (played : Played start acted state)
    (placed : start.seats.All fun _ seat => seat.state ≠ .eliminated → Placed seat)
    {after : State} {seat next : Seat} {chips : Int} (turn : Turn state after seat next chips) {did : Bool}
    (written : Written seat next did) (events : List Event) :
    Played start (if did then state.actingSeatNo :: acted else acted)
      (advanceAfterTurn state (passed after state.actingSeatNo) events).1 := by
  have opened := played.seated.turn_open turn.found
  have still : handOpen after := by
    unfold handOpen
    rw [turn.handNumber,turn.handClosed]
    exact opened
  obtain ⟨running,seated⟩ := played.seated.turn turn (written.climbing (played.seated.climbing _ _ turn.found)) events
  have flagged (seatNo : Int) (held : Seat) (found : after.seats.get? seatNo = some held) :
      ∃ before, start.seats.get? seatNo = some before ∧
        Flagged before held (seatNo ∈ (if did then state.actingSeatNo :: acted else acted)) := by
    rw [turn.seats,OrdMap.get?_insert] at found
    split_ifs at found with own
    · cases found
      subst own
      obtain ⟨before,dealt,flags,_⟩ := played.dealt _ seat turn.found
      obtain ⟨kept,flag,floor,out⟩ := flags opened
      have present : before.state ≠ .eliminated := fun gone => turn.present (out gone)
      refine ⟨before,dealt,written.streak.trans kept,fun member => ?_,fun _ => ?_,fun gone => absurd gone present⟩
      · rw [written.manual]
        cases did with
        | true => rfl
        | false => exact flag member
      · rcases placed _ before dealt present with ⟨_,low⟩ | ⟨_,high⟩ <;> omega
    · obtain ⟨before,dealt,flags,_⟩ := played.dealt seatNo held found
      obtain ⟨kept,flag,floor,out⟩ := flags opened
      refine ⟨before,dealt,kept,fun member => flag ?_,floor,out⟩
      cases did with
      | true => exact (List.mem_cons.mp member).resolve_left own
      | false => exact member
  have middle : Played start (if did then state.actingSeatNo :: acted else acted) after :=
    ⟨running,fun seatNo held found => by
      obtain ⟨before,dealt,flags⟩ := flagged seatNo held found
      exact ⟨before,dealt,fun _ => flags,fun closed => absurd still closed⟩⟩
  rcases advance_ends state (passed after state.actingSeatNo) events with closes | ⟨seats,unclosed,number⟩
  · rw [closes]
    have passedOn : Played start (if did then state.actingSeatNo :: acted else acted) (passed after state.actingSeatNo) :=
      ⟨⟨middle.seated.numbered,fun closed => absurd still closed,fun closed => absurd still closed,
        middle.seated.climbing,middle.seated.retired,middle.seated.unbet⟩,middle.dealt⟩
    exact passedOn.closeHand
  · refine ⟨seated,fun seatNo held found => ?_⟩
    rw [seats] at found
    obtain ⟨before,dealt,flags⟩ := flagged seatNo held found
    refine ⟨before,dealt,fun _ => flags,fun closed => absurd ?_ closed⟩
    unfold handOpen
    rw [unclosed,number]
    exact still

theorem Seated.deal (seated : Seated state) (between : ¬ handOpen state) (cmd : StartHand) :
    Played state [] (applyStartHand state cmd) := by
  obtain ⟨_,unclosed,_⟩ := applyStartHand_frame state cmd
  refine ⟨seated.startHand between cmd,fun seatNo seat found => ?_⟩
  obtain ⟨before,was,same,_⟩ := applyStartHand_found cmd found
  have manual : seat.manualActionThisHand = false := (congrArg Seat.manualActionThisHand same :)
  have place : seat.state = before.state := (congrArg Seat.state same :)
  refine ⟨before,was,fun _ => ⟨(congrArg Seat.timeoutStreak same :),fun acted => (List.not_mem_nil acted).elim,
    fun flagged => ?_,place.trans⟩,fun closed => absurd ⟨?_,unclosed⟩ closed⟩
  · rw [manual] at flagged
    contradiction
  · rw [applyStartHand_number]
    omega

theorem Hand.played {deal : StartHand} (seated : Seated start) (between : ¬ handOpen start)
    (hand : Hand (applyStartHand start deal) acted state) : Played start acted state := by
  have placed := seated.placed between
  induction hand with
  | dealt => exact seated.deal between deal
  | openPhase hand opened phase acting begins toCall ih =>
    have running : handOpen (moved _ (.openPhase phase acting begins toCall)) := ⟨opened.1,rfl⟩
    refine ⟨ih.seated.moved opened,fun seatNo seat found => ?_⟩
    obtain ⟨before,was,flags,_⟩ := ih.dealt seatNo seat found
    exact ⟨before,was,fun _ => flags opened,fun closed => absurd running closed⟩
  | action hand accepted ih =>
    obtain ⟨own,after,seat,next,chips,event,turn,written,rfl⟩ := action_written accepted
    rw [own]
    exact ih.turn placed turn written [event]
  | timeout hand accepted ih =>
    obtain ⟨_,after,seat,next,event,turn,written,rfl⟩ := timeout_written accepted
    exact ih.turn placed turn written [event]
  | closeHand hand ih => exact ih.closeHand

end Hand

structure Gone (seatNo stack : Int) (state : State) : Prop where
  seated : Seated state
  held : ∃ seat, state.seats.get? seatNo = some seat ∧ seat.state = .eliminated ∧ seat.stack = stack

section Gone
variable {seatNo stack : Int} {state : State}

theorem Gone.rejects (gone : Gone seatNo stack state) {cmd : Command} (named : turnSeat cmd = some seatNo)
    (result : State × List Event) : apply state cmd ≠ .ok result := by
  obtain ⟨seat,found,out,_⟩ := gone.held
  intro accepted
  have absent (present : Seat) (here : state.seats.get? state.actingSeatNo = some present)
      (own : seatNo = state.actingSeatNo) (stays : present.state ≠ .eliminated) : False := by
    rw [← own,found,Option.some.injEq] at here
    subst here
    exact stays out
  cases cmd with
  | submitArenaAction action =>
    cases named
    obtain ⟨own,present,here,stays,_⟩ := @applyAction_taken state result.1 _ result.2 accepted
    exact absent present here own stays
  | applyPhaseTimeout timeout =>
    cases named
    obtain ⟨own,present,here,stays,_⟩ := @applyTimeout_taken state result.1 _ result.2 accepted
    exact absent present here own stays
  | startHand deal => cases named
  | closeHand => cases named
  | unknown => cases named

theorem Gone.closeHand (gone : Gone seatNo stack state) : Gone seatNo stack (applyCloseHand state).1 := by
  obtain ⟨paid,ended⟩ := applyCloseHand_end state
  obtain ⟨seat,found,out,chips⟩ := gone.held
  have unpaid : paid.get? seatNo = some seat := by
    by_cases opened : handOpen state
    · have nothing := gone.seated.unbet opened seatNo seat found out
      rw [ended.idle seatNo ⟨?_,fun contends => ?_⟩,found]
      · rw [committed,seat_of_get? found]
        exact nothing.le
      · obtain ⟨held,heldFound,stays⟩ := mem_contenderSeatNos.mp contends
        rw [found,Option.some.injEq] at heldFound
        subst heldFound
        simp [isContender,out] at stays
    · rw [(ended.unclaimed (gone.seated.idle opened).2).1,found]
  refine ⟨gone.seated.closeHand,closeSeat seat,?_,closeSeat_retired out (gone.seated.retired seatNo seat found),?_⟩
  · rw [ended.seats,OrdMap.get?_mapVals,unpaid]
    rfl
  · rw [closeSeat_stack,chips]

theorem Gone.turn (gone : Gone seatNo stack state) {after : State} {seat next : Seat} {chips : Int}
    (turn : Turn state after seat next chips) (climbing : Climbing next) (events : List Event) :
    Gone seatNo stack (advanceAfterTurn state (passed after state.actingSeatNo) events).1 := by
  obtain ⟨held,found,out,left⟩ := gone.held
  have differ : seatNo ≠ state.actingSeatNo := by
    rintro rfl
    have here := turn.found
    rw [found,Option.some.injEq] at here
    subst here
    exact turn.present out
  have kept : after.seats.get? seatNo = some held := by
    rw [turn.seats,OrdMap.get?_insert_of_ne _ _ differ,found]
  obtain ⟨middle,seated⟩ := gone.seated.turn turn climbing events
  have opened := gone.seated.turn_open turn.found
  rcases advance_ends state (passed after state.actingSeatNo) events with closes | ⟨seats,_,_⟩
  · rw [closes]
    have still : handOpen after := by
      unfold handOpen
      rw [turn.handNumber,turn.handClosed]
      exact opened
    have passedOn : Gone seatNo stack (passed after state.actingSeatNo) :=
      ⟨⟨middle.numbered,fun closed => absurd still closed,fun closed => absurd still closed,middle.climbing,
        middle.retired,middle.unbet⟩,held,kept,out,left⟩
    exact passedOn.closeHand
  · exact ⟨seated,held,by rw [seats]; exact kept,out,left⟩

theorem Gone.startHand (gone : Gone seatNo stack state) (between : ¬ handOpen state) (cmd : StartHand) :
    Gone seatNo stack (applyStartHand state cmd) := by
  obtain ⟨seat,found,out,chips⟩ := gone.held
  have member : seatNo ∈ (applyStartHand state cmd).seats.keys := by
    rw [applyStartHand_keys]
    exact OrdMap.mem_keys_iff.mpr ⟨seat,found⟩
  obtain ⟨dealt,dealtFound⟩ := OrdMap.mem_keys_iff.mp member
  obtain ⟨before,was,_,same⟩ := applyStartHand_found cmd dealtFound
  rw [found,Option.some.injEq] at was
  subst was
  rw [same out] at dealtFound
  exact ⟨gone.seated.startHand between cmd,_,dealtFound,out,chips⟩

theorem Gone.moved (gone : Gone seatNo stack state) {move : Move} (allowed : HandByHand state move) :
    Gone seatNo stack (moved state move) := by
  have seated := gone.seated.moved allowed
  cases move with
  | openPhase phase acting start toCall => exact ⟨seated,gone.held⟩
  | command cmd =>
    change Gone seatNo stack (applied state cmd)
    unfold applied
    cases outcome : apply state cmd with
    | error e => exact gone
    | ok result =>
      obtain ⟨result,events⟩ := result
      cases cmd with
      | startHand deal =>
        cases outcome
        exact gone.startHand allowed deal
      | submitArenaAction action =>
        obtain ⟨_,after,seat,next,chips,event,turn,written,rfl⟩ := action_written outcome
        exact gone.turn turn (written.climbing (gone.seated.climbing _ _ turn.found)) [event]
      | applyPhaseTimeout timeout =>
        obtain ⟨_,after,seat,next,event,turn,written,rfl⟩ := timeout_written outcome
        exact gone.turn turn (written.climbing (gone.seated.climbing _ _ turn.found)) [event]
      | closeHand =>
        have same : result = (applyCloseHand state).1 := by
          simp only [apply,Except.ok.injEq] at outcome
          rw [outcome]
        rw [same]
        exact gone.closeHand
      | unknown => cases outcome

end Gone

/-- Between hands the streak tells who sits out; a hand adds at most one to it
and clears it for a seat that acted; and who runs out of chips or of streak is
out for good. -/
theorem timeout_ladder {start state : State} (fresh : Fresh start) (run : Lib.Run moved HandByHand start state) :
    (¬ handOpen state → ∀ seatNo seat, state.seats.get? seatNo = some seat → seat.state ≠ .eliminated →
      (seat.state = .sitOut ↔ seat.timeoutStreak = 2 ∨ seat.timeoutStreak = 3) ∧
        (seat.state = .active ↔ seat.timeoutStreak = 0 ∨ seat.timeoutStreak = 1)) ∧
    (¬ handOpen state → ∀ deal acted after, Hand (applyStartHand state deal) acted after → ¬ handOpen after →
      ∀ seatNo seat, after.seats.get? seatNo = some seat → ∃ before, state.seats.get? seatNo = some before ∧
        seat.timeoutStreak ≤ before.timeoutStreak + 1 ∧ (seatNo ∈ acted → seat.timeoutStreak = 0) ∧
        (seat.stack ≤ 0 ∨ 4 ≤ seat.timeoutStreak → seat.state = .eliminated)) ∧
    (∀ seatNo seat, state.seats.get? seatNo = some seat → seat.state = .eliminated →
      ∀ later, Lib.Run moved HandByHand state later →
        (∃ held, later.seats.get? seatNo = some held ∧ held.state = .eliminated ∧ held.stack = seat.stack ∧
          (handOpen later → held.committedThisHand = 0)) ∧
        ∀ cmd result, turnSeat cmd = some seatNo → apply later cmd ≠ .ok result) := by
  have seated : Seated state := run.invariant fresh.seated fun _ _ seated allowed => seated.moved allowed
  refine ⟨fun between seatNo seat found stays => placed_iff (seated.placed between seatNo seat found stays),
    fun between deal acted after hand past seatNo seat found => ?_,fun seatNo seat found out later rest => ?_⟩
  · have played := hand.played seated between
    obtain ⟨before,was,_,scored⟩ := played.dealt seatNo seat found
    refine ⟨before,was,(scored past).climbed,(scored past).cleared,fun ends => ?_⟩
    by_contra stays
    rcases ends with broke | high
    · exact stays ((scored past).broke broke)
    · rcases played.seated.placed past seatNo seat found stays with ⟨_,low⟩ | ⟨_,low⟩ <;> omega
  · have gone : Gone seatNo seat.stack later := rest.invariant ⟨seated,seat,found,out,rfl⟩
      fun _ _ gone allowed => gone.moved allowed
    obtain ⟨held,here,outStill,chips⟩ := gone.held
    exact ⟨⟨held,here,outStill,chips,fun opened => gone.seated.unbet opened seatNo held here outStill⟩,
      fun cmd result named => gone.rejects named result⟩

def firstTable : State := tableOf .wager [(1,100),(2,100),(3,100)]

def waitedHand : State := applied (applyStartHand firstTable ⟨5,10,0,20⟩) (.applyPhaseTimeout ⟨3⟩)

theorem timeout_ladder_first_timeout :
    ((applyCloseHand waitedHand).1.seat 3).timeoutStreak = 1 ∧ ∃ before, firstTable.seats.get? 3 = some before ∧
      ((applyCloseHand waitedHand).1.seat 3).timeoutStreak ≤ before.timeoutStreak + 1 := by
  have fresh : Fresh firstTable :=
    ⟨⟨rfl,rfl,rfl,by unfold SeatsNumbered; decide,by unfold StacksNonneg; decide,rfl⟩,by decide⟩
  have between : ¬ handOpen firstTable := by decide
  cases outcome : applyTimeout (applyStartHand firstTable ⟨5,10,0,20⟩) ⟨3⟩ with
  | error e =>
    have accepted : (applyTimeout (applyStartHand firstTable ⟨5,10,0,20⟩) ⟨3⟩).toBool = true := by decide
    rw [outcome] at accepted
    contradiction
  | ok result =>
    have same : waitedHand = result.1 := by
      unfold waitedHand applied
      simp only [apply,outcome]
    have hand : Hand (applyStartHand firstTable ⟨5,10,0,20⟩) [] (applyCloseHand waitedHand).1 := by
      rw [same]
      exact .closeHand (.timeout .dealt outcome)
    have found : (applyCloseHand waitedHand).1.seats.get? 3 = some ((applyCloseHand waitedHand).1.seat 3) := by decide
    obtain ⟨before,was,climbed,_⟩ := (timeout_ladder fresh .start).2.1 between _ _ _ hand (by decide) 3 _ found
    exact ⟨by decide,before,was,climbed⟩

end Clawchain.Arena.Table
