import Clawchain.Arena.Table.Chips

/-! What every seat wins when the pot is paid in layers: from each seat at most
what both of them put in, exactly that for a contender who beats all others,
and nothing for a folded seat whose bet a contender matches. -/
namespace Clawchain.Arena.Table
open Clawchain.Lib

def committed (state : State) (seatNo : Int) : Int := (state.seat seatNo).committedThisHand

def won (state : State) (seatNo : Int) : Int := (state.seat seatNo).wonThisHand

def totalWon (state : State) : Int := state.seats.sumBy fun _ seat => seat.wonThisHand

def worth (state : State) (seatNo : Int) : Int := showdownValue state seatNo (state.seat seatNo)

def contestable (state : State) (seatNo : Int) : Int :=
  state.seats.sumBy fun _ other => min (committed state seatNo) other.committedThisHand

def StrictlyBest (state : State) (seatNo : Int) : Prop :=
  seatNo ∈ contenderSeatNos state ∧
    ∀ rival ∈ contenderSeatNos state, rival ≠ seatNo → worth state rival < worth state seatNo

/-- Some contender committed at least as much as the seat. -/
def Covered (state : State) (seatNo : Int) : Prop :=
  ∃ rival ∈ contenderSeatNos state, committed state seatNo ≤ committed state rival

variable {state start : State} {seatNo level : Int} {loop : AwardLoop}

theorem mem_contenderSeatNos :
    seatNo ∈ contenderSeatNos state ↔ ∃ seat, state.seats.get? seatNo = some seat ∧ isContender seat = true :=
  OrdMap.mem_keysWhere

structure Gains (before after : State) (chips : Int) (pay : Int → Int) : Prop where
  bets : bets after = bets before
  worth : worth after = worth before
  total : totalWon after = totalWon before + chips
  won : ∀ seatNo, won after seatNo = won before seatNo + pay seatNo

theorem Gains.refl (state : State) : Gains state state 0 fun _ => 0 :=
  ⟨rfl,rfl,(Int.add_zero _).symm,fun _ => (Int.add_zero _).symm⟩

theorem Gains.trans {first second third : State} {a b : Int} {pay more : Int → Int}
    (left : Gains first second a pay) (right : Gains second third b more) :
    Gains first third (a + b) fun seatNo => pay seatNo + more seatNo where
  bets := right.bets.trans left.bets
  worth := right.worth.trans left.worth
  total := by rw [right.total,left.total,Int.add_assoc]
  won := fun seatNo => by rw [right.won,left.won,Int.add_assoc]

theorem paySeat_worth (state : State) (seatNo chips : Int) : worth (paySeat state seatNo chips) = worth state := by
  funext other
  by_cases own : other = seatNo
  · subst own
    simp only [worth,State.seat,paySeat,OrdMap.get?_insert_self,Option.getD_some,showdownValue]
    split_ifs <;> simp_all
  · have same : (paySeat state seatNo chips).seat other = state.seat other := by
      simp [State.seat,paySeat,OrdMap.get?_insert_of_ne _ _ own]
    unfold worth showdownValue
    rw [same]
    rfl

theorem paySeat_gains (state : State) (seatNo chips : Int) (member : seatNo ∈ state.seats.keys) :
    Gains state (paySeat state seatNo chips) chips fun other => if other = seatNo then chips else 0 where
  bets := paySeat_bets _ _ _ member
  worth := paySeat_worth _ _ _
  total := by
    unfold totalWon paySeat
    rw [OrdMap.sumBy_insert_of_get? _ _ _ (get?_of_mem_keys member)]
    ring
  won := fun other => by
    by_cases own : other = seatNo
    · subst own
      simp [won,State.seat,paySeat,OrdMap.get?_insert_self]
    · simp [won,State.seat,paySeat,OrdMap.get?_insert_of_ne _ _ own,own]

theorem payAll_gains (entries : List (Int × Nat)) (pay : Nat → Int) (state : State)
    (present : ∀ entry ∈ entries, entry.1 ∈ state.seats.keys) :
    Gains state (entries.foldl (fun next entry => paySeat next entry.1 (pay entry.2)) state)
      ((entries.map fun entry => pay entry.2).sum)
      fun seatNo => (entries.map fun entry => if seatNo = entry.1 then pay entry.2 else 0).sum := by
  induction entries generalizing state with
  | nil => exact Gains.refl state
  | cons entry rest ih =>
    have head := paySeat_gains state entry.1 (pay entry.2) (present entry List.mem_cons_self)
    have keys : (paySeat state entry.1 (pay entry.2)).seats.keys = state.seats.keys := by
      rw [← bets_keys,head.bets,bets_keys]
    have tail := ih (paySeat state entry.1 (pay entry.2)) fun e member => by
      rw [keys]
      exact present e (List.mem_cons_of_mem _ member)
    simpa only [List.foldl_cons,List.map_cons,List.sum_cons] using head.trans tail

structure Fair (seatNos : List Int) (amount : Int) (pay : Int → Int) : Prop where
  nonneg : ∀ seatNo, 0 ≤ pay seatNo
  bounded : ∀ seatNo, pay seatNo ≤ amount
  outside : ∀ seatNo, seatNo ∉ seatNos → pay seatNo = 0
  alone : ∀ seatNo, seatNos = [seatNo] → pay seatNo = amount

theorem distributeChips_gains (state : State) (seatNos : List Int) (amount : Int) (enough : 0 ≤ amount)
    (present : ∀ seatNo ∈ seatNos, seatNo ∈ state.seats.keys) :
    ∃ pay, Gains state (distributeChips state seatNos amount) (if seatNos = [] then 0 else amount) pay ∧
      Fair seatNos amount pay := by
  by_cases nothing : amount ≤ 0 ∨ seatNos = []
  · refine ⟨fun _ => 0,?_,fun _ => le_refl _,fun _ => enough,fun _ _ => rfl,fun seatNo alone => ?_⟩
    · have unpaid : (if seatNos = [] then 0 else amount) = 0 := by
        split_ifs with empty
        · rfl
        · have low := nothing.resolve_right empty
          omega
      rw [distributeChips,if_pos nothing,unpaid]
      exact Gains.refl state
    · have low := nothing.resolve_right (by simp [alone])
      omega
  · push Not at nothing
    obtain ⟨positive,somebody⟩ := nothing
    have gains := payAll_gains seatNos.zipIdx (payout amount seatNos.length) state
      fun entry member => present entry.1 (List.fst_mem_of_mem_zipIdx member)
    rw [payout_sum amount seatNos somebody] at gains
    have nonneg (entry : Int × Nat) : 0 ≤ payout amount seatNos.length entry.2 :=
      Shares.share_nonneg amount seatNos.length entry.2 enough
    rw [distributeChips,if_neg (by simp [positive,somebody]),if_neg somebody]
    refine ⟨_,gains,fun seatNo => ?_,fun seatNo => ?_,fun seatNo absent => ?_,fun seatNo alone => ?_⟩
    · apply List.sum_nonneg
      intro chips member
      obtain ⟨entry,_,rfl⟩ := List.mem_map.mp member
      split_ifs
      · exact nonneg entry
      · rfl
    · calc _ ≤ (seatNos.zipIdx.map fun entry => payout amount seatNos.length entry.2).sum := by
            apply List.sum_le_sum
            intro entry _
            split_ifs
            · rfl
            · exact nonneg entry
        _ = amount := payout_sum amount seatNos somebody
    · apply List.sum_eq_zero
      intro chips member
      obtain ⟨entry,inside,rfl⟩ := List.mem_map.mp member
      rw [if_neg]
      rintro rfl
      exact absent (List.fst_mem_of_mem_zipIdx inside)
    · have whole := payout_sum amount seatNos somebody
      subst alone
      simpa using whole

def layerPayees (state : State) (level : Int) : List Int :=
  if (contributorsAtOrAbove state level).length = 1 ∨ eligibleContendersAtOrAbove state level = [] then
    contributorsAtOrAbove state level
  else bestShowdownSeats state (eligibleContendersAtOrAbove state level)

theorem layerPayees_congr {other : State} (level : Int) (same : bets other = bets state)
    (shown : worth other = worth state) : layerPayees other level = layerPayees state level := by
  have best (seatNos : List Int) : bestShowdownSeats other seatNos = bestShowdownSeats state seatNos := by
    change ((seatNos.foldl (bestStep (worth other)) (-1,[])).2.insertionSort (· ≤ ·)) = _
    rw [shown]
    rfl
  unfold layerPayees
  rw [contributors_bets,eligible_bets,same,← contributors_bets,← eligible_bets,best]

theorem awardLayer_distributes (loop : AwardLoop) (level : Int) (above : loop.prevLevel < level) :
    (awardLayer loop level).prevLevel = level ∧ (awardLayer loop level).state =
      distributeChips loop.state (layerPayees loop.state level) (layerAmount loop.state loop.prevLevel level) := by
  unfold awardLayer layerAmount layerPayees
  by_cases nobody : contributorsAtOrAbove loop.state level = []
  · have unpaid (seatNos : List Int) : distributeChips loop.state seatNos 0 = loop.state := if_pos (.inl (le_refl _))
    simp [nobody,unpaid]
  · have count : 0 < (contributorsAtOrAbove loop.state level).length := List.length_pos_iff.mpr nobody
    have positive : 0 < (level - loop.prevLevel) * ((contributorsAtOrAbove loop.state level).length : Int) :=
      Int.mul_pos (by omega) (by omega)
    simp only [nobody,if_false,if_neg (not_le.mpr positive)]
    by_cases alone : (contributorsAtOrAbove loop.state level).length = 1
    · simp [alone]
    · by_cases unclaimed : eligibleContendersAtOrAbove loop.state level = []
      · simp [alone,unclaimed]
      · simp [alone,unclaimed]

theorem mem_contributors (member : seatNo ∈ state.seats.keys) (level : Int) :
    seatNo ∈ contributorsAtOrAbove state level ↔ level ≤ committed state seatNo := by
  have found := get?_of_mem_keys member
  unfold contributorsAtOrAbove
  rw [OrdMap.mem_keysWhere]
  constructor
  · rintro ⟨seat,held,reaches⟩
    rw [committed,seat_of_get? held]
    simpa using reaches
  · intro reaches
    exact ⟨_,found,by simpa [committed] using reaches⟩

theorem mem_eligible (level : Int) :
    seatNo ∈ eligibleContendersAtOrAbove state level ↔
      seatNo ∈ contenderSeatNos state ∧ level ≤ committed state seatNo := by
  unfold eligibleContendersAtOrAbove
  rw [OrdMap.mem_keysWhere,mem_contenderSeatNos]
  constructor
  · rintro ⟨seat,held,reaches⟩
    simp only [Bool.and_eq_true,Bool.not_eq_true',decide_eq_false_iff_not,not_lt] at reaches
    exact ⟨⟨seat,held,reaches.2⟩,by rw [committed,seat_of_get? held]; exact reaches.1⟩
  · rintro ⟨⟨seat,held,contends⟩,reaches⟩
    rw [committed,seat_of_get? held] at reaches
    exact ⟨seat,held,by simp [contends,reaches]⟩

theorem layerPayees_subset (state : State) (level : Int) :
    ∀ seatNo ∈ layerPayees state level, seatNo ∈ contributorsAtOrAbove state level := by
  intro seatNo member
  unfold layerPayees at member
  split_ifs at member
  · exact member
  · have eligible := bestShowdownSeats_subset _ _ seatNo member
    have reaches := ((mem_eligible level).mp eligible).2
    exact (mem_contributors (eligible_subset _ _ seatNo eligible) level).mpr reaches

section Winners
variable {value : Int → Int} {best : Int}

theorem bestStep_holds (seatNos : List Int) (below : ∀ seatNo ∈ seatNos, seatNo ≠ best → value seatNo < value best)
    (fresh : best ∉ seatNos) : seatNos.foldl (bestStep value) (value best,[best]) = (value best,[best]) := by
  induction seatNos with
  | nil => rfl
  | cons head rest ih =>
    have lower := below head List.mem_cons_self (fun same => fresh (same ▸ List.mem_cons_self))
    rw [List.foldl_cons,bestStep,if_neg (by omega),if_neg (by dsimp only; omega)]
    exact ih (fun seatNo member => below seatNo (List.mem_cons_of_mem _ member))
      (fun member => fresh (List.mem_cons_of_mem _ member))

theorem bestStep_strict (seatNos : List Int) (start : Int × List Int) (member : best ∈ seatNos)
    (distinct : seatNos.Nodup) (below : ∀ seatNo ∈ seatNos, seatNo ≠ best → value seatNo < value best)
    (low : start.1 < value best) : seatNos.foldl (bestStep value) start = (value best,[best]) := by
  induction seatNos generalizing start with
  | nil => cases member
  | cons head rest ih =>
    obtain ⟨fresh,tail⟩ := List.nodup_cons.mp distinct
    rw [List.foldl_cons]
    rcases List.mem_cons.mp member with rfl | later
    · rw [bestStep,if_pos low]
      exact bestStep_holds rest (fun seatNo inside => below seatNo (List.mem_cons_of_mem _ inside)) fresh
    · have other : head ≠ best := fun same => fresh (same ▸ later)
      refine ih _ later tail (fun seatNo inside => below seatNo (List.mem_cons_of_mem _ inside)) ?_
      have lower := below head List.mem_cons_self other
      unfold bestStep
      split_ifs
      · exact lower
      · exact low
      · exact low

end Winners

theorem layerPayees_best (strict : StrictlyBest state seatNo) (shows : 0 ≤ worth state seatNo)
    (reaches : level ≤ committed state seatNo) :
    layerPayees state level = [seatNo] := by
  have eligible : seatNo ∈ eligibleContendersAtOrAbove state level := (mem_eligible level).mpr ⟨strict.1,reaches⟩
  have contributes := (mem_contributors (eligible_subset _ _ _ eligible) level).mpr reaches
  unfold layerPayees
  split_ifs with alone
  · rcases alone with single | empty
    · obtain ⟨only,listed⟩ := List.length_eq_one_iff.mp single
      rw [listed] at contributes ⊢
      rw [List.mem_singleton.mp contributes]
    · rw [empty] at eligible
      cases eligible
  · have winner := @bestStep_strict (worth state) _ (eligibleContendersAtOrAbove state level) (-1,[]) eligible
      (OrdMap.keysWhere_nodup _ _)
      (fun rival member differ => strict.2 rival ((mem_eligible level).mp member).1 differ) (by dsimp only; omega)
    change ((eligibleContendersAtOrAbove state level).foldl (bestStep (worth state)) (-1,[])).2.insertionSort (· ≤ ·) = _
    rw [winner]
    rfl

theorem layerPayees_folded {seat : Seat} (level : Int) (found : state.seats.get? seatNo = some seat)
    (folded : seat.folded = true) (covered : Covered state seatNo) :
    seatNo ∉ layerPayees state level := by
  obtain ⟨rival,contends,more⟩ := covered
  have out : seatNo ∉ contenderSeatNos state := by
    rintro contends
    obtain ⟨held,heldFound,inside⟩ := mem_contenderSeatNos.mp contends
    rw [found,Option.some.injEq] at heldFound
    subst heldFound
    simp [isContender,folded] at inside
  intro paid
  have contributes := layerPayees_subset state level seatNo paid
  have reaches := (mem_contributors (contributors_subset _ _ _ contributes) level).mp contributes
  have eligible : rival ∈ eligibleContendersAtOrAbove state level := (mem_eligible level).mpr ⟨contends,reaches.trans more⟩
  have both := (mem_contributors (eligible_subset _ _ _ eligible) level).mpr (reaches.trans more)
  unfold layerPayees at paid
  split_ifs at paid with alone
  · rcases alone with single | empty
    · obtain ⟨only,listed⟩ := List.length_eq_one_iff.mp single
      rw [listed,List.mem_singleton] at contributes both
      rw [contributes,← both] at out
      exact out contends
    · rw [empty] at eligible
      cases eligible
  · exact out ((mem_eligible level).mp (bestShowdownSeats_subset _ _ seatNo paid)).1

theorem layerPayees_nonempty (level : Int) (shows : ∀ seatNo ∈ contenderSeatNos state, 0 ≤ worth state seatNo)
    (somebody : contributorsAtOrAbove state level ≠ []) : layerPayees state level ≠ [] := by
  unfold layerPayees
  split_ifs with alone
  · exact somebody
  · push Not at alone
    obtain ⟨first,rest,listed⟩ := List.exists_cons_of_ne_nil alone.2
    have first_eligible : first ∈ eligibleContendersAtOrAbove state level := by
      rw [listed]
      exact List.mem_cons_self
    rw [listed]
    exact bestShowdownSeats_found state first rest (shows first ((mem_eligible level).mp first_eligible).1)

def holding (state : State) (seatNo level : Int) : Int :=
  committedUpTo state (min (committed state seatNo) level)

structure Awarded (start : State) (loop : AwardLoop) : Prop where
  bets : bets loop.state = bets start
  shown : worth loop.state = worth start
  bounded : ∀ seatNo ∈ start.seats.keys, won loop.state seatNo ≤ won start seatNo + holding start seatNo loop.prevLevel
  best : ∀ seatNo, StrictlyBest start seatNo → 0 ≤ worth start seatNo →
    won loop.state seatNo = won start seatNo + holding start seatNo loop.prevLevel
  folded : ∀ seatNo seat, start.seats.get? seatNo = some seat → seat.folded = true → Covered start seatNo →
    won loop.state seatNo = won start seatNo
  total : (∀ seatNo ∈ contenderSeatNos start, 0 ≤ worth start seatNo) →
    totalWon loop.state = totalWon start + committedUpTo start loop.prevLevel

theorem mem_commitments (member : seatNo ∈ state.seats.keys) :
    (seatNo,(state.seat seatNo).bet) ∈ commitments state := by
  have found := OrdMap.get?_eq_some_iff.mp (get?_of_mem_keys member)
  exact List.mem_map.mpr ⟨_,found,rfl⟩

theorem committed_commitments (member : seatNo ∈ state.seats.keys) :
    ∃ entry ∈ commitments state, entry.2.committed = committed state seatNo :=
  ⟨_,mem_commitments member,rfl⟩

theorem holding_step {prev : Int} (member : seatNo ∈ start.seats.keys) (above : prev < level)
    (gap : ∀ entry ∈ commitments start, entry.2.committed ≤ prev ∨ level ≤ entry.2.committed) :
    (level ≤ committed start seatNo ∧
      holding start seatNo level = holding start seatNo prev + layerAmount start prev level) ∨
    (seatNo ∉ contributorsAtOrAbove start level ∧ holding start seatNo level = holding start seatNo prev) := by
  obtain ⟨entry,inside,same⟩ := committed_commitments member
  have side := gap entry inside
  rw [same] at side
  unfold holding
  rcases side with low | high
  · refine .inr ⟨fun contributes => ?_,?_⟩
    · have reaches := (mem_contributors member level).mp contributes
      omega
    · rw [min_eq_left low,min_eq_left (low.trans above.le)]
  · refine .inl ⟨high,?_⟩
    rw [min_eq_right high,min_eq_right (above.le.trans high)]
    exact layerAmount_capped start prev level above.le gap

theorem Awarded.layer (awarded : Awarded start loop) (level : Int) (above : loop.prevLevel < level)
    (gap : ∀ entry ∈ commitments start, entry.2.committed ≤ loop.prevLevel ∨ level ≤ entry.2.committed) :
    (awardLayer loop level).prevLevel = level ∧ Awarded start (awardLayer loop level) := by
  obtain ⟨reached,distributes⟩ := awardLayer_distributes loop level above
  have contributors : contributorsAtOrAbove loop.state level = contributorsAtOrAbove start level := by
    rw [contributors_bets,awarded.bets,← contributors_bets]
  have keys : loop.state.seats.keys = start.seats.keys := by
    rw [← bets_keys,awarded.bets,bets_keys]
  have amount : layerAmount loop.state loop.prevLevel level = layerAmount start loop.prevLevel level := by
    unfold layerAmount
    rw [contributors]
  have enough : 0 ≤ layerAmount start loop.prevLevel level := by
    unfold layerAmount
    exact Int.mul_nonneg (by omega) (by omega)
  rw [layerPayees_congr level awarded.bets awarded.shown,amount] at distributes
  obtain ⟨pay,gains,fair⟩ := distributeChips_gains loop.state (layerPayees start level) _ enough (by
    intro seatNo member
    rw [keys]
    exact contributors_subset _ _ _ (layerPayees_subset start level seatNo member))
  rw [← distributes] at gains
  refine ⟨reached,gains.bets.trans awarded.bets,gains.worth.trans awarded.shown,?_,?_,?_,?_⟩
  · intro seatNo member
    have before := awarded.bounded seatNo member
    have paid := gains.won seatNo
    have most := fair.bounded seatNo
    rw [reached]
    rcases holding_step member above gap with ⟨_,more⟩ | ⟨outside,same⟩
    · omega
    · have nothing := fair.outside seatNo fun payee => outside (layerPayees_subset start level seatNo payee)
      omega
  · intro seatNo strict shows
    have member : seatNo ∈ start.seats.keys := (OrdMap.keysWhere_sublist _ _).subset strict.1
    have before := awarded.best seatNo strict shows
    have paid := gains.won seatNo
    rw [reached]
    rcases holding_step member above gap with ⟨reaches,more⟩ | ⟨outside,same⟩
    · have whole := fair.alone seatNo (layerPayees_best strict shows reaches)
      omega
    · have nothing := fair.outside seatNo fun payee => outside (layerPayees_subset start level seatNo payee)
      omega
  · intro seatNo seat found folded covered
    have before := awarded.folded seatNo seat found folded covered
    have paid := gains.won seatNo
    have nothing := fair.outside seatNo (layerPayees_folded level found folded covered)
    omega
  · intro shows
    have before := awarded.total shows
    have paid := gains.total
    have step := layerAmount_capped start loop.prevLevel level above.le gap
    rw [reached]
    split_ifs at paid with nobody
    · have empty : contributorsAtOrAbove start level = [] := by
        by_contra somebody
        exact layerPayees_nonempty level shows somebody nobody
      have zero : layerAmount start loop.prevLevel level = 0 := by simp [layerAmount,empty]
      omega
    · omega

theorem Awarded.layers (levels : List Int) (awarded : Awarded start loop) (increasing : levels.Pairwise (· < ·))
    (ahead : ∀ level ∈ levels, loop.prevLevel < level)
    (covered : ∀ entry ∈ commitments start, entry.2.committed ≤ loop.prevLevel ∨ entry.2.committed ∈ levels) :
    Awarded start (levels.foldl awardLayer loop) ∧
      ∀ entry ∈ commitments start, entry.2.committed ≤ (levels.foldl awardLayer loop).prevLevel := by
  induction levels generalizing loop with
  | nil => exact ⟨awarded,fun entry member => (covered entry member).resolve_right List.not_mem_nil⟩
  | cons level rest ih =>
    obtain ⟨later,ordered⟩ := List.pairwise_cons.mp increasing
    have above := ahead level List.mem_cons_self
    have gap : ∀ entry ∈ commitments start, entry.2.committed ≤ loop.prevLevel ∨ level ≤ entry.2.committed := by
      intro entry member
      refine (covered entry member).imp id fun inside => ?_
      rcases List.mem_cons.mp inside with equal | tail
      · exact equal.ge
      · exact (later _ tail).le
    obtain ⟨reached,stepped⟩ := awarded.layer level above gap
    refine ih stepped ordered (fun next member => ?_) (fun entry member => ?_)
    · rw [reached]
      exact later next member
    · rw [reached]
      rcases covered entry member with low | inside
      · exact .inl (low.trans above.le)
      · exact (List.mem_cons.mp inside).imp (fun equal => equal.le) id

theorem holding_top (member : seatNo ∈ state.seats.keys) (top : ∀ entry ∈ commitments state, entry.2.committed ≤ level) :
    holding state seatNo level = contestable state seatNo := by
  obtain ⟨entry,inside,same⟩ := committed_commitments member
  have bounded := top entry inside
  rw [same] at bounded
  unfold holding contestable committedUpTo commitments Shares.capped bets OrdMap.sumBy
  rw [min_eq_left bounded]
  simp only [OrdMap.mapVals,List.map_map]
  congr 1
  apply List.map_congr_left
  intro other _
  exact min_comm _ _

theorem committedUpTo_top (top : ∀ entry ∈ commitments state, entry.2.committed ≤ level) :
    committedUpTo state level = totalCommitted state := by
  rw [totalCommitted_bets]
  exact Shares.capped_top _ _ level top

theorem awardLayers_awarded (nonneg : CommittedNonneg state) :
    Awarded state (awardLayers state) ∧
      ∀ entry ∈ commitments state, entry.2.committed ≤ (awardLayers state).prevLevel := by
  have held := commitments_nonneg nonneg
  have bottom : committedUpTo state 0 = 0 :=
    Shares.capped_bottom (fun entry : Int × Bet => entry.2.committed) (commitments state) held
  have nothing (seatNo : Int) (member : seatNo ∈ state.seats.keys) : holding state seatNo 0 = 0 := by
    obtain ⟨entry,inside,same⟩ := committed_commitments member
    have low := held entry inside
    rw [same] at low
    unfold holding
    rw [min_eq_right low,bottom]
  have start : Awarded state ⟨state,0,OrdMap.empty⟩ := by
    refine ⟨rfl,rfl,fun seatNo member => ?_,fun seatNo strict _ => ?_,fun _ _ _ _ _ => rfl,fun _ => ?_⟩
    · rw [nothing seatNo member,Int.add_zero]
    · rw [nothing seatNo ((OrdMap.keysWhere_sublist _ _).subset strict.1),Int.add_zero]
    · rw [bottom,Int.add_zero]
  refine start.layers (commitmentLevels state) (commitmentLevels_increasing state)
    (fun level member => ((commitmentLevels_mem state level).mp member).1) (fun entry member => ?_)
  rcases (held entry member).eq_or_lt with zero | positive
  · exact .inl zero.ge
  · exact .inr ((commitmentLevels_mem state _).mpr ⟨positive,entry,member,rfl⟩)

structure Settled (start : State) (after : State) : Prop where
  bounded : ∀ seatNo ∈ start.seats.keys, won after seatNo ≤ contestable start seatNo
  best : ∀ seatNo, StrictlyBest start seatNo → 0 ≤ worth start seatNo → won after seatNo = contestable start seatNo
  folded : ∀ seatNo seat, start.seats.get? seatNo = some seat → seat.folded = true → Covered start seatNo →
    won after seatNo = 0
  total : (∀ seatNo ∈ contenderSeatNos start, 0 ≤ worth start seatNo) → totalWon after = start.potMain

theorem totalWon_fresh (fresh : ∀ seatNo, won state seatNo = 0) : totalWon state = 0 := by
  apply List.sum_eq_zero
  intro chips member
  obtain ⟨entry,inside,rfl⟩ := List.mem_map.mp member
  have zero := fresh entry.1
  rwa [won,seat_of_get? (OrdMap.get?_eq_some_iff.mpr inside)] at zero

theorem Awarded.settled (awarded : Awarded state loop)
    (top : ∀ entry ∈ commitments state, entry.2.committed ≤ loop.prevLevel) (fresh : ∀ seatNo, won state seatNo = 0)
    (pot : state.potMain = totalCommitted state) :
    Settled state loop.state := by
  refine ⟨fun seatNo member => ?_,fun seatNo strict shows => ?_,fun seatNo seat found folded covered => ?_,fun shows => ?_⟩
  · have bound := awarded.bounded seatNo member
    rw [fresh,holding_top member top] at bound
    omega
  · have whole := awarded.best seatNo strict shows
    rw [fresh,holding_top ((OrdMap.keysWhere_sublist _ _).subset strict.1) top] at whole
    omega
  · rw [awarded.folded seatNo seat found folded covered,fresh]
  · have all := awarded.total shows
    have none := totalWon_fresh fresh
    rw [committedUpTo_top top] at all
    omega

theorem closeSeat_won (seat : Seat) : (closeSeat seat).wonThisHand = seat.wonThisHand := by
  unfold closeSeat
  split_ifs <;> rfl

theorem applyCloseHand_won {awarded : State × List Int}
    (award : awardPot { state with handClosed := true, actingSeatNo := 0, currentToCall := 0 }
      (resolveWinners state) = awarded) :
    won (applyCloseHand state).1 = won awarded.1 ∧ totalWon (applyCloseHand state).1 = totalWon awarded.1 := by
  have seats : (applyCloseHand state).1.seats = awarded.1.seats.mapVals fun _ seat => closeSeat seat := by
    rw [← award]
    rfl
  constructor
  · funext seatNo
    unfold won State.seat
    rw [seats,OrdMap.get?_mapVals]
    cases awarded.1.seats.get? seatNo with
    | none => rfl
    | some seat => exact closeSeat_won seat
  · unfold totalWon
    rw [seats,OrdMap.sumBy_mapVals]
    exact OrdMap.sumBy_congr _ fun _ seat _ => closeSeat_won seat

theorem contestable_nonneg (nonneg : CommittedNonneg state) (member : seatNo ∈ state.seats.keys)
    : 0 ≤ contestable state seatNo := by
  apply List.sum_nonneg
  intro amount inside
  obtain ⟨entry,listed,rfl⟩ := List.mem_map.mp inside
  exact le_min (nonneg seatNo _ (get?_of_mem_keys member)) (nonneg entry.1 entry.2 (OrdMap.get?_eq_some_iff.mpr listed))

theorem contestable_le {state : State} (seatNo : Int) : contestable state seatNo ≤ totalCommitted state := by
  apply List.sum_le_sum
  intro entry _
  exact min_le_right _ _

theorem unpaid_settled (nonneg : CommittedNonneg state) (fresh : ∀ seatNo, won state seatNo = 0)
    (pot : state.potMain = totalCommitted state) (contested : contenderSeatNos state ≠ [])
    (nobody : state.potMain ≤ 0 ∨ resolveWinners state = []) : Settled state state := by
  refine ⟨fun seatNo member => ?_,fun seatNo strict shows => ?_,fun seatNo _ _ _ _ => fresh seatNo,fun shows => ?_⟩
  · rw [fresh]
    exact contestable_nonneg nonneg member
  · have low := contestable_nonneg nonneg ((OrdMap.keysWhere_sublist _ _).subset strict.1)
    have high := @contestable_le state seatNo
    rcases nobody with empty | unresolved
    · rw [fresh]
      omega
    · have winner := @bestStep_strict (worth state) _ (contenderSeatNos state) (-1,[]) strict.1 (OrdMap.keysWhere_nodup _ _)
        strict.2 (by dsimp only; omega)
      change ((contenderSeatNos state).foldl (bestStep (worth state)) (-1,[])).2.insertionSort (· ≤ ·) = [] at unresolved
      rw [winner] at unresolved
      exact absurd unresolved (List.cons_ne_nil _ _)
  · rw [totalWon_fresh fresh]
    rcases nobody with empty | unresolved
    · have positive : 0 ≤ totalCommitted state := by
        apply List.sum_nonneg
        intro amount inside
        obtain ⟨entry,listed,rfl⟩ := List.mem_map.mp inside
        exact nonneg entry.1 entry.2 (OrdMap.get?_eq_some_iff.mpr listed)
      omega
    · obtain ⟨first,rest,listed⟩ := List.exists_cons_of_ne_nil contested
      rw [resolveWinners,listed] at unresolved
      exact absurd unresolved (bestShowdownSeats_found state first rest (shows first (by rw [listed]; exact List.mem_cons_self)))

/-- A seat wins at most what every seat put in up to its own bet; the best hand
shown wins exactly that, a folded seat whose bet is matched nothing, and the
winnings add up to the pot. -/
theorem closeHand_settles {state : State} (nonneg : CommittedNonneg state) (fresh : ∀ seatNo, won state seatNo = 0)
    (pot : state.potMain = totalCommitted state) (contested : contenderSeatNos state ≠ []) :
    Settled state (applyCloseHand state).1 := by
  cases award : awardPot { state with handClosed := true, actingSeatNo := 0, currentToCall := 0 }
    (resolveWinners state) with
  | mk awarded potWinners =>
    obtain ⟨each,all⟩ := applyCloseHand_won award
    have settled : Settled state awarded := by
      unfold awardPot at award
      dsimp only at award
      split_ifs at award with nobody uncommitted
      · cases award
        have unpaid := unpaid_settled nonneg fresh pot contested nobody
        exact ⟨unpaid.bounded,unpaid.best,unpaid.folded,unpaid.total⟩
      · push Not at nobody
        change totalCommitted state ≤ 0 at uncommitted
        omega
      · cases award
        have closed : CommittedNonneg { state with handClosed := true, actingSeatNo := 0, currentToCall := 0 } := nonneg
        obtain ⟨layered,top⟩ := awardLayers_awarded closed
        have paid := layered.settled top fresh pot
        exact ⟨paid.bounded,paid.best,paid.folded,paid.total⟩
    refine ⟨fun seatNo member => ?_,fun seatNo strict shows => ?_,fun seatNo seat found folded covered => ?_,fun shows => ?_⟩
    · rw [each]
      exact settled.bounded seatNo member
    · rw [each]
      exact settled.best seatNo strict shows
    · rw [each]
      exact settled.folded seatNo seat found folded covered
    · rw [all]
      exact settled.total shows

def sidePotTable (shown : Int) : State :=
  { handNumber := 5
    currentPhase := .wager
    potMain := 500
    seats := OrdMap.ofList
      [(1,{ seatNo := 1, state := .active, committedThisHand := 100, showdownValue := shown, allInThisHand := true }),
       (2,{ seatNo := 2, state := .active, committedThisHand := 200, showdownValue := shown - 19, allInThisHand := true }),
       (3,{ seatNo := 3, state := .active, committedThisHand := 200, showdownValue := shown - 29, allInThisHand := true })] }

theorem won_fresh (none : state.seats.All fun _ seat => seat.wonThisHand = 0) (seatNo : Int) :
    won state seatNo = 0 := by
  unfold won State.seat
  cases found : state.seats.get? seatNo with
  | none => rfl
  | some seat => exact none seatNo seat found

theorem closeHand_settles_side_pots :
    won (applyCloseHand (sidePotTable 99)).1 1 = 300 ∧ totalWon (applyCloseHand (sidePotTable 99)).1 = 500 := by
  have nonneg : CommittedNonneg (sidePotTable 99) := by
    unfold CommittedNonneg
    decide
  have settled := closeHand_settles nonneg (won_fresh (by decide)) (by decide) (by decide)
  exact ⟨settled.best 1 (by unfold StrictlyBest; decide) (by decide),settled.total (by decide)⟩

/-- Hands all shown below the search's start value win nothing: the pot is gone. -/
theorem closeHand_loses_the_pot :
    CommittedNonneg (sidePotTable (-5)) ∧ (∀ seatNo, won (sidePotTable (-5)) seatNo = 0) ∧
      (sidePotTable (-5)).potMain = totalCommitted (sidePotTable (-5)) ∧ contenderSeatNos (sidePotTable (-5)) ≠ [] ∧
      StrictlyBest (sidePotTable (-5)) 1 ∧
      won (applyCloseHand (sidePotTable (-5))).1 1 ≠ contestable (sidePotTable (-5)) 1 ∧
      totalWon (applyCloseHand (sidePotTable (-5))).1 ≠ (sidePotTable (-5)).potMain :=
  ⟨by unfold CommittedNonneg; decide,won_fresh (by decide),by decide,by decide,by unfold StrictlyBest; decide,
    by decide,by decide⟩

end Clawchain.Arena.Table
