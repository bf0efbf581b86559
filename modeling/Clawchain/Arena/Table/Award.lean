import Clawchain.Arena.Table.Engine
import Clawchain.Lib.Shares
import Mathlib.Data.List.Dedup
import Mathlib.Order.Bounds.Basic

/-! The award of the pot at the close of a hand. Payments move stacks only,
and the layers between successive commitment levels add up to exactly what was
committed, so the award pays out the whole pot. -/
namespace Clawchain.Arena.Table
open Clawchain.Lib

def stackSum (state : State) : Int := state.seats.sumBy fun _ seat => seat.stack

structure Bet where
  committed : Int
  state : SeatState
  (folded allIn : Bool)
  deriving DecidableEq

def Seat.bet (seat : Seat) : Bet := ⟨seat.committedThisHand,seat.state,seat.folded,seat.allInThisHand⟩

def bets (state : State) : OrdMap Int Bet := state.seats.mapVals fun _ seat => seat.bet

theorem bets_keys (state : State) : (bets state).keys = state.seats.keys := OrdMap.keys_mapVals _ _

theorem totalCommitted_bets (state : State) :
    totalCommitted state = (bets state).sumBy fun _ bet => bet.committed := by
  rw [bets,OrdMap.sumBy_mapVals]
  rfl

theorem contributors_bets (state : State) (level : Int) :
    contributorsAtOrAbove state level =
      (bets state).keysWhere fun _ bet => !(bet.committed < level) := by
  rw [bets,OrdMap.keysWhere_mapVals]
  rfl

theorem eligible_bets (state : State) (level : Int) :
    eligibleContendersAtOrAbove state level = (bets state).keysWhere fun _ bet =>
      !(bet.committed < level) && (bet.state != .eliminated && !bet.folded) := by
  rw [bets,OrdMap.keysWhere_mapVals]
  rfl

variable {state : State}

theorem seat_of_get? {seatNo : Int} {seat : Seat} (found : state.seats.get? seatNo = some seat)
    : state.seat seatNo = seat := by
  simp [State.seat,found]

theorem get?_of_mem_keys {seatNo : Int} (member : seatNo ∈ state.seats.keys) :
    state.seats.get? seatNo = some (state.seat seatNo) := by
  obtain ⟨seat,found⟩ := OrdMap.mem_keys_iff.mp member
  rw [seat_of_get? found,found]

def SeatsNumbered (state : State) : Prop := ∀ seatNo ∈ state.seats.keys, 1 ≤ seatNo

def StacksNonneg (state : State) : Prop := state.seats.All fun _ seat => 0 ≤ seat.stack

def ShowdownNonneg (state : State) : Prop := state.seats.All fun _ seat => 0 ≤ seat.showdownValue

theorem deterministicShowdownValue_nonneg (handNumber : Nat) (seatNo : Int) (numbered : 1 ≤ seatNo) :
    0 ≤ deterministicShowdownValue handNumber seatNo := by
  unfold deterministicShowdownValue
  apply Int.tmod_nonneg
  split_ifs <;> omega

theorem paySeat_bets (state : State) (seatNo chips : Int) (member : seatNo ∈ state.seats.keys) :
    bets (paySeat state seatNo chips) = bets state := by
  apply OrdMap.ext_get?
  intro k
  simp only [bets,paySeat,OrdMap.get?_mapVals,OrdMap.get?_insert]
  by_cases same : k = seatNo
  · subst same
    rw [if_pos rfl,get?_of_mem_keys member]
    rfl
  · rw [if_neg same]

theorem paySeat_keys (state : State) (seatNo chips : Int) (member : seatNo ∈ state.seats.keys) :
    (paySeat state seatNo chips).seats.keys = state.seats.keys := OrdMap.keys_insert_of_mem _ _ member

theorem paySeat_stackSum (state : State) (seatNo chips : Int) (member : seatNo ∈ state.seats.keys) :
    stackSum (paySeat state seatNo chips) = stackSum state + chips := by
  unfold stackSum paySeat
  rw [OrdMap.sumBy_insert_of_get? _ _ _ (get?_of_mem_keys member)]
  ring

theorem paySeat_solvent (state : State) (seatNo chips : Int) (member : seatNo ∈ state.seats.keys)
    (nonneg : 0 ≤ chips) (solvent : StacksNonneg state) : StacksNonneg (paySeat state seatNo chips) := by
  have held := solvent seatNo _ (get?_of_mem_keys member)
  exact OrdMap.All.insert solvent (by dsimp only; omega)

theorem paySeat_showdown (state : State) (seatNo chips : Int) (member : seatNo ∈ state.seats.keys)
    (numbered : SeatsNumbered state) (showdown : ShowdownNonneg state) :
    ShowdownNonneg (paySeat state seatNo chips) := by
  refine OrdMap.All.insert showdown ?_
  dsimp only
  split_ifs
  · exact deterministicShowdownValue_nonneg _ _ (numbered seatNo member)
  · exact showdown seatNo _ (get?_of_mem_keys member)

structure Paid (before after : State) (chips : Int) : Prop where
  bets : bets after = bets before
  stackSum : stackSum after = stackSum before + chips
  potMain : after.potMain = before.potMain
  currentPhase : after.currentPhase = before.currentPhase
  handNumber : after.handNumber = before.handNumber
  handClosed : after.handClosed = before.handClosed
  actingSeatNo : after.actingSeatNo = before.actingSeatNo
  solvent : StacksNonneg before → StacksNonneg after
  showdown : SeatsNumbered before → ShowdownNonneg before → ShowdownNonneg after

theorem Paid.refl (state : State) : Paid state state 0 :=
  ⟨rfl,(Int.add_zero _).symm,rfl,rfl,rfl,rfl,rfl,id,fun _ => id⟩

theorem Paid.keys {before after : State} {chips : Int} (paid : Paid before after chips) :
    after.seats.keys = before.seats.keys := by
  rw [← bets_keys,paid.bets,bets_keys]

theorem Paid.numbered {before after : State} {chips : Int} (paid : Paid before after chips)
    (numbered : SeatsNumbered before) : SeatsNumbered after := by
  unfold SeatsNumbered
  rwa [paid.keys]

theorem Paid.trans {first second third : State} {a b : Int}
    (left : Paid first second a) (right : Paid second third b) : Paid first third (a + b) where
  bets := right.bets.trans left.bets
  stackSum := by rw [right.stackSum,left.stackSum,Int.add_assoc]
  potMain := right.potMain.trans left.potMain
  currentPhase := right.currentPhase.trans left.currentPhase
  handNumber := right.handNumber.trans left.handNumber
  handClosed := right.handClosed.trans left.handClosed
  actingSeatNo := right.actingSeatNo.trans left.actingSeatNo
  solvent := fun nonneg => right.solvent (left.solvent nonneg)
  showdown := fun numbered nonneg =>
    right.showdown (left.numbered numbered) (left.showdown numbered nonneg)

theorem paySeat_paid (state : State) (seatNo chips : Int) (member : seatNo ∈ state.seats.keys)
    (nonneg : 0 ≤ chips) : Paid state (paySeat state seatNo chips) chips :=
  ⟨paySeat_bets _ _ _ member,paySeat_stackSum _ _ _ member,rfl,rfl,rfl,rfl,rfl,
    paySeat_solvent _ _ _ member nonneg,paySeat_showdown _ _ _ member⟩

theorem payAll_paid (seats : List (Int × Nat)) (pay : Nat → Int) (nonneg : ∀ idx, 0 ≤ pay idx)
    (state : State) (present : ∀ entry ∈ seats, entry.1 ∈ state.seats.keys) :
    Paid state (seats.foldl (fun next entry => paySeat next entry.1 (pay entry.2)) state)
      ((seats.map fun entry => pay entry.2).sum) := by
  induction seats generalizing state with
  | nil => exact Paid.refl state
  | cons entry rest ih =>
    have head := paySeat_paid state entry.1 (pay entry.2) (present entry List.mem_cons_self) (nonneg _)
    have tail := ih (paySeat state entry.1 (pay entry.2)) fun e member => by
      rw [head.keys]
      exact present e (List.mem_cons_of_mem _ member)
    simpa only [List.foldl_cons,List.map_cons,List.sum_cons] using head.trans tail

theorem payout_sum (amount : Int) (seatNos : List Int) (somebody : seatNos ≠ []) :
    (seatNos.zipIdx.map fun entry => payout amount seatNos.length entry.2).sum = amount := by
  have indices : seatNos.zipIdx.map (fun entry => payout amount seatNos.length entry.2) =
      (List.range seatNos.length).map (Shares.share amount seatNos.length) := by
    rw [← List.zipIdx_map_snd 0 seatNos |>.trans (List.range_eq_range' ).symm,List.map_map]
    rfl
  rw [indices]
  exact Shares.sum_share amount seatNos.length (List.length_pos_iff.mpr somebody)

theorem distributeChips_paid (state : State) (seatNos : List Int) (amount : Int)
    (positive : 0 < amount) (somebody : seatNos ≠ []) (present : ∀ seatNo ∈ seatNos, seatNo ∈ state.seats.keys) :
    Paid state (distributeChips state seatNos amount) amount := by
  have paid := payAll_paid seatNos.zipIdx (payout amount seatNos.length)
    (fun idx => Shares.share_nonneg amount seatNos.length idx positive.le) state
    (fun entry member => present entry.1 (List.fst_mem_of_mem_zipIdx member))
  rw [payout_sum amount seatNos somebody] at paid
  unfold distributeChips
  rwa [if_neg (by simp [positive,somebody])]

theorem bestStep_subset (value : Int → Int) (seatNos : List Int) (best : Int × List Int) :
    ∀ seatNo ∈ (seatNos.foldl (bestStep value) best).2, seatNo ∈ best.2 ∨ seatNo ∈ seatNos := by
  induction seatNos generalizing best with
  | nil => exact fun seatNo member => .inl member
  | cons head rest ih =>
    intro seatNo member
    rcases ih (bestStep value best head) seatNo member with kept | later
    · unfold bestStep at kept
      split_ifs at kept
      · exact .inr (by simp_all)
      · rcases List.mem_append.mp kept with old | new
        · exact .inl old
        · exact .inr (by simp_all)
      · exact .inl kept
    · exact .inr (List.mem_cons_of_mem _ later)

theorem bestStep_nonempty (value : Int → Int) (seatNos : List Int) (best : Int × List Int)
    (present : best.2 ≠ []) : (seatNos.foldl (bestStep value) best).2 ≠ [] := by
  induction seatNos generalizing best with
  | nil => exact present
  | cons head rest ih =>
    apply ih
    unfold bestStep
    split_ifs <;> simp [present]

theorem bestShowdownSeats_subset (state : State) (seatNos : List Int) :
    ∀ seatNo ∈ bestShowdownSeats state seatNos, seatNo ∈ seatNos := by
  intro seatNo member
  rw [bestShowdownSeats,List.mem_insertionSort] at member
  exact (bestStep_subset _ seatNos (-1,[]) seatNo member).resolve_left List.not_mem_nil

theorem showdownValue_nonneg (state : State) (seatNo : Int) (seat : Seat) (numbered : 1 ≤ seatNo)
    (nonneg : 0 ≤ seat.showdownValue) : 0 ≤ showdownValue state seatNo seat := by
  unfold showdownValue
  split_ifs
  · exact nonneg
  · exact deterministicShowdownValue_nonneg _ _ numbered

theorem bestShowdownSeats_found (state : State) (first : Int) (rest : List Int)
    (value : 0 ≤ showdownValue state first (state.seat first)) : bestShowdownSeats state (first :: rest) ≠ [] := by
  have found : (rest.foldl (bestStep fun seatNo => showdownValue state seatNo (state.seat seatNo))
      (showdownValue state first (state.seat first),[first])).2 ≠ [] :=
    bestStep_nonempty _ rest _ (by simp)
  intro empty
  apply found
  have emptied := List.perm_nil.mp ((List.perm_insertionSort (· ≤ ·) _).symm.trans (List.Perm.of_eq empty))
  rw [List.foldl_cons,bestStep,if_pos (by omega)] at emptied
  exact emptied

theorem bestShowdownSeats_nonempty (state : State) (seatNos : List Int) (somebody : seatNos ≠ [])
    (numbered : SeatsNumbered state) (showdown : ShowdownNonneg state)
    (present : ∀ seatNo ∈ seatNos, seatNo ∈ state.seats.keys) : bestShowdownSeats state seatNos ≠ [] := by
  obtain ⟨first,rest,rfl⟩ := List.exists_cons_of_ne_nil somebody
  have member := present first List.mem_cons_self
  exact bestShowdownSeats_found state first rest (showdownValue_nonneg state first (state.seat first)
    (numbered first member) (showdown first _ (get?_of_mem_keys member)))

theorem eligible_subset (state : State) (level : Int) :
    ∀ seatNo ∈ eligibleContendersAtOrAbove state level, seatNo ∈ state.seats.keys := fun _ member =>
  (OrdMap.keysWhere_sublist _ _).subset member

theorem contributors_subset (state : State) (level : Int) :
    ∀ seatNo ∈ contributorsAtOrAbove state level, seatNo ∈ state.seats.keys := fun _ member =>
  (OrdMap.keysWhere_sublist _ _).subset member

def layerAmount (state : State) (prevLevel level : Int) : Int :=
  (level - prevLevel) * (contributorsAtOrAbove state level).length

theorem awardLayer_paid (loop : AwardLoop) (level : Int) (above : loop.prevLevel < level)
    (numbered : SeatsNumbered loop.state) (showdown : ShowdownNonneg loop.state) :
    (awardLayer loop level).prevLevel = level ∧
      Paid loop.state (awardLayer loop level).state (layerAmount loop.state loop.prevLevel level) := by
  unfold awardLayer layerAmount
  by_cases nobody : contributorsAtOrAbove loop.state level = []
  · simp only [nobody,if_true,List.length_nil]
    refine ⟨trivial,?_⟩
    simpa using Paid.refl loop.state
  · have count : 0 < (contributorsAtOrAbove loop.state level).length := List.length_pos_iff.mpr nobody
    have positive : 0 < (level - loop.prevLevel) * ((contributorsAtOrAbove loop.state level).length : Int) :=
      Int.mul_pos (by omega) (by omega)
    have refund := distributeChips_paid loop.state _ _ positive nobody (contributors_subset loop.state level)
    simp only [nobody,if_false,if_neg (not_le.mpr positive)]
    split_ifs with alone unclaimed
    · exact ⟨rfl,refund⟩
    · exact ⟨rfl,refund⟩
    · refine ⟨rfl,distributeChips_paid loop.state _ _ positive ?_ ?_⟩
      · exact bestShowdownSeats_nonempty _ _ unclaimed numbered showdown (eligible_subset _ _)
      · intro seatNo member
        exact eligible_subset _ _ seatNo (bestShowdownSeats_subset _ _ seatNo member)

def commitments (state : State) : List (Int × Bet) := (bets state).entries

def committedUpTo (state : State) (level : Int) : Int :=
  Shares.capped (fun entry : Int × Bet => entry.2.committed) (commitments state) level

theorem layerAmount_capped (state : State) (prevLevel level : Int) (ordered : prevLevel ≤ level)
    (gap : ∀ entry ∈ commitments state, entry.2.committed ≤ prevLevel ∨ level ≤ entry.2.committed) :
    committedUpTo state level = committedUpTo state prevLevel + layerAmount state prevLevel level := by
  have layer := Shares.capped_step (fun entry : Int × Bet => entry.2.committed) (commitments state)
    prevLevel level ordered gap
  rw [layerAmount,contributors_bets]
  simpa [committedUpTo,OrdMap.keysWhere,commitments] using layer

theorem awardLayers_from (levels : List Int) (loop : AwardLoop)
    (increasing : levels.Pairwise (· < ·)) (ahead : ∀ level ∈ levels, loop.prevLevel < level)
    (covered : ∀ entry ∈ commitments loop.state,
      entry.2.committed ≤ loop.prevLevel ∨ entry.2.committed ∈ levels)
    (numbered : SeatsNumbered loop.state) (showdown : ShowdownNonneg loop.state) :
    Paid loop.state (levels.foldl awardLayer loop).state
      (totalCommitted loop.state - committedUpTo loop.state loop.prevLevel) := by
  induction levels generalizing loop with
  | nil =>
    have top := Shares.capped_top (fun entry : Int × Bet => entry.2.committed) (commitments loop.state)
      loop.prevLevel (fun entry member => (covered entry member).resolve_right List.not_mem_nil)
    have nothing : totalCommitted loop.state - committedUpTo loop.state loop.prevLevel = 0 := by
      rw [totalCommitted_bets,committedUpTo,top]
      exact Int.sub_self _
    rw [nothing]
    exact Paid.refl loop.state
  | cons level rest ih =>
    obtain ⟨later,ordered⟩ := List.pairwise_cons.mp increasing
    have above := ahead level List.mem_cons_self
    obtain ⟨reached,head⟩ := awardLayer_paid loop level above numbered showdown
    have same : commitments (awardLayer loop level).state = commitments loop.state := by
      rw [commitments,commitments,head.bets]
    have gap : ∀ entry ∈ commitments loop.state,
        entry.2.committed ≤ loop.prevLevel ∨ level ≤ entry.2.committed := by
      intro entry member
      rcases covered entry member with low | inside
      · exact .inl low
      · rcases List.mem_cons.mp inside with equal | tail
        · exact .inr equal.ge
        · exact .inr (later _ tail).le
    have tail := ih (awardLayer loop level) ordered
      (fun next member => by rw [reached]; exact later next member)
      (fun entry member => by
        rw [same] at member
        rw [reached]
        rcases covered entry member with low | inside
        · exact .inl (low.trans above.le)
        · exact (List.mem_cons.mp inside).imp (fun equal => equal.le) id)
      (head.numbered numbered) (head.showdown numbered showdown)
    have layer := layerAmount_capped loop.state loop.prevLevel level above.le gap
    have total : totalCommitted (awardLayer loop level).state = totalCommitted loop.state := by
      rw [totalCommitted_bets,totalCommitted_bets,head.bets]
    have upTo : committedUpTo (awardLayer loop level).state level = committedUpTo loop.state level := by
      rw [committedUpTo,committedUpTo,same]
    rw [reached,total,upTo] at tail
    have sum := head.trans tail
    rw [List.foldl_cons]
    convert sum using 1
    omega

theorem commitmentLevels_mem (state : State) (level : Int) :
    level ∈ commitmentLevels state ↔ 0 < level ∧ ∃ entry ∈ commitments state, entry.2.committed = level := by
  simp only [commitmentLevels,List.mem_insertionSort,List.mem_dedup,List.mem_filter,decide_eq_true_eq,
    List.mem_map,commitments,bets,OrdMap.mapVals,exists_exists_and_eq_and,gt_iff_lt]
  exact and_comm

theorem commitmentLevels_increasing (state : State) : (commitmentLevels state).Pairwise (· < ·) := by
  have sorted := List.pairwise_insertionSort (· ≤ ·)
    (((state.seats.entries.map fun entry => entry.2.committedThisHand).filter (· > 0)).dedup)
  have distinct : (commitmentLevels state).Nodup :=
    (List.perm_insertionSort (· ≤ ·) _).nodup_iff.mpr (List.nodup_dedup _)
  exact (sorted.and distinct).imp fun both => lt_of_le_of_ne both.1 both.2

def CommittedNonneg (state : State) : Prop := state.seats.All fun _ seat => 0 ≤ seat.committedThisHand

theorem commitments_nonneg (nonneg : CommittedNonneg state) :
    ∀ entry ∈ commitments state, 0 ≤ entry.2.committed := by
  intro entry member
  obtain ⟨⟨seatNo,seat⟩,inside,rfl⟩ := List.mem_map.mp member
  exact nonneg seatNo seat (OrdMap.get?_eq_some_iff.mpr inside)

theorem awardLayers_paid (state : State) (nonneg : CommittedNonneg state)
    (numbered : SeatsNumbered state) (showdown : ShowdownNonneg state) :
    Paid state (awardLayers state).state (totalCommitted state) := by
  have held := commitments_nonneg nonneg
  have paid := awardLayers_from (commitmentLevels state) ⟨state,0,OrdMap.empty⟩
    (commitmentLevels_increasing state) (fun level member => ((commitmentLevels_mem state level).mp member).1)
    (fun entry member => by
      rcases (held entry member).eq_or_lt with zero | positive
      · exact .inl zero.ge
      · exact .inr ((commitmentLevels_mem state _).mpr ⟨positive,entry,member,rfl⟩))
    numbered showdown
  have bottom := Shares.capped_bottom (fun entry : Int × Bet => entry.2.committed) (commitments state) held
  have start : committedUpTo state 0 = 0 := bottom
  rw [start,Int.sub_zero] at paid
  exact paid

end Clawchain.Arena.Table
