import Clawchain.Ranking.Places
import Clawchain.Ranking.Ranks

/-! Final standings are payout-grade: the ranked rows stand first, numbered from
one, the members alive before the died, and the check of the ranks never
refuses them. -/
namespace Clawchain.Ranking
open Clawchain.Lib Clawchain.Lib.Fallible Clawchain.Lib.Format Clawchain.Lib.Sorting

def ByScore (rows : List FinalRankingRow) : Prop :=
  rows.Pairwise fun a b => a.status = .alive → b.status = .alive →
    ∃ high low, a.zSetScore = some high ∧ b.zSetScore = some low ∧ F64.lt high low = false

def ByDisplayRank (rows : List FinalRankingRow) : Prop :=
  rows.Pairwise fun a b => a.status = .died → b.status = .died →
    ∃ first last, a.displayRank = some first ∧ b.displayRank = some last ∧ first ≤ last

/-- Standings from which a payout can be read off: the ranked rows, then the others. -/
structure PayoutGrade (rows : List FinalRankingRow) : Prop where
  split : ∃ ranked others, rows = ranked ++ others ∧
    (∀ row ∈ ranked, row.rankState = .ranked) ∧
    ranked.map (fun row => row.rank) = (List.range ranked.length).map (fun i : Nat => some ((i : Int) + 1)) ∧
    (∀ row ∈ others, row.rankState ≠ .ranked ∧ row.rank = none) ∧
    ranked.Pairwise (fun a b => b.status = .alive → a.status = .alive) ∧
    ByScore ranked ∧ ByDisplayRank ranked ∧ ByScore others ∧ ByDisplayRank others

def Refusal.ofPayoutRanks : Refusal → Bool
  | .nonRankedHasRank .. => true
  | .rankedMissingRank .. => true
  | .duplicateRank .. => true
  | .nonContiguousRanks .. => true
  | _ => false

variable (go : Go)

/-! Collapsing keeps all but the count of entries and the state of a row. -/

theorem getElem?_collapse (rows : List FinalRankingRow) (i : Nat) :
    (collapseDuplicateEconomicUnits rows)[i]? = rows[i]?.map fun row =>
      { row with
        reentryCount := (groupOf rows row.unit).length
        rankState :=
          if 1 < (groupOf rows row.unit).length ∧ some i ≠ chooseCanonicalIndex (groupOf rows row.unit) ∧
            row.rankState = .ranked then .duplicateEntryCollapsed
          else row.rankState } := by
  rw [collapseDuplicateEconomicUnits,List.getElem?_mapIdx]

variable {old row : FinalRankingRow} {rows : List FinalRankingRow} {i : Nat}

theorem of_mem_collapse (member : row ∈ collapseDuplicateEconomicUnits rows) :
    ∃ old ∈ rows, row = { old with
        reentryCount := row.reentryCount
        rankState := row.rankState } ∧
      (row.rankState = old.rankState ∨ old.rankState = .ranked ∧ row.rankState = .duplicateEntryCollapsed) := by
  obtain ⟨i,at_⟩ := List.mem_iff_getElem?.mp member
  rw [getElem?_collapse] at at_
  obtain ⟨old,found,same⟩ := Option.map_eq_some_iff.mp at_
  refine ⟨old,List.mem_of_getElem? found,?_⟩
  subst same
  refine ⟨rfl,?_⟩
  by_cases collapsed : 1 < (groupOf rows old.unit).length ∧ some i ≠ chooseCanonicalIndex (groupOf rows old.unit) ∧
      old.rankState = .ranked
  · exact .inr ⟨collapsed.2.2,if_pos collapsed⟩
  · exact .inl (if_neg collapsed)

/-- What is said of a row without its ranks and its state. -/
structure Kept (old row : FinalRankingRow) : Prop where
  id : row.id = old.id
  memberID : row.memberID = old.memberID
  unit : row.unit = old.unit
  entryNumber : row.entryNumber = old.entryNumber
  status : row.status = old.status
  displayRank : row.displayRank = old.displayRank
  startChip : row.startChip = old.startChip
  zSetScore : row.zSetScore = old.zSetScore
  rankable : row.rankable = old.rankable

theorem Stands.of_kept {canonical : List ZMember} (kept : Kept old row) (stands : Stands canonical old)
    : Stands canonical row := by
  cases stands with
  | alive index member listed status displayed score =>
    exact .alive index member listed (kept.status.trans status) (kept.displayRank.trans displayed)
      (kept.zSetScore.trans score)
  | died displayRank below status displayed =>
    exact .died displayRank below (kept.status.trans status) (kept.displayRank.trans displayed)
  | pending status displayed => exact .pending (kept.status.trans status) (kept.displayRank.trans displayed)

theorem of_mem_finalRows {entrants : List FinalRankingRow} (member : row ∈ Finalizer.finalRows go entrants) :
    ∃ old ∈ entrants, Kept old row ∧
      (row.rankState = old.rankState ∨ old.rankState = .ranked ∧ row.rankState = .duplicateEntryCollapsed) := by
  obtain ⟨i,collapsed,found,same,-⟩ := of_mem_assign go ((mem_sortFinalRows go).mp member)
  obtain ⟨old,inside,earlier,state⟩ := of_mem_collapse (List.mem_of_getElem? found)
  refine ⟨old,inside,?_,?_⟩
  · rw [same,earlier]
    constructor <;> rfl
  · have kept : row.rankState = collapsed.rankState := by rw [same]
    rw [kept]
    exact state

theorem Kept.trans {first second third : FinalRankingRow} (one : Kept first second) (two : Kept second third) :
    Kept first third where
  id := two.id.trans one.id
  memberID := two.memberID.trans one.memberID
  unit := two.unit.trans one.unit
  entryNumber := two.entryNumber.trans one.entryNumber
  status := two.status.trans one.status
  displayRank := two.displayRank.trans one.displayRank
  startChip := two.startChip.trans one.startChip
  zSetScore := two.zSetScore.trans one.zSetScore
  rankable := two.rankable.trans one.rankable

theorem exists_collapse (found : rows[i]? = some old) :
    ∃ row, (collapseDuplicateEconomicUnits rows)[i]? = some row ∧ Kept old row := by
  rw [getElem?_collapse,found]
  refine ⟨_,rfl,?_⟩
  constructor <;> rfl

theorem exists_assign (found : rows[i]? = some old) :
    ∃ row, (assignUniquePayoutRanks go rows)[i]? = some row ∧ Kept old row ∧ row.rankState = old.rankState := by
  rw [getElem?_assign,found]
  refine ⟨_,rfl,?_⟩
  dsimp only
  by_cases ranked : old.rankState = .ranked
  · rw [if_pos ranked]
    exact ⟨by constructor <;> rfl,rfl⟩
  · rw [if_neg ranked]
    exact ⟨by constructor <;> rfl,rfl⟩

theorem exists_mem_finalRows {entrants : List FinalRankingRow} (member : old ∈ entrants)
    : ∃ row ∈ Finalizer.finalRows go entrants, Kept old row := by
  obtain ⟨i,found⟩ := List.mem_iff_getElem?.mp member
  obtain ⟨collapsed,there,first⟩ := exists_collapse found
  obtain ⟨row,assigned,second,-⟩ := exists_assign go there
  exact ⟨row,(mem_sortFinalRows go).mpr (List.mem_of_getElem? assigned),first.trans second⟩

/-! What an accepted finalization went through. -/

variable {go} {finalizer : Finalizer} {snapshot : LiveSnapshot} {registration : RegistrationSnapshot}

theorem accepted_cases {finalization : Finalization}
    (accepted : finalizer.finalizeWithRegistration go snapshot registration = .ok finalization) :
    ∃ sources entrants, finalizer.sourcesOf go snapshot registration = .ok sources ∧
      entrantRows go sources snapshot.alive snapshot.died = .ok entrants ∧
      finalization.rows = Finalizer.finalRows go entrants ∧
      ∀ row ∈ finalization.rows, row.encodable = true := by
  obtain ⟨sources,decoded,rest⟩ := bind_ok accepted
  obtain ⟨entrants,made,rest⟩ := bind_ok rest
  obtain ⟨_,-,rest⟩ := bind_ok rest
  obtain ⟨root,hashed,rest⟩ := bind_ok rest
  cases rest
  refine ⟨sources,entrants,decoded,made,rfl,?_⟩
  unfold hashRows at hashed
  split at hashed
  · rename_i encodable
    intro row member
    have mapped : canonicalRow row ∈ (Finalizer.finalRows go entrants).map canonicalRow := List.mem_map_of_mem member
    exact List.all_eq_true.mp encodable (canonicalRow row) mapped
  · cases hashed

theorem hashSnapshot_ok {payload : CanonicalSnapshotPayload} {digest : String}
    (hashed : hashSnapshot go payload = .ok digest) : ∀ alive ∈ payload.alive, alive.score.isFinite = true := by
  unfold hashSnapshot at hashed
  by_cases encodable : payload.encodable = true
  · unfold CanonicalSnapshotPayload.encodable at encodable
    rw [Bool.and_eq_true] at encodable
    exact List.all_eq_true.mp encodable.1
  · rw [if_neg encodable] at hashed
    cases hashed

theorem sourcesOf_finite {sources : Sources} (decoded : finalizer.sourcesOf go snapshot registration = .ok sources) :
    ∀ alive ∈ snapshot.alive, alive.score.isFinite = true := by
  obtain ⟨_,-,rest⟩ := bind_ok decoded
  obtain ⟨_,-,rest⟩ := bind_ok rest
  obtain ⟨_,-,rest⟩ := bind_ok rest
  obtain ⟨_,-,rest⟩ := bind_ok rest
  obtain ⟨_,hashed,-⟩ := bind_ok rest
  intro alive member
  have listed : alive ∈ canonicalAliveRows go (canonicalAliveRows go snapshot.alive) :=
    (canonicalAliveRows_perm go _).mem_iff.mpr ((canonicalAliveRows_perm go _).mem_iff.mpr member)
  exact hashSnapshot_ok hashed alive listed

theorem score_ordered {alive : List ZMember} (finite : ∀ member ∈ alive, member.score.isFinite = true) {j : Nat}
    {high low : ZMember} (first : (canonicalAliveRows go alive)[i]? = some high)
    (second : (canonicalAliveRows go alive)[j]? = some low) (ordered : i ≤ j) : F64.lt high.score low.score = false := by
  have inside : ∀ member ∈ canonicalAliveRows go alive, member.score.isFinite = true :=
    fun member listed => finite member ((canonicalAliveRows_perm go _).mem_iff.mp listed)
  obtain ⟨boundI,atI⟩ := List.getElem?_eq_some_iff.mp first
  obtain ⟨boundJ,atJ⟩ := List.getElem?_eq_some_iff.mp second
  rw [← Bool.not_eq_true,F64.lt_iff (inside _ (List.mem_of_getElem? first)) (inside _ (List.mem_of_getElem? second)),not_lt]
  rcases ordered.lt_or_eq with before | same
  · have key := List.pairwise_iff_getElem.mp (canonicalAliveRows_pairwise go finite) i j boundI boundJ before
    rw [atI,atJ] at key
    unfold scoreKey at key
    rw [Prod.Lex.toLex_le_toLex] at key
    rcases key with less | ⟨equal,-⟩
    · exact le_of_lt (neg_lt_neg_iff.mp less)
    · exact le_of_eq (neg_inj.mp equal).symm
  · subst same
    cases first.symm.trans second
    exact le_refl _

section Final

variable {entrants : List FinalRankingRow} {canonical : List ZMember}

theorem final_payable (entered : ∀ row ∈ entrants, Entered canonical row)
    (encodable : ∀ row ∈ Finalizer.finalRows go entrants, row.encodable = true) :
    ∀ row ∈ collapseDuplicateEconomicUnits entrants, row.rankState = .ranked → Payable row := by
  intro row member ranked
  obtain ⟨old,inside,same,state⟩ := of_mem_collapse member
  obtain ⟨stands,rankable,-,-⟩ := entered old inside
  have oldRanked : old.rankState = .ranked := by
    rcases state with same | ⟨held,-⟩
    · exact same.symm.trans ranked
    · exact held
  obtain ⟨final,there,kept⟩ := exists_mem_finalRows go inside
  have finite := encodable final there
  unfold FinalRankingRow.encodable at finite
  simp only [Bool.and_eq_true] at finite
  rw [same]
  refine ⟨kept.startChip ▸ finite.1.2,?_⟩
  cases stands with
  | alive index member listed status displayed score => exact ⟨by simp [status],_,displayed⟩
  | died displayRank below status displayed => exact ⟨by simp [status],_,displayed⟩
  | pending status displayed =>
    have held := rankable.mp oldRanked
    simp [FinalRankingRow.rankable,status] at held

theorem finalRows_stands (entered : ∀ row ∈ entrants, Entered canonical row) :
    ∀ row ∈ Finalizer.finalRows go entrants, Stands canonical row := by
  intro row member
  obtain ⟨old,inside,kept,-⟩ := of_mem_finalRows go member
  exact (entered old inside).stands.of_kept kept

theorem finalRows_rank {row : FinalRankingRow} (member : row ∈ Finalizer.finalRows go entrants) :
    row.rank.isSome = decide (row.rankState = .ranked) :=
  rank_isSome_iff go ((mem_sortFinalRows go).mp member)

theorem finalRows_rankable (entered : ∀ row ∈ entrants, Entered canonical row) {row : FinalRankingRow}
    (member : row ∈ Finalizer.finalRows go entrants) (ranked : row.rankState = .ranked) : row.rankable = true := by
  obtain ⟨old,inside,kept,state⟩ := of_mem_finalRows go member
  rw [kept.rankable]
  apply (entered old inside).state.mp
  rcases state with same | ⟨held,-⟩
  · exact same.symm.trans ranked
  · exact held

theorem displayRank_le_of_payoutKey_le {a b : FinalRankingRow} {first last : Int} (ordered : payoutKey go a ≤ payoutKey go b)
    (displayA : a.displayRank = some first) (displayB : b.displayRank = some last) : first ≤ last := by
  unfold payoutKey at ordered
  rw [Prod.Lex.toLex_le_toLex] at ordered
  simp only [rankForSort,displayA,displayB] at ordered
  rcases ordered with less | ⟨same,-⟩
  · exact less.le
  · exact same.le

theorem listed_ordered {alive : List ZMember} (finite : ∀ member ∈ alive, member.score.isFinite = true)
    {rows : List FinalRankingRow} (stands : ∀ row ∈ rows, Stands (canonicalAliveRows go alive) row)
    (ordered : rows.Pairwise fun a b => ∀ first last, a.displayRank = some first → b.displayRank = some last →
      first ≤ last) :
    rows.Pairwise (fun a b => b.status = .alive → a.status ≠ .died) ∧ ByScore rows ∧ ByDisplayRank rows := by
  refine ⟨?_,?_,?_⟩
  · apply ordered.imp_of_mem
    intro a b first second less aliveB diedA
    cases stands a first with
    | alive _ _ _ status => rw [status] at diedA; cases diedA
    | pending status => rw [status] at diedA; cases diedA
    | died displayRank below _ displayA =>
      cases stands b second with
      | died _ _ status => rw [status] at aliveB; cases aliveB
      | pending status => rw [status] at aliveB; cases aliveB
      | alive index member listed _ displayB _ =>
        have inside := (List.getElem?_eq_some_iff.mp listed).1
        have before := less _ _ displayA displayB
        omega
  · apply ordered.imp_of_mem
    intro a b first second less aliveA aliveB
    cases stands a first with
    | died _ _ status => rw [status] at aliveA; cases aliveA
    | pending status => rw [status] at aliveA; cases aliveA
    | alive i high listedA _ displayA scoreA =>
      cases stands b second with
      | died _ _ status => rw [status] at aliveB; cases aliveB
      | pending status => rw [status] at aliveB; cases aliveB
      | alive j low listedB _ displayB scoreB =>
        have before := less _ _ displayA displayB
        exact ⟨high.score,low.score,scoreA,scoreB,score_ordered finite listedA listedB (by omega)⟩
  · apply ordered.imp_of_mem
    intro a b first second less diedA diedB
    cases stands a first with
    | alive _ _ _ status => rw [status] at diedA; cases diedA
    | pending status => rw [status] at diedA; cases diedA
    | died x _ _ displayA =>
      cases stands b second with
      | alive _ _ _ status => rw [status] at diedB; cases diedB
      | pending status => rw [status] at diedB; cases diedB
      | died y _ _ displayB => exact ⟨x,y,displayA,displayB,less x y displayA displayB⟩

theorem final_ordered (payable : ∀ row ∈ collapseDuplicateEconomicUnits entrants, row.rankState = .ranked → Payable row) :
    (Finalizer.finalRows go entrants).Pairwise fun a b => (b.rank.isSome → a.rank.isSome) ∧
      (a.rank.isSome = b.rank.isSome → ∀ first last, a.displayRank = some first → b.displayRank = some last →
        first ≤ last) := by
  apply (sortFinalRows_pairwise go _).imp_of_mem
  intro a b first second ordered
  rw [mem_sortFinalRows] at first second
  cases rankB : b.rank with
  | some s =>
    obtain ⟨r,rankA,less⟩ := rank_le_of_finalKey_le go ordered rankB
    refine ⟨fun _ => by simp [rankA],fun _ x y displayA displayB => ?_⟩
    exact displayRank_le_of_payoutKey_le (assign_ordered go payable first second rankA rankB less) displayA displayB
  | none =>
    refine ⟨fun absent => by simp at absent,fun alike x y displayA displayB => ?_⟩
    have unrankedA : a.rank = none := by simpa using alike
    have less := displayRank_le_of_finalKey_le go ordered unrankedA rankB
    simpa [rankForSort,displayA,displayB] using less

theorem finalRows_payoutGrade {alive : List ZMember} (finite : ∀ member ∈ alive, member.score.isFinite = true)
    (entered : ∀ row ∈ entrants, Entered (canonicalAliveRows go alive) row)
    (encodable : ∀ row ∈ Finalizer.finalRows go entrants, row.encodable = true) :
    PayoutGrade (Finalizer.finalRows go entrants) := by
  have ordered := @final_ordered go _ (final_payable entered encodable)
  have stands := @finalRows_stands go _ _ entered
  have numbered := @final_ranks go (collapseDuplicateEconomicUnits entrants)
  have cut := eq_filter_append (p := fun row : FinalRankingRow => row.rank.isSome)
    (ordered.imp fun both => both.1)
  have inRanked : ∀ row ∈ (Finalizer.finalRows go entrants).filter (fun row => row.rank.isSome),
      row ∈ Finalizer.finalRows go entrants ∧ row.rank.isSome = true := fun row member => List.mem_filter.mp member
  have inOthers : ∀ row ∈ (Finalizer.finalRows go entrants).filter (fun row => !row.rank.isSome),
      row ∈ Finalizer.finalRows go entrants ∧ row.rank = none := by
    intro row member
    obtain ⟨inside,unranked⟩ := List.mem_filter.mp member
    exact ⟨inside,by simpa using unranked⟩
  have rankedOrder := listed_ordered finite (fun row member => stands row (inRanked row member).1)
    ((ordered.filter _).imp_of_mem fun {a b} first second both =>
      both.2 ((inRanked a first).2.trans (inRanked b second).2.symm))
  have othersOrder := listed_ordered finite (fun row member => stands row (inOthers row member).1)
    ((ordered.filter _).imp_of_mem fun {a b} first second both =>
      both.2 (by rw [(inOthers a first).2,(inOthers b second).2]))
  refine ⟨_,_,cut,?_,?_,?_,?_,rankedOrder.2.1,rankedOrder.2.2,othersOrder.2.1,othersOrder.2.2⟩
  · intro row member
    have marked := @finalRows_rank go _ _ (inRanked row member).1
    rw [(inRanked row member).2] at marked
    exact of_decide_eq_true marked.symm
  · have length : ((Finalizer.finalRows go entrants).filter fun row => row.rank.isSome).length =
        (rankedIndexes go ((collapseDuplicateEconomicUnits entrants).map clearRank)).length := by
      have counted := congrArg List.length (map_filter_isSome (fun row : FinalRankingRow => row.rank)
        (Finalizer.finalRows go entrants))
      rw [List.length_map,List.length_map,Finalizer.finalRows,numbered,List.length_map,List.length_range] at counted
      exact counted
    rw [map_filter_isSome,length,Finalizer.finalRows,numbered,List.map_map]
    rfl
  · intro row member
    have marked := @finalRows_rank go _ _ (inOthers row member).1
    rw [(inOthers row member).2] at marked
    exact ⟨of_decide_eq_false marked.symm,(inOthers row member).2⟩
  · apply rankedOrder.1.imp_of_mem
    intro a b first second apart aliveB
    have marked := @finalRows_rank go _ _ (inRanked a first).1
    rw [(inRanked a first).2] at marked
    have rankable := finalRows_rankable entered (inRanked a first).1 (of_decide_eq_true marked.symm)
    have undead := apart aliveB
    simpa [FinalRankingRow.rankable,undead] using rankable

end Final

/-! The check of the payout ranks is never the reason for a rejection. -/

theorem sourcesOf_failsIn :
    FailsIn (fun refusal => refusal.ofPayoutRanks = false) (finalizer.sourcesOf go snapshot registration) := by
  have tournament : FailsIn (fun refusal => refusal.ofPayoutRanks = false) (Finalizer.validateTournament snapshot) := by
    exact .ite (.error rfl) (.ok ())
  have barrier (snapshot : LiveSnapshot) :
      FailsIn (fun refusal => refusal.ofPayoutRanks = false) (finalizer.validateReadinessBarrier go snapshot) := by
    exact .ite (.ok ()) (.error rfl)
  have live (userInfo : List (String × String)) :
      FailsIn (fun refusal => refusal.ofPayoutRanks = false) (decodeUserInfo go userInfo) := by
    apply FailsIn.foldlM
    intro decoded user
    split
    · exact .error rfl
    · exact .ok _
  have registered (decodedLive : OrdMap String Entry) (userInfo : List (String × String)) :
      FailsIn (fun refusal => refusal.ofPayoutRanks = false) (decodeRegistration go decodedLive userInfo) := by
    apply FailsIn.foldlM
    intro decoded user
    dsimp only
    split
    · exact .error rfl
    · exact .ite (.error rfl) (.ok _)
  have hashed (payload : CanonicalSnapshotPayload) :
      FailsIn (fun refusal => refusal.ofPayoutRanks = false) (hashSnapshot go payload) := by
    exact .ite (.ok _) (.error rfl)
  unfold Finalizer.sourcesOf
  apply tournament.bind
  intro _ _
  apply (barrier _).bind
  intro _ _
  apply (live _).bind
  intro decodedLive _
  apply (registered _ _).bind
  intro decoded _
  apply (hashed _).bind
  intro digest _
  exact .ok _

theorem entrantRows_failsIn (sources : Sources) (alive : List ZMember) (died : List String) :
    FailsIn (fun refusal => refusal.ofPayoutRanks = false) (entrantRows go sources alive died) := by
  have step (loop : DiedLoop) (raw : String) :
      FailsIn (fun refusal => refusal.ofPayoutRanks = false) (diedStep go sources loop raw) := by
    unfold diedStep
    split
    · exact .error rfl
    · exact .ite (.ok _) (.ok _)
  apply (FailsIn.foldlM step _ _).bind
  intro loop _
  exact .ok _

theorem validateCounts_failsIn (rows : List FinalRankingRow) :
    FailsIn (fun refusal => refusal.ofPayoutRanks = false) (finalizer.validateCounts go rows) := by
  have entrants : FailsIn (fun refusal => refusal.ofPayoutRanks = false) (finalizer.validateEntrantCount rows) := by
    exact .ite (.error rfl) (.ok ())
  have counted (label : String) (expected : Option Int) (actual : Nat) :
      FailsIn (fun refusal => refusal.ofPayoutRanks = false) (validateStatusCount label expected actual) := by
    unfold validateStatusCount
    split
    · exact .ok ()
    · exact .ite (.ok ()) (.error rfl)
  have chips : FailsIn (fun refusal => refusal.ofPayoutRanks = false) (finalizer.validateTotalChip go rows) := by
    exact .ite (.ite (.error rfl) (.ok ())) (.ok ())
  apply entrants.bind
  intro _ _
  apply (counted _ _ _).bind
  intro _ _
  apply (counted _ _ _).bind
  intro _ _
  apply (counted _ _ _).bind
  intro _ _
  exact chips

theorem finalize_failsIn : FailsIn (fun refusal => refusal.ofPayoutRanks = false)
    (finalizer.finalizeWithRegistration go snapshot registration) := by
  have hashed (payload : CanonicalRowsPayload) :
      FailsIn (fun refusal => refusal.ofPayoutRanks = false) (hashRows go payload) := by
    exact .ite (.ok _) (.error rfl)
  have checked (entrants : List FinalRankingRow) : FailsIn (fun refusal => refusal.ofPayoutRanks = false)
      (finalizer.validateFinalRows go (Finalizer.finalRows go entrants)) := by
    unfold Finalizer.validateFinalRows
    apply (validateCounts_failsIn _).bind
    intro _ _
    rw [Finalizer.finalRows,validatePayoutRanks_final]
    exact .ok ()
  apply sourcesOf_failsIn.bind
  intro sources _
  apply (entrantRows_failsIn _ _ _).bind
  intro entrants _
  apply (checked _).bind
  intro _ _
  apply (hashed _).bind
  intro _ _
  exact .ok _

variable (go finalizer snapshot registration)

/-- Standings that are returned are payout-grade, and none are refused for their payout ranks. -/
theorem finalization_payoutGrade :
    match finalizer.finalizeWithRegistration go snapshot registration with
    | .ok finalization => PayoutGrade finalization.rows
    | .error refusal => refusal.ofPayoutRanks = false := by
  cases result : finalizer.finalizeWithRegistration go snapshot registration with
  | error refusal => exact finalize_failsIn refusal result
  | ok finalization =>
    obtain ⟨sources,entrants,decoded,made,rows,encodable⟩ := accepted_cases result
    show PayoutGrade finalization.rows
    rw [rows] at encodable ⊢
    exact finalRows_payoutGrade (sourcesOf_finite decoded) (entrantRows_entered go sources made) encodable

/-! Standings in which an entry of a miner is collapsed. -/

def plainGo (decoded : List (String × List (String × Value))) : Go where
  unmarshal raw := match decoded.lookup raw with
    | some fields => .ok (some (OrdMap.ofList fields))
    | none => .error "unexpected end of JSON input"
  sprint value := toString value.rat.floor
  parseFloat _ := (.finite 0,false)
  toInteger value := value.rat.floor
  toLower status := status
  round value := .finite value
  fixed value := toString value.rat.floor ++ ".000000"
  quoted text := "\"" ++ text ++ "\""
  snapshotDigest _ := "5feceb66ffc86f38"
  rowsDigest _ := "6b86b273ff34fce1"

def object (fields : String) : String := "\x7b" ++ fields ++ "\x7d"

def minerGo : Go := plainGo
  [(object "\"miner\":\"claw1a\"",[("miner",.text "claw1a")]),
    (object "\"miner\":\"claw1b\"",[("miner",.text "claw1b")])]

def twoEntries : LiveSnapshot where
  tournamentID := "mtt-1"
  userInfo := [("7:1",object "\"miner\":\"claw1a\""),("7:2",object "\"miner\":\"claw1a\""),
    ("8:1",object "\"miner\":\"claw1b\"")]
  alive := [⟨"7:1",.finite 100⟩,⟨"7:2",.finite 50⟩,⟨"8:1",.finite 30⟩]

theorem twoEntries_standings :
    (Finalizer.finalizeWithRegistration minerGo {} twoEntries {}).toOption.map
      (fun finalization => finalization.rows.map fun row => (row.status,row.zSetScore)) =
      some [(.alive,some (.finite 100)),(.alive,some (.finite 30)),(.alive,some (.finite 50))] := by
  decide +kernel

/-- A collapsed entry is listed after the ranked rows, out of the order of the scores. -/
theorem alive_order_fails : ∃ finalization,
    Finalizer.finalizeWithRegistration minerGo {} twoEntries {} = .ok finalization ∧
      (twoEntries.alive.map fun alive => trimSpace alive.member).Nodup ∧
      (∀ alive ∈ twoEntries.alive, alive.score.isFinite = true) ∧ ¬ByScore finalization.rows := by
  have standings := twoEntries_standings
  cases result : Finalizer.finalizeWithRegistration minerGo {} twoEntries {} with
  | error refusal =>
    rw [result] at standings
    cases standings
  | ok finalization =>
    rw [result] at standings
    refine ⟨finalization,rfl,by decide +kernel,by decide,?_⟩
    intro ordered
    have listed : finalization.rows.map (fun row => (row.status,row.zSetScore)) =
        [(.alive,some (.finite 100)),(.alive,some (.finite 30)),(.alive,some (.finite 50))] := Option.some.inj standings
    have mapped : (finalization.rows.map fun row => (row.status,row.zSetScore)).Pairwise fun a b =>
        a.1 = .alive → b.1 = .alive → ∃ high low, a.2 = some high ∧ b.2 = some low ∧ F64.lt high low = false :=
      List.pairwise_map.mpr ordered
    rw [listed] at mapped
    have last := List.rel_of_pairwise_cons (List.Pairwise.of_cons mapped) List.mem_cons_self rfl rfl
    obtain ⟨high,low,rfl',rfl'',above⟩ := last
    cases rfl'
    cases rfl''
    exact absurd above (by decide)

end Clawchain.Ranking
