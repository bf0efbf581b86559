import Clawchain.Ranking.Order

/-! The payout ranks: which row gets which rank, and in which order the rows
stand after the final sort. -/
namespace Clawchain.Ranking
open Clawchain.Lib Clawchain.Lib.Sorting

variable (go : Go) (rows : List FinalRankingRow)

theorem mem_rankedIndexes {i : Nat} :
    i ∈ rankedIndexes go rows ↔ ∃ row, rows[i]? = some row ∧ row.rankState = .ranked := by
  simp [rankedIndexes,List.mem_zipIdx_iff_getElem?]

theorem rankedIndexes_nodup : (rankedIndexes go rows).Nodup := by
  have permuted : (rankedIndexes go rows).Perm ((rows.zipIdx.filter fun place => place.1.rankState = .ranked).map Prod.snd) :=
    (sortBy_perm _ _).map _
  rw [permuted.nodup_iff]
  apply List.Nodup.sublist (List.filter_sublist.map _)
  rw [List.zipIdx_map_snd]
  exact List.nodup_range'

/-- What can be paid: an entrant that has played, with a start stack that can be compared. -/
def Payable (row : FinalRankingRow) : Prop :=
  row.startChip.isFinite = true ∧ row.status ≠ .pending ∧ ∃ displayRank, row.displayRank = some displayRank

theorem rankedIndexes_pairwise (payable : ∀ row ∈ rows, row.rankState = .ranked → Payable row) :
    (rankedIndexes go rows).Pairwise fun i j => ∀ left right, rows[i]? = some left → rows[j]? = some right →
      payoutKey go left ≤ payoutKey go right := by
  have listed : ∀ place ∈ rows.zipIdx.filter fun place => place.1.rankState = .ranked,
      rows[place.2]? = some place.1 ∧ Payable place.1 := by
    intro place member
    obtain ⟨inside,ranked⟩ := List.mem_filter.mp member
    have found := List.mem_zipIdx_iff_getElem?.mp inside
    exact ⟨found,payable _ (List.mem_of_getElem? found) (by simpa using ranked)⟩
  have sorted := @sortBy_pairwise _ _ _ (fun left right => payoutLess go left.1 right.1) _
    (fun place : FinalRankingRow × Nat => payoutKey go place.1) (by
      intro a first b second
      obtain ⟨leftChip,leftEnded,_⟩ := (listed a first).2
      obtain ⟨rightChip,rightEnded,_⟩ := (listed b second).2
      exact payoutLess_iff go leftChip rightChip leftEnded rightEnded)
  rw [rankedIndexes,List.pairwise_map]
  apply sorted.imp_of_mem
  intro a b first second ordered left right atLeft atRight
  have sameLeft := (listed a (mem_sortBy.mp first)).1.symm.trans atLeft
  have sameRight := (listed b (mem_sortBy.mp second)).1.symm.trans atRight
  cases sameLeft
  cases sameRight
  exact ordered

theorem getElem?_assign (i : Nat) :
    (assignUniquePayoutRanks go rows)[i]? = rows[i]?.map fun row =>
      if row.rankState = .ranked then
        { row with
          rank := some ((rankedIndexes go (rows.map clearRank)).idxOf i + 1)
          rankTiebreaker := payoutTiebreaker (rows.map clearRank) row }
      else { row with rank := none } := by
  unfold assignUniquePayoutRanks
  rw [getElem?_numbered (rankedIndexes_nodup go _),List.getElem?_map]
  cases found : rows[i]? with
  | none => simp
  | some row =>
    by_cases ranked : row.rankState = .ranked
    · have cleared : clearRank row = row := if_neg (by simp [ranked])
      rw [if_pos ((mem_rankedIndexes go _).mpr ⟨row,by simp [found,cleared],ranked⟩)]
      simp [cleared,ranked]
    · have cleared : clearRank row = { row with rank := none } := if_pos ranked
      have state : (clearRank row).rankState = row.rankState := by rw [cleared]
      rw [if_neg]
      · simp [cleared,ranked]
      · intro member
        obtain ⟨other,at_,otherRanked⟩ := (mem_rankedIndexes go _).mp member
        rw [List.getElem?_map,found] at at_
        cases at_
        exact ranked (state ▸ otherRanked)

variable {rows}

variable {row a b : FinalRankingRow}

theorem of_mem_assign (member : row ∈ assignUniquePayoutRanks go rows) :
    ∃ i old, rows[i]? = some old ∧
      row = { old with
        rank := row.rank
        rankTiebreaker := row.rankTiebreaker } ∧
      row.rank = if old.rankState = .ranked then some ((rankedIndexes go (rows.map clearRank)).idxOf i + 1 : Int) else none := by
  obtain ⟨i,at_⟩ := List.mem_iff_getElem?.mp member
  rw [getElem?_assign] at at_
  obtain ⟨old,found,same⟩ := Option.map_eq_some_iff.mp at_
  refine ⟨i,old,found,?_⟩
  subst same
  split <;> exact ⟨rfl,rfl⟩

theorem rank_isSome_iff (member : row ∈ assignUniquePayoutRanks go rows) :
    row.rank.isSome = decide (row.rankState = .ranked) := by
  obtain ⟨i,old,-,same,rank⟩ := of_mem_assign go member
  have state : row.rankState = old.rankState := by rw [same]
  rw [state,rank]
  by_cases ranked : old.rankState = .ranked
  · rw [if_pos ranked,decide_eq_true ranked]
    rfl
  · rw [if_neg ranked,decide_eq_false ranked]
    rfl

theorem mem_cleared {i : Nat} :
    i ∈ rankedIndexes go (rows.map clearRank) ↔ ∃ row, rows[i]? = some row ∧ row.rankState = .ranked := by
  have state (row : FinalRankingRow) : (clearRank row).rankState = row.rankState := by
    unfold clearRank
    split <;> rfl
  rw [mem_rankedIndexes,List.getElem?_map]
  constructor
  · rintro ⟨cleared,found,ranked⟩
    obtain ⟨row,at_,rfl⟩ := Option.map_eq_some_iff.mp found
    exact ⟨row,at_,(state row).symm.trans ranked⟩
  · rintro ⟨row,found,ranked⟩
    exact ⟨clearRank row,by rw [found]; rfl,(state row).trans ranked⟩

theorem rank_assign (i : Nat) :
    ((assignUniquePayoutRanks go rows)[i]?).bind (fun row => row.rank) =
      if i ∈ rankedIndexes go (rows.map clearRank) then
        some ((rankedIndexes go (rows.map clearRank)).idxOf i + 1 : Int)
      else none := by
  rw [getElem?_assign]
  by_cases listed : i ∈ rankedIndexes go (rows.map clearRank)
  · obtain ⟨row,found,ranked⟩ := (mem_cleared go).mp listed
    rw [if_pos listed,found,Option.map_some,Option.bind_some,if_pos ranked]
  · rw [if_neg listed]
    cases found : rows[i]? with
    | none => rfl
    | some row =>
      have unranked : row.rankState ≠ .ranked := fun ranked => listed ((mem_cleared go).mpr ⟨row,found,ranked⟩)
      rw [Option.map_some,Option.bind_some,if_neg unranked]

theorem payoutRanks_perm :
    ((assignUniquePayoutRanks go rows).filterMap fun row => row.rank).Perm
      ((List.range (rankedIndexes go (rows.map clearRank)).length).map fun i : Nat => (i : Int) + 1) := by
  have length : (assignUniquePayoutRanks go rows).length = rows.length := by
    apply le_antisymm
    · rw [← List.getElem?_eq_none_iff,getElem?_assign]
      simp
    · have past := getElem?_assign go rows (assignUniquePayoutRanks go rows).length
      rw [List.getElem?_eq_none (le_refl _)] at past
      exact List.getElem?_eq_none_iff.mp (Option.map_eq_none_iff.mp past.symm)
  have inside : ∀ i ∈ rankedIndexes go (rows.map clearRank), i < rows.length := by
    intro i member
    obtain ⟨row,found,-⟩ := (mem_rankedIndexes go _).mp member
    simpa using (List.getElem?_eq_some_iff.mp found).1
  rw [filterMap_eq_range,length]
  have seen : (List.range rows.length).filterMap
      (fun i => ((assignUniquePayoutRanks go rows)[i]?).bind fun row => row.rank) =
      (((List.range rows.length).filter (· ∈ rankedIndexes go (rows.map clearRank))).map
        (rankedIndexes go (rows.map clearRank)).idxOf).map fun i : Nat => (i : Int) + 1 := by
    rw [List.map_map,← List.filterMap_eq_map,List.filterMap_filter]
    apply List.filterMap_congr
    intro i _
    rw [rank_assign]
    simp [Function.comp_def]
  rw [seen]
  exact (idxOf_perm_range (rankedIndexes_nodup go _) inside).map _

theorem payoutKey_restated {old : FinalRankingRow} {rank : Option Int} {tiebreaker : String} (same : row = { old with
      rank := rank
      rankTiebreaker := tiebreaker }) (payable : Payable old) : payoutKey go row = payoutKey go old := by
  obtain ⟨-,-,displayRank,displayed⟩ := payable
  subst same
  simp [payoutKey,rankForSort,displayed]

theorem assign_ordered (payable : ∀ row ∈ rows, row.rankState = .ranked → Payable row)
    (first : a ∈ assignUniquePayoutRanks go rows) (second : b ∈ assignUniquePayoutRanks go rows) {r s : Int}
    (rankA : a.rank = some r) (rankB : b.rank = some s) (ordered : r ≤ s) : payoutKey go a ≤ payoutKey go b := by
  obtain ⟨i,left,atI,sameA,leftRank⟩ := of_mem_assign go first
  obtain ⟨j,right,atJ,sameB,rightRank⟩ := of_mem_assign go second
  by_cases leftRanked : left.rankState = .ranked
  · by_cases rightRanked : right.rankState = .ranked
    · have listedI := (mem_cleared go).mpr ⟨left,atI,leftRanked⟩
      have listedJ := (mem_cleared go).mpr ⟨right,atJ,rightRanked⟩
      have keyA := payoutKey_restated go sameA (payable left (List.mem_of_getElem? atI) leftRanked)
      have keyB := payoutKey_restated go sameB (payable right (List.mem_of_getElem? atJ) rightRanked)
      rw [if_pos leftRanked,rankA] at leftRank
      rw [if_pos rightRanked,rankB] at rightRank
      have positions : (rankedIndexes go (rows.map clearRank)).idxOf i ≤ (rankedIndexes go (rows.map clearRank)).idxOf j := by
        cases leftRank
        cases rightRank
        omega
      rw [keyA,keyB]
      rcases positions.lt_or_eq with before | same
      · have sorted := rankedIndexes_pairwise go (rows.map clearRank) (by
          intro row member ranked
          obtain ⟨old,inside,rfl⟩ := List.mem_map.mp member
          have state : old.rankState = .ranked := by
            unfold clearRank at ranked
            split at ranked <;> exact ranked
          rw [clearRank,if_neg (by simp [state])]
          exact payable old inside state)
        apply pairwise_idxOf sorted listedI listedJ before left right
        · rw [List.getElem?_map,atI,Option.map_some,clearRank,if_neg (by simp [leftRanked])]
        · rw [List.getElem?_map,atJ,Option.map_some,clearRank,if_neg (by simp [rightRanked])]
      · have together : i = j := (List.idxOf_inj listedI).mp same
        subst together
        cases atI.symm.trans atJ
        exact le_refl _
    · rw [if_neg rightRanked,rankB] at rightRank
      cases rightRank
  · rw [if_neg leftRanked,rankA] at leftRank
    cases leftRank

theorem mem_sortFinalRows : row ∈ sortFinalRows go rows ↔ row ∈ rows :=
  (sortFinalRows_perm go rows).mem_iff

theorem rank_le_of_finalKey_le (ordered : finalKey go a ≤ finalKey go b) {s : Int} (rankB : b.rank = some s)
    : ∃ r, a.rank = some r ∧ r ≤ s := by
  unfold finalKey at ordered
  rw [rankB] at ordered
  cases rankA : a.rank with
  | none =>
    rw [rankA,Prod.Lex.toLex_le_toLex] at ordered
    rcases ordered with less | ⟨same,-⟩
    · exact absurd (show true < false from less) (by decide)
    · cases same
  | some r =>
    rw [rankA] at ordered
    simp only [Prod.Lex.toLex_le_toLex,lt_self_iff_false,true_and,false_or] at ordered
    rcases ordered with less | ⟨same,-⟩
    · exact ⟨r,rfl,less.le⟩
    · exact ⟨r,rfl,same.le⟩

theorem displayRank_le_of_finalKey_le (ordered : finalKey go a ≤ finalKey go b) (unrankedA : a.rank = none)
    (unrankedB : b.rank = none) : rankForSort [a.displayRank] ≤ rankForSort [b.displayRank] := by
  unfold finalKey at ordered
  rw [unrankedA,unrankedB] at ordered
  simp only [Prod.Lex.toLex_le_toLex,lt_self_iff_false,true_and,false_or] at ordered
  rcases ordered with less | ⟨same,-⟩
  · exact less.le
  · exact same.le

theorem final_ranks :
    (sortFinalRows go (assignUniquePayoutRanks go rows)).filterMap (fun row => row.rank) =
      (List.range (rankedIndexes go (rows.map clearRank)).length).map fun i : Nat => (i : Int) + 1 := by
  apply @List.Perm.eq_of_pairwise _ (· ≤ · : Int → Int → Prop)
  · intro a b _ _ first second
    exact le_antisymm first second
  · rw [List.pairwise_filterMap]
    apply (sortFinalRows_pairwise go _).imp
    intro a b ordered r rankA s rankB
    obtain ⟨r',rankA',less⟩ := rank_le_of_finalKey_le go ordered rankB
    cases rankA.symm.trans rankA'
    exact less
  · rw [List.pairwise_map]
    apply List.pairwise_lt_range.imp
    intro i j less
    omega
  · exact ((sortFinalRows_perm go _).filterMap _).trans (payoutRanks_perm go)

theorem collect_ranks {rest : List FinalRankingRow} {ranks : List Int} {seen : List (Int × String)}
    (marked : ∀ row ∈ rest, row.rank.isSome = decide (row.rankState = .ranked))
    (distinct : (rest.filterMap fun row => row.rank).Nodup)
    (fresh : ∀ rank ∈ rest.filterMap fun row => row.rank, seen.lookup rank = none) :
    ∃ after, rest.foldlM (collectRank) (ranks,seen) =
      .ok (ranks ++ rest.filterMap fun row => row.rank,after) := by
  induction rest generalizing ranks seen with
  | nil => exact ⟨seen,by simp; rfl⟩
  | cons row rest ih =>
    have here := marked row List.mem_cons_self
    have later : ∀ other ∈ rest, other.rank.isSome = decide (other.rankState = .ranked) :=
      fun other member => marked other (List.mem_cons_of_mem row member)
    cases rank : row.rank with
    | none =>
      have unranked : row.rankState ≠ .ranked := by
        rw [rank] at here
        simpa using here.symm
      rw [List.filterMap_cons,rank] at distinct fresh
      obtain ⟨after,done⟩ := @ih ranks _ later distinct fresh
      have step : collectRank (ranks,seen) row = .ok (ranks,seen) := by
        rw [collectRank,if_pos unranked,rank]
      refine ⟨after,?_⟩
      rw [List.foldlM_cons,step,List.filterMap_cons,rank,← done]
      rfl
    | some value =>
      have ranked : row.rankState = .ranked := by
        rw [rank] at here
        simpa using here.symm
      rw [List.filterMap_cons,rank] at distinct fresh
      have unseen := fresh value List.mem_cons_self
      obtain ⟨apart,distinct⟩ := List.nodup_cons.mp distinct
      have stillFresh : ∀ other ∈ rest.filterMap fun row => row.rank,
          ((value,row.memberID) :: seen).lookup other = none := by
        intro other member
        have differ : (other == value) = false := by
          rw [beq_eq_false_iff_ne]
          rintro rfl
          exact apart member
        rw [List.lookup_cons,differ]
        exact fresh other (List.mem_cons_of_mem value member)
      obtain ⟨after,done⟩ := @ih (ranks ++ [value]) _ later distinct stillFresh
      have step : collectRank (ranks,seen) row = .ok (ranks ++ [value],(value,row.memberID) :: seen) := by
        rw [collectRank,if_neg (not_not_intro ranked),rank]
        simp only [unseen]
      refine ⟨after,?_⟩
      have listed : (row :: rest).filterMap (fun row => row.rank) = [value] ++ rest.filterMap fun row => row.rank := by
        rw [List.filterMap_cons,rank]
        rfl
      rw [List.foldlM_cons,step,listed,← List.append_assoc,← done]
      rfl

theorem checkContiguous_range (count : Nat) :
    checkContiguous ((List.range count).map fun i : Nat => (i : Int) + 1) = .ok () := by
  unfold checkContiguous
  have fits : ∀ place ∈ ((List.range count).map fun i : Nat => (i : Int) + 1).zipIdx, place.1 = (place.2 + 1 : Int) := by
    intro place member
    have at_ := List.mem_zipIdx_iff_getElem?.mp member
    rw [List.getElem?_map] at at_
    obtain ⟨i,inside,same⟩ := Option.map_eq_some_iff.mp at_
    obtain ⟨_,place_⟩ := List.getElem?_eq_some_iff.mp inside
    rw [List.getElem_range] at place_
    rw [← same,place_]
  generalize (((List.range count).map fun i : Nat => (i : Int) + 1).zipIdx) = places at fits
  induction places with
  | nil => rfl
  | cons place places ih =>
    have here := fits place List.mem_cons_self
    have later := ih fun other member => fits other (List.mem_cons_of_mem place member)
    show (if place.1 ≠ (place.2 + 1 : Int) then Except.error _ else Except.ok ()) >>= _ = _
    rw [if_neg (not_not_intro here)]
    exact later

theorem validatePayoutRanks_final :
    validatePayoutRanks (sortFinalRows go (assignUniquePayoutRanks go rows)) = .ok () := by
  have ranks := @final_ranks go rows
  generalize final : sortFinalRows go (assignUniquePayoutRanks go rows) = rows' at ranks
  obtain ⟨after,done⟩ := @collect_ranks rows' [] [] (by
      intro row member
      rw [← final] at member
      exact rank_isSome_iff go ((mem_sortFinalRows go).mp member)) (by
      rw [ranks]
      apply List.Nodup.map _ List.nodup_range
      intro i j same
      simpa using same) (fun _ _ => rfl)
  rw [validatePayoutRanks,done,ranks]
  have sorted : ((List.range (rankedIndexes go (rows.map clearRank)).length).map fun i : Nat => (i : Int) + 1).Pairwise
      (· ≤ ·) := by
    rw [List.pairwise_map]
    apply List.pairwise_lt_range.imp
    intro i j less
    omega
  show checkContiguous (List.insertionSort (· ≤ ·) ([] ++ _)) = _
  rw [List.nil_append,sorted.insertionSort_eq,checkContiguous_range]

end Clawchain.Ranking
