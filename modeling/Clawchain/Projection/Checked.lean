import Clawchain.Projection.Loop

/-! The rows that a request is projected from: those of its tournament, with ranks that fit the field, and the request's own
where the tournament has no others. -/
namespace Clawchain.Projection
open Clawchain.Lib Clawchain.Lib.Fallible Clawchain.Mining Clawchain.Poker

variable {row : RankingRow}

theorem mem_rankedRows {name : RankingRow → String} {extra : RankingRow → Int → String} {rows ranked : List RankingRow}
    (done : rankedRows name extra rows = .ok ranked) (member : row ∈ rows) (has : row.rank.isSome) :
    row ∈ ranked := by
  induction rows generalizing ranked with
  | nil => cases member
  | cons first rows ih =>
    unfold rankedRows at done
    cases rank : first.rank with
    | none =>
      rw [rank] at done
      dsimp only at done
      by_cases missing : first.rankState = "ranked"
      · rw [if_pos missing] at done
        cases done
      · rw [if_neg missing] at done
        rcases List.mem_cons.mp member with rfl | member
        · rw [rank] at has
          cases has
        · exact ih done member
    | some value =>
      rw [rank] at done
      dsimp only at done
      by_cases state : first.rankState = "ranked"
      · rw [if_pos state] at done
        obtain ⟨rest,later,last⟩ := bind_ok done
        cases last
        rcases List.mem_cons.mp member with rfl | member
        · exact List.mem_cons_self
        · exact List.mem_cons_of_mem _ (ih later member)
      · rw [if_neg state] at done
        cases done

theorem checkPayoutRanks_fits {name : RankingRow → String} {extra : RankingRow → Int → String} {rows : List RankingRow}
    {fieldSize : Int} (done : checkPayoutRanks name extra rows fieldSize = .ok ()) (member : row ∈ rows) {rank : Int}
    (has : row.rank = some rank) : 1 ≤ rank ∧ rank ≤ fieldSize := by
  obtain ⟨ranked,listed,rest⟩ := bind_ok done
  dsimp only at rest
  by_cases many : fieldSize < ranked.length
  · rw [if_pos many] at rest
    cases rest
  rw [if_neg many] at rest
  by_cases twice : ¬(payoutRanks ranked).Nodup
  · rw [if_pos twice] at rest
    cases rest
  rw [if_neg twice] at rest
  by_cases gaps : (payoutRanks ranked).insertionSort (· ≤ ·) ≠ 
      (List.range ranked.length).map fun index : Nat => (index : Int) + 1
  · rw [if_pos gaps] at rest
    cases rest
  have inside : rank ∈ payoutRanks ranked :=
    List.mem_filterMap.mpr ⟨row,mem_rankedRows listed member (by rw [has]; rfl),has⟩
  rw [← (List.perm_insertionSort (· ≤ ·) (payoutRanks ranked)).mem_iff,not_not.mp gaps] at inside
  obtain ⟨index,bound,rfl⟩ := List.mem_map.mp inside
  have below := List.mem_range.mp bound
  omega

theorem mem_keepBest {grouped : List (String × RankingRow)} {group : String × RankingRow}
    (member : group ∈ keepBest grouped row) : group.2 = row ∨ group ∈ grouped := by
  unfold keepBest at member
  split at member
  · rcases List.mem_append.mp member with old | new
    · exact .inr old
    · rw [List.mem_singleton.mp new]
      exact .inl rfl
  · split at member
    · obtain ⟨old,inside,rfl⟩ := List.mem_map.mp member
      split
      · exact .inl rfl
      · exact .inr inside
    · exact .inr member

theorem mem_foldl_keepBest {rows : List RankingRow} {grouped : List (String × RankingRow)} {group : String × RankingRow}
    (member : group ∈ rows.foldl keepBest grouped) : group.2 ∈ rows ∨ group ∈ grouped := by
  induction rows generalizing grouped with
  | nil => exact .inr member
  | cons row rows ih =>
    rcases ih member with later | kept
    · exact .inl (List.mem_cons_of_mem _ later)
    · rcases mem_keepBest kept with rfl | old
      · exact .inl List.mem_cons_self
      · exact .inr old

theorem mem_canonical {rows : List RankingRow} (member : row ∈ canonicalPokerMttProjectionRows rows) :
    row ∈ rows := by
  have grouped := (List.perm_insertionSort _ _).mem_iff.mp member
  obtain ⟨group,inside,rfl⟩ := List.mem_map.mp grouped
  exact (mem_foldl_keepBest inside).resolve_right (by simp)

theorem mem_listFinalRankings {store : Store} {tournamentID : String}
    (member : row ∈ store.listFinalRankings tournamentID) : row.tournamentID = tournamentID := by
  have listed := (List.perm_insertionSort _ _).mem_iff.mp member
  obtain ⟨entry,inside,rfl⟩ := List.mem_map.mp listed
  have found := OrdMap.get?_eq_some_iff.mpr inside
  rw [OrdMap.get?_filter] at found
  exact of_decide_eq_true (Option.filter_eq_some_iff.mp found).2

variable {request : Request} {store : Store} {rows : List RankingRow}

theorem checkedRows_ok (done : checkedRows request store = .ok rows) :
    2 ≤ request.fieldSize ∧ rows = canonicalPokerMttProjectionRows (store.listFinalRankings request.tournamentID) ∧
      validatePokerMttPayoutRanks rows request.fieldSize = .ok () := by
  unfold checkedRows at done
  split at done
  · cases done
  split at done
  · cases done
  split at done
  · cases done
  dsimp only at done
  split at done
  · cases done
  obtain ⟨_,valid,rest⟩ := bind_ok done
  cases rest
  exact ⟨by omega,rfl,valid⟩

theorem checkedRows_tournament (done : checkedRows request store = .ok rows) :
    ∀ row ∈ rows, row.tournamentID = request.tournamentID := by
  intro row member
  rw [(checkedRows_ok done).2.1] at member
  exact mem_listFinalRankings (mem_canonical member)

theorem checkedRows_fits (done : checkedRows request store = .ok rows) (member : row ∈ rows) :
    1 ≤ row.rank.getD request.fieldSize ∧ row.rank.getD request.fieldSize ≤ request.fieldSize := by
  obtain ⟨size,-,valid⟩ := checkedRows_ok done
  cases has : row.rank with
  | none =>
    rw [Option.getD_none]
    omega
  | some rank => exact checkPayoutRanks_fits valid member has

theorem checkedRows_congr {other : Store}
    (same : store.listFinalRankings request.tournamentID = other.listFinalRankings request.tournamentID) :
    checkedRows request store = checkedRows request other := by
  unfold checkedRows
  rw [same]

theorem get?_foldl_insert_of_not_mem {rows : List RankingRow} {rankings : OrdMap String RankingRow} {id : String}
    (other : id ∉ rows.map (·.id)) :
    (rows.foldl (fun rankings row => rankings.insert row.id row) rankings).get? id = rankings.get? id := by
  induction rows generalizing rankings with
  | nil => rfl
  | cons row rows ih =>
    rw [List.map_cons,List.mem_cons,not_or] at other
    rw [List.foldl_cons,ih other.2,OrdMap.get?_insert_of_ne _ _ other.1]

theorem get?_foldl_insert_of_mem {rows : List RankingRow} {rankings others : OrdMap String RankingRow} {id : String}
    (member : id ∈ rows.map (·.id)) :
    (rows.foldl (fun rankings row => rankings.insert row.id row) rankings).get? id =
      (rows.foldl (fun rankings row => rankings.insert row.id row) others).get? id := by
  induction rows generalizing rankings others with
  | nil => cases member
  | cons row rows ih =>
    rw [List.foldl_cons,List.foldl_cons]
    by_cases later : id ∈ rows.map (·.id)
    · exact ih later
    · have here : id = row.id := (List.mem_cons.mp member).resolve_right later
      rw [get?_foldl_insert_of_not_mem later,get?_foldl_insert_of_not_mem later,here,OrdMap.get?_insert_self,
        OrdMap.get?_insert_self]

def Store.without (store : Store) (tournamentID : String) : Store :=
  { store with finalRankings := store.finalRankings.filter fun _ row => row.tournamentID ≠ tournamentID }

def OnlyItsRows (store : Store) (request : Request) : Prop :=
  ∀ id row, store.finalRankings.get? id = some row → row.tournamentID = request.tournamentID → id ∈ request.rows.map (·.id)

theorem listFinalRankings_own (only : OnlyItsRows store request) (start : Store) :
    (store.saveFinalRankings request.rows).listFinalRankings request.tournamentID =
      ((start.without request.tournamentID).saveFinalRankings request.rows).listFinalRankings request.tournamentID := by
  unfold Store.listFinalRankings
  congr 3
  apply OrdMap.ext_get?
  intro id
  rw [OrdMap.get?_filter,OrdMap.get?_filter]
  unfold Store.saveFinalRankings
  dsimp only
  by_cases own : id ∈ request.rows.map (·.id)
  · rw [get?_foldl_insert_of_mem own]
  · have gone : (((start.finalRankings.get? id).filter fun row => row.tournamentID ≠ request.tournamentID).filter fun row =>
        row.tournamentID = request.tournamentID) = none := by
      cases start.finalRankings.get? id with
      | none => rfl
      | some row =>
        by_cases about : row.tournamentID = request.tournamentID
        · simp [Option.filter,about]
        · simp [Option.filter,about]
    rw [get?_foldl_insert_of_not_mem own,get?_foldl_insert_of_not_mem own,Store.without,OrdMap.get?_filter,gone]
    cases found : store.finalRankings.get? id with
    | none => rfl
    | some row =>
      have foreign : row.tournamentID ≠ request.tournamentID := fun about => own (only id row found about)
      rw [Option.filter_some,if_neg (by simpa using foreign)]

theorem saveFinalRankings_stored (stored : ∀ row ∈ request.rows, store.finalRankings.get? row.id = some row) :
    store.saveFinalRankings request.rows = store := by
  have same (rows : List RankingRow) (inside : ∀ row ∈ rows, store.finalRankings.get? row.id = some row) :
      rows.foldl (fun rankings row => rankings.insert row.id row) store.finalRankings = store.finalRankings := by
    induction rows with
    | nil => rfl
    | cons row rows ih =>
      rw [List.foldl_cons,OrdMap.insert_of_get? (inside row List.mem_cons_self)]
      exact ih fun row member => inside row (List.mem_cons_of_mem _ member)
  unfold Store.saveFinalRankings
  rw [same request.rows stored]

end Clawchain.Projection
