import Clawchain.Projection.Alone

/-! The first projection of a tournament: the best row of each unit is kept, ranks that number the ranked rows are accepted, and
each ranked row ends as a result of its own, as long as no other row names its miner. -/
namespace Clawchain.Projection
open Clawchain.Lib Clawchain.Lib.Fallible Clawchain.Mining Clawchain.Poker

structure Grouped (gone : List RankingRow) (grouped : List (String × RankingRow)) : Prop where
  distinct : (grouped.map Prod.fst).Nodup
  keyed : ∀ group ∈ grouped, group.1 = unitKey group.2
  best : ∀ row ∈ gone, ∃ current, (unitKey row,current) ∈ grouped ∧ sortKey current ≤ sortKey row

theorem Grouped.step {gone : List RankingRow} {grouped : List (String × RankingRow)} (held : Grouped gone grouped)
    (row : RankingRow) : Grouped (gone ++ [row]) (keepBest grouped row) := by
  unfold keepBest
  cases found : grouped.lookup (unitKey row) with
  | none =>
    have fresh : unitKey row ∉ grouped.map Prod.fst := by
      intro inside
      obtain ⟨group,member,same⟩ := List.mem_map.mp inside
      have absent := List.lookup_eq_none_iff.mp found group member
      simp [same] at absent
    refine ⟨?_,?_,?_⟩
    · rw [List.map_append,List.nodup_append]
      refine ⟨held.distinct,by simp,fun key old other new => ?_⟩
      rw [List.map_singleton,List.mem_singleton] at new
      intro same
      rw [same,new] at old
      exact fresh old
    · intro group member
      rcases List.mem_append.mp member with old | new
      · exact held.keyed group old
      · rw [List.mem_singleton.mp new]
    · intro other member
      rcases List.mem_append.mp member with old | new
      · obtain ⟨current,inside,below⟩ := held.best other old
        exact ⟨current,List.mem_append_left _ inside,below⟩
      · rw [List.mem_singleton.mp new]
        exact ⟨row,List.mem_append_right _ List.mem_cons_self,le_refl _⟩
  | some current =>
    have inside : (unitKey row,current) ∈ grouped := by
      obtain ⟨before,later,split,-⟩ := List.lookup_eq_some_iff.mp found
      simp [split]
    by_cases better : sortKey row < sortKey current
    · simp only [if_pos better]
      have moved (group : String × RankingRow) (member : group ∈ grouped) :
          (if group.1 = unitKey row then (group.1,row) else group) ∈
            grouped.map fun group => if group.1 = unitKey row then (group.1,row) else group :=
        List.mem_map.mpr ⟨group,member,rfl⟩
      refine ⟨?_,?_,?_⟩
      · have same : (Prod.fst ∘ fun group : String × RankingRow => if group.1 = unitKey row then (group.1,row) else group) = Prod.fst := by
          funext group
          simp only [Function.comp]
          split <;> rfl
        rw [List.map_map,same]
        exact held.distinct
      · intro group member
        obtain ⟨old,there,rfl⟩ := List.mem_map.mp member
        by_cases own : old.1 = unitKey row
        · rw [if_pos own]
          exact own
        · rw [if_neg own]
          exact held.keyed old there
      · intro other member
        have replaced := moved _ inside
        rw [if_pos rfl] at replaced
        rcases List.mem_append.mp member with old | new
        · obtain ⟨best,there,below⟩ := held.best other old
          by_cases own : unitKey other = unitKey row
          · have same : best = current := by
              have keys := List.inj_on_of_nodup_map held.distinct there inside own
              exact congrArg Prod.snd keys
            exact ⟨row,own ▸ replaced,better.le.trans (same ▸ below)⟩
          · have kept := moved _ there
            rw [if_neg own] at kept
            exact ⟨best,kept,below⟩
        · rw [List.mem_singleton.mp new]
          exact ⟨row,replaced,le_refl _⟩
    · simp only [if_neg better]
      refine ⟨held.distinct,held.keyed,fun other member => ?_⟩
      rcases List.mem_append.mp member with old | new
      · exact held.best other old
      · rw [List.mem_singleton.mp new]
        exact ⟨current,inside,not_lt.mp better⟩

theorem grouped_foldl (rows : List RankingRow) : Grouped rows (rows.foldl keepBest []) := by
  induction rows using List.reverseRecOn with
  | nil => exact ⟨List.nodup_nil,fun _ member => (by cases member),fun _ member => (by cases member)⟩
  | append_singleton rows row ih =>
    rw [List.foldl_append]
    exact ih.step row

variable {rows : List RankingRow} {row : RankingRow} {s : Store}

theorem canonical_best (member : row ∈ rows) :
    ∃ best ∈ canonicalPokerMttProjectionRows rows, unitKey best = unitKey row ∧ sortKey best ≤ sortKey row := by
  obtain ⟨best,inside,below⟩ := (grouped_foldl rows).best row member
  refine ⟨best,(List.perm_insertionSort _ _).mem_iff.mpr (List.mem_map_of_mem inside),?_,below⟩
  exact ((grouped_foldl rows).keyed _ inside).symm

theorem canonical_nodup (rows : List RankingRow) : ((canonicalPokerMttProjectionRows rows).map unitKey).Nodup := by
  have listed : ((rows.foldl keepBest []).map Prod.snd).map unitKey = (rows.foldl keepBest []).map Prod.fst := by
    rw [List.map_map]
    exact List.map_congr_left fun group member => ((grouped_foldl rows).keyed group member).symm
  rw [canonicalPokerMttProjectionRows,((List.perm_insertionSort _ _).map unitKey).nodup_iff,listed]
  exact (grouped_foldl rows).distinct

/-! Payout ranks that number the ranked rows are accepted. -/

theorem rankedRows_marked {name : RankingRow → String} {extra : RankingRow → Int → String}
    (marked : ∀ row ∈ rows, row.rankState = "ranked" ↔ row.rank.isSome) :
    rankedRows name extra rows = .ok (rows.filter fun row => row.rank.isSome) := by
  induction rows with
  | nil => rfl
  | cons row rows ih =>
    have rest := ih fun other member => marked other (List.mem_cons_of_mem _ member)
    have here := marked row List.mem_cons_self
    cases rank : row.rank with
    | none =>
      have unranked : row.rankState ≠ "ranked" := fun state => by simp [rank] at here; exact here state
      simp [rankedRows,rank,unranked,rest]
    | some value =>
      have state : row.rankState = "ranked" := here.mpr (by simp [rank])
      simp [rankedRows,rank,state,rest,bind,Except.bind,pure,Except.pure]

theorem payoutRanks_filter (rows : List RankingRow) :
    payoutRanks (rows.filter fun row => row.rank.isSome) = payoutRanks rows := by
  unfold payoutRanks
  rw [List.filterMap_filter]
  congr 1
  funext row
  cases row.rank <;> rfl

theorem checkPayoutRanks_ok {name : RankingRow → String} {extra : RankingRow → Int → String} {fieldSize : Int}
    (marked : ∀ row ∈ rows, row.rankState = "ranked" ↔ row.rank.isSome) {count : Nat}
    (numbered : (payoutRanks rows).Perm ((List.range count).map fun index : Nat => (index : Int) + 1))
    (fits : (count : Int) ≤ fieldSize) : checkPayoutRanks name extra rows fieldSize = .ok () := by
  have length : (rows.filter fun row => row.rank.isSome).length = count := by
    have counted := numbered.length_eq
    rw [← payoutRanks_filter,payoutRanks,List.length_map,List.length_range] at counted
    rw [← counted,List.length_filterMap_eq_countP]
    exact (List.countP_eq_length.mpr fun row member => (List.mem_filter.mp member).2).symm
  have increasing : ((List.range count).map fun index : Nat => (index : Int) + 1).Pairwise (· < ·) := by
    rw [List.pairwise_map]
    exact List.pairwise_lt_range.imp fun below => by omega
  have sorted : (payoutRanks rows).insertionSort (· ≤ ·) = (List.range count).map fun index : Nat => (index : Int) + 1 :=
    List.Perm.eq_of_pairwise (fun _ _ _ _ below above => le_antisymm below above) (List.pairwise_insertionSort _ _)
      (increasing.imp fun below => below.le) ((List.perm_insertionSort _ _).trans numbered)
  have distinct : (payoutRanks rows).Nodup := numbered.nodup_iff.mpr (increasing.imp fun below => below.ne)
  unfold checkPayoutRanks
  rw [rankedRows_marked marked]
  simp only [bind,Except.bind,payoutRanks_filter,length,sorted]
  rw [if_neg (by omega),if_neg (not_not.mpr distinct),if_neg (not_not.mpr rfl)]

/-! What becomes of a row that is projected. -/

variable {floats : Floats} {request : Request}

theorem projected_rank {projected : Projected} (size : 2 ≤ request.fieldSize)
    (fits : 1 ≤ row.rank.getD request.fieldSize ∧ row.rank.getD request.fieldSize ≤ request.fieldSize)
    (done : projectFinalRankingRow floats request row = .ok projected) :
    projected.finalRankingID = some row.id ∧ projected.finalRank = row.rank.getD request.fieldSize := by
  obtain ⟨ranked,scored,rest⟩ := bind_ok done
  cases rest
  refine ⟨rfl,?_⟩
  unfold scoredRank tournamentResultScore at scored
  rw [if_neg (by omega),if_neg (by omega)] at scored
  exact (congrArg Prod.fst (Except.ok.inj scored)).symm

theorem withHiddenEval_rank (entry : Option HiddenEval) (projected : Projected) :
    (withHiddenEval floats entry projected).finalRankingID = projected.finalRankingID ∧
      (withHiddenEval floats entry projected).finalRank = projected.finalRank := by
  unfold withHiddenEval
  split
  · cases entry <;> exact ⟨rfl,rfl⟩
  · exact ⟨rfl,rfl⟩

theorem withIdentity_rank (blocker : Option String) (projected : Projected) :
    (withIdentity blocker projected).finalRankingID = projected.finalRankingID ∧
      (withIdentity blocker projected).finalRank = projected.finalRank := by
  cases blocker <;> exact ⟨rfl,rfl⟩

def ResultOf (request : Request) (row : RankingRow) (result : StoredResult) : Prop :=
  result.finalRankingID = some row.id ∧ result.finalRank = row.rank.getD request.fieldSize

theorem draft_rank {entry : StoredResult} (size : 2 ≤ request.fieldSize)
    (fits : 1 ≤ row.rank.getD request.fieldSize ∧ row.rank.getD request.fieldSize ≤ request.fieldSize)
    (done : draft floats request s row = .ok entry) : ResultOf request row entry := by
  unfold draft at done
  split at done
  · cases done
  · dsimp only at done
    split at done
    · cases done
    · obtain ⟨projected,made,rest⟩ := bind_ok done
      cases rest
      obtain ⟨ranking,rank⟩ := projected_rank size fits made
      unfold ResultOf
      dsimp only
      rw [(withIdentity_rank _ _).1,(withIdentity_rank _ _).2,(withHiddenEval_rank _ _).1,(withHiddenEval_rank _ _).2]
      exact ⟨ranking,rank⟩

theorem projectRow_stored {t : Store} {item : Item} (size : 2 ≤ request.fieldSize)
    (fits : 1 ≤ row.rank.getD request.fieldSize ∧ row.rank.getD request.fieldSize ≤ request.fieldSize)
    (done : projectRow floats request row s = (.ok item,t)) :
    item.minerID = (minerOf row).getD "" ∧
      ∃ result, t.results.get? (resultID row.tournamentID ((minerOf row).getD "")) = some result ∧ ResultOf request row result := by
  unfold projectRow at done
  rw [Faulty.read_run] at done
  cases made : draft floats request s row with
  | error error =>
    rw [made] at done
    cases done
  | ok entry =>
    rw [made] at done
    cases done
    have names := draft_names floats request made
    have ranked := draft_rank size fits made
    have final := counted_names (s := s.saveResult entry) floats request.lockedAt entry
    have kept : ResultOf request row (counted floats request.lockedAt (s.saveResult entry) entry) := by
      unfold counted
      split <;> exact ranked
    refine ⟨final.2.1.trans names.2,?_⟩
    rw [← names.2,← names.1]
    change ∃ result, (moveMultiplier _ _ _ (s.saveResult entry)).results.get? entry.id = some result ∧ _
    unfold moveMultiplier
    split
    · refine ⟨_,?_,kept⟩
      dsimp only
      split
      · exact (congrArg _ final.1.symm).trans (OrdMap.get?_insert_self ..)
      · exact (congrArg _ final.1.symm).trans (OrdMap.get?_insert_self ..)
    · exact ⟨entry,OrdMap.get?_insert_self ..,ranked⟩

theorem projectRows_stored (size : 2 ≤ request.fieldSize)
    (fits : ∀ row ∈ rows, 1 ≤ row.rank.getD request.fieldSize ∧ row.rank.getD request.fieldSize ≤ request.fieldSize)
    {tournamentID : String} (about : ∀ row ∈ rows, row.tournamentID = tournamentID) {items : List Item} {t : Store}
    (done : projectRows floats request rows s = (.ok items,t)) :
    (∀ item ∈ items, ∃ row ∈ rows, item.minerID = (minerOf row).getD "") ∧ (rows.Nodup → ∀ row ∈ rows,
      (∀ other ∈ rows, (minerOf other).getD "" = (minerOf row).getD "" → other = row) →
        ∃ result, t.results.get? (resultID tournamentID ((minerOf row).getD "")) = some result ∧ ResultOf request row result) := by
  induction rows generalizing s items with
  | nil =>
    cases done
    exact ⟨fun item member => (by cases member),fun _ row member => (by cases member)⟩
  | cons first rows ih =>
    obtain ⟨item,u,one,rest⟩ := Faulty.bind_ok done
    obtain ⟨later,v,two,last⟩ := Faulty.bind_ok rest
    cases last
    have aboutLater : ∀ row ∈ rows, row.tournamentID = tournamentID := fun row member => about row (List.mem_cons_of_mem _ member)
    obtain ⟨itemised,stored⟩ := ih (fun row member => fits row (List.mem_cons_of_mem _ member)) aboutLater two
    obtain ⟨miner,result,found,ranked⟩ := projectRow_stored size (fits first List.mem_cons_self) one
    constructor
    · intro other member
      rcases List.mem_cons.mp member with rfl | member
      · exact ⟨first,List.mem_cons_self,miner⟩
      · obtain ⟨row,inside,same⟩ := itemised other member
        exact ⟨row,List.mem_cons_of_mem _ inside,same⟩
    · intro distinct row member alone
      obtain ⟨fresh,apart⟩ := List.nodup_cons.mp distinct
      rcases List.mem_cons.mp member with rfl | inside
      · refine ⟨result,?_,ranked⟩
        rw [projectRows_results floats request aboutLater two]
        · rw [about row List.mem_cons_self] at found
          exact found
        · rintro ⟨other,listed,same⟩
          obtain ⟨row',inside',named⟩ := itemised other listed
          have equal := alone row' (List.mem_cons_of_mem _ inside') (named.symm.trans (resultID_injective same).symm)
          exact fresh (equal ▸ inside')
      · exact stored apart row inside fun other there => alone other (List.mem_cons_of_mem _ there)

/-! The rows of a tournament's first projection. -/

theorem get?_saveFinalRankings {store : Store} (distinct : (rows.map (·.id)).Nodup) (member : row ∈ rows)
    : (store.saveFinalRankings rows).finalRankings.get? row.id = some row := by
  unfold Store.saveFinalRankings
  dsimp only
  induction rows generalizing store with
  | nil => cases member
  | cons first rows ih =>
    obtain ⟨fresh,apart⟩ := List.nodup_cons.mp distinct
    rcases List.mem_cons.mp member with rfl | later
    · rw [List.foldl_cons,get?_foldl_insert_of_not_mem fresh,OrdMap.get?_insert_self]
    · have rest := @ih { store with finalRankings := store.finalRankings.insert first.id first } apart later
      exact rest

/-- Nothing is stored of the tournament yet. -/
structure FirstProjection (store : Store) (request : Request) : Prop where
  rankings : ∀ id row, store.finalRankings.get? id = some row → row.tournamentID ≠ request.tournamentID
  projections : store.projections.get? request.projectionID = none

structure Numbered (request : Request) : Prop where
  distinct : (request.rows.map (·.id)).Nodup
  about : ∀ row ∈ request.rows, row.tournamentID = request.tournamentID
  marked : ∀ row ∈ request.rows, row.rankState = "ranked" ↔ row.rank.isSome
  numbered : ∃ count : Nat, payoutRanks request.rows = (List.range count).map (fun index : Nat => (index : Int) + 1) ∧
    (count : Int) ≤ request.fieldSize
  units : ∀ row ∈ request.rows, ∀ other ∈ request.rows, row.rankState = "ranked" → other.rankState = "ranked" →
    unitKey other = unitKey row → other = row

def keptRows (store : Store) (request : Request) : List RankingRow :=
  canonicalPokerMttProjectionRows ((store.saveFinalRankings request.rows).listFinalRankings request.tournamentID)

section Kept
variable {store : Store}
variable {row : RankingRow}

theorem mem_listed (first : FirstProjection store request) (standing : Numbered request) :
    row ∈ (store.saveFinalRankings request.rows).listFinalRankings request.tournamentID ↔ row ∈ request.rows := by
  have listed : row ∈ (store.saveFinalRankings request.rows).listFinalRankings request.tournamentID ↔
      ∃ id, (store.saveFinalRankings request.rows).finalRankings.get? id = some row ∧ row.tournamentID = request.tournamentID := by
    have entry (id : String) : (id,row) ∈ ((store.saveFinalRankings request.rows).finalRankings.filter fun _ row =>
        row.tournamentID = request.tournamentID).entries ↔
        (store.saveFinalRankings request.rows).finalRankings.get? id = some row ∧ row.tournamentID = request.tournamentID := by
      rw [← OrdMap.get?_eq_some_iff,OrdMap.get?_filter,Option.filter_eq_some_iff,decide_eq_true_iff]
    rw [Store.listFinalRankings,(List.perm_insertionSort _ _).mem_iff,List.mem_map]
    simp only [Prod.exists,exists_eq_right,entry]
  rw [listed]
  constructor
  · rintro ⟨id,found,about⟩
    by_cases own : id ∈ request.rows.map (·.id)
    · obtain ⟨mine,inside,rfl⟩ := List.mem_map.mp own
      rw [get?_saveFinalRankings standing.distinct inside] at found
      exact Option.some.inj found ▸ inside
    · have old := (get?_foldl_insert_of_not_mem own).symm.trans found
      exact absurd about (first.rankings id row old)
  · intro inside
    exact ⟨row.id,get?_saveFinalRankings standing.distinct inside,standing.about row inside⟩

theorem mem_keptRows (first : FirstProjection store request) (standing : Numbered request)
    (member : row ∈ keptRows store request) : row ∈ request.rows :=
  (mem_listed first standing).mp (mem_canonical member)

theorem ranked_kept (first : FirstProjection store request) (standing : Numbered request) (inside : row ∈ request.rows)
    (ranked : row.rankState = "ranked") : row ∈ keptRows store request := by
  obtain ⟨best,kept,unit,below⟩ := canonical_best ((mem_listed first standing).mpr inside)
  have member := mem_keptRows first standing kept
  have rank := (standing.marked row inside).mp ranked
  have state : best.rankState = "ranked" := by
    by_contra unranked
    unfold sortKey at below
    rw [Prod.Lex.toLex_le_toLex,if_neg fun both => unranked both.1,if_pos ⟨ranked,rank⟩] at below
    simp at below
  exact standing.units row inside best member ranked state unit ▸ kept

theorem keptRows_ranks (first : FirstProjection store request) (standing : Numbered request) :
    (payoutRanks (keptRows store request)).Perm (payoutRanks request.rows) := by
  have distinct : (keptRows store request).Nodup := (canonical_nodup _).of_map
  rw [← payoutRanks_filter,← payoutRanks_filter request.rows]
  refine ((List.perm_ext_iff_of_nodup (distinct.filter _) (standing.distinct.of_map.filter _)).mpr fun row => ?_).filterMap _
  rw [List.mem_filter,List.mem_filter]
  constructor
  · exact fun both => ⟨mem_keptRows first standing both.1,both.2⟩
  · exact fun both => ⟨ranked_kept first standing both.1 ((standing.marked row both.1).mpr both.2),both.2⟩

theorem keptRows_accepted (first : FirstProjection store request) (standing : Numbered request) :
    validatePokerMttPayoutRanks (keptRows store request) request.fieldSize = .ok () := by
  obtain ⟨count,numbered,fits⟩ := standing.numbered
  exact checkPayoutRanks_ok (fun row member => standing.marked row (mem_keptRows first standing member))
    (numbered ▸ keptRows_ranks first standing) fits

theorem Numbered.valid (standing : Numbered request) : request.validatePayoutRanks = .ok () := by
  obtain ⟨count,numbered,fits⟩ := standing.numbered
  exact checkPayoutRanks_ok standing.marked (List.Perm.of_eq numbered) fits

theorem project_ranked (first : FirstProjection store request) (standing : Numbered request)
    (bounds : request.inBounds = true) (mode : request.ratedOrPractice = "rated" ∨ request.ratedOrPractice = "practice")
    (policy : request.policyBundleVersion ≠ "")
    (registered : ∀ row ∈ keptRows store request, present (minerOf row) = true ∧ (store.miners.get? ((minerOf row).getD "")).isSome)
    (inside : row ∈ request.rows) (ranked : row.rankState = "ranked")
    (alone : ∀ other ∈ keptRows store request, (minerOf other).getD "" = (minerOf row).getD "" → other = row) :
    ∃ result, (projectPokerMttFinalRankings floats request store).2.results.get?
      (resultID request.tournamentID ((minerOf row).getD "")) = some result ∧ ResultOf request row result := by
  have size : 2 ≤ request.fieldSize := by
    simp only [Request.inBounds,Bool.and_eq_true,decide_eq_true_iff] at bounds
    exact bounds.1
  have accepted := keptRows_accepted first standing
  have checked : checkedRows request (store.saveFinalRankings request.rows) = .ok (keptRows store request) := by
    have some_ : (store.saveFinalRankings request.rows).listFinalRankings request.tournamentID ≠ [] :=
      List.ne_nil_of_mem ((mem_listed first standing).mpr inside)
    unfold checkedRows
    rw [if_neg fun neither => mode.elim neither.1 neither.2,if_neg (by omega),if_neg policy]
    dsimp only
    rw [if_neg some_]
    unfold keptRows at accepted
    rw [accepted]
    rfl
  have about := checkedRows_tournament checked
  have fits := fun row => @checkedRows_fits row _ _ _ checked
  obtain ⟨items,ends⟩ := projectRows_ends floats request (s := (store.saveFinalRankings request.rows).saveTournament
    (tournamentOf request (keptRows store request))) size fun row member => ⟨(registered row member).1,(registered row member).2,fits row member⟩
  have done : projectRows floats request (keptRows store request) ((store.saveFinalRankings request.rows).saveTournament
      (tournamentOf request (keptRows store request))) = (.ok items,_) := Prod.ext ends rfl
  obtain ⟨result,found,outcome⟩ := (projectRows_stored size fits about done).2 (canonical_nodup _).of_map row
    (ranked_kept first standing inside ranked) alone
  refine ⟨result,?_,outcome⟩
  rw [project_anew floats ⟨bounds,standing.valid⟩ first.projections,
    projectAnew_ok floats ((projectStored_checked floats checked).trans done)]
  exact found

end Kept
end Clawchain.Projection
