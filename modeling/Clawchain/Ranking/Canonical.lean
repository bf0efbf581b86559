import Clawchain.Ranking.Standings

/-! One paid row for each economic unit: which of a unit's rows stays ranked when
its entries are collapsed. -/
namespace Clawchain.Ranking
open Clawchain.Lib Clawchain.Lib.Fallible Clawchain.Lib.Format Clawchain.Lib.Sorting

abbrev CanonicalKey := Bool ×ₗ Bool ×ₗ Int ×ₗ Int ×ₗ String

def canonicalKey (row : FinalRankingRow) : CanonicalKey :=
  toLex (decide (row.rankState ≠ .ranked),toLex (row.rank.isNone,toLex (row.rank.getD 0,
    toLex (-row.entryNumber,row.memberID))))

theorem ranks_first {a b : Option Int} {less : Bool} :
    (if a.isSome ∧ b.isSome ∧ a ≠ b then decide (a.getD 0 < b.getD 0)
      else if a.isSome ∧ b = none then true
      else if a = none ∧ b.isSome then false else less) = true ↔
      a.isNone < b.isNone ∨ a.isNone = b.isNone ∧ (a.getD 0 < b.getD 0 ∨ a.getD 0 = b.getD 0 ∧ less = true) := by
  rw [← numbers_first]
  cases a <;> cases b <;> simp

theorem betterCanonicalRow_iff (candidate current : FinalRankingRow) :
    betterCanonicalRow candidate current = true ↔ canonicalKey candidate < canonicalKey current := by
  have entries : (if candidate.entryNumber ≠ current.entryNumber then
      decide (current.entryNumber < candidate.entryNumber) else decide (candidate.memberID < current.memberID)) = true ↔
      -candidate.entryNumber < -current.entryNumber ∨
        -candidate.entryNumber = -current.entryNumber ∧ candidate.memberID < current.memberID := by
    rw [neg_lt_neg_iff,neg_inj]
    by_cases same : candidate.entryNumber = current.entryNumber
    · simp [same]
    · simp [same]
  unfold betterCanonicalRow canonicalKey
  simp only [Prod.Lex.toLex_lt_toLex]
  rw [← entries,← ranks_first]
  by_cases candidateRanked : candidate.rankState = .ranked
  · by_cases currentRanked : current.rankState = .ranked
    · simp [candidateRanked,currentRanked]
    · simp [candidateRanked,currentRanked]
  · by_cases currentRanked : current.rankState = .ranked
    · simp [candidateRanked,currentRanked]
    · simp [candidateRanked,currentRanked]

section Groups

variable {rows : List FinalRankingRow} {unit : String}

theorem mem_groupOf {place : FinalRankingRow × Nat} :
    place ∈ groupOf rows unit ↔ rows[place.2]? = some place.1 ∧ place.1.unit = unit := by
  simp [groupOf,List.mem_zipIdx_iff_getElem?]

theorem chooseCanonicalIndex_spec {i : Nat} {row : FinalRankingRow} (found : rows[i]? = some row) :
    ∃ (c : Nat) (best : FinalRankingRow), chooseCanonicalIndex (groupOf rows row.unit) = some c ∧
      rows[c]? = some best ∧ best.unit = row.unit ∧
      ∀ (j : Nat) (other : FinalRankingRow), rows[j]? = some other → other.unit = row.unit →
        canonicalKey best ≤ canonicalKey other := by
  have inside : (row,i) ∈ groupOf rows row.unit := mem_groupOf.mpr ⟨found,rfl⟩
  cases group : groupOf rows row.unit with
  | nil =>
    rw [group] at inside
    cases inside
  | cons first rest =>
    obtain ⟨member,least⟩ := @foldl_better _ _ _ (fun a b => betterCanonicalRow a.1 b.1) rest first
      (fun place : FinalRankingRow × Nat => canonicalKey place.1) fun a b => betterCanonicalRow_iff a.1 b.1
    rw [← group] at member least
    obtain ⟨there,unit⟩ := mem_groupOf.mp member
    exact ⟨_,_,rfl,there,unit,fun j other at_ same => least (other,j) (mem_groupOf.mpr ⟨at_,same⟩)⟩

theorem collapse_state {i : Nat} {row : FinalRankingRow} (found : rows[i]? = some row) :
    ∃ after, (collapseDuplicateEconomicUnits rows)[i]? = some after ∧ Kept row after ∧
      (after.rankState = .ranked ↔
        row.rankState = .ranked ∧ chooseCanonicalIndex (groupOf rows row.unit) = some i) ∧
      (row.rankState = .ranked → after.rankState = .ranked ∨ after.rankState = .duplicateEntryCollapsed) := by
  obtain ⟨c,best,chosen,there,unit,-⟩ := chooseCanonicalIndex_spec found
  have several : some i ≠ chooseCanonicalIndex (groupOf rows row.unit) → 1 < (groupOf rows row.unit).length := by
    intro other
    rw [chosen] at other
    have differ : i ≠ c := fun same => other (by rw [same])
    have first : (row,i) ∈ groupOf rows row.unit := mem_groupOf.mpr ⟨found,rfl⟩
    have second : (best,c) ∈ groupOf rows row.unit := mem_groupOf.mpr ⟨there,unit⟩
    by_contra short
    obtain ⟨j,atJ⟩ := List.mem_iff_getElem?.mp first
    obtain ⟨k,atK⟩ := List.mem_iff_getElem?.mp second
    have boundJ := (List.getElem?_eq_some_iff.mp atJ).1
    have boundK := (List.getElem?_eq_some_iff.mp atK).1
    have same : j = k := by omega
    rw [same,atK] at atJ
    exact differ (congrArg Prod.snd (Option.some.inj atJ)).symm
  have at_ := getElem?_collapse rows i
  rw [found,Option.map_some] at at_
  refine ⟨_,at_,by constructor <;> rfl,?_,?_⟩
  · dsimp only
    by_cases ranked : row.rankState = .ranked
    · by_cases canonical : chooseCanonicalIndex (groupOf rows row.unit) = some i
      · simp [canonical,ranked]
      · have other : some i ≠ chooseCanonicalIndex (groupOf rows row.unit) := fun same => canonical same.symm
        rw [if_pos ⟨several other,other,ranked⟩]
        simp [canonical]
    · rw [if_neg fun all => ranked all.2.2]
      simp [ranked]
  · intro ranked
    dsimp only
    split
    · exact .inr rfl
    · exact .inl ranked

end Groups

variable {go : Go} {entrants : List FinalRankingRow}

variable {row : FinalRankingRow}

theorem assigned_state {i : Nat}
    (at_ : (assignUniquePayoutRanks go (collapseDuplicateEconomicUnits entrants))[i]? = some row) :
    ∃ old, entrants[i]? = some old ∧ Kept old row ∧
      (row.rankState = .ranked ↔
        old.rankState = .ranked ∧ chooseCanonicalIndex (groupOf entrants old.unit) = some i) ∧
      (old.rankState = .ranked → row.rankState = .ranked ∨ row.rankState = .duplicateEntryCollapsed) := by
  cases found : entrants[i]? with
  | none =>
    rw [getElem?_assign,getElem?_collapse,found] at at_
    cases at_
  | some old =>
    obtain ⟨collapsed,there,first,ranked,outcome⟩ := collapse_state found
    obtain ⟨other,assigned,second,state⟩ := exists_assign go there
    cases assigned.symm.trans at_
    refine ⟨old,rfl,first.trans second,?_,?_⟩
    · rw [state]
      exact ranked
    · rw [state]
      exact outcome

/-- The order in which a unit's rows are preferred: display rank, later entry, member. -/
def PreferredTo (a b : FinalRankingRow) : Prop :=
  a.displayRank.getD 0 < b.displayRank.getD 0 ∨ a.displayRank = b.displayRank ∧
    (b.entryNumber < a.entryNumber ∨ a.entryNumber = b.entryNumber ∧ a.memberID < b.memberID)

/-- Each unit with a row that can be ranked has one ranked row, and none of its rows is preferred to that row. -/
structure OnePerUnit (rows : List FinalRankingRow) : Prop where
  distinct : rows.Pairwise fun a b => a.rankState = .ranked → b.rankState = .ranked → a.unit ≠ b.unit
  rankable : ∀ row ∈ rows, row.rankState = .ranked → row.rankable = true
  canonical : ∀ row ∈ rows, row.rankable = true → ∃ paid ∈ rows, paid.unit = row.unit ∧ paid.rankState = .ranked ∧
    ∀ other ∈ rows, other.unit = row.unit → other.rankable = true → ¬PreferredTo other paid
  collapsed : ∀ row ∈ rows, row.rankable = true → row.rankState = .ranked ∨ row.rankState = .duplicateEntryCollapsed

theorem finalRows_distinct : (Finalizer.finalRows go entrants).Pairwise fun a b =>
    a.rankState = .ranked → b.rankState = .ranked → a.unit ≠ b.unit := by
  rw [Finalizer.finalRows,(sortFinalRows_perm go _).pairwise_iff fun {a b} apart rankedB rankedA same =>
    apart rankedA rankedB same.symm]
  rw [List.pairwise_iff_getElem]
  intro i j boundI boundJ before rankedI rankedJ same
  obtain ⟨left,-,keptLeft,stateLeft,-⟩ := assigned_state (List.getElem?_eq_getElem boundI)
  obtain ⟨right,-,keptRight,stateRight,-⟩ := assigned_state (List.getElem?_eq_getElem boundJ)
  have chosenLeft := (stateLeft.mp rankedI).2
  have chosenRight := (stateRight.mp rankedJ).2
  rw [← keptLeft.unit,same,keptRight.unit,chosenRight] at chosenLeft
  cases chosenLeft
  exact lt_irrefl _ before

theorem not_preferredTo {old best paid : FinalRankingRow} (keptRow : Kept old row) (keptPaid : Kept best paid)
    (ranked : old.rankState = .ranked) (bestRanked : best.rankState = .ranked) (placedOld : old.rank = old.displayRank)
    (placedBest : best.rank = best.displayRank) {first last : Int} (displayedBest : best.displayRank = some first)
    (displayedOld : old.displayRank = some last) (least : canonicalKey best ≤ canonicalKey old) :
    ¬PreferredTo row paid := by
  unfold PreferredTo
  rw [keptRow.displayRank,keptPaid.displayRank,keptRow.entryNumber,keptPaid.entryNumber,keptRow.memberID,
    keptPaid.memberID,displayedBest,displayedOld]
  have lower : ¬canonicalKey old < canonicalKey best := not_lt.mpr least
  intro preferred
  apply lower
  unfold canonicalKey
  rw [placedOld,placedBest,displayedOld,displayedBest,ranked,bestRanked]
  repeat rw [Prod.Lex.toLex_lt_toLex]
  rcases preferred with less | ⟨same,later⟩
  · exact .inr ⟨rfl,.inr ⟨rfl,.inl less⟩⟩
  · refine .inr ⟨rfl,.inr ⟨rfl,.inr ⟨by rw [Option.some.inj same],?_⟩⟩⟩
    rcases later with later | ⟨even,before⟩
    · exact .inl (neg_lt_neg later)
    · exact .inr ⟨by rw [even],before⟩

theorem Entered.displayed {canonical : List ZMember} (entered : Entered canonical row)
    (ranked : row.rankState = .ranked) : ∃ displayRank, row.displayRank = some displayRank := by
  have rankable := entered.state.mp ranked
  cases entered.stands with
  | alive index member listed status displayed score => exact ⟨_,displayed⟩
  | died displayRank below status displayed => exact ⟨_,displayed⟩
  | pending status displayed => simp [FinalRankingRow.rankable,status] at rankable

theorem finalRows_canonical {canonical : List ZMember} (entered : ∀ row ∈ entrants, Entered canonical row)
    (member : row ∈ Finalizer.finalRows go entrants) (rankable : row.rankable = true) :
    ∃ paid ∈ Finalizer.finalRows go entrants, paid.unit = row.unit ∧ paid.rankState = .ranked ∧
      ∀ other ∈ Finalizer.finalRows go entrants, other.unit = row.unit → other.rankable = true →
        ¬PreferredTo other paid := by
  obtain ⟨i,at_⟩ := List.mem_iff_getElem?.mp ((mem_sortFinalRows go).mp member)
  obtain ⟨old,found,kept,-,-⟩ := assigned_state at_
  have rankedOf {old row : FinalRankingRow} (inside : old ∈ entrants) (kept : Kept old row)
      (rankable : row.rankable = true) : old.rankState = .ranked :=
    (entered old inside).state.mpr (kept.rankable.symm.trans rankable)
  have oldRanked := rankedOf (List.mem_of_getElem? found) kept rankable
  obtain ⟨c,best,chosen,there,unit,least⟩ := chooseCanonicalIndex_spec found
  have bestRanked : best.rankState = .ranked := by
    have key := least i old found rfl
    unfold canonicalKey at key
    rw [Prod.Lex.toLex_le_toLex,oldRanked] at key
    by_contra unranked
    rcases key with less | ⟨same,-⟩
    · exact absurd less (by simp [unranked])
    · exact absurd same (by simp [unranked])
  obtain ⟨collapsed,collapsedAt,first,state,-⟩ := collapse_state there
  obtain ⟨paid,paidAt,second,same⟩ := exists_assign go collapsedAt
  refine ⟨paid,(mem_sortFinalRows go).mpr (List.mem_of_getElem? paidAt),?_,?_,?_⟩
  · rw [(first.trans second).unit,unit,kept.unit]
  · rw [same]
    exact state.mpr ⟨bestRanked,by rw [unit]; exact chosen⟩
  · intro other inside sameUnit otherRankable
    obtain ⟨j,otherAt⟩ := List.mem_iff_getElem?.mp ((mem_sortFinalRows go).mp inside)
    obtain ⟨earlier,earlierAt,earlierKept,-,-⟩ := assigned_state otherAt
    have earlierRanked := rankedOf (List.mem_of_getElem? earlierAt) earlierKept otherRankable
    have enteredBest := entered best (List.mem_of_getElem? there)
    have enteredEarlier := entered earlier (List.mem_of_getElem? earlierAt)
    obtain ⟨_,displayedBest⟩ := enteredBest.displayed bestRanked
    obtain ⟨_,displayedEarlier⟩ := enteredEarlier.displayed earlierRanked
    exact not_preferredTo earlierKept (first.trans second) earlierRanked bestRanked enteredEarlier.placed
      enteredBest.placed displayedBest displayedEarlier
      (least j earlier earlierAt (earlierKept.unit.symm.trans (sameUnit.trans kept.unit)))

variable {finalizer : Finalizer} {snapshot : LiveSnapshot} {registration : RegistrationSnapshot}

/-- One paid row for each economic unit: the one with the best display rank, then the latest entry. -/
theorem finalization_onePerUnit {finalization : Finalization}
    (accepted : finalizer.finalizeWithRegistration go snapshot registration = .ok finalization) :
    OnePerUnit finalization.rows := by
  obtain ⟨sources,entrants,decoded,made,rows,-⟩ := accepted_cases accepted
  have entered := entrantRows_entered go sources made
  rw [rows]
  constructor
  · exact finalRows_distinct
  · intro row member ranked
    exact finalRows_rankable entered member ranked
  · intro row member rankable
    exact finalRows_canonical entered member rankable
  · intro row member rankable
    obtain ⟨i,at_⟩ := List.mem_iff_getElem?.mp ((mem_sortFinalRows go).mp member)
    obtain ⟨old,found,kept,-,outcome⟩ := assigned_state at_
    exact outcome ((entered old (List.mem_of_getElem? found)).state.mpr (kept.rankable.symm.trans rankable))

/-! Whom a row names. -/

/-- The tournament of a row. One without an economic unit names neither a miner nor a user. -/
structure Identified (tournamentID : String) (row : FinalRankingRow) : Prop where
  tournamentID : row.tournamentID = tournamentID
  unnamed : row.economicUnitID = "" → row.minerAddress = "" ∧ row.sourceUserID = ""

theorem firstString_blank {values : List Value} (blank : firstString go values = "") :
    ∀ value ∈ values, normalizeString go value = "" := by
  intro value inside
  by_contra left
  obtain ⟨text,found⟩ : ∃ text, (values.map (normalizeString go)).find? (· ≠ "") = some text :=
    Option.isSome_iff_exists.mp (List.find?_isSome.mpr ⟨_,List.mem_map_of_mem inside,by simpa using left⟩)
  have some_ := List.find?_some found
  rw [firstString,found,Option.getD_some] at blank
  simp [blank] at some_

theorem firstString_trimmed {values : List Value} (blank : normalizeString go (.text (firstString go values)) = "") :
    firstString go values = "" := by
  cases found : (values.map (normalizeString go)).find? (· ≠ "") with
  | none =>
    rw [firstString,found]
    rfl
  | some text =>
    obtain ⟨value,-,rfl⟩ := List.mem_map.mp (List.mem_of_find?_eq_some found)
    simp only [firstString,found,Option.getD_some] at blank ⊢
    cases value with
    | null => rfl
    | _ => exact trimSpace_trimSpace_eq_empty_iff.mp blank

theorem normalizeRow_identified (config : NormalizeRowConfig) (entry : Entry) (memberID : String) (status : StandingStatus)
    (rank : Option Int) (found : Bool) :
    Identified config.tournamentID (normalizeRow go config entry memberID status rank found) := by
  refine ⟨rfl,fun unnamed => ?_⟩
  simp only [normalizeRow] at unnamed ⊢
  split_ifs at unnamed with user
  · simp [String.append_eq_empty_iff] at unnamed
  · refine ⟨firstString_trimmed (firstString_blank unnamed _ (by simp)),?_⟩
    by_contra named
    exact user ⟨unnamed,named⟩

theorem entrantRows_identified {sources : Sources} {alive : List ZMember} {died : List String} {rows : List FinalRankingRow}
    (done : entrantRows go sources alive died = .ok rows) : ∀ row ∈ rows, Identified sources.config.tournamentID row := by
  refine entrantRows_forall go sources (fun index member => ?_) (fun entry memberID displayRank => ?_) (fun memberID => ?_) done
  · unfold aliveRow
    obtain ⟨about,unnamed⟩ := @normalizeRow_identified go sources.config (sources.entry (trimSpace member.member))
      (trimSpace member.member) .alive (some (index + 1)) (sources.found (trimSpace member.member))
    exact ⟨about,unnamed⟩
  · unfold diedRow
    obtain ⟨about,unnamed⟩ := @normalizeRow_identified go sources.config (mergeEntries (sources.entry memberID) entry)
      memberID .died (some displayRank) (sources.found memberID)
    exact ⟨about,unnamed⟩
  · unfold pendingRow
    obtain ⟨about,unnamed⟩ := @normalizeRow_identified go sources.config (sources.entry memberID) memberID .pending none
      (sources.found memberID)
    exact ⟨about,unnamed⟩

theorem finalRows_identified {tournamentID : String} (identified : ∀ row ∈ entrants, Identified tournamentID row)
    (member : row ∈ Finalizer.finalRows go entrants) :
    Identified tournamentID row ∧ 1 ≤ row.reentryCount := by
  obtain ⟨i,collapsed,found,same,-⟩ := of_mem_assign go ((mem_sortFinalRows go).mp member)
  rw [getElem?_collapse] at found
  obtain ⟨old,there,rfl⟩ := Option.map_eq_some_iff.mp found
  have counted : (old,i) ∈ groupOf entrants old.unit := mem_groupOf.mpr ⟨there,rfl⟩
  obtain ⟨about,unnamed⟩ := identified old (List.mem_of_getElem? there)
  rw [same]
  exact ⟨⟨about,unnamed⟩,List.length_pos_of_mem counted⟩

theorem accepted_tournament {finalization : Finalization}
    (accepted : finalizer.finalizeWithRegistration go snapshot registration = .ok finalization) {sources : Sources}
    (decoded : finalizer.sourcesOf go snapshot registration = .ok sources) :
    finalization.tournamentID = sources.config.tournamentID := by
  obtain ⟨sources',decoded',rest⟩ := bind_ok accepted
  obtain rfl : sources = sources' := Except.ok.inj (decoded.symm.trans decoded')
  obtain ⟨entrants,-,rest⟩ := bind_ok rest
  obtain ⟨_,-,rest⟩ := bind_ok rest
  obtain ⟨root,-,rest⟩ := bind_ok rest
  cases rest
  obtain ⟨_,-,rest⟩ := bind_ok decoded
  obtain ⟨_,-,rest⟩ := bind_ok rest
  obtain ⟨_,-,rest⟩ := bind_ok rest
  obtain ⟨_,-,rest⟩ := bind_ok rest
  obtain ⟨_,-,rest⟩ := bind_ok rest
  cases rest
  rfl

/-! Two entries of one user that bust together. -/

def bust (entry chips : String) : String :=
  object ("\"userID\":\"7\",\"entryNumber\":" ++ entry ++ ",\"rank\":1,\"startChip\":" ++ chips)

def tiedGo : Go := plainGo
  [(bust "1" "100",[("userID",.text "7"),("entryNumber",.number (.finite 1)),("rank",.number (.finite 1)),
      ("startChip",.number (.finite 100))]),
    (bust "2" "50",[("userID",.text "7"),("entryNumber",.number (.finite 2)),("rank",.number (.finite 1)),
      ("startChip",.number (.finite 50))])]

def tiedEntries : LiveSnapshot where
  tournamentID := "mtt-1"
  died := [bust "1" "100",bust "2" "50"]

def tiedStandings : Option (List FinalRankingRow) :=
  (Finalizer.finalizeWithRegistration tiedGo {} tiedEntries {}).toOption.map fun finalization => finalization.rows

theorem tiedStandings_some : tiedStandings.isSome = true := by decide +kernel

theorem tiedStandings_order : (tiedStandings.getD []).any (fun paid => (tiedStandings.getD []).any fun other =>
    paid.unit = other.unit ∧ paid.rankState = .ranked ∧ other.rankable = true ∧ payoutLess tiedGo other paid = true) =
    true := by
  decide +kernel

/-- The later entry is paid, though the earlier one comes first in the payout order. -/
theorem payout_first_fails : ∃ finalization,
    Finalizer.finalizeWithRegistration tiedGo {} tiedEntries {} = .ok finalization ∧
      ∃ paid ∈ finalization.rows, ∃ other ∈ finalization.rows, paid.unit = other.unit ∧ paid.rankState = .ranked ∧
        other.rankable = true ∧ payoutLess tiedGo other paid = true := by
  have returned := tiedStandings_some
  have order := tiedStandings_order
  unfold tiedStandings at returned order
  cases result : Finalizer.finalizeWithRegistration tiedGo {} tiedEntries {} with
  | error refusal =>
    rw [result] at returned
    cases returned
  | ok finalization =>
    rw [result] at order
    obtain ⟨paid,inside,rest⟩ := List.any_eq_true.mp order
    obtain ⟨other,there,holds⟩ := List.any_eq_true.mp rest
    exact ⟨finalization,rfl,paid,inside,other,there,of_decide_eq_true holds⟩

theorem finalization_onePerUnit_tied : ∃ finalization,
    Finalizer.finalizeWithRegistration tiedGo {} tiedEntries {} = .ok finalization ∧ OnePerUnit finalization.rows := by
  have returned := tiedStandings_some
  unfold tiedStandings at returned
  cases result : Finalizer.finalizeWithRegistration tiedGo {} tiedEntries {} with
  | error refusal =>
    rw [result] at returned
    cases returned
  | ok finalization => exact ⟨finalization,rfl,finalization_onePerUnit result⟩

end Clawchain.Ranking
