import Clawchain.Lib.Fallible
import Clawchain.Projection.Service

/-! Projecting the same rows in two stores: where the stores agree on what the rows' miners have, the items agree, and so do
the results that are written. -/
namespace Clawchain.Projection
open Clawchain.Lib Clawchain.Mining Clawchain.Poker

theorem resultID_injective {tournamentID first second : String} (same : resultID tournamentID first = resultID tournamentID second) :
    first = second := (String.append_right_inj _).mp same

namespace Store

variable {s : Store}

theorem get?_countedResults {minerAddress id : String} : (s.countedResults minerAddress).get? id =
    (s.results.get? id).filter fun result => result.minerAddress = minerAddress && result.eligibleForMultiplier :=
  OrdMap.get?_filter _ _ _

theorem get?_saveResult {result : StoredResult} {id : String} :
    (s.saveResult result).results.get? id = if id = result.id then some result else s.results.get? id :=
  OrdMap.get?_insert ..

theorem countedResults_saveResult {result : StoredResult} {minerAddress id : String} (other : id ≠ result.id) :
    ((s.saveResult result).countedResults minerAddress).get? id = (s.countedResults minerAddress).get? id := by
  rw [get?_countedResults,get?_countedResults,get?_saveResult,if_neg other]

theorem multiplierOf_updateMultiplier {minerAddress other : String} {multiplier : MinerMultiplier} :
    (s.updateMultiplier minerAddress multiplier).multiplierOf other =
      if other = minerAddress then multiplier.pokerMttMultiplier else s.multiplierOf other := by
  unfold updateMultiplier multiplierOf
  rw [OrdMap.get?_insert]
  by_cases same : other = minerAddress
  · rw [if_pos same,if_pos same]
    rfl
  · rw [if_neg same,if_neg same]

end Store

structure Agree (tournamentID : String) (members : List String) (written : String → Prop) (s o : Store) : Prop where
  miners : s.miners = o.miners
  identities : s.identities = o.identities
  hiddenEvals : s.hiddenEvals = o.hiddenEvals
  multipliers : ∀ member ∈ members, s.multiplierOf member = o.multiplierOf member
  counted : ∀ member ∈ members, ∀ id, id ≠ resultID tournamentID member →
    (s.countedResults member).get? id = (o.countedResults member).get? id
  written : ∀ id, written id → s.results.get? id = o.results.get? id

variable {tournamentID : String} {members : List String} {written : String → Prop} {s o : Store}

namespace Agree

theorem saveResult (agree : Agree tournamentID members written s o) (result : StoredResult) :
    Agree tournamentID members (fun id => written id ∨ id = result.id) (s.saveResult result) (o.saveResult result) where
  miners := agree.miners
  identities := agree.identities
  hiddenEvals := agree.hiddenEvals
  multipliers := agree.multipliers
  counted member inside id other := by
    by_cases same : id = result.id
    · rw [Store.get?_countedResults,Store.get?_countedResults,Store.get?_saveResult,Store.get?_saveResult,if_pos same,
        if_pos same]
    · rw [Store.countedResults_saveResult same,Store.countedResults_saveResult same]
      exact agree.counted member inside id other
  written id either := by
    rw [Store.get?_saveResult,Store.get?_saveResult]
    by_cases same : id = result.id
    · rw [if_pos same,if_pos same]
    · rw [if_neg same,if_neg same]
      exact agree.written id (either.resolve_right same)

theorem updateMultiplier (agree : Agree tournamentID members written s o) (minerAddress : String)
    (multiplier : MinerMultiplier) :
    Agree tournamentID members written (s.updateMultiplier minerAddress multiplier) (o.updateMultiplier minerAddress multiplier) where
  miners := agree.miners
  identities := agree.identities
  hiddenEvals := agree.hiddenEvals
  multipliers member inside := by
    rw [Store.multiplierOf_updateMultiplier,Store.multiplierOf_updateMultiplier,agree.multipliers member inside]
  counted := agree.counted
  written := agree.written

theorem saveMultiplierSnapshot (agree : Agree tournamentID members written s o) (row : MultiplierRow) :
    Agree tournamentID members written (s.saveMultiplierSnapshot row) (o.saveMultiplierSnapshot row) :=
  ⟨agree.miners,agree.identities,agree.hiddenEvals,agree.multipliers,agree.counted,agree.written⟩

theorem countedResults_eq (agree : Agree tournamentID members written s o) {member : String} (inside : member ∈ members)
    (own : written (resultID tournamentID member)) : s.countedResults member = o.countedResults member := by
  apply OrdMap.ext_get?
  intro id
  by_cases same : id = resultID tournamentID member
  · rw [Store.get?_countedResults,Store.get?_countedResults,same,agree.written _ own]
  · exact agree.counted member inside id same

theorem mono (agree : Agree tournamentID members written s o) {fewer : String → Prop} (weaker : ∀ id, fewer id → written id) :
    Agree tournamentID members fewer s o :=
  ⟨agree.miners,agree.identities,agree.hiddenEvals,agree.multipliers,agree.counted,
    fun id held => agree.written id (weaker id held)⟩

end Agree

variable (floats : Floats) (request : Request)

theorem projected_names {row : RankingRow} {projected : Projected}
    (done : projectFinalRankingRow floats request row = .ok projected) :
    projected.id = resultID row.tournamentID ((minerOf row).getD "") ∧ projected.minerAddress = (minerOf row).getD "" := by
  obtain ⟨ranked,-,rest⟩ := Fallible.bind_ok done
  cases rest
  exact ⟨rfl,rfl⟩

@[simp] theorem blocked_id (reason : String) (projected : Projected) : (blocked reason projected).id = projected.id := rfl

@[simp] theorem blocked_minerAddress (reason : String) (projected : Projected) :
    (blocked reason projected).minerAddress = projected.minerAddress := rfl

theorem withHiddenEval_names (entry : Option HiddenEval) (projected : Projected) :
    (withHiddenEval floats entry projected).id = projected.id ∧
      (withHiddenEval floats entry projected).minerAddress = projected.minerAddress := by
  unfold withHiddenEval
  split
  · cases entry <;> exact ⟨rfl,rfl⟩
  · exact ⟨rfl,rfl⟩

theorem withIdentity_names (blocker : Option String) (projected : Projected) :
    (withIdentity blocker projected).id = projected.id ∧
      (withIdentity blocker projected).minerAddress = projected.minerAddress := by
  cases blocker <;> exact ⟨rfl,rfl⟩

theorem draft_names {row : RankingRow} {entry : StoredResult} (done : draft floats request s row = .ok entry) :
    entry.id = resultID row.tournamentID entry.minerAddress ∧ entry.minerAddress = (minerOf row).getD "" := by
  unfold draft at done
  split at done
  · cases done
  · dsimp only at done
    split at done
    · cases done
    · obtain ⟨projected,made,rest⟩ := Fallible.bind_ok done
      cases rest
      obtain ⟨id,minerAddress⟩ := projected_names floats request made
      dsimp only
      rw [(withIdentity_names _ _).1,(withIdentity_names _ _).2,(withHiddenEval_names floats _ _).1,
        (withHiddenEval_names floats _ _).2]
      exact ⟨by rw [id,minerAddress],minerAddress⟩

theorem draft_agree (agree : Agree tournamentID members written s o) {row : RankingRow}
    (inside : (minerOf row).getD "" ∈ members) : draft floats request s row = draft floats request o row := by
  unfold draft Store.hiddenEvalOf
  dsimp only
  rw [agree.miners,agree.identities,agree.hiddenEvals,agree.multipliers _ inside]

theorem counted_names (now : Time) (entry : StoredResult) :
    (counted floats now s entry).id = entry.id ∧ (counted floats now s entry).minerAddress = entry.minerAddress ∧
      (counted floats now s entry).eligibleForMultiplier = entry.eligibleForMultiplier := by
  unfold counted
  split <;> exact ⟨rfl,rfl,rfl⟩

theorem counted_agree {entry : StoredResult} (now : Time)
    (same : s.countedResults entry.minerAddress = o.countedResults entry.minerAddress) :
    counted floats now s entry = counted floats now o entry := by
  unfold counted standing Store.listCounted
  rw [same]

theorem moveMultiplier_agree (agree : Agree tournamentID members written s o) (policyBundleVersion : String) (now : Time)
    (entry : StoredResult) : Agree tournamentID members written (moveMultiplier policyBundleVersion now entry s)
      (moveMultiplier policyBundleVersion now entry o) := by
  unfold moveMultiplier
  split
  · have moved := ((agree.saveResult entry).updateMultiplier entry.minerAddress
      ⟨entry.multiplierAfter,some (isoformatZ now)⟩).mono fun id held => Or.inl held
    dsimp only
    split
    · exact moved
    · exact moved.saveMultiplierSnapshot _
  · exact agree

def Itemised (tournamentID : String) (items : List Item) (id : String) : Prop :=
  ∃ item ∈ items, id = resultID tournamentID item.minerID

theorem projectRow_agree (agree : Agree tournamentID members written s o) {row : RankingRow}
    (inside : (minerOf row).getD "" ∈ members) (about : row.tournamentID = tournamentID) :
    (projectRow floats request row s).1 = (projectRow floats request row o).1 ∧
      ∀ item, (projectRow floats request row s).1 = .ok item →
        Agree tournamentID members (fun id => written id ∨ id = resultID tournamentID item.minerID)
          (projectRow floats request row s).2 (projectRow floats request row o).2 := by
  have drafted := draft_agree floats request agree inside
  unfold projectRow
  rw [Faulty.read_run,Faulty.read_run,← drafted]
  cases made : draft floats request s row with
  | error error => exact ⟨rfl,fun item done => by cases done⟩
  | ok entry =>
    obtain ⟨id,named⟩ := draft_names floats request made
    rw [about] at id
    have saved := agree.saveResult entry
    have own : (fun other => written other ∨ other = entry.id) (resultID tournamentID entry.minerAddress) := Or.inr id.symm
    have same := saved.countedResults_eq (named ▸ inside) own
    have final := counted_agree floats request.lockedAt same
    simp only [Faulty.modify_bind,Faulty.read_run]
    rw [← final]
    refine ⟨rfl,?_⟩
    intro item done
    cases done
    apply (moveMultiplier_agree saved _ _ _).mono
    intro other held
    rcases held with held | same
    · exact .inl held
    · refine .inr ?_
      rw [same,id]
      exact congrArg _ (counted_names floats request.lockedAt entry).2.1

theorem projectRows_agree (agree : Agree tournamentID members written s o) {rows : List RankingRow}
    (inside : ∀ row ∈ rows, (minerOf row).getD "" ∈ members) (about : ∀ row ∈ rows, row.tournamentID = tournamentID) :
    (projectRows floats request rows s).1 = (projectRows floats request rows o).1 ∧
      ∀ items, (projectRows floats request rows s).1 = .ok items →
        Agree tournamentID members (fun id => written id ∨ Itemised tournamentID items id)
          (projectRows floats request rows s).2 (projectRows floats request rows o).2 := by
  induction rows generalizing s o written with
  | nil =>
    refine ⟨rfl,?_⟩
    intro items done
    cases done
    exact agree.mono fun id held => held.resolve_right fun ⟨_,member,_⟩ => by cases member
  | cons row rows ih =>
    obtain ⟨first,next⟩ := projectRow_agree floats request agree (inside row List.mem_cons_self) (about row List.mem_cons_self)
    unfold projectRows
    cases left : projectRow floats request row s with
    | mk outcome t =>
      cases right : projectRow floats request row o with
      | mk other u =>
        rw [left,right] at first next
        obtain rfl : outcome = other := first
        cases outcome with
        | error refusal =>
          rw [Faulty.bind_of_error _ left,Faulty.bind_of_error _ right]
          exact ⟨rfl,fun items done => by cases done⟩
        | ok item =>
          rw [Faulty.bind_of_ok _ left,Faulty.bind_of_ok _ right]
          obtain ⟨same,later⟩ := ih (next item rfl) (fun row member => inside row (List.mem_cons_of_mem _ member))
            fun row member => about row (List.mem_cons_of_mem _ member)
          cases rest : projectRows floats request rows t with
          | mk outcome v =>
            cases others : projectRows floats request rows u with
            | mk other w =>
              rw [rest,others] at same later
              obtain rfl : outcome = other := same
              cases outcome with
              | error refusal =>
                rw [Faulty.bind_of_error _ rest,Faulty.bind_of_error _ others]
                exact ⟨rfl,fun items done => by cases done⟩
              | ok items =>
                rw [Faulty.bind_of_ok _ rest,Faulty.bind_of_ok _ others]
                refine ⟨rfl,?_⟩
                intro all done
                cases done
                apply (later items rfl).mono
                rintro id (held | ⟨other,member,same⟩)
                · exact .inl (.inl held)
                · rcases List.mem_cons.mp member with rfl | member
                  · exact .inl (.inr same)
                  · exact .inr ⟨other,member,same⟩

/-! What projecting rows leaves alone. -/

/-- All but the results, the tournaments and the multipliers. -/
structure Steady (s t : Store) : Prop where
  finalRankings : t.finalRankings = s.finalRankings
  projections : t.projections = s.projections
  miners : t.miners = s.miners
  identities : t.identities = s.identities
  hiddenEvals : t.hiddenEvals = s.hiddenEvals

theorem Steady.refl (s : Store) : Steady s s := ⟨rfl,rfl,rfl,rfl,rfl⟩

theorem Steady.trans (a b c : Store) (first : Steady a b) (second : Steady b c) : Steady a c where
  finalRankings := second.finalRankings.trans first.finalRankings
  projections := second.projections.trans first.projections
  miners := second.miners.trans first.miners
  identities := second.identities.trans first.identities
  hiddenEvals := second.hiddenEvals.trans first.hiddenEvals

theorem moveMultiplier_steady (policyBundleVersion : String) (now : Time) (entry : StoredResult) (s : Store) :
    Steady s (moveMultiplier policyBundleVersion now entry s) := by
  unfold moveMultiplier
  split
  · dsimp only
    split <;> exact ⟨rfl,rfl,rfl,rfl,rfl⟩
  · exact Steady.refl s

theorem projectRow_steady (row : RankingRow) : Faulty.Moves Steady (projectRow floats request row) := by
  apply Faulty.Moves.read
  intro store
  split
  · exact Faulty.Moves.fail Steady.refl _
  · rename_i entry _
    have saved (s : Store) : Steady s (s.saveResult entry) := ⟨rfl,rfl,rfl,rfl,rfl⟩
    apply Faulty.Moves.bind Steady.trans (Faulty.Moves.modify saved)
    intro _
    apply Faulty.Moves.read
    intro store
    apply Faulty.Moves.bind Steady.trans (Faulty.Moves.modify (moveMultiplier_steady _ _ _))
    exact fun _ => Faulty.Moves.pure Steady.refl _

theorem projectRows_steady (rows : List RankingRow) : Faulty.Moves Steady (projectRows floats request rows) := by
  induction rows with
  | nil => exact Faulty.Moves.pure Steady.refl _
  | cons row rows ih =>
    apply Faulty.Moves.bind Steady.trans (projectRow_steady floats request row)
    intro item
    exact Faulty.Moves.bind Steady.trans ih fun _ => Faulty.Moves.pure Steady.refl _

theorem moveMultiplier_results (policyBundleVersion : String) (now : Time) (entry : StoredResult) (s : Store) {id : String}
    (other : id ≠ entry.id) : (moveMultiplier policyBundleVersion now entry s).results.get? id = s.results.get? id := by
  unfold moveMultiplier
  split
  · dsimp only
    split
    · exact OrdMap.get?_insert_of_ne _ _ other
    · exact OrdMap.get?_insert_of_ne _ _ other
  · rfl

theorem projectRow_results {row : RankingRow} {item : Item} {t : Store} (about : row.tournamentID = tournamentID)
    (done : projectRow floats request row s = (.ok item,t)) {id : String} (other : id ≠ resultID tournamentID item.minerID) :
    t.results.get? id = s.results.get? id := by
  unfold projectRow at done
  rw [Faulty.read_run] at done
  cases made : draft floats request s row with
  | error error =>
    rw [made] at done
    cases done
  | ok entry =>
    rw [made] at done
    cases done
    have names := draft_names floats request made
    have final := counted_names (s := s.saveResult entry) floats request.lockedAt entry
    have apart : id ≠ entry.id := by
      rw [names.1,about,← final.2.1]
      exact other
    change (moveMultiplier _ _ _ (s.saveResult entry)).results.get? id = _
    rw [moveMultiplier_results _ _ _ _ (by rw [final.1]; exact apart)]
    exact OrdMap.get?_insert_of_ne _ _ apart

theorem projectRows_results {rows : List RankingRow} (about : ∀ row ∈ rows, row.tournamentID = tournamentID)
    {items : List Item} {s t : Store} (done : projectRows floats request rows s = (.ok items,t)) {id : String}
    (other : ¬Itemised tournamentID items id) : t.results.get? id = s.results.get? id := by
  induction rows generalizing s items with
  | nil =>
    cases done
    rfl
  | cons row rows ih =>
    obtain ⟨item,u,first,rest⟩ := Faulty.bind_ok done
    obtain ⟨later,v,second,last⟩ := Faulty.bind_ok rest
    cases last
    rw [ih (fun row member => about row (List.mem_cons_of_mem _ member)) second
      fun ⟨entry,member,same⟩ => other ⟨entry,List.mem_cons_of_mem _ member,same⟩]
    apply projectRow_results floats request (about row List.mem_cons_self) first
    exact fun same => other ⟨item,List.mem_cons_self,same⟩

/-- The row names a registered miner, and a rank that fits the field. -/
structure Payable (s : Store) (row : RankingRow) : Prop where
  named : present (minerOf row) = true
  registered : (s.miners.get? ((minerOf row).getD "")).isSome
  fits : 1 ≤ row.rank.getD request.fieldSize ∧ row.rank.getD request.fieldSize ≤ request.fieldSize

theorem draft_ends (size : 2 ≤ request.fieldSize) {row : RankingRow} (payable : Payable request s row) :
    ∃ entry, draft floats request s row = .ok entry := by
  obtain ⟨miner,registered⟩ := Option.isSome_iff_exists.mp payable.registered
  have scored : ∃ score, tournamentResultScore floats (row.rank.getD request.fieldSize) request.fieldSize = .ok score := by
    unfold tournamentResultScore
    rw [if_neg (by omega),if_neg (by have := payable.fits; omega)]
    exact ⟨_,rfl⟩
  obtain ⟨score,scored⟩ := scored
  have projected : ∃ projected, projectFinalRankingRow floats request row = .ok projected := by
    unfold projectFinalRankingRow scoredRank
    rw [scored]
    exact ⟨_,rfl⟩
  obtain ⟨projected,made⟩ := projected
  unfold draft
  rw [if_neg (by rw [payable.named]; simp)]
  dsimp only
  rw [registered,made]
  exact ⟨_,rfl⟩

theorem projectRow_ends (size : 2 ≤ request.fieldSize) {row : RankingRow} (payable : Payable request s row) :
    (projectRow floats request row).Ends s := by
  obtain ⟨entry,made⟩ := draft_ends floats request size payable
  unfold Faulty.Ends projectRow
  rw [Faulty.read_run,made]
  exact ⟨_,rfl⟩

theorem projectRows_ends (size : 2 ≤ request.fieldSize) {rows : List RankingRow} {s : Store}
    (payable : ∀ row ∈ rows, Payable request s row) : (projectRows floats request rows).Ends s := by
  induction rows generalizing s with
  | nil => exact ⟨_,rfl⟩
  | cons row rows ih =>
    obtain ⟨item,first⟩ := projectRow_ends floats request size (payable row List.mem_cons_self)
    have steady := projectRow_steady floats request row s
    cases run : projectRow floats request row s with
    | mk outcome t =>
      rw [run] at first steady
      obtain rfl : outcome = .ok item := first
      have later : ∀ row ∈ rows, Payable request t row := by
        intro row member
        obtain ⟨named,registered,fits⟩ := payable row (List.mem_cons_of_mem _ member)
        exact ⟨named,by rw [steady.miners]; exact registered,fits⟩
      obtain ⟨items,rest⟩ := ih later
      unfold projectRows Faulty.Ends
      rw [Faulty.bind_of_ok _ run]
      cases last : projectRows floats request rows t with
      | mk outcome u =>
        rw [last] at rest
        obtain rfl : outcome = .ok items := rest
        rw [Faulty.bind_of_ok _ last]
        exact ⟨_,rfl⟩

end Clawchain.Projection
