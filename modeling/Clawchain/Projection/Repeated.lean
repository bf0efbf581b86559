import Clawchain.Lib.Runs
import Clawchain.Projection.Standings
import Mathlib.Data.Fintype.Order

/-! Runs of calls that apply results, and a call that is repeated: it moves no multiplier as long as its results that count are
among the latest of their miners. -/
namespace Clawchain.Projection
open Clawchain.Lib Clawchain.Mining Clawchain.Poker

inductive Event where
  | registerMiner (miner : Miner)
  | saveFinalRanking (row : RankingRow)
  | saveHiddenEvals (entries : List HiddenEval)
  | applyResults (request : ApplyRequest)

abbrev Call := Time × Event

section Runs
variable (floats : Floats)

def ApplyRequest.on (request : ApplyRequest) (now : Time) : ApplyRequest := { request with completedAt := now }

def Call.after (call : Call) (store : Store) : Store :=
  match call.2 with
  | .registerMiner miner =>
    if startsWith "claw1" miner.address = false ∨ (store.miners.get? miner.address).isSome then store
    else { store with miners := store.miners.insert miner.address miner }
  | .saveFinalRanking row => store.saveFinalRankings [row]
  | .saveHiddenEvals entries => { store with hiddenEvals := entries }
  | .applyResults request => (applyPokerMttResults floats (request.on call.1) store).2

def finish (calls : List Call) (store : Store) : Store := calls.foldl (fun store call => call.after floats store) store

/-- No result that counts is written over by one that does not count for its miner. -/
structure StaysCounted (request : ApplyRequest) (store : Store) : Prop where
  stored : ∀ row ∈ request.results, ∀ old, store.results.get? (row.id request) = some old → old.eligibleForMultiplier = true →
    old.minerAddress = row.minerID ∧ row.counts request store = true
  same : ∀ row ∈ request.results, ∀ other ∈ request.results, row.minerID = other.minerID →
    row.counts request store = true → other.counts request store = true

def Call.Counts (store : Store) (call : Call) : Prop :=
  match call.2 with
  | .applyResults request => StaysCounted request store
  | _ => True

/-- The store is what calls up to a time leave, and every multiplier follows from the results that count. -/
structure InStep (now : Time) (store : Store) : Prop where
  keyed : store.Keyed
  past : ∀ id result, store.results.get? id = some result → result.updatedAt ≤ isoformatZ now
  synced : ∀ minerAddress, store.multiplierOf minerAddress = (standing floats store minerAddress).2
  unnamed : store.miners.get? "" = none

variable {floats} {now later : Time} {s t start : Store} {request : ApplyRequest} {entry : StoredResult} {row : ResultRow}
variable {minerAddress : String} {rows : List ResultRow} {calls : List Call} {before : Time}

theorem inStep_empty : InStep floats now {} where
  keyed _ _ found := by cases found
  past _ _ found := by cases found
  synced _ := rfl
  unnamed := rfl

theorem InStep.mono (inStep : InStep floats now s) (order : now ≤ later) : InStep floats later s where
  keyed := inStep.keyed
  past id result found := (inStep.past id result found).trans (Int.ediv_le_ediv (by decide) order)
  synced := inStep.synced
  unnamed := inStep.unnamed

theorem InStep.ofSame (inStep : InStep floats now s) (results : t.results = s.results) (multipliers : t.multipliers = s.multipliers)
    (unnamed : t.miners.get? "" = none) : InStep floats now t where
  keyed := by
    unfold Store.Keyed
    rw [results]
    exact inStep.keyed
  past := by
    rw [results]
    exact inStep.past
  synced := by
    unfold Store.multiplierOf standing Store.listCounted Store.countedResults
    rw [results,multipliers]
    exact inStep.synced
  unnamed := unnamed

theorem InStep.writes (inStep : InStep floats now s) (writes : Writes floats s t entry) (updated : entry.updatedAt = isoformatZ now)
    (stays : ∀ old, s.results.get? entry.id = some old → old.eligibleForMultiplier = true →
      old.minerAddress = entry.minerAddress ∧ entry.eligibleForMultiplier = true)
    (unnamed : t.miners.get? "" = none) : InStep floats now t where
  keyed := writes.keyed inStep.keyed
  past id result found := by
    rw [writes.results,OrdMap.get?_insert] at found
    split_ifs at found with own
    · cases found
      exact updated.le
    · exact inStep.past id result found
  synced minerAddress := by
    rw [writes.multiplier minerAddress]
    split_ifs with own
    · rfl
    · rw [inStep.synced minerAddress]
      refine congrArg Prod.snd (standing_congr inStep.keyed (writes.keyed inStep.keyed) (writes.figures ?_ ?_).symm)
      · by_cases counts : entry.eligibleForMultiplier = true
        · exact .inl fun same => own ⟨counts,same⟩
        · exact .inr (by simpa using counts)
      · intro old found owner
        by_contra counts
        obtain ⟨same,counted⟩ := stays old found (by simpa using counts)
        exact own ⟨counted,owner.symm.trans same⟩
  unnamed := unnamed

theorem review_steady (steady : Steady s t) (row : ResultRow) : review request t row = review request s row := by
  unfold review Store.hiddenEvalOf
  rw [steady.finalRankings,steady.hiddenEvals]

theorem counts_congr (same : review request t row = review request s row) : row.counts request t = row.counts request s := by
  unfold ResultRow.counts
  rw [same]

theorem total_congr (same : review request t row = review request s row) :
    row.total floats request t = row.total floats request s := by
  unfold ResultRow.total
  rw [same]

theorem counts_steady (steady : Steady s t) (row : ResultRow) : row.counts request t = row.counts request s :=
  counts_congr (review_steady steady row)

theorem entered_steady (steady : Steady s t) (entered : Entered floats request t row entry) : Entered floats request s row entry where
  id := entered.id
  miner := entered.miner
  counts := entered.counts.trans (counts_steady steady row)
  total := entered.total.trans (total_congr (review_steady steady row))
  updated := entered.updated

theorem applyRow_inStep (checked : request.checked = .ok ()) (member : row ∈ request.results)
    (inStep : InStep floats request.completedAt s) (stays : StaysCounted request s) :
    InStep floats request.completedAt (applyRow floats request row s).2 ∧
      StaysCounted request (applyRow floats request row s).2 := by
  have steady := @applyRow_steady floats request row s
  rcases @applyRow_writes floats request s checked inStep.keyed row with ⟨-,same⟩ | ⟨entry,entered,writes⟩
  · rw [same]
    exact ⟨inStep,stays⟩
  · refine ⟨inStep.writes writes entered.updated ?_ (steady.miners ▸ inStep.unnamed),?_,?_⟩
    · intro old found counts
      obtain ⟨same,counted⟩ := stays.stored row member old (entered.id ▸ found) counts
      exact ⟨same.trans entered.miner.symm,entered.counts.trans counted⟩
    · intro other inside old found counts
      rw [counts_steady steady]
      rw [writes.results,OrdMap.get?_insert] at found
      split_ifs at found with own
      · cases found
        have named := resultID_injective (entered.id ▸ own.symm : row.id request = other.id request)
        exact ⟨entered.miner.trans named,stays.same row member other inside named (entered.counts.symm.trans counts)⟩
      · exact stays.stored other inside old found counts
    · intro one first two second same counts
      rw [counts_steady steady] at counts ⊢
      exact stays.same one first two second same counts

theorem apply_inStep (inStep : InStep floats request.completedAt s) (stays : StaysCounted request s) :
    InStep floats request.completedAt (applyPokerMttResults floats request s).2 := by
  cases checked : request.checked with
  | error error =>
    rw [apply_unchecked floats checked]
    exact inStep
  | ok =>
    rw [apply_checked floats checked]
    let Keeps (s t : Store) : Prop := InStep floats request.completedAt s ∧ StaysCounted request s →
      InStep floats request.completedAt t ∧ StaysCounted request t
    have trans : ∀ a b c, Keeps a b → Keeps b c → Keeps a c := fun _ _ _ first next both => next (first both)
    have rows : Faulty.Moves Keeps (Faulty.collect (applyRow floats request) request.results) :=
      Faulty.Moves.collect (fun _ both => both) trans fun row member s both => applyRow_inStep checked member both.1 both.2
    have loop := Faulty.Moves.bind trans rows fun items => Faulty.Moves.pure (fun _ both => both) (request.response items)
    have saved : InStep floats request.completedAt (s.saveTournament request.tournament) :=
      inStep.ofSame rfl rfl inStep.unnamed
    exact (loop (s.saveTournament request.tournament) ⟨saved,stays.stored,stays.same⟩).1

theorem apply_steady (s : Store) : Steady s (applyPokerMttResults floats request s).2 := by
  cases checked : request.checked with
  | error error =>
    rw [apply_unchecked floats checked]
    exact Steady.refl s
  | ok =>
    rw [apply_checked floats checked]
    have rows : Faulty.Moves Steady (Faulty.collect (applyRow floats request) request.results) :=
      Faulty.Moves.collect Steady.refl Steady.trans fun row _ => applyRow_steady floats row
    have loop := Faulty.Moves.bind Steady.trans rows fun items => Faulty.Moves.pure Steady.refl (request.response items)
    exact Steady.trans _ _ _ (saveTournament_steady request.tournament) (loop _)

/-! What is stored of a call in the end: for every miner the last of its rows. -/

def lastOf (rows : List ResultRow) (minerAddress : String) : Option ResultRow :=
  (rows.filter (·.minerID = minerAddress)).getLast?

theorem lastOf_cons (rows : List ResultRow) (minerAddress : String) : lastOf (row :: rows) minerAddress =
    (lastOf rows minerAddress).or (if row.minerID = minerAddress then some row else none) := by
  unfold lastOf
  by_cases own : row.minerID = minerAddress
  · rw [List.filter_cons_of_pos (by simpa using own),List.getLast?_cons,if_pos own]
    cases (rows.filter (·.minerID = minerAddress)).getLast? <;> rfl
  · rw [List.filter_cons_of_neg (by simpa using own),if_neg own,Option.or_none]

theorem lastOf_some (found : lastOf rows minerAddress = some row) :
    row ∈ rows ∧ row.minerID = minerAddress := by
  simpa using List.mem_filter.mp (List.mem_of_getLast? found)

theorem lastOf_none (absent : lastOf rows minerAddress = none) :
    ∀ row ∈ rows, row.minerID ≠ minerAddress := by
  intro row member own
  have empty := List.getLast?_eq_none_iff.mp absent
  exact List.filter_eq_nil_iff.mp empty row member (by simpa using own)

def Untouched (id : String) (s t : Store) : Prop := s.Keyed → t.Keyed ∧ t.results.get? id = s.results.get? id

theorem Untouched.trans {id : String} (a b c : Store) (first : Untouched id a b) (next : Untouched id b c) : Untouched id a c := by
  intro keyed
  obtain ⟨middle,same⟩ := first keyed
  exact ⟨(next middle).1,(next middle).2.trans same⟩

theorem collect_untouched (checked : request.checked = .ok ()) {rows : List ResultRow} {id : String}
    (free : ∀ row ∈ rows, id ≠ row.id request) :
    Faulty.Moves (Untouched id) (Faulty.collect (applyRow floats request) rows) := by
  apply Faulty.Moves.collect (fun _ keyed => ⟨keyed,rfl⟩) Untouched.trans
  intro row member s keyed
  rcases @applyRow_writes floats request s checked keyed row with ⟨-,same⟩ | ⟨entry,entered,writes⟩
  · rw [same]
    exact ⟨keyed,rfl⟩
  · refine ⟨writes.keyed keyed,?_⟩
    rw [writes.results]
    exact OrdMap.get?_insert_of_ne _ _ (entered.id ▸ free row member)

theorem collect_entered (checked : request.checked = .ok ()) {items : List AppliedItem} {last : ResultRow}
    (keyed : s.Keyed) (done : Faulty.collect (applyRow floats request) rows s = (.ok items,t))
    (found : lastOf rows minerAddress = some last) : ∃ entry,
      t.results.get? (resultID request.tournamentID minerAddress) = some entry ∧ Entered floats request s last entry := by
  induction rows generalizing s items with
  | nil => cases found
  | cons row rest ih =>
    obtain ⟨item,middle,first,later⟩ := Faulty.bind_ok done
    obtain ⟨others,_,run,ended⟩ := Faulty.bind_ok later
    cases ended
    have steady := @applyRow_steady floats request row s
    rcases @applyRow_writes floats request s checked keyed row with ⟨failed,-⟩ | ⟨entry,entered,writes⟩
    · rw [first] at failed
      cases failed
    · rw [first] at steady writes
      rw [lastOf_cons] at found
      cases tail : lastOf rest minerAddress with
      | some other =>
        rw [tail] at found
        cases found
        obtain ⟨entry,stored,entered⟩ := ih (writes.keyed keyed) run tail
        exact ⟨entry,stored,entered_steady steady entered⟩
      | none =>
        rw [tail,Option.none_or] at found
        split_ifs at found with own
        cases found
        subst own
        have untouched := (@collect_untouched floats request checked rest _ fun other member same =>
          lastOf_none tail other member (resultID_injective same).symm) middle (writes.keyed keyed)
        rw [run] at untouched
        refine ⟨entry,untouched.2.trans ?_,entered⟩
        rw [writes.results,entered.id]
        exact OrdMap.get?_insert_self _ _ _

theorem apply_untouched {id : String} (free : ∀ row ∈ request.results, id ≠ row.id request) :
    Untouched id s (applyPokerMttResults floats request s).2 := by
  cases checked : request.checked with
  | error error =>
    rw [apply_unchecked floats checked]
    exact fun keyed => ⟨keyed,rfl⟩
  | ok =>
    rw [apply_checked floats checked]
    exact Faulty.Moves.bind Untouched.trans (collect_untouched checked free)
      (fun items => Faulty.Moves.pure (fun _ keyed => ⟨keyed,rfl⟩) (request.response items)) (s.saveTournament request.tournament)

theorem apply_entered {last : ResultRow} {minerAddress : String} (keyed : s.Keyed)
    (accepted : (applyPokerMttResults floats request s).1.isOk) (found : lastOf request.results minerAddress = some last) :
    ∃ entry, (applyPokerMttResults floats request s).2.results.get? (resultID request.tournamentID minerAddress) = some entry ∧
      Entered floats request s last entry := by
  obtain ⟨checked,items,ran⟩ := apply_accepted floats accepted
  obtain ⟨entry,stored,entered⟩ := collect_entered (s := s.saveTournament request.tournament) checked keyed ran found
  exact ⟨entry,stored,entered_steady (saveTournament_steady request.tournament) entered⟩

theorem call_inStep {call : Call} (inStep : InStep floats call.1 s) (counts : call.Counts s) :
    InStep floats call.1 (call.after floats s) := by
  obtain ⟨now,event⟩ := call
  cases event with
  | registerMiner miner =>
    unfold Call.after
    dsimp only
    split
    · exact inStep
    · rename_i fresh
      refine inStep.ofSame rfl rfl ?_
      have named : miner.address ≠ "" := by
        intro empty
        rw [empty] at fresh
        exact fresh (.inl (by decide))
      exact (OrdMap.get?_insert_of_ne _ _ named.symm).trans inStep.unnamed
  | saveFinalRanking row => exact inStep.ofSame rfl rfl inStep.unnamed
  | saveHiddenEvals entries => exact inStep.ofSame rfl rfl inStep.unnamed
  | applyResults request => exact @apply_inStep floats s (request.on now) inStep ⟨counts.stored,counts.same⟩

theorem finish_inStep (inStep : InStep floats now s) (after : ∀ call ∈ calls, now ≤ call.1)
    (before : ∀ call ∈ calls, call.1 ≤ later) (order : now ≤ later) (ordered : (calls.map Prod.fst).Pairwise (· ≤ ·))
    (counts : Along (fun store call => call.after floats store) (fun store call => call.Counts store) calls s) :
    InStep floats later (finish floats calls s) := by
  induction calls generalizing s now with
  | nil => exact inStep.mono order
  | cons call rest ih =>
    obtain ⟨first,ordered⟩ := List.pairwise_cons.mp ordered
    have next := call_inStep (inStep.mono (after call List.mem_cons_self)) counts.1
    exact ih next (fun other member => first _ (List.mem_map_of_mem member))
      (fun other member => before other (List.mem_cons_of_mem _ member)) (before call List.mem_cons_self) ordered counts.2

theorem finish_empty_inStep (before : ∀ call ∈ calls, call.1 ≤ later) (ordered : (calls.map Prod.fst).Pairwise (· ≤ ·))
    (counts : Along (fun store call => call.after floats store) (fun store call => call.Counts store) calls {}) :
    InStep floats later (finish floats calls {}) := by
  cases calls with
  | nil => exact inStep_empty
  | cons call rest =>
    refine finish_inStep (@inStep_empty floats call.1) (fun other member => ?_) before (before call List.mem_cons_self) ordered counts
    rcases List.mem_cons.mp member with rfl | member
    · exact le_rfl
    · exact (List.pairwise_cons.mp ordered).1 _ (List.mem_map_of_mem member)

theorem finish_untouched {calls : List Call} {id : String} (free : ∀ now request, (now,Event.applyResults request) ∈ calls →
    ∀ row ∈ request.results, id ≠ row.id request) : Untouched id s (finish floats calls s) := by
  induction calls generalizing s with
  | nil => exact fun keyed => ⟨keyed,rfl⟩
  | cons call rest ih =>
    apply Untouched.trans _ (call.after floats s) _ _ (ih fun now request member => free now request (List.mem_cons_of_mem _ member))
    obtain ⟨now,event⟩ := call
    cases event with
    | registerMiner miner =>
      unfold Call.after
      dsimp only
      split <;> exact fun keyed => ⟨keyed,rfl⟩
    | saveFinalRanking row => exact fun keyed => ⟨keyed,rfl⟩
    | saveHiddenEvals entries => exact fun keyed => ⟨keyed,rfl⟩
    | applyResults request => exact @apply_untouched floats s (request.on now) _ (free now request List.mem_cons_self)

structure Unchanged (request : ApplyRequest) (s t : Store) : Prop where
  rankings : ∀ row ∈ request.results, ∀ id, row.finalRankingID = some id → t.finalRankings.get? id = s.finalRankings.get? id
  hiddenEvals : ∀ row ∈ request.results, ∀ id, row.finalRankingID = some id →
    t.hiddenEvalOf request.tournamentID id = s.hiddenEvalOf request.tournamentID id

theorem Unchanged.review (unchanged : Unchanged request s t) (member : row ∈ request.results) :
    review request t row = review request s row := by
  have rankings : row.finalRankingID.bind t.finalRankings.get? = row.finalRankingID.bind s.finalRankings.get? := by
    cases named : row.finalRankingID with
    | none => rfl
    | some id => exact unchanged.rankings row member id named
  have hiddenEvals : row.finalRankingID.bind (t.hiddenEvalOf request.tournamentID) =
      row.finalRankingID.bind (s.hiddenEvalOf request.tournamentID) := by
    cases named : row.finalRankingID with
    | none => rfl
    | some id => exact unchanged.hiddenEvals row member id named
  unfold Projection.review
  rw [rankings,hiddenEvals]

theorem finish_registered {calls : List Call} {minerAddress : String} (registered : (s.miners.get? minerAddress).isSome) :
    ((finish floats calls s).miners.get? minerAddress).isSome := by
  induction calls generalizing s with
  | nil => exact registered
  | cons call rest ih =>
    apply ih
    obtain ⟨now,event⟩ := call
    cases event with
    | registerMiner miner =>
      unfold Call.after
      dsimp only
      split
      · exact registered
      · rw [OrdMap.get?_insert]
        split
        · rfl
        · exact registered
    | saveFinalRanking row => exact registered
    | saveHiddenEvals entries => exact registered
    | applyResults request =>
      rw [show (Call.after floats (now,.applyResults request) s).miners = s.miners from (apply_steady s).miners]
      exact registered

theorem repeated_accepted {before : Time} (accepted : (applyPokerMttResults floats (request.on before) s).1.isOk)
    (unnamed : s.miners.get? "" = none) (unnamed' : t.miners.get? "" = none)
    (registered : ∀ minerAddress, (s.miners.get? minerAddress).isSome → (t.miners.get? minerAddress).isSome) :
    (applyPokerMttResults floats (request.on now) t).1.isOk := by
  obtain ⟨checked,items,ran⟩ := apply_accepted floats accepted
  have again : (request.on now).checked = .ok () := checked
  have fine : ∀ row ∈ request.results, row.refusal (request.on now) (t.saveTournament (request.on now).tournament) = none := by
    intro row member
    obtain ⟨known,ranked⟩ := refusal_none.mp (applyRows_ok (s := s.saveTournament (request.on before).tournament) floats checked unnamed ran row member)
    exact refusal_none.mpr ⟨registered _ known,ranked⟩
  obtain ⟨others,ends⟩ := applyRows_ends (s := t.saveTournament (request.on now).tournament) floats again unnamed' fine
  have run : Faulty.collect (applyRow floats (request.on now)) (request.on now).results
      (t.saveTournament (request.on now).tournament) = (.ok others,_) := Prod.ext ends rfl
  rw [apply_checked floats again,Faulty.bind_of_ok _ run]
  rfl

theorem Entered.repeated {old : StoredResult} (unchanged : Unchanged request s t) (member : row ∈ request.results)
    (first : Entered floats (request.on before) s row old) (again : Entered floats (request.on now) t row entry) :
    entry.minerAddress = old.minerAddress ∧ entry.eligibleForMultiplier = old.eligibleForMultiplier ∧
      entry.totalScore = old.totalScore := by
  have same := unchanged.review member
  have counts : row.counts (request.on now) t = row.counts (request.on before) s := counts_congr same
  have total : row.total floats (request.on now) t = row.total floats (request.on before) s := total_congr same
  exact ⟨again.miner.trans first.miner.symm,again.counts.trans (counts.trans first.counts.symm),
    again.total.trans (total.trans first.total.symm)⟩

theorem figures_repeated {before : Time} {minerAddress : String} (unchanged : Unchanged request start s) (keyed : s.Keyed)
    (accepted : (applyPokerMttResults floats (request.on now) s).1.isOk)
    (stored : ∀ member last, lastOf request.results member = some last → ∃ old,
      s.results.get? (resultID request.tournamentID member) = some old ∧ Entered floats (request.on before) start last old) :
    (applyPokerMttResults floats (request.on now) s).2.figures minerAddress =
      if (lastOf request.results minerAddress).isSome then
        s.touchedFigures now minerAddress (resultID request.tournamentID minerAddress)
      else s.figures minerAddress := by
  apply OrdMap.ext_get?
  intro id
  by_cases own : ∃ row ∈ request.results, id = row.id request
  · obtain ⟨row,member,rfl⟩ := own
    obtain ⟨last,found⟩ : ∃ last, lastOf request.results row.minerID = some last := by
      cases tail : lastOf request.results row.minerID with
      | none => exact absurd rfl (lastOf_none tail row member)
      | some last => exact ⟨last,rfl⟩
    obtain ⟨old,held,first⟩ := stored _ last found
    obtain ⟨entry,written,again⟩ := @apply_entered floats s (request.on now) _ _ keyed accepted found
    obtain ⟨miner,counts,total⟩ := Entered.repeated unchanged (lastOf_some found).1 first again
    have owner : entry.minerAddress = row.minerID := again.miner.trans (lastOf_some found).2
    have after : ((applyPokerMttResults floats (request.on now) s).2.figures minerAddress).get? (row.id request) =
        if entry.minerAddress = minerAddress ∧ entry.eligibleForMultiplier = true then some (entry.updatedAt,entry.totalScore)
        else none := get?_figures.trans (congrArg (Option.bind · _) written)
    have before : (s.figures minerAddress).get? (row.id request) =
        if old.minerAddress = minerAddress ∧ old.eligibleForMultiplier = true then some (old.updatedAt,old.totalScore)
        else none := get?_figures.trans (congrArg (Option.bind · _) held)
    rw [after,miner,counts,total,again.updated]
    rw [miner] at owner
    by_cases same : row.minerID = minerAddress
    · subst same
      have named : row.id request = resultID request.tournamentID row.minerID := rfl
      rw [found,Option.isSome_some,if_pos rfl,Store.touchedFigures,OrdMap.get?_modifyAt,if_pos named,before]
      split_ifs <;> rfl
    · have other : row.id request ≠ resultID request.tournamentID minerAddress := fun names =>
        same (resultID_injective names)
      have none : (s.figures minerAddress).get? (row.id request) = none :=
        before.trans (if_neg fun both => same (owner.symm.trans both.1))
      rw [if_neg fun both => same (owner.symm.trans both.1)]
      split_ifs
      · rw [Store.touchedFigures,OrdMap.get?_modifyAt,if_neg other,none]
      · exact none.symm
  · have untouched := (@apply_untouched floats s (request.on now) id
      fun row member same => own ⟨row,member,same⟩) keyed
    rw [get?_figures,untouched.2,← get?_figures]
    split_ifs with has
    · obtain ⟨last,found⟩ := Option.isSome_iff_exists.mp has
      obtain ⟨member,named⟩ := lastOf_some found
      rw [Store.touchedFigures,OrdMap.get?_modifyAt,if_neg fun same => own ⟨last,member,same.trans (by rw [← named]; rfl)⟩]
    · rfl

theorem standing_repeated (unchanged : Unchanged request start s) (inStep : InStep floats now s)
    (accepted : (applyPokerMttResults floats (request.on now) s).1.isOk)
    (keyed : (applyPokerMttResults floats (request.on now) s).2.Keyed)
    (stored : ∀ member last, lastOf request.results member = some last → ∃ old,
      s.results.get? (resultID request.tournamentID member) = some old ∧ Entered floats (request.on before) start last old)
    (recent : ∀ row ∈ request.results, row.counts request s = true → 15 < (s.listCounted row.minerID).length →
      Recent floats now s row.minerID (row.id request)) :
    standing floats (applyPokerMttResults floats (request.on now) s).2 minerAddress = standing floats s minerAddress := by
  have figures := @figures_repeated floats now s start request before minerAddress unchanged inStep.keyed accepted stored
  rw [standing_figures keyed,figures]
  cases found : lastOf request.results minerAddress with
  | none => exact (standing_figures inStep.keyed).symm
  | some last =>
    obtain ⟨member,rfl⟩ := lastOf_some found
    rw [Option.isSome_some,if_pos rfl]
    by_cases counts : last.counts request s = true
    · exact rolling_touched inStep.keyed inStep.past (recent last member counts)
    · obtain ⟨old,held,entered⟩ := stored _ last found
      have uncounted : ¬old.eligibleForMultiplier = true := by
        rw [entered.counts]
        rwa [counts_congr (unchanged.review member)] at counts
      have absent : (s.figures last.minerID).get? (resultID request.tournamentID last.minerID) = none := by
        rw [get?_figures,held,Option.bind_some,if_neg fun both => uncounted both.2]
      have same : s.touchedFigures now last.minerID (resultID request.tournamentID last.minerID) = s.figures last.minerID := by
        apply OrdMap.ext_get?
        intro id
        rw [Store.touchedFigures,OrdMap.get?_modifyAt]
        split_ifs with own
        · rw [own,absent]
          rfl
        · rfl
      rw [same]
      exact (standing_figures inStep.keyed).symm

theorem repeated_stays (unchanged : Unchanged request start s) (stays : StaysCounted request start)
    (stored : ∀ member last, lastOf request.results member = some last → ∃ old,
      s.results.get? (resultID request.tournamentID member) = some old ∧ Entered floats (request.on before) start last old)
    :
    StaysCounted request s where
  stored row member old found counts := by
    cases tail : lastOf request.results row.minerID with
    | none => exact absurd rfl (lastOf_none tail row member)
    | some last =>
      obtain ⟨entry,held,entered⟩ := stored _ last tail
      cases found.symm.trans held
      obtain ⟨inside,named⟩ := lastOf_some tail
      refine ⟨entered.miner.trans named,?_⟩
      rw [counts_congr (unchanged.review member)]
      exact stays.same last inside row member named (entered.counts.symm.trans counts)
  same row member other inside named counts := by
    rw [counts_congr (unchanged.review member)] at counts
    rw [counts_congr (unchanged.review inside)]
    exact stays.same row member other inside named counts

/-- A call is repeated: it was accepted, and no ranking and no hidden evaluation of its results has changed since. -/
structure Repeats (floats : Floats) (before : List Call) (first : Time) (request : ApplyRequest) (between : List Call)
    (now : Time) : Prop where
  ordered : ((before ++ (first,.applyResults request) :: between).map Prod.fst ++ [now]).Pairwise (· ≤ ·)
  accepted : (applyPokerMttResults floats (request.on first) (finish floats before {})).1.isOk
  unchanged : Unchanged request (finish floats before {}) (finish floats (before ++ (first,.applyResults request) :: between) {})

/-- No call un-counts a result, the results of the repeated call have not been written since, and those that count are among the
latest twenty of their miners. -/
structure StaysLatest (floats : Floats) (before : List Call) (first : Time) (request : ApplyRequest) (between : List Call)
    (now : Time) : Prop where
  counts : Along (fun store call => call.after floats store) (fun store call => call.Counts store)
    (before ++ (first,.applyResults request) :: between) {}
  unwritten : ∀ time other, (time,.applyResults other) ∈ between → ∀ row ∈ other.results, ∀ own ∈ request.results,
    own.id request ≠ row.id other
  recent : ∀ row ∈ request.results,
    let store := finish floats (before ++ (first,.applyResults request) :: between) {}
    row.counts request store = true → 15 < (store.listCounted row.minerID).length →
      Recent floats now store row.minerID (row.id request)

theorem finish_steady (only : ∀ call ∈ calls, ∃ request, call.2 = .applyResults request) :
    Steady s (finish floats calls s) := by
  induction calls generalizing s with
  | nil => exact Steady.refl s
  | cons call rest ih =>
    obtain ⟨now,event⟩ := call
    obtain ⟨request,same⟩ := only _ List.mem_cons_self
    cases same
    exact Steady.trans _ _ _ (apply_steady s) (ih fun other member => only other (List.mem_cons_of_mem _ member))

theorem Unchanged.ofSteady (steady : Steady s t) : Unchanged request s t where
  rankings _ _ id _ := by rw [steady.finalRankings]
  hiddenEvals _ _ id _ := by
    unfold Store.hiddenEvalOf
    rw [steady.hiddenEvals]

end Runs

def seasonRanking (i : Nat) : RankingRow where
  id := "ranking-" ++ toString i
  tournamentID := "mtt-" ++ toString i
  memberID := "7:1"
  minerAddress := "claw1a"
  rank := some (if i = 0 then 1 else 2)
  evidenceRoot := "sha256:e"
  evidenceState := "complete"

def seasonResults (i : Nat) : ApplyRequest where
  tournamentID := "mtt-" ++ toString i
  fieldSize := 2
  results := [{ firstResult with finalRank := if i = 0 then 1 else 2, finalRankingID := "ranking-" ++ toString i }]
  completedAt := 0

def seasonOpening (size : Nat) : List Call :=
  (0,.registerMiner { address := "claw1a", economicUnitID := "eu-a", createdAt := 0 }) ::
    (0,.saveHiddenEvals ((List.range size).map fun i =>
      ⟨"mtt-" ++ toString i,"claw1a","ranking-" ++ toString i,if i = 0 then 1 else 0⟩)) ::
        (List.range size).map fun i => (0,.saveFinalRanking (seasonRanking i))

def seasonLosses (size : Nat) : List Call :=
  (List.range size).map fun (i : Nat) => (((i : Int) + 2) * 1000000,.applyResults (seasonResults (i + 1)))

theorem seasonLosses_only (size : Nat) : ∀ call ∈ seasonLosses size, ∃ request, call.2 = .applyResults request := by
  intro call member
  obtain ⟨i,-,rfl⟩ := List.mem_map.mp member
  exact ⟨_,rfl⟩

theorem season_repeats (size : Nat)
    (ordered : ((seasonOpening (size + 1) ++ (1000000,Event.applyResults (seasonResults 0)) :: seasonLosses size).map Prod.fst ++
      [30000000]).Pairwise (· ≤ ·))
    (accepted : (applyPokerMttResults binary64 ((seasonResults 0).on 1000000)
      (finish binary64 (seasonOpening (size + 1)) {})).1.isOk) :
    Repeats binary64 (seasonOpening (size + 1)) 1000000 (seasonResults 0) (seasonLosses size) 30000000 where
  ordered := ordered
  accepted := accepted
  unchanged := by
    have only : ∀ call ∈ ((1000000,Event.applyResults (seasonResults 0)) : Call) :: seasonLosses size, ∃ request,
        call.2 = .applyResults request := by
      intro call member
      rcases List.mem_cons.mp member with rfl | member
      · exact ⟨_,rfl⟩
      · exact seasonLosses_only size call member
    have split : finish binary64 (seasonOpening (size + 1) ++ (1000000,.applyResults (seasonResults 0)) :: seasonLosses size) {} =
        finish binary64 ((1000000,.applyResults (seasonResults 0)) :: seasonLosses size)
          (finish binary64 (seasonOpening (size + 1)) {}) := List.foldl_append ..
    rw [split]
    exact Unchanged.ofSteady (finish_steady only)

instance {request : ApplyRequest} {store : Store} : Decidable (StaysCounted request store) :=
  decidable_of_iff ((∀ row ∈ request.results, (store.results.get? (row.id request)).all fun old =>
      !old.eligibleForMultiplier || (old.minerAddress = row.minerID && row.counts request store)) ∧
    ∀ row ∈ request.results, ∀ other ∈ request.results, row.minerID = other.minerID →
      row.counts request store = true → other.counts request store = true)
    ⟨fun ⟨stored,same⟩ => ⟨by simpa [Option.all_eq_true,imp_iff_not_or] using stored,same⟩,
      fun ⟨stored,same⟩ => ⟨by simpa [Option.all_eq_true,imp_iff_not_or] using stored,same⟩⟩

instance : ∀ store call, Decidable (Call.Counts store call)
  | _,(_,.registerMiner _) | _,(_,.saveFinalRanking _) | _,(_,.saveHiddenEvals _) => isTrue trivial
  | store,(_,.applyResults request) => inferInstanceAs (Decidable (StaysCounted request store))

end Clawchain.Projection
