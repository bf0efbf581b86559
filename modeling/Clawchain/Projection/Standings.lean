import Clawchain.Lib.Latest
import Clawchain.Projection.Interrupted

/-! What the multiplier of a miner follows from: the times and the scores of the results that count. What a row of results writes,
and that a multiplier stays the one that follows as long as no result that counts is written over by one that does not. -/
namespace Clawchain.Projection
open Clawchain.Lib Clawchain.Mining Clawchain.Poker

abbrev Figure := String × Int × ℚ

def figure (result : StoredResult) : Figure := (result.id,result.updatedAt,result.totalScore)

def figureKey (figure : Figure) : Int ×ₗ String := toLex (figure.2.1,figure.1)

def Store.figures (store : Store) (minerAddress : String) : OrdMap String (Int × ℚ) :=
  (store.countedResults minerAddress).mapVals fun _ result => (result.updatedAt,result.totalScore)

def Store.Keyed (store : Store) : Prop := ∀ id result, store.results.get? id = some result → result.id = id

section Figures
variable {floats : Floats} {s t : Store} {minerAddress id : String}

theorem get?_figures : (s.figures minerAddress).get? id = (s.results.get? id).bind fun result =>
    if result.minerAddress = minerAddress ∧ result.eligibleForMultiplier = true then some (result.updatedAt,result.totalScore)
    else none := by
  unfold Store.figures
  rw [OrdMap.get?_mapVals,Store.get?_countedResults]
  cases s.results.get? id with
  | none => rfl
  | some result =>
    by_cases own : result.minerAddress = minerAddress ∧ result.eligibleForMultiplier = true
    · simp [Option.filter,own]
    · rw [Option.bind_some,if_neg own,Option.filter_some_neg (by simpa using own)]
      rfl

theorem listCounted_figures (keyed : s.Keyed) (minerAddress : String) :
    (s.listCounted minerAddress).map figure = latest figureKey (s.figures minerAddress).entries := by
  have entries : ((s.countedResults minerAddress).entries.map Prod.snd).map figure = (s.figures minerAddress).entries := by
    rw [List.map_map]
    apply List.map_congr_left
    intro entry member
    have found := OrdMap.get?_eq_some_iff.mpr member
    rw [Store.get?_countedResults,Option.filter_eq_some_iff] at found
    exact congrArg (fun id => (id,entry.2.updatedAt,entry.2.totalScore)) (keyed _ _ found.1)
  rw [← entries]
  exact latest_map figureKey figure _

theorem standing_figures (keyed : s.Keyed) : standing floats s minerAddress =
    rolling floats ((latest figureKey (s.figures minerAddress).entries).map (·.2.2)) := by
  rw [← listCounted_figures keyed,List.map_map]
  rfl

theorem standing_congr (keyed : s.Keyed) (keyed' : t.Keyed) (same : s.figures minerAddress = t.figures minerAddress) :
    standing floats s minerAddress = standing floats t minerAddress := by
  rw [standing_figures keyed,standing_figures keyed',same]

def StoredResult.facts (result : StoredResult) : String × Bool × Int × ℚ :=
  (result.minerAddress,result.eligibleForMultiplier,result.updatedAt,result.totalScore)

theorem figures_congr (same : ∀ id, (s.results.get? id).map (·.facts) = (t.results.get? id).map (·.facts)) :
    s.figures minerAddress = t.figures minerAddress := by
  apply OrdMap.ext_get?
  intro id
  have through (found : Option StoredResult) : (found.bind fun result =>
      if result.minerAddress = minerAddress ∧ result.eligibleForMultiplier = true then some (result.updatedAt,result.totalScore)
      else none) = (found.map (·.facts)).bind fun facts =>
        if facts.1 = minerAddress ∧ facts.2.1 = true then some facts.2.2 else none := by
    cases found <;> rfl
  rw [get?_figures,get?_figures,through,through,same id]

theorem Store.Keyed.saveResult (keyed : s.Keyed) (result : StoredResult) : (s.saveResult result).Keyed := by
  intro id other found
  rw [Store.get?_saveResult] at found
  split_ifs at found with own
  · cases found
    exact own.symm
  · exact keyed id other found

end Figures

/-! A result that is stored again later: among the latest twenty it moves up, and they stay the latest twenty. -/

def resultKey (result : StoredResult) : Int ×ₗ String := toLex (result.updatedAt,result.id)

def StoredResult.touched (now : Time) (id : String) (result : StoredResult) : StoredResult :=
  if result.id = id then { result with updatedAt := isoformatZ now } else result

structure Recent (floats : Floats) (now : Time) (store : Store) (minerAddress id : String) : Prop where
  among : ∃ result ∈ (store.listCounted minerAddress).take 20, result.id = id
  sum : floats.sum ((latest resultKey (((store.listCounted minerAddress).take 20).map (·.touched now id))).map (·.totalScore)) =
    floats.sum (((store.listCounted minerAddress).take 20).map (·.totalScore))

section Touched
variable {floats : Floats} {s : Store} {now : Time} {minerAddress id : String}

theorem rolling_congr {scores others : List ℚ} (length : scores.length = others.length)
    (sum : 15 < others.length → floats.sum (scores.take 20) = floats.sum (others.take 20)) :
    rolling floats scores = rolling floats others := by
  unfold rolling
  by_cases few : others.length ≤ 15
  · rw [if_pos (length ▸ few),if_pos few]
  · rw [if_neg (length ▸ few),if_neg few,sum (not_le.mp few),List.length_take,List.length_take,length]

def Store.touchedFigures (store : Store) (now : Time) (minerAddress id : String) : OrdMap String (Int × ℚ) :=
  (store.figures minerAddress).modifyAt id fun value => (isoformatZ now,value.2)

def touch (now : Time) (id : String) (figure : Figure) : Figure :=
  (figure.1,if figure.1 = id then (isoformatZ now,figure.2.2) else figure.2)

theorem figure_touched (result : StoredResult) : figure (result.touched now id) = touch now id (figure result) := by
  unfold StoredResult.touched touch figure
  split <;> rfl

theorem figures_past (past : ∀ id result, s.results.get? id = some result → result.updatedAt ≤ isoformatZ now) {figure : Figure}
    (member : figure ∈ (s.figures minerAddress).entries) : figureKey figure ≤ figureKey (touch now id figure) := by
  have found := OrdMap.get?_eq_some_iff.mpr member
  rw [get?_figures] at found
  obtain ⟨result,held,same⟩ := Option.bind_eq_some_iff.mp found
  split_ifs at same
  unfold touch figureKey
  split
  · exact Prod.Lex.toLex_mono ⟨(Option.some.inj same ▸ past _ result held : figure.2.1 ≤ isoformatZ now),le_refl figure.1⟩
  · exact le_refl _

theorem take_touched (keyed : s.Keyed) (past : ∀ id result, s.results.get? id = some result → result.updatedAt ≤ isoformatZ now)
    (among : ∃ result ∈ (s.listCounted minerAddress).take 20, result.id = id) :
    (latest figureKey ((s.figures minerAddress).entries.map (touch now id))).take 20 =
      (latest resultKey (((s.listCounted minerAddress).take 20).map (·.touched now id))).map figure := by
  have listed := listCounted_figures keyed minerAddress
  have names : ((latest figureKey (s.figures minerAddress).entries).map Prod.fst).Nodup :=
    ((latest_perm _ _).map Prod.fst).nodup_iff.mpr (s.figures minerAddress).keys_nodup
  rw [take_latest_map]
  · have figures : (((s.listCounted minerAddress).take 20).map figure).map (touch now id) =
        (((s.listCounted minerAddress).take 20).map (·.touched now id)).map figure := by
      rw [List.map_map,List.map_map]
      exact List.map_congr_left fun result _ => (figure_touched result).symm
    rw [← listed,← List.map_take,figures]
    exact (latest_map figureKey figure _).symm
  · intro figure member
    exact figures_past past ((mem_latest _).mp (List.mem_of_mem_take member))
  · intro figure member
    obtain ⟨result,inside,named⟩ := among
    rw [← List.take_append_drop 20 (latest figureKey _),List.map_append] at names
    have apart := (List.nodup_append.mp names).2.2 id (by
      rw [← listed,← List.map_take]
      exact List.mem_map.mpr ⟨_,List.mem_map.mpr ⟨result,inside,rfl⟩,named⟩) figure.1 (List.mem_map_of_mem member)
    unfold touch
    rw [if_neg fun same => apart same.symm]
  · have keys : (((s.figures minerAddress).entries.map (touch now id)).map fun figure => (ofLex (figureKey figure)).2) =
        (s.figures minerAddress).keys := by
      rw [List.map_map]
      rfl
    apply List.Nodup.of_map fun key => (ofLex key).2
    rw [List.map_map]
    exact keys ▸ (s.figures minerAddress).keys_nodup

theorem rolling_touched (keyed : s.Keyed) (past : ∀ id result, s.results.get? id = some result → result.updatedAt ≤ isoformatZ now)
    (recent : 15 < (s.listCounted minerAddress).length → Recent floats now s minerAddress id) :
    rolling floats ((latest figureKey (s.touchedFigures now minerAddress id).entries).map (·.2.2)) =
      standing floats s minerAddress := by
  have entries : (s.touchedFigures now minerAddress id).entries = (s.figures minerAddress).entries.map (touch now id) := rfl
  have listed := listCounted_figures keyed minerAddress
  have size : (s.listCounted minerAddress).length = (s.figures minerAddress).entries.length := by
    rw [← length_latest figureKey,← listed,List.length_map]
  rw [entries]
  apply rolling_congr (by simp [size])
  intro many
  rw [List.length_map] at many
  have recent := recent many
  rw [← List.map_take,take_touched keyed past recent.among,List.map_map,← List.map_take]
  exact recent.sum

end Touched

section Rows
variable (floats : Floats) (request : ApplyRequest)

def ResultRow.counts (store : Store) (row : ResultRow) : Bool := (review request store row).noMultiplierReason = none

def ResultRow.total (store : Store) (row : ResultRow) : ℚ :=
  let review := review request store row
  let scores := row.scores review.noMultiplierReason (row.resultScore floats request)
  totalScore floats scores.1 review.hiddenEvalScore scores.2

def ResultRow.id (row : ResultRow) : String := resultID request.tournamentID row.minerID

structure Entered (store : Store) (row : ResultRow) (entry : StoredResult) : Prop where
  id : entry.id = row.id request
  miner : entry.minerAddress = row.minerID
  counts : entry.eligibleForMultiplier = row.counts request store
  total : entry.totalScore = row.total floats request store
  updated : entry.updatedAt = isoformatZ request.completedAt

/-- A result is stored, and when it counts, its miner's multiplier follows from the results that are stored then. -/
structure Writes (s t : Store) (entry : StoredResult) : Prop where
  results : t.results = s.results.insert entry.id entry
  multiplier : ∀ minerAddress, t.multiplierOf minerAddress =
    if entry.eligibleForMultiplier = true ∧ minerAddress = entry.minerAddress then (standing floats t minerAddress).2
    else s.multiplierOf minerAddress

variable {floats request} {s t : Store} {row : ResultRow} {entry draft : StoredResult}

theorem Writes.keyed (writes : Writes floats s t entry) (keyed : s.Keyed) : t.Keyed := by
  have saved := keyed.saveResult entry
  intro id result found
  rw [writes.results] at found
  exact saved id result found

theorem Writes.figures (writes : Writes floats s t entry) {minerAddress : String}
    (other : minerAddress ≠ entry.minerAddress ∨ entry.eligibleForMultiplier = false)
    (free : ∀ old, s.results.get? entry.id = some old → old.minerAddress = minerAddress → old.eligibleForMultiplier = false) :
    t.figures minerAddress = s.figures minerAddress := by
  apply OrdMap.ext_get?
  intro id
  rw [get?_figures,get?_figures,writes.results,OrdMap.get?_insert]
  split_ifs with own
  · rw [Option.bind_some,if_neg fun counts => other.elim (fun differ => differ counts.1.symm) fun uncounted => by simp [uncounted] at counts]
    cases held : s.results.get? id with
    | none => rfl
    | some old =>
      rw [Option.bind_some,if_neg]
      rintro ⟨owner,counts⟩
      rw [free old (own ▸ held) owner] at counts
      cases counts
  · rfl

theorem Writes.ofSame {u : Store} (writes : Writes floats s t entry) (results : u.results = t.results)
    (multipliers : u.multipliers = t.multipliers) : Writes floats s u entry where
  results := results.trans writes.results
  multiplier minerAddress := by
    unfold Store.multiplierOf standing Store.listCounted Store.countedResults
    rw [results,multipliers]
    exact writes.multiplier minerAddress

theorem counted_facts (now : Time) (updated : draft.updatedAt = isoformatZ now) :
    (counted floats now s draft).facts = draft.facts := by
  unfold counted
  split
  · exact congrArg (fun time => (draft.minerAddress,draft.eligibleForMultiplier,time,draft.totalScore)) updated.symm
  · rfl

theorem twice_writes (now : Time) (keyed : s.Keyed) (updated : draft.updatedAt = isoformatZ now)
    (counts : draft.eligibleForMultiplier = true) (made : entry = counted floats now (s.saveResult draft) draft) :
    Writes floats s (((s.saveResult draft).saveResult entry).updateMultiplier entry.minerAddress
      ⟨entry.multiplierAfter,some (isoformatZ now)⟩) entry := by
  have names := counted_names (s := s.saveResult draft) floats now draft
  have facts := @counted_facts floats (s.saveResult draft) draft now updated
  rw [← made] at names facts
  have results : ((s.saveResult draft).saveResult entry).results = s.results.insert entry.id entry := by
    apply OrdMap.ext_get?
    intro id
    rw [Store.get?_saveResult,OrdMap.get?_insert,Store.get?_saveResult,names.1]
    split_ifs <;> rfl
  refine ⟨results,fun minerAddress => ?_⟩
  rw [Store.multiplierOf_updateMultiplier,names.2.2]
  by_cases own : minerAddress = entry.minerAddress
  · rw [if_pos own,if_pos ⟨counts,own⟩]
    have after : entry.multiplierAfter = (standing floats (s.saveResult draft) minerAddress).2 := by
      rw [own,names.2.1,made]
      unfold counted
      rw [if_pos counts]
    rw [after]
    refine congrArg Prod.snd (standing_congr (keyed.saveResult draft) ((keyed.saveResult draft).saveResult entry) ?_)
    apply figures_congr
    intro id
    have twice : ((s.saveResult draft).saveResult entry).results.get? id =
        if id = entry.id then some entry else (s.saveResult draft).results.get? id := Store.get?_saveResult
    refine Eq.trans ?_ (congrArg (Option.map (·.facts)) twice.symm)
    split_ifs with same
    · rw [Store.get?_saveResult,if_pos (same.trans names.1)]
      exact congrArg some facts.symm
    · rfl
  · rw [if_neg own,if_neg fun both => own both.2]
    rfl

theorem save_writes (keyed : s.Keyed) (updated : draft.updatedAt = isoformatZ request.completedAt)
    (made : entry = counted floats request.completedAt (s.saveResult draft) draft) :
    Writes floats s (savePokerMttMultiplier request entry (s.saveResult draft)).2 entry := by
  have names := counted_names (s := s.saveResult draft) floats request.completedAt draft
  rw [← made] at names
  cases counts : draft.eligibleForMultiplier with
  | true =>
    have twice := twice_writes request.completedAt keyed updated counts made
    unfold savePokerMttMultiplier
    split
    · exact twice
    · unfold Faulty.modify moveMultiplier
      rw [if_pos (names.2.2.trans counts)]
      dsimp only
      split
      · exact twice
      · exact twice.ofSame rfl rfl
  | false =>
    have uncounted : ¬entry.eligibleForMultiplier = true := by rw [names.2.2,counts]; simp
    have same : entry = draft := by
      rw [made]
      exact if_neg (by rw [counts]; simp)
    unfold savePokerMttMultiplier
    rw [if_neg fun stops => uncounted stops.1]
    unfold Faulty.modify moveMultiplier
    rw [if_neg uncounted]
    exact ⟨by rw [same]; rfl,fun minerAddress => (if_neg fun both => uncounted both.1).symm⟩

theorem entered_counted (miner : Miner) (made : draft = appliedEntry floats request s miner row (row.resultScore floats request))
    (saved : Store) : Entered floats request s row (counted floats request.completedAt saved draft) := by
  have names := counted_names (s := saved) floats request.completedAt draft
  have facts := @counted_facts floats saved draft request.completedAt (by rw [made]; rfl)
  refine ⟨names.1.trans (by rw [made]; rfl),names.2.1.trans (by rw [made]; rfl),names.2.2.trans (by rw [made]; rfl),?_,?_⟩
  · exact (congrArg (·.2.2.2) facts).trans (by rw [made])
  · exact (congrArg (·.2.2.1) facts).trans (by rw [made])

theorem applyRow_writes (checked : request.checked = .ok ()) (keyed : s.Keyed) (row : ResultRow) :
    ((applyRow floats request row s).1.isOk = false ∧ (applyRow floats request row s).2 = s) ∨
      ∃ entry, Entered floats request s row entry ∧ Writes floats s (applyRow floats request row s).2 entry := by
  rcases @applyDraft_cases floats request s row checked with ⟨error,refused,drafted⟩ | ⟨-,miner,-,drafted⟩
  · left
    unfold applyRow
    rw [Faulty.read_run,drafted]
    exact ⟨rfl,rfl⟩
  · obtain ⟨draft,made⟩ : ∃ draft, draft = appliedEntry floats request s miner row (row.resultScore floats request) := ⟨_,rfl⟩
    refine .inr ⟨counted floats request.completedAt (s.saveResult draft) draft,entered_counted miner made _,?_⟩
    have writes := @save_writes floats request s _ draft keyed (by rw [made]; rfl) rfl
    have run : (applyRow floats request row s).2 =
        (savePokerMttMultiplier request (counted floats request.completedAt (s.saveResult draft) draft) (s.saveResult draft)).2 := by
      unfold applyRow
      rw [Faulty.read_run,drafted,← made]
      simp only [Faulty.modify_bind,Faulty.read_run]
      cases ran : savePokerMttMultiplier request (counted floats request.completedAt (s.saveResult draft) draft) (s.saveResult draft) with
      | mk outcome t =>
        cases outcome with
        | ok u => rw [Faulty.bind_of_ok _ ran]; rfl
        | error error => rw [Faulty.bind_of_error _ ran]
    rw [run]
    exact writes

end Rows
end Clawchain.Projection
