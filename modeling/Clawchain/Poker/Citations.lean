import Clawchain.Lib.Fallible
import Clawchain.Mining.Building
import Clawchain.Poker.Reconcile

/-! What the rows of reputation cite. The weights are grouped by the unit that a miner has now, and the sources by the unit
that is written on the result. -/
namespace Clawchain.Poker
open Clawchain.Lib Clawchain.Mining

section Definitions
variable (settings : PokerSettings) (miners : String → Option Miner) (selected : List Result)

def groupIDs (unitOf : Result → String) (unit : String) : List String :=
  sortedIDs ((Groups.group unitOf selected unit).map (·.id))

/-- The unit has results, and what they are weighed to is positive. -/
def WeighedUnit (unit : String) : Prop :=
  (∃ result ∈ selected, economicUnitOf miners result = unit) ∧
    ∃ score, unitScore settings.floats settings.pokerMttRewardAggregationPolicyVersion
      ((scoredRows (Groups.group (economicUnitOf miners) selected unit)).map Prod.snd) = .ok score ∧ 0 < score

/-- The row's root stands for some of the selected results, of which this is one. -/
def Cites (row : ReputationDeltaRow) (result : Result) : Prop :=
  ∃ ids : List String, ids.Nodup ∧ ids ⊆ selected.map (·.id) ∧ row.sourceResultIDsRoot = settings.hash.ids ids ∧ result.id ∈ ids

structure CitesAggregated (rows : List ReputationDeltaRow) : Prop where
  counts : ∀ row ∈ rows, row.sourceResultCount = row.submissionCount
  roots : ∀ row ∈ rows, row.sourceResultIDsRoot =
    settings.hash.ids (groupIDs selected (economicUnitOf miners) row.economicUnitID)
  once : ∀ result ∈ selected, WeighedUnit settings miners selected (economicUnitOf miners result) →
    ∃! place : Fin rows.length, Cites settings selected (rows.get place) result
  bounded : ∀ row ∈ rows, 0 ≤ row.delta ∧ row.delta ≤ row.deltaCap

/-- The unit that is written on a result is the one that its miner has now, where one of both has a weight. -/
def Agreed (result : Result) : Prop :=
  WeighedUnit settings miners selected (economicUnitOf miners result) ∨ WeighedUnit settings miners selected (resultUnit result) →
    resultUnit result = economicUnitOf miners result

end Definitions

section Groups
variable {selected : List Result}

theorem mem_groupIDs (distinct : (selected.map (·.id)).Nodup) (unitOf : Result → String) {result : Result}
    (inside : result ∈ selected) (unit : String) : result.id ∈ groupIDs selected unitOf unit ↔ unitOf result = unit := by
  unfold groupIDs Groups.group
  rw [mem_sortedIDs,List.mem_map]
  constructor
  · rintro ⟨other,listed,same⟩
    obtain ⟨member,own⟩ := List.mem_filter.mp listed
    rw [← List.inj_on_of_nodup_map distinct member inside same]
    exact of_decide_eq_true own
  · intro own
    exact ⟨result,List.mem_filter.mpr ⟨inside,decide_eq_true own⟩,rfl⟩

theorem groupIDs_nodup (unitOf : Result → String) (unit : String) : (groupIDs selected unitOf unit).Nodup :=
  addresses_nodup _ _

theorem groupIDs_subset (unitOf : Result → String) (unit : String) : groupIDs selected unitOf unit ⊆ selected.map (·.id) := by
  intro id listed
  rw [groupIDs,mem_sortedIDs] at listed
  exact (List.filter_sublist.map _).subset listed

theorem groupIDs_length (distinct : (selected.map (·.id)).Nodup) (unitOf : Result → String) (unit : String) :
    (groupIDs selected unitOf unit).length = (Groups.group unitOf selected unit).length := by
  have own : ((Groups.group unitOf selected unit).map (·.id)).Nodup := (List.filter_sublist.map _).nodup distinct
  have same : (groupIDs selected unitOf unit).Perm ((Groups.group unitOf selected unit).map (·.id)) :=
    (List.perm_ext_iff_of_nodup (groupIDs_nodup unitOf unit) own).mpr fun _ => mem_sortedIDs
  rw [same.length_eq,List.length_map]

end Groups

section Weights
variable {settings : PokerSettings} {miners : String → Option Miner}

theorem unitWeight_parts {policyVersion unit : String} {rows : List Result} {weight : UnitWeight}
    (weighed : unitWeight settings.floats policyVersion unit rows = .ok weight) :
    weight.economicUnitID = unit ∧ weight.submissionCount = rows.length ∧
      unitScore settings.floats policyVersion ((scoredRows rows).map Prod.snd) = .ok weight.scoreWeight := by
  obtain ⟨score,scored,last⟩ := Fallible.bind_ok weighed
  cases last
  exact ⟨rfl,by simp [scoredRows],scored⟩

variable {inputs : WindowInputs} {weights : Weights}

theorem weigh_scores (weighed : weigh settings inputs miners = .ok weights) :
    (addresses (economicUnitOf miners) inputs.selected).mapM (fun unit =>
      unitWeight settings.floats settings.pokerMttRewardAggregationPolicyVersion unit
        (Groups.group (economicUnitOf miners) inputs.selected unit)) = .ok weights.scores := by
  obtain ⟨scores,first,rest⟩ := Fallible.bind_ok weighed
  obtain ⟨rewards,_,last⟩ := Fallible.bind_ok rest
  cases last
  exact first

theorem scores_units (weighed : weigh settings inputs miners = .ok weights) : (weights.scores.map (·.economicUnitID)).Nodup := by
  rw [Fallible.map_of_mapM (weigh_scores weighed) fun _ _ made => (unitWeight_parts made).1]
  exact addresses_nodup _ _

theorem scores_weighed (weighed : weigh settings inputs miners = .ok weights) {weight : UnitWeight}
    (inside : weight ∈ weights.scores) :
    (WeighedUnit settings miners inputs.selected weight.economicUnitID ↔ 0 < weight.scoreWeight) ∧
      weight.submissionCount = (Groups.group (economicUnitOf miners) inputs.selected weight.economicUnitID).length := by
  obtain ⟨unit,listed,made⟩ := (Fallible.mem_of_mapM (weigh_scores weighed)).2 weight inside
  obtain ⟨rfl,count,scored⟩ := unitWeight_parts made
  refine ⟨⟨?_,fun positive => ⟨(mem_addresses_iff _).mp listed,_,scored,positive⟩⟩,count⟩
  rintro ⟨-,score,scored',positive⟩
  cases scored.symm.trans scored'
  exact positive

theorem weighed_scores (weighed : weigh settings inputs miners = .ok weights) {unit : String}
    (some_ : WeighedUnit settings miners inputs.selected unit) :
    ∃ weight ∈ weights.scores, weight.economicUnitID = unit ∧ 0 < weight.scoreWeight := by
  obtain ⟨weight,inside,made⟩ := (Fallible.mem_of_mapM (weigh_scores weighed)).1 unit ((mem_addresses_iff _).mpr some_.1)
  obtain ⟨rfl,-,-⟩ := unitWeight_parts made
  exact ⟨weight,inside,rfl,((scores_weighed weighed inside).1).mp some_⟩

end Weights

theorem reputationDelta_bounded (settings : PokerSettings) (weight : ℚ) (lane : Lane) :
    0 ≤ reputationDeltaFromWeight settings weight (reputationDeltaCap lane) ∧
      reputationDeltaFromWeight settings weight (reputationDeltaCap lane) ≤ reputationDeltaCap lane := by
  have capped : 0 ≤ reputationDeltaCap lane := by cases lane <;> decide
  exact ⟨le_max_left _ _,max_le capped (min_le_left _ _)⟩

section Rows
variable {settings : PokerSettings} {miners : String → Option Miner} {inputs : WindowInputs} {weights : Weights}
  (request : Request) (settlementBatchID : Option String) (repo : PokerRepository)
variable {unit : String} {selected : List Result}

theorem rows_units (weighed : weigh settings inputs miners = .ok weights) :
    ((reputationDeltaRows settings request inputs weights settlementBatchID repo).map (·.economicUnitID)).Nodup := by
  rw [reputationDeltaRows,List.map_map]
  exact (List.filter_sublist.map _).nodup (scores_units weighed)

theorem rows_have (weighed : weigh settings inputs miners = .ok weights)
    (some_ : WeighedUnit settings miners inputs.selected unit) :
    ∃ row ∈ reputationDeltaRows settings request inputs weights settlementBatchID repo, row.economicUnitID = unit := by
  obtain ⟨weight,inside,own,positive⟩ := weighed_scores weighed some_
  exact ⟨_,List.mem_map_of_mem (List.mem_filter.mpr ⟨inside,decide_eq_true positive⟩),own⟩

structure RowSays (settings : PokerSettings) (miners : String → Option Miner) (selected : List Result)
    (row : ReputationDeltaRow) : Prop where
  weighed : WeighedUnit settings miners selected row.economicUnitID
  submissions : row.submissionCount = (Groups.group (economicUnitOf miners) selected row.economicUnitID).length
  sources : row.sourceResultCount = (groupIDs selected resultUnit row.economicUnitID).length
  root : row.sourceResultIDsRoot = settings.hash.ids (groupIDs selected resultUnit row.economicUnitID)
  bounded : 0 ≤ row.delta ∧ row.delta ≤ row.deltaCap

theorem rows_say (weighed : weigh settings inputs miners = .ok weights) {row : ReputationDeltaRow}
    (inside : row ∈ reputationDeltaRows settings request inputs weights settlementBatchID repo) :
    RowSays settings miners inputs.selected row := by
  obtain ⟨weight,listed,rfl⟩ := List.mem_map.mp inside
  obtain ⟨scored,positive⟩ := List.mem_filter.mp listed
  have spec := scores_weighed weighed scored
  exact
    { weighed := spec.1.mpr (of_decide_eq_true positive)
      submissions := spec.2
      sources := rfl
      root := rfl
      bounded := reputationDelta_bounded settings weight.scoreWeight request.lane }

/-- Two lists of ids with the same root are the same list. -/
def Rooted (settings : PokerSettings) (selected : List Result) : Prop :=
  Set.InjOn settings.hash.ids {ids | ids.Nodup ∧ ids ⊆ selected.map (·.id)}

theorem cites_iff (rooted : Rooted settings selected) (distinct : (selected.map (·.id)).Nodup)
    {row : ReputationDeltaRow} (told : RowSays settings miners selected row) {result : Result}
    (inside : result ∈ selected) :
    Cites settings selected row result ↔ resultUnit result = row.economicUnitID := by
  have own := mem_groupIDs distinct resultUnit inside row.economicUnitID
  constructor
  · rintro ⟨ids,single,known,root,cited⟩
    have same := rooted ⟨single,known⟩ ⟨groupIDs_nodup _ _,groupIDs_subset resultUnit row.economicUnitID⟩
      (root.symm.trans told.root)
    exact own.mp (same ▸ cited)
  · intro unit
    exact ⟨_,groupIDs_nodup _ _,groupIDs_subset _ _,told.root,own.mpr unit⟩

theorem agreed_unit (agreed : ∀ result ∈ selected, Agreed settings miners selected result)
    (weighed : WeighedUnit settings miners selected unit) {result : Result} (inside : result ∈ selected) :
    resultUnit result = unit ↔ economicUnitOf miners result = unit := by
  constructor
  · rintro rfl
    exact (agreed result inside (.inr weighed)).symm
  · rintro rfl
    exact agreed result inside (.inl weighed)

theorem agreed_groupIDs (agreed : ∀ result ∈ selected, Agreed settings miners selected result)
    (weighed : WeighedUnit settings miners selected unit) :
    Groups.group resultUnit selected unit = Groups.group (economicUnitOf miners) selected unit :=
  List.filter_congr fun _ inside => decide_eq_decide.mpr (agreed_unit agreed weighed inside)

/-- The rows cite what was aggregated exactly when the two units of every result agree where one of them has a weight. -/
theorem rows_cite_aggregated (weighed : weigh settings inputs miners = .ok weights)
    (distinct : (inputs.selected.map (·.id)).Nodup) (rooted : Rooted settings inputs.selected) :
    CitesAggregated settings miners inputs.selected
        (reputationDeltaRows settings request inputs weights settlementBatchID repo) ↔
      ∀ result ∈ inputs.selected, Agreed settings miners inputs.selected result := by
  have units := rows_units request settlementBatchID repo weighed
  have filled : ∀ unit, WeighedUnit settings miners inputs.selected unit →
      ∃ row ∈ reputationDeltaRows settings request inputs weights settlementBatchID repo, row.economicUnitID = unit :=
    fun _ => rows_have request settlementBatchID repo weighed
  have say : ∀ row ∈ reputationDeltaRows settings request inputs weights settlementBatchID repo,
      RowSays settings miners inputs.selected row := fun _ => rows_say request settlementBatchID repo weighed
  generalize reputationDeltaRows settings request inputs weights settlementBatchID repo = rows at units filled say
  constructor
  · intro cites
    -- The roots of a weighed unit's row fix the results that both groupings give it.
    have alike {unit : String} (some_ : WeighedUnit settings miners inputs.selected unit) {result : Result}
        (inside : result ∈ inputs.selected) : resultUnit result = unit ↔ economicUnitOf miners result = unit := by
      obtain ⟨row,listed,rfl⟩ := filled unit some_
      have same := rooted ⟨groupIDs_nodup _ _,groupIDs_subset _ _⟩ ⟨groupIDs_nodup _ _,groupIDs_subset _ _⟩
        ((say row listed).root.symm.trans (cites.roots row listed))
      rw [← mem_groupIDs distinct resultUnit inside,same,mem_groupIDs distinct _ inside]
    intro result inside either
    rcases either with now | then_
    · exact (alike now inside).mpr rfl
    · exact ((alike then_ inside).mp rfl).symm
  · intro agreed
    have group {row : ReputationDeltaRow} (listed : row ∈ rows) := agreed_groupIDs agreed (say row listed).weighed
    refine ⟨?_,?_,?_,fun row listed => (say row listed).bounded⟩
    · intro row listed
      rw [(say row listed).sources,(say row listed).submissions,groupIDs_length distinct,group listed]
    · intro row listed
      rw [(say row listed).root,groupIDs,groupIDs,group listed]
    · intro result inside some_
      have cited (place : Fin rows.length) : Cites settings inputs.selected (rows.get place) result ↔
          economicUnitOf miners result = (rows.get place).economicUnitID := by
        have told := say _ (List.get_mem rows place)
        rw [cites_iff rooted distinct told inside,agreed_unit agreed told.weighed inside]
      obtain ⟨row,listed,own⟩ := filled _ some_
      obtain ⟨place,here⟩ := List.get_of_mem listed
      refine ⟨place,(cited place).mpr (by rw [here,own]),fun other cites => ?_⟩
      have same : (rows.get other).economicUnitID = (rows.get place).economicUnitID := by
        rw [here,own]
        exact ((cited other).mp cites).symm
      have rows_eq := List.inj_on_of_nodup_map units (List.get_mem rows other) (List.get_mem rows place) same
      exact List.nodup_iff_injective_get.mp units.of_map rows_eq

end Rows

/-! A miner that has moved to another unit since its result was stored. -/

deriving instance DecidableEq for Weights

def storedResult (unit : String) : Result := { plainResult "first" "claw1a" 3600 10 with economicUnitID := some unit }

def storedTable (unit : String) : PokerRepository := plainTable [("claw1a",none)] [storedResult unit]

def storedInputs (unit : String) : WindowInputs where
  policyBundleVersion := "poker_mtt_daily_policy_v1"
  selected := [storedResult unit]
  weighted := [storedResult unit]
  multiplierInputRows := []
  correctionRefs := []
  refs := (storedTable unit).inputRefs [storedResult unit] []

def storedWeights : Weights where
  scores := [⟨"unit:claw1a",10,1,"claw1a"⟩]
  rewards := [⟨"unit:claw1a",10,1,"claw1a"⟩]

def storedDay : Request where
  lane := .pokerMttDaily
  windowStartAt := 1772323200
  windowEndAt := 1772409600
  rewardPoolAmount := 100
  includeProvisional := false

def storedRows (unit : String) : List ReputationDeltaRow :=
  reputationDeltaRows plainPokerSettings storedDay (storedInputs unit) storedWeights none (storedTable unit)

theorem stored_weighed : weigh plainPokerSettings (storedInputs "unit:claw1a") (storedTable "unit:claw1a").miners.get? =
    .ok storedWeights :=
  Fallible.ok_of_toOption (by decide +kernel)

theorem stored_rooted (unit : String) : Rooted plainPokerSettings [storedResult unit] := by
  have shape (ids : List String) (listed : ids.Nodup ∧ ids ⊆ [storedResult unit].map (·.id)) : ids = [] ∨ ids = ["first"] := by
    obtain ⟨distinct,known⟩ := listed
    cases ids with
    | nil => exact .inl rfl
    | cons id rest =>
      have own {other : String} (inside : other ∈ id :: rest) : other = "first" := List.mem_singleton.mp (known inside)
      have none_ : rest = [] := List.eq_nil_iff_forall_not_mem.mpr fun other later =>
        (List.nodup_cons.mp distinct).1 (((own List.mem_cons_self).trans (own (List.mem_cons_of_mem _ later)).symm) ▸ later)
      exact .inr (by rw [none_,own List.mem_cons_self])
  intro one first other second same
  rcases shape one first with rfl | rfl <;> rcases shape other second with rfl | rfl
  · rfl
  · exact absurd same (by decide)
  · exact absurd same (by decide)
  · rfl

theorem stored_cited : CitesAggregated plainPokerSettings (storedTable "unit:claw1a").miners.get?
    (storedInputs "unit:claw1a").selected (storedRows "unit:claw1a") :=
  (rows_cite_aggregated storedDay none (storedTable "unit:claw1a") stored_weighed (List.nodup_singleton _)
    (stored_rooted "unit:claw1a")).mpr
    (List.forall_mem_singleton.mpr fun _ => (by decide : resultUnit (storedResult "unit:claw1a") =
      economicUnitOf (storedTable "unit:claw1a").miners.get? (storedResult "unit:claw1a")))

/-- The row of the unit that the miner has now cites nothing. -/
theorem moved_uncited : weigh plainPokerSettings (storedInputs "unit:before") (storedTable "unit:before").miners.get? =
      .ok storedWeights ∧
    ¬CitesAggregated plainPokerSettings (storedTable "unit:before").miners.get? (storedInputs "unit:before").selected
      (storedRows "unit:before") := by
  refine ⟨Fallible.ok_of_toOption (by decide +kernel),fun cites => ?_⟩
  have counts : ∀ row ∈ storedRows "unit:before", row.sourceResultCount = row.submissionCount := cites.counts
  revert counts
  decide +kernel

end Clawchain.Poker
