import Clawchain.Poker.Reconcile

/-! Whether a window feeds back into itself: two states that differ in the snapshots of the window's own results, and what the
window is paid by in each of them. -/
namespace Clawchain.Poker
open Clawchain.Lib Clawchain.Mining

def rewards (settings : PokerSettings) (request : Request) (now : Time) (repo : PokerRepository) :
    Except String (List UnitWeight × List RewardRow) := do
  let inputs ← windowInputs settings request (isoformatZ now) (repo.rewardWindows.get? request.id) repo
  let weights ← weigh settings inputs repo.miners.get?
  return (weights.rewards,weights.rows settings request.rewardPoolAmount)

/-- The snapshot's source is locked inside the window. -/
def MultiplierSnapshot.SourcedIn (request : Request) (repo : PokerRepository) (snapshot : MultiplierSnapshot) : Prop :=
  ∃ result, repo.inputs.results.get? snapshot.sourceResultID = some result ∧
    result.lockedIn request.windowStartAt request.windowEndAt = true

structure Differs (repo other : PokerRepository) (id : String) (snapshot : MultiplierSnapshot) : Prop where
  stored : repo.inputs.multiplierSnapshots.get? id = some snapshot ∨ other.inputs.multiplierSnapshots.get? id = some snapshot
  apart : repo.inputs.multiplierSnapshots.get? id ≠ other.inputs.multiplierSnapshots.get? id

/-- Two states differ only in snapshots whose sources are locked inside a window. -/
structure DifferInside (request : Request) (repo other : PokerRepository) : Prop where
  rest : other = { repo with inputs := { repo.inputs with multiplierSnapshots := other.inputs.multiplierSnapshots } }
  inside : ∀ id snapshot, Differs repo other id snapshot → snapshot.SourcedIn request repo

/-- No snapshot in which two states differ is in effect for a result of the window. -/
def Unfelt (settings : PokerSettings) (request : Request) (now : Time) (repo other : PokerRepository) : Prop :=
  ∀ result ∈ selectedResults request (isoformatZ now) (request.policy settings (repo.rewardWindows.get? request.id)) repo,
    ∀ id snapshot, Differs repo other id snapshot → snapshot.minerAddress = result.minerAddress →
      ∀ target, (result.lockedAt <|> result.anchorableAt) = some target → snapshot.effectiveAt target = false

/-- Snapshots take effect after the day on which their sources are locked. -/
def Delayed (repo : PokerRepository) : Prop :=
  ∀ id snapshot, repo.inputs.multiplierSnapshots.get? id = some snapshot →
    ∀ result, repo.inputs.results.get? snapshot.sourceResultID = some result → ∀ lockedAt, result.lockedAt = some lockedAt →
      snapshot.effectiveWindowStartAt.all (dayBucketStart lockedAt + 86400 ≤ ·)

section TwoStates
variable {settings : PokerSettings} {request : Request} {now : Time} {repo other : PokerRepository}
variable {result : Result} {current : Int}

theorem filter_values {m n : OrdMap String MultiplierSnapshot} {p : MultiplierSnapshot → Bool}
    (same : ∀ id, m.get? id ≠ n.get? id → ∀ snapshot, m.get? id = some snapshot ∨ n.get? id = some snapshot → p snapshot = false) :
    (m.entries.map Prod.snd).filter p = (n.entries.map Prod.snd).filter p := by
  have maps : (m.filter fun _ => p) = n.filter fun _ => p := by
    apply OrdMap.ext_get?
    intro id
    rw [OrdMap.get?_filter,OrdMap.get?_filter]
    by_cases apart : m.get? id = n.get? id
    · rw [apart]
    · have absent (found : Option MultiplierSnapshot) (held : ∀ snapshot, found = some snapshot → p snapshot = false) :
          found.filter p = none := by
        cases found with
        | none => rfl
        | some snapshot => exact Option.filter_some_neg (by simp [held snapshot rfl])
      rw [absent _ fun snapshot held => same id apart snapshot (.inl held),
        absent _ fun snapshot held => same id apart snapshot (.inr held)]
  have entries := congrArg (fun map => map.entries.map Prod.snd) maps
  unfold OrdMap.filter at entries
  rw [List.filter_map,List.filter_map]
  exact entries

theorem effectiveMultiplier_unfelt (unfelt : Unfelt settings request now repo other)
    (selected : result ∈ selectedResults request (isoformatZ now) (request.policy settings (repo.rewardWindows.get? request.id)) repo)
    :
    effectiveMultiplier (other.multiplierSnapshots request.windowStartAt request.windowEndAt) result =
      effectiveMultiplier (repo.multiplierSnapshots request.windowStartAt request.windowEndAt) result := by
  unfold effectiveMultiplier resolveEffectiveRewardMultiplier
  cases locked : (result.lockedAt <|> result.anchorableAt) with
  | none => rfl
  | some target =>
    have same : (other.multiplierSnapshots request.windowStartAt request.windowEndAt result.minerAddress).filter (·.effectiveAt target) =
        (repo.multiplierSnapshots request.windowStartAt request.windowEndAt result.minerAddress).filter (·.effectiveAt target) := by
      unfold PokerRepository.multiplierSnapshots
      rw [List.filter_filter,List.filter_filter]
      refine (filter_values fun id apart snapshot stored => ?_).symm
      by_cases owner : snapshot.minerAddress = result.minerAddress
      · rw [unfelt result selected id snapshot ⟨stored,apart⟩ owner target locked,Bool.false_and]
      · rw [decide_eq_false owner,Bool.false_and,Bool.false_and,Bool.and_false]
    dsimp only [Option.bind_some]
    rw [same]

def inputsWith (settings : PokerSettings) (request : Request) (current : Int) (existing : Option RewardWindow)
    (repo : PokerRepository) (weighed : List Result × List MultiplierInputRow) : Except String WindowInputs :=
  let policy := request.policy settings existing
  let selected := selectedResults request current policy repo
  if selected = [] then .error "no poker mtt results found for reward window"
  else .ok ⟨policy,selected,weighed.1,weighed.2,repo.correctionRefs (sortedIDs (selected.map (·.id))),repo.inputRefs selected weighed.2⟩

theorem rewards_unfelt (differ : DifferInside request repo other) (unfelt : Unfelt settings request now repo other) :
    rewards settings request now other = rewards settings request now repo := by
  have weighed : applyEffectiveRewardMultipliers settings.floats (selectedResults request (isoformatZ now)
      (request.policy settings (repo.rewardWindows.get? request.id)) repo)
        (other.multiplierSnapshots request.windowStartAt request.windowEndAt) =
      applyEffectiveRewardMultipliers settings.floats (selectedResults request (isoformatZ now)
        (request.policy settings (repo.rewardWindows.get? request.id)) repo)
          (repo.multiplierSnapshots request.windowStartAt request.windowEndAt) := by
    unfold applyEffectiveRewardMultipliers
    have weighted := List.map_congr_left fun result selected =>
      congrArg (fun multiplier => weightedResult settings.floats result multiplier.1) (effectiveMultiplier_unfelt unfelt selected)
    have rows := List.map_congr_left fun result selected =>
      congrArg (multiplierInputRow settings.floats result) (effectiveMultiplier_unfelt unfelt selected)
    rw [weighted,rows]
  obtain ⟨snapshots,rfl⟩ : ∃ snapshots, other = { repo with inputs := { repo.inputs with multiplierSnapshots := snapshots } } :=
    ⟨_,differ.rest⟩
  have inputs : windowInputs settings request (isoformatZ now) (repo.rewardWindows.get? request.id)
      { repo with inputs := { repo.inputs with multiplierSnapshots := snapshots } } =
        windowInputs settings request (isoformatZ now) (repo.rewardWindows.get? request.id) repo :=
    congrArg (inputsWith settings request (isoformatZ now) (repo.rewardWindows.get? request.id) repo) weighed
  unfold rewards
  rw [inputs]

theorem windowInputs_ok {existing : Option RewardWindow} {inputs : WindowInputs}
    (built : windowInputs settings request current existing repo = .ok inputs) :
    inputs.selected = selectedResults request current (request.policy settings existing) repo ∧ inputs.weighted =
      (applyEffectiveRewardMultipliers settings.floats inputs.selected
        (repo.multiplierSnapshots request.windowStartAt request.windowEndAt)).1 := by
  unfold windowInputs at built
  dsimp only at built
  split at built
  · cases built
  · cases built
    exact ⟨rfl,rfl⟩

theorem windowInputs_some {existing : Option RewardWindow}
    (nonempty : selectedResults request current (request.policy settings existing) repo ≠ []) :
    ∃ inputs, windowInputs settings request current existing repo = .ok inputs := by
  unfold windowInputs
  dsimp only
  rw [if_neg nonempty]
  exact ⟨_,rfl⟩

theorem rewards_ok {inputs : WindowInputs} {weights : Weights}
    (built : windowInputs settings request (isoformatZ now) (repo.rewardWindows.get? request.id) repo = .ok inputs)
    (weighed : weigh settings inputs repo.miners.get? = .ok weights) :
    rewards settings request now repo = .ok (weights.rewards,weights.rows settings request.rewardPoolAmount) := by
  unfold rewards
  rw [built]
  change (weigh settings inputs repo.miners.get? >>= _) = _
  rw [weighed]
  rfl

theorem lockedIn_of_selected {policy : String} (selected : result ∈ selectedResults request current policy repo) :
    result.lockedIn request.windowStartAt request.windowEndAt = true := by
  have listed := (List.perm_insertionSort _ _).mem_iff.mp (List.mem_filter.mp selected).1
  have passed := (List.mem_filter.mp listed).2
  simp only [Bool.and_eq_true] at passed
  exact passed.1.1.1.1

theorem lockedIn_iff {start stop : Int} : result.lockedIn start stop = true ↔
    ∃ lockedAt, result.lockedAt = some lockedAt ∧ start ≤ lockedAt ∧ lockedAt < stop := by
  unfold Result.lockedIn
  rw [Option.any_eq_true]
  simp only [Bool.and_eq_true,decide_eq_true_eq]

theorem unfelt_of_delayed (differ : DifferInside request repo other) (delayed : Delayed repo) (delayed' : Delayed other)
    (oneDay : request.windowEndAt ≤ dayBucketStart request.windowStartAt + 86400) : Unfelt settings request now repo other := by
  intro result selected id snapshot differs _ target at_
  obtain ⟨lockedAt,locked,-,before⟩ := lockedIn_iff.mp (lockedIn_of_selected selected)
  rw [locked] at at_
  cases at_
  obtain ⟨source,found,inside⟩ := differ.inside id snapshot differs
  obtain ⟨sourceAt,lockedSource,after,-⟩ := lockedIn_iff.mp inside
  have results : other.inputs.results = repo.inputs.results := by rw [differ.rest]
  have starts : snapshot.effectiveWindowStartAt.all (dayBucketStart sourceAt + 86400 ≤ ·) = true := by
    rcases differs.stored with stored | stored
    · exact delayed id snapshot stored source found sourceAt lockedSource
    · exact delayed' id snapshot stored source (results ▸ found) sourceAt lockedSource
  unfold MultiplierSnapshot.effectiveAt
  cases start : snapshot.effectiveWindowStartAt with
  | none => rfl
  | some effect =>
    rw [start,Option.all_some,decide_eq_true_eq] at starts
    have early : ¬effect ≤ target := by
      unfold dayBucketStart at starts oneDay
      omega
    cases snapshot.effectiveWindowEndAt with
    | none => rfl
    | some stop => simp [early]

end TwoStates

/-! A window over two days: a result of the first day has a snapshot that weighs a result of the second one. -/

section Spanning

def spanSource (target : Int) : Result :=
  { plainResult "source" "claw1a" (target - 1 - 1772323200) 1 with evaluationState := "provisional" }

def spanResult (target : Int) : Result := plainResult "result" "claw1a" (target - 1772323200) 1

def spanSnapshot (target : Int) : MultiplierSnapshot where
  id := "poker_mtt_multiplier:source"
  minerAddress := "claw1a"
  sourceResultID := "source"
  multiplierAfter := 104 / 100
  effectiveWindowStartAt := some target
  effectiveWindowEndAt := some (target + 86400)
  updatedAt := some (target - 1)

def spanTable (target : Int) (snapshots : List MultiplierSnapshot) : PokerRepository :=
  let table := plainTable [("claw1a",none)] [spanSource target,spanResult target]
  { table with inputs := { table.inputs with multiplierSnapshots := .ofList (snapshots.map fun row => (row.id,row)) } }

def spanWindow (lane : Lane) (windowStartAt windowEndAt : Int) : Request where
  lane := lane
  windowStartAt := windowStartAt
  windowEndAt := windowEndAt
  rewardPoolAmount := 100
  includeProvisional := false
  policyBundleVersion := some "poker_mtt_v1"

variable {lane : Lane} {windowStartAt windowEndAt target : Int} {snapshots : List MultiplierSnapshot}

theorem span_lockedAt : (spanResult target).lockedAt = some target := congrArg some (show 1772323200 + (target - 1772323200) = target by omega)

theorem span_counts : (spanTable target snapshots).counts target (spanResult target) = true := by
  have anchorable : ((spanResult target).anchorableAt <|> (spanResult target).lockedAt).any (· ≤ target) = true := by
    rw [span_lockedAt]
    exact decide_eq_true (le_refl target)
  unfold PokerRepository.counts
  rw [anchorable]
  rfl

theorem span_selected (inside : windowStartAt ≤ target ∧ target < windowEndAt) :
    selectedResults (spanWindow lane windowStartAt windowEndAt) target "poker_mtt_v1" (spanTable target snapshots) = [spanResult target] := by
  have listed : (spanTable target snapshots).inputs.listResults = [spanResult target,spanSource target] := rfl
  have locked : (spanResult target).lockedIn (spanWindow lane windowStartAt windowEndAt).windowStartAt
      (spanWindow lane windowStartAt windowEndAt).windowEndAt = true := lockedIn_iff.mpr ⟨target,span_lockedAt,inside⟩
  unfold selectedResults Inputs.listResultsForRewardWindow
  rw [listed,List.filter_cons_of_pos (by rw [locked]; rfl),List.filter_cons_of_neg (by
    cases (spanSource target).lockedIn (spanWindow lane windowStartAt windowEndAt).windowStartAt
      (spanWindow lane windowStartAt windowEndAt).windowEndAt <;> simp [spanSource,spanWindow])]
  change [spanResult target].filter _ = _
  rw [List.filter_cons_of_pos span_counts]
  rfl

theorem span_multiplier (inside : windowStartAt ≤ target ∧ target < windowEndAt) :
    (effectiveMultiplier ((spanTable target [spanSnapshot target]).multiplierSnapshots windowStartAt windowEndAt)
      (spanResult target)).1 = 104 / 100 := by
  have rows : (spanTable target [spanSnapshot target]).multiplierSnapshots windowStartAt windowEndAt (spanResult target).minerAddress =
      [spanSnapshot target] := by
    refine List.filter_cons_of_pos ?_
    simp only [spanSnapshot,Option.any_some,Bool.and_eq_true,decide_eq_true_eq]
    exact ⟨⟨rfl,inside.2⟩,by omega⟩
  have effective : [spanSnapshot target].filter (MultiplierSnapshot.effectiveAt target) = [spanSnapshot target] := by
    refine List.filter_cons_of_pos ?_
    simp only [spanSnapshot,MultiplierSnapshot.effectiveAt,Option.any_some,Bool.and_eq_true,decide_eq_true_eq]
    exact ⟨le_rfl,by omega⟩
  have chosen : (((spanResult target).lockedAt <|> (spanResult target).anchorableAt).bind fun target' =>
      (([spanSnapshot target].filter (MultiplierSnapshot.effectiveAt target')).insertionSort byEffect).getLast?) =
      some (spanSnapshot target) := by
    rw [span_lockedAt]
    exact congrArg (fun rows : List MultiplierSnapshot => (rows.insertionSort byEffect).getLast?) effective
  unfold effectiveMultiplier resolveEffectiveRewardMultiplier
  rw [rows,chosen]
  exact if_neg (show ¬(104 / 100 : ℚ) = 0 by norm_num)

def oneWeight (floats : Floats) (miners : String → Option Miner) (result : Result) : UnitWeight where
  economicUnitID := economicUnitOf miners result
  scoreWeight := topThreeMean floats [max 0 result.totalScore]
  submissionCount := 1
  representativeMiner := result.minerAddress

theorem aggregate_one (floats : Floats) (result : Result) (miners : String → Option Miner) :
    aggregateRewardWeights floats [result] "capped_top3_mean_v1" miners = .ok [oneWeight floats miners result] := by
  unfold aggregateRewardWeights
  have units : addresses (economicUnitOf miners) [result] = [economicUnitOf miners result] := rfl
  have group : Groups.group (economicUnitOf miners) [result] (economicUnitOf miners result) = [result] := by
    simp [Groups.group]
  rw [units,List.mapM_cons,group]
  rfl

theorem rewards_one {settings : PokerSettings} {request : Request} {now : Time} {repo : PokerRepository} {result : Result}
    (selected : selectedResults request (isoformatZ now) (request.policy settings (repo.rewardWindows.get? request.id)) repo = [result])
    (policy : settings.pokerMttRewardAggregationPolicyVersion = "capped_top3_mean_v1") :
    ∃ rows, rewards settings request now repo = .ok ([oneWeight settings.floats repo.miners.get? (weightedResult settings.floats result
      (effectiveMultiplier (repo.multiplierSnapshots request.windowStartAt request.windowEndAt) result).1)],rows) := by
  obtain ⟨inputs,built⟩ := windowInputs_some (by rw [selected]; simp)
  obtain ⟨own,weighted⟩ := windowInputs_ok built
  have one : inputs.weighted = [weightedResult settings.floats result
      (effectiveMultiplier (repo.multiplierSnapshots request.windowStartAt request.windowEndAt) result).1] := by
    rw [weighted,own,selected]
    rfl
  have weighed : weigh settings inputs repo.miners.get? = .ok ⟨[oneWeight settings.floats repo.miners.get? result],
      [oneWeight settings.floats repo.miners.get? (weightedResult settings.floats result
        (effectiveMultiplier (repo.multiplierSnapshots request.windowStartAt request.windowEndAt) result).1)]⟩ := by
    unfold weigh
    rw [policy,own,selected,one,aggregate_one,aggregate_one]
    rfl
  exact ⟨_,rewards_ok built weighed⟩

theorem span_felt (inside : windowStartAt ≤ target ∧ target < windowEndAt) :
    rewards plainPokerSettings (spanWindow lane windowStartAt windowEndAt) (parseTime target) (spanTable target []) ≠
      rewards plainPokerSettings (spanWindow lane windowStartAt windowEndAt) (parseTime target)
        (spanTable target [spanSnapshot target]) := by
  have now : isoformatZ (parseTime target) = target := by
    unfold isoformatZ parseTime
    omega
  have policy (existing : Option RewardWindow) :
      (spanWindow lane windowStartAt windowEndAt).policy plainPokerSettings existing = "poker_mtt_v1" := rfl
  obtain ⟨rows,without⟩ := @rewards_one plainPokerSettings (spanWindow lane windowStartAt windowEndAt) (parseTime target)
    (spanTable target []) (spanResult target) (by rw [now,policy]; exact span_selected inside) rfl
  obtain ⟨others,felt⟩ := @rewards_one plainPokerSettings (spanWindow lane windowStartAt windowEndAt) (parseTime target)
    (spanTable target [spanSnapshot target]) (spanResult target) (by rw [now,policy]; exact span_selected inside) rfl
  rw [without,felt]
  intro same
  have weights := congrArg UnitWeight.scoreWeight (List.cons.inj (Prod.mk.inj (Except.ok.inj same)).1).1
  have plain : (effectiveMultiplier ((spanTable target []).multiplierSnapshots (spanWindow lane windowStartAt windowEndAt).windowStartAt
      (spanWindow lane windowStartAt windowEndAt).windowEndAt) (spanResult target)).1 = 1 := by
    unfold effectiveMultiplier
    rw [span_lockedAt]
    rfl
  have multiplied : (effectiveMultiplier ((spanTable target [spanSnapshot target]).multiplierSnapshots
      (spanWindow lane windowStartAt windowEndAt).windowStartAt (spanWindow lane windowStartAt windowEndAt).windowEndAt)
        (spanResult target)).1 = 104 / 100 := span_multiplier inside
  have score (multiplier : ℚ) (snapshots : List MultiplierSnapshot) : (oneWeight binary64 (spanTable target snapshots).miners.get?
      (weightedResult binary64 (spanResult target) multiplier)).scoreWeight =
        topThreeMean binary64 [max 0 (rounded binary64 (binary64.round (1 * multiplier)))] := rfl
  have numbers := (score _ []).symm.trans (weights.trans (score _ [spanSnapshot target]))
  rw [plain,multiplied] at numbers
  exact absurd numbers (by decide +kernel)

theorem span_stored (id : String) : (spanTable target [spanSnapshot target]).inputs.multiplierSnapshots.get? id =
    if id = "poker_mtt_multiplier:source" then some (spanSnapshot target) else none := OrdMap.get?_insert OrdMap.empty _ _ _

theorem span_sourceAt : (spanSource target).lockedAt = some (target - 1) :=
  congrArg some (show 1772323200 + (target - 1 - 1772323200) = target - 1 by omega)

theorem span_differ (inside : windowStartAt < target ∧ target < windowEndAt) :
    DifferInside (spanWindow lane windowStartAt windowEndAt) (spanTable target [spanSnapshot target]) (spanTable target []) where
  rest := rfl
  inside id snapshot differs := by
    have own : snapshot = spanSnapshot target := by
      rcases differs.stored with stored | stored
      · rw [span_stored] at stored
        split_ifs at stored
        exact (Option.some.inj stored).symm
      · cases stored
    subst own
    exact ⟨spanSource target,rfl,lockedIn_iff.mpr ⟨target - 1,span_sourceAt,Int.le_sub_one_of_lt inside.1,
      (Int.sub_one_lt_of_le le_rfl).trans inside.2⟩⟩

theorem span_delayed (midnight : dayBucketStart target = target) : Delayed (spanTable target [spanSnapshot target]) := by
  intro id snapshot stored result found lockedAt locked
  rw [span_stored] at stored
  split_ifs at stored
  obtain rfl := Option.some.inj stored
  obtain rfl : spanSource target = result := Option.some.inj found
  obtain rfl := Option.some.inj (span_sourceAt.symm.trans locked)
  unfold dayBucketStart at midnight
  have day : dayBucketStart (target - 1) + 86400 ≤ target := by
    unfold dayBucketStart
    omega
  exact decide_eq_true day

end Spanning

/-- A window feeds back into itself where a snapshot of its own is in effect inside it. Snapshots that take effect after the day
of their source are never in effect in a window of one day, and are in others. -/
theorem feedback_iff (lane : Lane) (windowStartAt windowEndAt : Int) :
    (∀ settings request now repo other, request.lane = lane → request.windowStartAt = windowStartAt → request.windowEndAt = windowEndAt →
      DifferInside request repo other → Unfelt settings request now repo other →
        rewards settings request now other = rewards settings request now repo) ∧
    ((∀ settings request now repo other, request.lane = lane → request.windowStartAt = windowStartAt → request.windowEndAt = windowEndAt →
      DifferInside request repo other → Delayed repo → Delayed other →
        rewards settings request now other = rewards settings request now repo) ↔ windowEndAt ≤ dayBucketStart windowStartAt + 86400) := by
  refine ⟨fun settings request now repo other _ _ _ => rewards_unfelt,?_,?_⟩
  · intro all
    by_contra long
    obtain ⟨target,midnight,inside⟩ : ∃ target, dayBucketStart target = target ∧ windowStartAt < target ∧ target < windowEndAt := by
      refine ⟨dayBucketStart (windowEndAt - 1),?_⟩
      unfold dayBucketStart at long ⊢
      omega
    exact span_felt ⟨inside.1.le,inside.2⟩ (all plainPokerSettings (spanWindow lane windowStartAt windowEndAt) (parseTime target)
      (spanTable target [spanSnapshot target]) (spanTable target []) rfl rfl rfl (span_differ inside) (span_delayed midnight)
        fun _ _ stored => by cases stored)
  · rintro oneDay settings request now repo other - rfl rfl differ delayed delayed'
    exact rewards_unfelt differ (unfelt_of_delayed differ delayed delayed' oneDay)

/-- In a week the result of one day has a snapshot that weighs another day's result. -/
theorem week_feedsBack : ¬∀ settings request now repo other, request.lane.isPoker = true → DifferInside request repo other →
    rewards settings request now other = rewards settings request now repo := by
  intro all
  have week : (1771804800 : Int) < 1772064000 ∧ (1772064000 : Int) < 1772409600 := by decide
  exact span_felt ⟨week.1.le,week.2⟩ (all plainPokerSettings (spanWindow .pokerMttWeekly 1771804800 1772409600) (parseTime 1772064000)
    (spanTable 1772064000 [spanSnapshot 1772064000]) (spanTable 1772064000 []) rfl (span_differ week))

end Clawchain.Poker
