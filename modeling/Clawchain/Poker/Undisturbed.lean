import Clawchain.Lib.Fallible
import Clawchain.Poker.Reconcile

/-! A closed window that cannot be built stops the reconcile that takes it up: the windows after it, the batches and the
ranks wait. -/
namespace Clawchain.Poker
open Clawchain.Lib Clawchain.Mining

theorem present_iff {value : Option String} : present value = true ↔ ∃ text, value = some text ∧ text ≠ "" := by
  cases value <;> simp [present]

@[simp] theorem orElse_some {text : String} (fallback : Option String) (nonempty : text ≠ "") :
    orElse (some text) fallback = some text := by
  simp [orElse,present,nonempty]

section Build
variable (settings : PokerSettings) (request : Request)
variable {repo : PokerRepository} {inputs : WindowInputs}

def SupportedPolicy : Prop :=
  settings.pokerMttRewardAggregationPolicyVersion = "max_score_v1" ∨
    settings.pokerMttRewardAggregationPolicyVersion = "capped_top3_mean_v1"

def Affordable (approvedAmount : Nat) (ledgers : OrdMap String BudgetLedger) : Prop :=
  settings.pokerMttBudgetEnforcementEnabled = true → ∃ source epoch,
    (settings.pokerMttBudgetSourceID = some source ∧ source ≠ "") ∧
    (settings.pokerMttEmissionEpochID = some epoch ∧ epoch ≠ "") ∧ 0 < settings.pokerMttEmissionEpochBudgetAmount ∧
    (priorApprovedAmount source epoch request.id ledgers + approvedAmount : Nat) ≤ settings.pokerMttEmissionEpochBudgetAmount

/-- The window stands as it is, or it can be computed and paid. -/
def Buildable (now : Time) (repo : PokerRepository) : Prop :=
  ∃ inputs, windowInputs settings request (isoformatZ now) (repo.rewardWindows.get? request.id) repo = .ok inputs ∧
    ((standingWindow settings request inputs repo).isSome ∨
      SupportedPolicy settings ∧ 0 < settings.pokerMttProjectionArtifactPageSize ∧
        ∀ weights, weigh settings inputs repo.miners.get? = .ok weights →
          Affordable settings request (if weights.positive settings then request.rewardPoolAmount else 0) repo.budgetLedgers)

theorem prepareBudgetLedger_ok (positive : Bool) (policy : String) (ledgers : OrdMap String BudgetLedger) :
    (∃ prepared, prepareBudgetLedger settings request (budgetDisposition request positive) policy ledgers = .ok prepared) ↔
      Affordable settings request (if positive then request.rewardPoolAmount else 0) ledgers := by
  unfold prepareBudgetLedger
  simp only
  constructor
  · rintro ⟨prepared,done⟩ enforced
    rw [if_neg (by simp [enforced])] at done
    split at done
    · cases done
    rename_i sourced
    split at done
    · cases done
    rename_i dated
    split at done
    · cases done
    rename_i funded
    split at done
    · cases done
    rename_i room
    obtain ⟨source,found,named⟩ := present_iff.mp (by simpa using sourced)
    obtain ⟨epoch,known,called⟩ := present_iff.mp (by simpa using dated)
    simp only [budgetPayload,budgetDisposition,found,known,orElse_some _ named,orElse_some _ called,Option.getD_some] at room
    exact ⟨source,epoch,⟨found,named⟩,⟨known,called⟩,not_le.mp funded,not_lt.mp room⟩
  · intro affordable
    by_cases off : settings.pokerMttBudgetEnforcementEnabled = false
    · exact ⟨_,if_pos off⟩
    obtain ⟨source,epoch,⟨found,named⟩,⟨known,called⟩,funded,room⟩ := affordable (by simpa using off)
    have sourced : present settings.pokerMttBudgetSourceID = true := present_iff.mpr ⟨source,found,named⟩
    have dated : present settings.pokerMttEmissionEpochID = true := present_iff.mpr ⟨epoch,known,called⟩
    rw [if_neg off,if_neg (by simp [sourced]),if_neg (by simp [dated]),if_neg (not_le.mpr funded),if_neg]
    · exact ⟨_,rfl⟩
    · simp only [budgetPayload,budgetDisposition,found,known,orElse_some _ named,orElse_some _ called,Option.getD_some]
      exact not_lt.mpr room

theorem unitWeight_ok (floats : Floats) (policyVersion unit : String) (rows : List Result) :
    (∃ weight, unitWeight floats policyVersion unit rows = .ok weight) ↔
      policyVersion = "max_score_v1" ∨ policyVersion = "capped_top3_mean_v1" := by
  unfold unitWeight unitScore
  by_cases best : policyVersion = "max_score_v1"
  · simp [best,pure,Except.pure,bind,Except.bind]
  · by_cases mean : policyVersion = "capped_top3_mean_v1"
    · simp [mean,pure,Except.pure,bind,Except.bind]
    · simp [best,mean,bind,Except.bind]

theorem aggregateRewardWeights_ok (floats : Floats) {selected : List Result} (policyVersion : String) (miners : String → Option Miner)
    (nonempty : selected ≠ []) :
    (∃ weights, aggregateRewardWeights floats selected policyVersion miners = .ok weights) ↔
      policyVersion = "max_score_v1" ∨ policyVersion = "capped_top3_mean_v1" := by
  obtain ⟨result,inside⟩ := List.exists_mem_of_ne_nil selected nonempty
  unfold aggregateRewardWeights
  simp only [Fallible.mapM_ok,unitWeight_ok]
  exact ⟨fun all => all _ (mem_addresses _ inside),fun supported _ _ => supported⟩

theorem weigh_ok (miners : String → Option Miner) (selected : inputs.selected ≠ []) (weighted : inputs.weighted ≠ [])
    : (∃ weights, weigh settings inputs miners = .ok weights) ↔ SupportedPolicy settings := by
  have first := aggregateRewardWeights_ok settings.floats settings.pokerMttRewardAggregationPolicyVersion miners selected
  have second := aggregateRewardWeights_ok settings.floats settings.pokerMttRewardAggregationPolicyVersion miners weighted
  unfold weigh
  constructor
  · rintro ⟨weights,done⟩
    obtain ⟨scores,scored,_⟩ := Fallible.bind_ok done
    exact first.mp ⟨scores,scored⟩
  · intro supported
    obtain ⟨scores,scored⟩ := first.mpr supported
    obtain ⟨rewards,rewarded⟩ := second.mpr supported
    exact ⟨⟨scores,rewards⟩,by rw [scored]; change (aggregateRewardWeights _ _ _ _ >>= _) = _; rw [rewarded]; rfl⟩

@[simp] theorem saveLedger_ends (ledger : Option BudgetLedger) (repo : PokerRepository) : (saveLedger ledger).Ends repo := by
  cases ledger with
  | none => exact ⟨(),rfl⟩
  | some row => exact ⟨(),rfl⟩

theorem onRepository_ends {α : Type} {operation : Service α} :
    (onRepository operation).Ends repo ↔ operation.Ends repo.toRepository := Iff.rfl

@[simp] theorem returnedWindow_ends (build : PokerBuild) (existing : Option RewardWindow) (ledger : Option BudgetLedger)
    (repo : PokerRepository) : (returnedWindow build existing ledger).Ends repo := by
  change (relinkLedger _ ledger >>= fun _ => pure _).Ends repo
  exact (Faulty.ends_bind_of (saveLedger_ends _ _) (fun _ _ => iff_true_intro (Faulty.ends_pure _ _))).mpr trivial

theorem writeRewardWindow_ends (now : Time) (build : PokerBuild) (ledger : Option BudgetLedger) (existing : Option RewardWindow)
    (projection : Option Projection) (repo : PokerRepository) :
    (writeRewardWindow settings now build ledger existing projection).Ends repo ↔
      0 < settings.pokerMttProjectionArtifactPageSize := by
  unfold writeRewardWindow
  refine Faulty.ends_bind_of (onRepository_ends.mpr (Faulty.ends_modify _ _)) fun _ _ => ?_
  refine Faulty.ends_bind_of (Faulty.ends_given_modify _ _ _) fun _ _ => ?_
  refine Faulty.ends_bind_of (saveLedger_ends ledger _) fun _ _ => ?_
  cases paged : buildPagedPayload settings.hash settings.pokerMttProjectionArtifactPageSize build.minerRewardRows with
  | error message =>
    have zero : settings.pokerMttProjectionArtifactPageSize = 0 := by
      by_contra positive
      simp only [buildPagedPayload,positive,if_false] at paged
      split at paged <;> cases paged
    simp [zero]
  | ok payload =>
    have positive : settings.pokerMttProjectionArtifactPageSize ≠ 0 := by
      intro zero
      simp [buildPagedPayload,zero] at paged
    refine Faulty.ends_bind_of (onRepository_ends.mpr (Faulty.ends_modify _ _)) fun _ _ => ?_
    refine Faulty.ends_bind_of (Faulty.ends_given_modify _ _ _) fun _ _ => ?_
    simp [Nat.pos_of_ne_zero positive]

theorem cancelUnpaidBatch_ends (build : PokerBuild) (existing : Option RewardWindow) (repo : Repository) :
    (cancelUnpaidBatch build existing).Ends repo := by
  unfold cancelUnpaidBatch
  split
  · exact Faulty.ends_given_modify _ _ _
  · exact Faulty.ends_pure _ _

theorem windowInputs_nonempty {current : Int} {existing : Option RewardWindow}
    (found : windowInputs settings request current existing repo = .ok inputs) :
    inputs.selected ≠ [] ∧ inputs.weighted ≠ [] := by
  unfold windowInputs at found
  simp only at found
  split at found
  · cases found
  rename_i nonempty
  cases found
  exact ⟨nonempty,by simpa [applyEffectiveRewardMultipliers] using nonempty⟩

theorem computeRewardWindow_ends (now : Time) (poker : request.lane.isPoker = true) {current : Int}
    {existing : Option RewardWindow} (found : windowInputs settings request current existing repo = .ok inputs) :
    (computeRewardWindow settings request now poker inputs).Ends repo ↔
      SupportedPolicy settings ∧ 0 < settings.pokerMttProjectionArtifactPageSize ∧
        ∀ weights, weigh settings inputs repo.miners.get? = .ok weights →
          Affordable settings request (if weights.positive settings then request.rewardPoolAmount else 0) repo.budgetLedgers := by
  obtain ⟨selected,weighted⟩ := windowInputs_nonempty settings request found
  have supported := weigh_ok settings repo.miners.get? selected weighted
  unfold computeRewardWindow
  rw [Faulty.ends_read]
  cases weighed : weigh settings inputs repo.miners.get? with
  | error message =>
    have unsupported : ¬SupportedPolicy settings := fun holds => by
      obtain ⟨weights,ok⟩ := supported.mpr holds
      rw [weighed] at ok
      cases ok
    simp [unsupported]
  | ok weights =>
    have affordable := prepareBudgetLedger_ok settings request (weights.positive settings) inputs.policyBundleVersion repo.budgetLedgers
    simp only [supported.mp ⟨weights,weighed⟩,true_and,Except.ok.injEq,forall_eq',← affordable]
    refine Faulty.ends_bind_of (onRepository_ends.mpr (cancelUnpaidBatch_ends _ _ _)) fun _ middle => ?_
    cases budget : prepareBudgetLedger settings request (budgetDisposition request (weights.positive settings))
        inputs.policyBundleVersion repo.budgetLedgers with
    | error message => simp
    | ok prepared => simp [writeRewardWindow_ends]

theorem buildPokerMttRewardWindow_ends (now : Time) (poker : request.lane.isPoker = true)
    (ordered : request.windowStartAt < request.windowEndAt)
    (opened : (repo.rewardWindows.get? request.id).any (batchClosed repo.toRepository) = false) :
    (buildPokerMttRewardWindow settings request now).Ends repo ↔ Buildable settings request now repo := by
  have fresh : (repo.rewardWindows.get? request.id).filter (batchClosed repo.toRepository) = none := by
    cases found : repo.rewardWindows.get? request.id with
    | none => rfl
    | some window =>
      rw [found] at opened
      simpa [Option.filter] using opened
  unfold buildPokerMttRewardWindow Buildable
  change (dite _ _ _ : PokerService RewardWindow).Ends repo ↔ _
  rw [dif_pos poker,if_neg (not_le.mpr ordered),fresh]
  simp only
  cases found : windowInputs settings request (isoformatZ now) (repo.rewardWindows.get? request.id) repo with
  | error message => simp
  | ok inputs =>
    simp only [Except.ok.injEq,exists_eq_left']
    cases standing : standingWindow settings request inputs repo with
    | some window => simp
    | none => simpa using computeRewardWindow_ends settings request now poker found

end Build

section Reconcile
variable (settings : PokerSettings) (now : Time)

theorem mem_visits {inputs : Inputs} {visit : Visit} (listed : visit ∈ visits settings now inputs) :
    visit.lane.isPoker = true ∧ 0 < visit.windowSize := by
  unfold visits at listed
  split at listed
  · obtain ⟨config,active,taken⟩ := List.mem_flatMap.mp listed
    obtain ⟨start,_,rfl⟩ := List.mem_map.mp taken
    have known := List.mem_of_mem_filter active
    simp only [List.mem_cons,List.not_mem_nil,or_false] at known
    rcases known with rfl | rfl <;> exact ⟨rfl,by norm_num⟩
  · cases listed

theorem visitWindow_ends {visit : Visit} (poker : visit.lane.isPoker = true) (length : 0 < visit.windowSize)
    (repo : PokerRepository) : (visitWindow settings now visit).Ends repo ↔
      visit.passed settings now repo = true ∨ Buildable settings (visit.request settings) now repo := by
  unfold visitWindow
  change (ite _ _ _ : PokerService Unit).Ends repo ↔ _
  by_cases passed : visit.passed settings now repo = true
  · simp [passed]
  · rw [if_neg passed]
    have opened : (repo.rewardWindows.get? (visit.request settings).id).any (batchClosed repo.toRepository) = false := by
      simp only [Visit.passed,Bool.or_eq_true,not_or,Bool.not_eq_true] at passed
      exact passed.2
    have ordered : (visit.request settings).windowStartAt < (visit.request settings).windowEndAt := by
      simp [Visit.request,length]
    rw [← buildPokerMttRewardWindow_ends settings (visit.request settings) now poker ordered opened]
    simp only [passed,Bool.false_eq_true,false_or,Faulty.ends_bind]
    constructor
    · rintro ⟨window,t,run,_⟩
      exact ⟨window,by rw [run]⟩
    · rintro ⟨window,done⟩
      exact ⟨window,_,Prod.ext done rfl,Faulty.ends_pure _ _⟩

def undisturbed (outside : ScoredOutside) : PokerService Unit := do
  settleAndGather settings now outside
  .modify fun repo =>
    batchAndRank settings now (Faulty.carryOn (visitWindow settings now) (visits settings now repo.inputs) repo)

/-- A reconcile goes on as if the windows that cannot be built were not there exactly when there are none: every window that
it comes to is passed over or can be built. -/
theorem reconcile_undisturbed (outside : ScoredOutside) (repo : PokerRepository) :
    reconcile settings now outside repo = undisturbed settings now outside repo ↔
      ∀ middle, settleAndGather settings now outside repo = (.ok (),middle) →
        Faulty.InTurn (visitWindow settings now) (fun visit repo => visit.passed settings now repo = true ∨
          Buildable settings (visit.request settings) now repo) (visits settings now middle.inputs) middle := by
  unfold reconcile undisturbed
  cases run : settleAndGather settings now outside repo with
  | mk outcome middle =>
    cases outcome with
    | error failure =>
      rw [Faulty.bind_of_error _ run,Faulty.bind_of_error _ run]
      simp
    | ok done =>
      rw [Faulty.bind_of_ok _ run,Faulty.bind_of_ok _ run]
      have turns := (Faulty.each_carryOn (visits settings now middle.inputs) middle).trans
        (Faulty.InTurn.congr (fun visit listed repo =>
          visitWindow_ends settings now (mem_visits settings now listed).1 (mem_visits settings now listed).2 repo) middle)
      simp only [Prod.mk.injEq,true_and,forall_eq',← turns]
      change (Faulty.each (visitWindow settings now) (visits settings now middle.inputs) >>= fun _ =>
        .modify (batchAndRank settings now)) middle = (.ok (),batchAndRank settings now
          (Faulty.carryOn (visitWindow settings now) (visits settings now middle.inputs) middle)) ↔ _
      constructor
      · intro same
        obtain ⟨done,left,built,_⟩ := Faulty.bind_ok same
        rw [Faulty.each_of_inTurn (Faulty.inTurn_of_each built)]
      · intro built
        rw [Faulty.bind_of_ok _ built]
        rfl

end Reconcile

def expiredTable : PokerRepository :=
  plainTable [("claw1a",some (later 7200)),("claw1b",none)]
    [plainResult "first" "claw1a" 3600 10,plainResult "second" "claw1b" 90000 10]

/-- The second day is not paid because of the first. -/
theorem expiredTable_stops :
    let secondDay := pokerMttRewardWindowID .pokerMttDaily 1772409600 1772496000
    let stopped := reconcile plainPokerSettings (later 259200) { knowing [] with } expiredTable
    let expected := undisturbed plainPokerSettings (later 259200) { knowing [] with } expiredTable
    stopped.1 = .error (.value "no poker mtt results found for reward window") ∧
      stopped.2.rewardWindows.get? secondDay = none ∧ stopped ≠ expected ∧
      (expected.2.rewardWindows.get? secondDay).map (fun window => (window.state,window.totalRewardAmount)) =
        some (.finalized,100) ∧
      (expected.2.settlementBatches.get? (settlementBatchIDOf secondDay)).map (·.totalRewardAmount) = some 100 := by
  have stopped : (reconcile plainPokerSettings (later 259200) { knowing [] with } expiredTable).2.rewardWindows.get?
      (pokerMttRewardWindowID .pokerMttDaily 1772409600 1772496000) = none := by decide +kernel
  have built : ((undisturbed plainPokerSettings (later 259200) { knowing [] with } expiredTable).2.rewardWindows.get?
      (pokerMttRewardWindowID .pokerMttDaily 1772409600 1772496000)).map (fun window => (window.state,window.totalRewardAmount)) =
        some (.finalized,100) := by decide +kernel
  refine ⟨by decide +kernel,stopped,fun same => ?_,built,by decide +kernel⟩
  rw [← same,stopped] at built
  cases built

end Clawchain.Poker
