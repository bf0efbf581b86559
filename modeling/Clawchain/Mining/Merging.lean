import Clawchain.Mining.Rows

/-! Reward rows with all the fields that are stored with them, any of which may be missing: they are built from the
submissions of a window, and the rows of several windows are merged. -/
namespace Clawchain.Mining.Merging
open Clawchain.Lib

@[ext] structure Factors (α : Type) where
  modelReliability : α
  opsReliability : α
  arenaMultiplier : α
  antiAbuseDiscount : α
  deriving DecidableEq, Repr

namespace Factors
variable {α β : Type}

def map (f : α → β) (factors : Factors α) : Factors β :=
  ⟨f factors.modelReliability,f factors.opsReliability,f factors.arenaMultiplier,f factors.antiAbuseDiscount⟩

def toList (factors : Factors α) : List α :=
  [factors.modelReliability,factors.opsReliability,factors.arenaMultiplier,factors.antiAbuseDiscount]

theorem toList_map (f : α → β) (factors : Factors α) : (factors.map f).toList = factors.toList.map f := rfl

theorem map_eq_self {f : α → α} {factors : Factors α} : factors.map f = factors ↔ ∀ factor ∈ factors.toList, f factor = factor := by
  simp [map,toList,Factors.ext_iff]

end Factors

structure SubmissionRecord where
  minerAddress : String := ""
  pYesBps : Option Int := none
  rewardAmount : Option Int := none
  fastDirectScore : Option Int := none
  releasedRewardAmount : Option Int := none
  heldRewardAmount : Option Int := none
  components : Factors (Option ℚ) := ⟨none,none,none,none⟩
  qualityEnvelope : Option ℚ := none
  deriving DecidableEq

/-- A submission's part in the row of its miner. -/
structure Snapshot where
  fastDirectScore : Int
  slowDirectScore : Int := 0
  baseScore : Int
  factors : Factors ℚ
  qualityEnvelope : ℚ
  (finalMiningScore releasedRewardAmount heldRewardAmount : Int)
  deriving DecidableEq

structure Row where
  minerAddress : String := ""
  submissionCount : Option Int := none
  fastDirectScore : Option Int := none
  slowDirectScore : Option Int := none
  baseScore : Option Int := none
  finalMiningScore : Option Int := none
  releasedRewardAmount : Option Int := none
  heldRewardAmount : Option Int := none
  grossRewardAmount : Option Int := none
  factors : Factors (Option ℚ) := ⟨none,none,none,none⟩
  qualityEnvelope : Option ℚ := none
  deriving DecidableEq

def envelope (factors : Factors ℚ) : ℚ :=
  Mining.qualityEnvelope factors.modelReliability factors.opsReliability factors.arenaMultiplier factors.antiAbuseDiscount

def forecastSubmissionComponentSnapshot (submission : SubmissionRecord) : Snapshot :=
  let final := submission.rewardAmount.getD 0
  let fast := submission.fastDirectScore.getD final
  let components := submission.components.map (·.getD 1)
  { fastDirectScore := fast
    baseScore := fast
    factors := components.map round6
    qualityEnvelope := round6 (submission.qualityEnvelope.getD
      (if 0 < fast then round6 ((final : ℚ) / fast) else envelope components))
    finalMiningScore := final
    releasedRewardAmount := submission.releasedRewardAmount.getD final
    heldRewardAmount := submission.heldRewardAmount.getD 0 }

def weightedAverage (parts : List (Int × ℚ)) : ℚ :=
  let total := (parts.map Prod.fst).sum
  if 0 < total then round6 ((parts.map fun part => part.2 * (part.1 : ℚ)).sum / total) else 1

def averages (parts : List (Int × Factors ℚ)) : Factors ℚ :=
  let average (factor : Factors ℚ → ℚ) := weightedAverage (parts.map fun part => (part.1,factor part.2))
  ⟨average (·.modelReliability),average (·.opsReliability),average (·.arenaMultiplier),average (·.antiAbuseDiscount)⟩

def totalRow (address : String) (factors : Factors ℚ) (count fast slow base final released held gross : Int) : Row where
  minerAddress := address
  submissionCount := some count
  fastDirectScore := some fast
  slowDirectScore := some slow
  baseScore := some base
  finalMiningScore := some final
  releasedRewardAmount := some released
  heldRewardAmount := some held
  grossRewardAmount := some gross
  factors := factors.map some
  qualityEnvelope := some (if 0 < base then round6 ((final : ℚ) / base) else envelope factors)

def countsForReward (submission : SubmissionRecord) : Bool := submission.minerAddress ≠ "" && submission.pYesBps.isSome

def buildRow (address : String) (parts : List Snapshot) : Row :=
  let sum (field : Snapshot → Int) := (parts.map field).sum
  totalRow address (averages (parts.map fun part => (max part.fastDirectScore 0,part.factors))) parts.length
    (sum (·.fastDirectScore)) 0 (sum (·.baseScore)) (sum (·.finalMiningScore)) (sum (·.releasedRewardAmount))
    (sum (·.heldRewardAmount)) (sum (·.finalMiningScore))

def buildForecastRewardComponentRows (submissions : List SubmissionRecord) : List Row :=
  let counted := submissions.filter countsForReward
  (addresses (·.minerAddress) counted).map fun address =>
    buildRow address ((Groups.group (·.minerAddress) counted address).map forecastSubmissionComponentSnapshot)

def Row.hasComponentFields (row : Row) : Bool :=
  row.fastDirectScore.isSome || row.slowDirectScore.isSome || row.baseScore.isSome || row.finalMiningScore.isSome ||
    row.releasedRewardAmount.isSome || row.heldRewardAmount.isSome || row.factors.toList.any (·.isSome) ||
    row.qualityEnvelope.isSome

def Row.final (row : Row) : Int := row.finalMiningScore.getD (row.grossRewardAmount.getD 0)

def Row.gross (row : Row) : Int := row.grossRewardAmount.getD (row.finalMiningScore.getD 0)

def Row.givenFactors (row : Row) : Factors ℚ := row.factors.map fun factor => orOne (factor.getD 1)

def mergeRow (address : String) (own : List Row) : Row :=
  let sum (field : Row → Int) := (own.map field).sum
  let count := sum (·.submissionCount.getD 0)
  let gross := sum Row.gross
  if own.any Row.hasComponentFields then
    totalRow address (averages (own.map fun row => (row.baseScore.getD 0,row.givenFactors))) count (sum (·.fastDirectScore.getD 0))
      (sum (·.slowDirectScore.getD 0)) (sum (·.baseScore.getD 0)) (sum Row.final) (sum (·.releasedRewardAmount.getD 0))
      (sum (·.heldRewardAmount.getD 0)) gross
  else { minerAddress := address,submissionCount := some count,grossRewardAmount := some gross }

def mergeRewardComponentRows (rows : List Row) : List Row :=
  let named := rows.filter fun row => row.minerAddress ≠ ""
  (addresses (·.minerAddress) named).map fun address => mergeRow address (Groups.group (·.minerAddress) named address)

theorem round6_one : round6 1 = 1 := by decide +kernel

theorem roundHalfEven_intCast (k : Int) : roundHalfEven k = k := by
  unfold roundHalfEven
  simp

theorem round6_round6 (x : ℚ) : round6 (round6 x) = round6 x := by
  unfold round6
  rw [div_mul_cancel₀ _ (by norm_num),roundHalfEven_intCast]

theorem weightedAverage_single (weight : Int) (factor : ℚ) :
    weightedAverage [(weight,factor)] = if 0 < weight then round6 factor else 1 := by
  unfold weightedAverage
  simp only [List.map_cons,List.map_nil,List.sum_cons,List.sum_nil,add_zero]
  split_ifs with positive
  · have nonzero : (weight : ℚ) ≠ 0 := by exact_mod_cast positive.ne'
    rw [mul_div_cancel_right₀ _ nonzero]
  · rfl

theorem averages_single (weight : Int) (factors : Factors ℚ) :
    averages [(weight,factors)] = factors.map fun factor => if 0 < weight then round6 factor else 1 := by
  simp [averages,weightedAverage_single,Factors.map]

theorem weightedAverage_rounded (parts : List (Int × ℚ)) : round6 (weightedAverage parts) = weightedAverage parts := by
  unfold weightedAverage
  dsimp only
  split_ifs
  · exact round6_round6 _
  · exact round6_one

theorem averages_rounded (parts : List (Int × Factors ℚ)) : ∀ factor ∈ (averages parts).toList, round6 factor = factor := by
  simp [averages,Factors.toList,weightedAverage_rounded]

def KeepsFactors (row : Row) : Prop :=
  if 0 < row.baseScore.getD 0 then ∀ factor ∈ row.factors.toList, factor ≠ some 0
  else ∀ factor ∈ row.factors.toList, factor = some 1

instance (row : Row) : Decidable (KeepsFactors row) :=
  inferInstanceAs (Decidable (if 0 < row.baseScore.getD 0 then ∀ factor ∈ row.factors.toList, factor ≠ some 0
    else ∀ factor ∈ row.factors.toList, factor = some 1))

theorem orOne_eq_self {factor : ℚ} : orOne factor = factor ↔ factor ≠ 0 := by
  unfold orOne
  split_ifs with zero
  · simp [zero]
  · simp [zero]

theorem mergeRow_single (address : String) (factors : Factors ℚ) (count fast base final released held gross : Int)
    (rounded : ∀ factor ∈ factors.toList, round6 factor = factor) :
    let row := totalRow address factors count fast 0 base final released held gross
    mergeRow address [row] = row ↔ KeepsFactors row := by
  intro row
  have given : row.givenFactors = factors.map orOne := rfl
  have merged : mergeRow address [row] =
      totalRow address (averages [(base,factors.map orOne)]) count fast 0 base final released held gross := by
    simp [mergeRow,row,totalRow,Row.hasComponentFields,Row.final,Row.gross,Row.givenFactors,Factors.map]
  have same : totalRow address (averages [(base,factors.map orOne)]) count fast 0 base final released held gross = row ↔
      averages [(base,factors.map orOne)] = factors := by
    constructor
    · intro equal
      have kept : (averages [(base,factors.map orOne)]).map some = factors.map some := congrArg Row.factors equal
      simpa [Factors.map,Factors.ext_iff] using kept
    · intro equal
      rw [equal]
  rw [merged,same,averages_single]
  have base_score : row.baseScore.getD 0 = base := rfl
  have list : row.factors.toList = factors.toList.map some := rfl
  unfold KeepsFactors
  rw [base_score,list]
  split_ifs with positive
  · have through : (factors.map orOne).map round6 = factors.map orOne := by
      rw [Factors.map_eq_self]
      intro factor inside
      rw [Factors.toList_map] at inside
      obtain ⟨one,listed,rfl⟩ := List.mem_map.mp inside
      unfold orOne
      split_ifs
      · exact round6_one
      · exact rounded one listed
    rw [through,Factors.map_eq_self]
    simp [orOne_eq_self]
  · simp [Factors.map,Factors.toList,Factors.ext_iff,eq_comm]

variable {α : Type} {address : α → String} {items : List α}

theorem addresses_sorted (address : α → String) (items : List α) :
    (addresses address items).Pairwise (· < ·) := OrdMap.keys_sorted _

theorem mem_addresses_iff {one : String} :
    one ∈ addresses address items ↔ ∃ item ∈ items, address item = one := by
  unfold addresses
  rw [ofList_keys]
  simp

theorem addresses_eq (sorted : (items.map address).Pairwise (· < ·)) :
    addresses address items = items.map address := by
  have distinct : (items.map address).Nodup := sorted.imp fun below => ne_of_lt below
  have perm : (addresses address items).Perm (items.map address) := by
    refine (List.perm_ext_iff_of_nodup (addresses_nodup _ _) distinct).mpr fun one => ?_
    rw [mem_addresses_iff,List.mem_map]
  exact perm.eq_of_pairwise (fun a b _ _ below above => absurd below (lt_asymm above)) (addresses_sorted _ _) sorted

theorem group_single (distinct : (items.map address).Nodup) {item : α} (inside : item ∈ items)
    : Groups.group address items (address item) = [item] := by
  induction items with
  | nil => cases inside
  | cons first rest ih =>
    rw [List.map_cons,List.nodup_cons] at distinct
    unfold Groups.group at ih ⊢
    rcases List.mem_cons.mp inside with rfl | later
    · have none_ : rest.filter (fun other => decide (address other = address item)) = [] := by
        rw [List.filter_eq_nil_iff]
        intro other listed same
        exact distinct.1 (List.mem_map.mpr ⟨other,listed,of_decide_eq_true same⟩)
      simp [none_]
    · have apart : address first ≠ address item := fun same => distinct.1 (List.mem_map.mpr ⟨item,later,same.symm⟩)
      rw [List.filter_cons_of_neg (by simpa using apart)]
      exact ih distinct.2 later

theorem merge_distinct {rows : List Row} (named : ∀ row ∈ rows, row.minerAddress ≠ "")
    (sorted : (rows.map (·.minerAddress)).Pairwise (· < ·)) :
    mergeRewardComponentRows rows = rows.map fun row => mergeRow row.minerAddress [row] := by
  have all : rows.filter (fun row => row.minerAddress ≠ "") = rows :=
    List.filter_eq_self.mpr fun row inside => by simpa using named row inside
  unfold mergeRewardComponentRows
  dsimp only
  rw [all,addresses_eq sorted,List.map_map]
  apply List.map_congr_left
  intro row inside
  exact congrArg _ (group_single (sorted.imp fun below => ne_of_lt below) inside)

theorem built_addresses (submissions : List SubmissionRecord) : (buildForecastRewardComponentRows submissions).map (·.minerAddress) =
    addresses (·.minerAddress) (submissions.filter countsForReward) := by
  unfold buildForecastRewardComponentRows
  rw [List.map_map]
  exact List.map_id _

theorem built_named (submissions : List SubmissionRecord) : ∀ row ∈ buildForecastRewardComponentRows submissions,
    row.minerAddress ≠ "" := by
  intro row inside
  have listed : row.minerAddress ∈ (buildForecastRewardComponentRows submissions).map (·.minerAddress) :=
    List.mem_map_of_mem inside
  rw [built_addresses,mem_addresses_iff] at listed
  obtain ⟨submission,counted,same⟩ := listed
  have named := (List.mem_filter.mp counted).2
  unfold countsForReward at named
  rw [Bool.and_eq_true,decide_eq_true_iff] at named
  exact same ▸ named.1

theorem merge_built (submissions : List SubmissionRecord) :
    mergeRewardComponentRows (buildForecastRewardComponentRows submissions) = buildForecastRewardComponentRows submissions ↔
      ∀ row ∈ buildForecastRewardComponentRows submissions, KeepsFactors row := by
  have sorted : ((buildForecastRewardComponentRows submissions).map (·.minerAddress)).Pairwise (· < ·) := by
    rw [built_addresses]
    exact addresses_sorted _ _
  have each : (buildForecastRewardComponentRows submissions).map (fun row => mergeRow row.minerAddress [row]) =
      (buildForecastRewardComponentRows submissions).map id ↔
      ∀ row ∈ buildForecastRewardComponentRows submissions, mergeRow row.minerAddress [row] = row := List.map_inj_left
  rw [List.map_id] at each
  rw [merge_distinct (built_named submissions) sorted,each]
  apply forall₂_congr
  intro row inside
  obtain ⟨address,-,rfl⟩ := List.mem_map.mp inside
  exact mergeRow_single address _ _ _ _ _ _ _ _ (averages_rounded _)

theorem averages_perm {parts other : List (Int × Factors ℚ)} (perm : parts.Perm other) : averages parts = averages other := by
  have each (factor : Factors ℚ → ℚ) : weightedAverage (parts.map fun part => (part.1,factor part.2)) =
      weightedAverage (other.map fun part => (part.1,factor part.2)) := by
    unfold weightedAverage
    have mapped := perm.map fun part : Int × Factors ℚ => (part.1,factor part.2)
    rw [(mapped.map Prod.fst).sum_eq,(mapped.map fun part => part.2 * (part.1 : ℚ)).sum_eq]
  simp only [averages,each]

theorem mergeRow_perm {own other : List Row} (perm : own.Perm other) (address : String) :
    mergeRow address own = mergeRow address other := by
  have sum (field : Row → Int) : (own.map field).sum = (other.map field).sum := (perm.map field).sum_eq
  unfold mergeRow
  simp only [sum,perm.any_eq,averages_perm (perm.map fun row => (row.baseScore.getD 0,row.givenFactors))]

theorem merge_perm {rows other : List Row} (perm : rows.Perm other) :
    mergeRewardComponentRows rows = mergeRewardComponentRows other := by
  have named := perm.filter fun row : Row => row.minerAddress ≠ ""
  unfold mergeRewardComponentRows
  dsimp only
  have same : addresses (·.minerAddress) (rows.filter fun row => row.minerAddress ≠ "") =
      addresses (·.minerAddress) (other.filter fun row => row.minerAddress ≠ "") := by
    have members : (addresses (·.minerAddress) (rows.filter fun row => row.minerAddress ≠ "")).Perm
        (addresses (·.minerAddress) (other.filter fun row => row.minerAddress ≠ "")) := by
      refine (List.perm_ext_iff_of_nodup (addresses_nodup _ _) (addresses_nodup _ _)).mpr fun one => ?_
      simp only [mem_addresses_iff,named.mem_iff]
    exact members.eq_of_pairwise (fun a b _ _ below above => absurd below (lt_asymm above)) (addresses_sorted _ _)
      (addresses_sorted _ _)
  rw [same]
  exact List.map_congr_left fun address _ => mergeRow_perm (Groups.group_perm _ named address) address

structure Adds (own : List Row) (merged : Row) : Prop where
  submissionCount : merged.submissionCount = some (own.map (·.submissionCount.getD 0)).sum
  grossRewardAmount : merged.grossRewardAmount = some (own.map Row.gross).sum
  sparse : own.any Row.hasComponentFields = false → merged.hasComponentFields = false
  fastDirectScore : own.any Row.hasComponentFields → merged.fastDirectScore = some (own.map (·.fastDirectScore.getD 0)).sum
  slowDirectScore : own.any Row.hasComponentFields → merged.slowDirectScore = some (own.map (·.slowDirectScore.getD 0)).sum
  baseScore : own.any Row.hasComponentFields → merged.baseScore = some (own.map (·.baseScore.getD 0)).sum
  finalMiningScore : own.any Row.hasComponentFields → merged.finalMiningScore = some (own.map Row.final).sum
  releasedRewardAmount : own.any Row.hasComponentFields →
    merged.releasedRewardAmount = some (own.map (·.releasedRewardAmount.getD 0)).sum
  heldRewardAmount : own.any Row.hasComponentFields → merged.heldRewardAmount = some (own.map (·.heldRewardAmount.getD 0)).sum

theorem mergeRow_adds (address : String) (own : List Row) : Adds own (mergeRow address own) := by
  unfold mergeRow
  dsimp only
  split_ifs with rich
  · refine ⟨rfl,rfl,fun sparse => ?_,fun _ => rfl,fun _ => rfl,fun _ => rfl,fun _ => rfl,fun _ => rfl,fun _ => rfl⟩
    rw [rich] at sparse
    cases sparse
  · refine ⟨rfl,rfl,fun _ => rfl,?_,?_,?_,?_,?_,?_⟩ <;> exact fun some_ => absurd some_ rich

theorem merged_adds (rows : List Row) : ∀ merged ∈ mergeRewardComponentRows rows, merged.minerAddress ≠ "" ∧
    Adds (rows.filter fun row => row.minerAddress = merged.minerAddress) merged := by
  intro merged inside
  obtain ⟨address,listed,rfl⟩ := List.mem_map.mp inside
  obtain ⟨row,named,rfl⟩ := mem_addresses_iff.mp listed
  have own : (mergeRow row.minerAddress (Groups.group (·.minerAddress) (rows.filter fun row => row.minerAddress ≠ "")
      row.minerAddress)).minerAddress = row.minerAddress := by
    unfold mergeRow
    dsimp only
    split_ifs <;> rfl
  have known : row.minerAddress ≠ "" := of_decide_eq_true (List.mem_filter.mp named).2
  have group : Groups.group (·.minerAddress) (rows.filter fun row => row.minerAddress ≠ "") row.minerAddress =
      rows.filter fun other => other.minerAddress = row.minerAddress := by
    unfold Groups.group
    rw [List.filter_filter]
    apply List.filter_congr
    intro other _
    by_cases same : other.minerAddress = row.minerAddress <;> simp [same,known]
  rw [own,group]
  exact ⟨known,mergeRow_adds _ _⟩

theorem merged_miners (rows : List Row) : (mergeRewardComponentRows rows).map (·.minerAddress) =
    addresses (·.minerAddress) (rows.filter fun row => row.minerAddress ≠ "") := by
  unfold mergeRewardComponentRows
  rw [List.map_map]
  conv_rhs => rw [← List.map_id (addresses _ _)]
  apply List.map_congr_left
  intro address _
  unfold Function.comp mergeRow
  dsimp only
  split_ifs <;> rfl

/-- Merging gives the rows of one window back exactly when no factor is lost; the rows of several windows are added up for
each miner, in whatever order they come. -/
theorem merge_faithful (submissions : List SubmissionRecord) (rows : List Row) :
    (mergeRewardComponentRows (buildForecastRewardComponentRows submissions) = buildForecastRewardComponentRows submissions ↔
      ∀ row ∈ buildForecastRewardComponentRows submissions, KeepsFactors row) ∧
    ((mergeRewardComponentRows rows).map (·.minerAddress)).Nodup ∧
    (∀ row ∈ rows, row.minerAddress ≠ "" → ∃ merged ∈ mergeRewardComponentRows rows, merged.minerAddress = row.minerAddress) ∧
    (∀ merged ∈ mergeRewardComponentRows rows, merged.minerAddress ≠ "" ∧
      Adds (rows.filter fun row => row.minerAddress = merged.minerAddress) merged) ∧
    ∀ other, rows.Perm other → mergeRewardComponentRows rows = mergeRewardComponentRows other := by
  refine ⟨merge_built submissions,?_,?_,merged_adds rows,fun other => merge_perm⟩
  · rw [merged_miners]
    exact addresses_nodup _ _
  · intro row inside named
    rw [← List.mem_map,merged_miners,mem_addresses_iff]
    exact ⟨row,List.mem_filter.mpr ⟨inside,by simpa using named⟩,rfl⟩

theorem merge_faithful_half :
    let submission : SubmissionRecord :=
      { minerAddress := "m",pYesBps := some 6000,rewardAmount := some 60,fastDirectScore := some 120
        components := ⟨some 1,some 1,some 1,some (1 / 2)⟩ }
    mergeRewardComponentRows (buildForecastRewardComponentRows [submission]) = buildForecastRewardComponentRows [submission] :=
  (merge_faithful _ []).1.mpr (by decide +kernel)

def discounted : SubmissionRecord where
  minerAddress := "m"
  pYesBps := some 6000
  rewardAmount := some 0
  fastDirectScore := some 120
  components := ⟨some 1,some 1,some 1,some 0⟩

theorem discount_is_lost : (buildForecastRewardComponentRows [discounted]).map (·.factors.antiAbuseDiscount) = [some 0] ∧
    (mergeRewardComponentRows (buildForecastRewardComponentRows [discounted])).map (·.factors.antiAbuseDiscount) = [some 1] := by
  decide +kernel

end Clawchain.Mining.Merging
