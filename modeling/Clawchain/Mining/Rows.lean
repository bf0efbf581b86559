import Clawchain.Lib.Floats
import Clawchain.Lib.Groups
import Clawchain.Mining.Model
import Mathlib.Order.Interval.Finset.Nat

/-! Reward rows, one for each miner: built from submissions, merged, and cut into pages. Fractions are exact, the
rounding to six places is the source's. -/
namespace Clawchain.Mining
open Clawchain.Lib

structure Hashing where
  ids : List String → String
  rows : List RewardRow → String
  projectionRoots : List ProjectionRoots → String
  deltaRoots : List (String × String) → String
  canonicalRoot : CanonicalRootInput → String
  payload : AnchorPayload → String

def round6 (x : ℚ) : ℚ := roundHalfEven (x * 1000000) / 1000000

def qualityEnvelope (modelReliability opsReliability arenaMultiplier antiAbuseDiscount : ℚ) : ℚ :=
  round6 (max 0 (modelReliability * opsReliability * arenaMultiplier * antiAbuseDiscount))

def forecastSubmissionComponentSnapshot (submission : Submission) : RowComponents :=
  let fast := (submission.components.map (·.fastDirectScore)).getD submission.rewardAmount
  let component (field : Components → ℚ) := (submission.components.map field).getD 1
  { fastDirectScore := fast
    modelReliability := round6 (component (·.modelReliability))
    opsReliability := round6 (component (·.opsReliability))
    arenaMultiplier := round6 (component (·.arenaMultiplier))
    antiAbuseDiscount := round6 (component (·.antiAbuseDiscount))
    qualityEnvelope := round6 ((submission.components.map (·.qualityEnvelope)).getD
      (if 0 < fast then round6 (submission.rewardAmount / fast)
        else qualityEnvelope (component (·.modelReliability)) (component (·.opsReliability))
          (component (·.arenaMultiplier)) (component (·.antiAbuseDiscount))))
    baseScore := fast
    finalMiningScore := submission.rewardAmount
    releasedRewardAmount := submission.releasedRewardAmount.getD submission.rewardAmount
    heldRewardAmount := submission.heldRewardAmount.getD 0 }

/-- The average of a fraction over the rows of a miner, weighted by the score each of them brings. -/
def weighted (weight : RowComponents → Nat) (field : RowComponents → ℚ) (parts : List RowComponents) : ℚ :=
  let total := (parts.map weight).sum
  if 0 < total then round6 ((parts.map fun part => field part * weight part).sum / total) else 1

def gather (weight : RowComponents → Nat) (parts : List RowComponents) : RowComponents :=
  let average (field : RowComponents → ℚ) := weighted weight field parts
  let base : Nat := (parts.map (·.baseScore)).sum
  let final : Nat := (parts.map (·.finalMiningScore)).sum
  { fastDirectScore := (parts.map (·.fastDirectScore)).sum
    modelReliability := average (·.modelReliability)
    opsReliability := average (·.opsReliability)
    arenaMultiplier := average (·.arenaMultiplier)
    antiAbuseDiscount := average (·.antiAbuseDiscount)
    qualityEnvelope := if 0 < base then round6 ((final : ℚ) / base)
      else qualityEnvelope (average (·.modelReliability)) (average (·.opsReliability)) (average (·.arenaMultiplier))
        (average (·.antiAbuseDiscount))
    baseScore := base
    finalMiningScore := final
    releasedRewardAmount := (parts.map (·.releasedRewardAmount)).sum
    heldRewardAmount := (parts.map (·.heldRewardAmount)).sum }

def addresses {α : Type} (address : α → String) (items : List α) : List String :=
  (OrdMap.ofList (items.map fun item => (address item,()))).keys

def countsForReward (submission : Submission) : Bool := submission.minerAddress ≠ "" && submission.pYesBps.isSome

def buildForecastRewardComponentRows (submissions : List Submission) : List RewardRow :=
  let counted := submissions.filter countsForReward
  (addresses (·.minerAddress) counted).map fun address =>
    let parts := (Groups.group (·.minerAddress) counted address).map forecastSubmissionComponentSnapshot
    { minerAddress := address
      submissionCount := parts.length
      grossRewardAmount := (parts.map (·.finalMiningScore)).sum
      components := some (gather (·.fastDirectScore) parts) }

def orOne (fraction : ℚ) : ℚ := if fraction = 0 then 1 else fraction

def RewardRow.parts (row : RewardRow) : RowComponents :=
  match row.components with
  | some parts =>
    { parts with
      modelReliability := orOne parts.modelReliability
      opsReliability := orOne parts.opsReliability
      arenaMultiplier := orOne parts.arenaMultiplier
      antiAbuseDiscount := orOne parts.antiAbuseDiscount }
  | none =>
    { fastDirectScore := 0, modelReliability := 1, opsReliability := 1, arenaMultiplier := 1, antiAbuseDiscount := 1
      qualityEnvelope := 1, baseScore := 0, finalMiningScore := row.grossRewardAmount, releasedRewardAmount := 0
      heldRewardAmount := 0 }

def mergeRewardComponentRows (rows : List RewardRow) : List RewardRow :=
  let named := rows.filter fun row => row.minerAddress ≠ ""
  (addresses (·.minerAddress) named).map fun address =>
    let own := Groups.group (·.minerAddress) named address
    { minerAddress := address
      submissionCount := (own.map (·.submissionCount)).sum
      grossRewardAmount := (own.map (·.grossRewardAmount)).sum
      components := if own.any (·.components.isSome) then some (gather (·.baseScore) (own.map RewardRow.parts))
        else none }

def totalReward (rows : List RewardRow) : Nat := (rows.map (·.grossRewardAmount)).sum

section Pages
variable (hash : Hashing)

def slices (size : Nat) : Nat → List RewardRow → List (List RewardRow)
  | 0,_ => []
  | _,[] => []
  | fuel + 1,rows => rows.take size :: slices size fuel (rows.drop size)

def pageOf (pageIndex : Nat) (rows : List RewardRow) : Page := ⟨pageIndex,rows.length,rows,hash.rows rows⟩

def buildPagedPayload (pageSize : Nat) (rows : List RewardRow) : Except String (PagedRows × List Page) :=
  if pageSize = 0 then .error "page_size must be positive"
  else if rows.length ≤ pageSize then .ok ({ minerRewardRowsRoot := hash.rows rows, minerRewardRows := rows },[])
  else
    let pages := (slices pageSize rows.length rows).mapIdx (pageOf hash)
    .ok ({ minerRewardRowsRoot := hash.rows rows
           artifactPages := pages.map fun page => ⟨page.pageIndex,page.rowCount,page.pageRoot⟩ },pages)

def resolvePage (subject : String) (pages : OrdMap Nat Page) (ref : PageRef) : Except String (List RewardRow) :=
  match pages.get? ref.pageIndex with
  | none => .error (subject ++ " page artifact missing")
  | some page =>
    if hash.rows page.minerRewardRows ≠ ref.pageRoot ∨ hash.rows page.minerRewardRows ≠ page.pageRoot then
      .error (subject ++ " page root mismatch")
    else if page.minerRewardRows.length ≠ ref.rowCount then .error (subject ++ " page row count mismatch")
    else .ok page.minerRewardRows

def resolveMinerRewardRowsFromArtifacts (subject : String) (payload : PagedRows) (pages : OrdMap Nat Page) :
    Except String (List RewardRow) :=
  let checked (rows : List RewardRow) : Except String (List RewardRow) :=
    if hash.rows rows ≠ payload.minerRewardRowsRoot then .error (subject ++ " miner reward rows root mismatch")
    else .ok rows
  if payload.minerRewardRows ≠ [] then checked payload.minerRewardRows
  else if payload.artifactPages = [] then .ok []
  else do
    let slices ← (payload.artifactPages.mergeSort fun a b => a.pageIndex ≤ b.pageIndex).mapM (resolvePage hash subject pages)
    checked slices.flatten

def resolvePokerMttProjectionRewardRows (artifacts : RowArtifacts) : Except String (List RewardRow) :=
  resolveMinerRewardRowsFromArtifacts hash "poker mtt projection" artifacts.rows artifacts.pages

def resolveSettlementAnchorRewardRows (payload : PagedRows) (pages : OrdMap Nat Page) : Except String (List RewardRow) :=
  resolveMinerRewardRowsFromArtifacts hash "settlement anchor" payload pages

def resolveRewardWindowMembershipRows (artifacts : RowArtifacts) : Except String (List RewardRow) :=
  resolveMinerRewardRowsFromArtifacts hash "reward window membership" artifacts.rows artifacts.pages

end Pages

theorem ofList_keys {ν : Type} (l : List (String × ν)) (k : String) :
    k ∈ (OrdMap.ofList l).keys ↔ k ∈ l.map Prod.fst := by
  unfold OrdMap.ofList
  suffices general : ∀ m : OrdMap String ν, k ∈ (l.foldl (fun m e => m.insert e.1 e.2) m).keys ↔
      k ∈ m.keys ∨ k ∈ l.map Prod.fst by
    rw [general]
    simp [OrdMap.keys,OrdMap.empty]
  induction l with
  | nil => simp
  | cons e rest ih =>
    intro m
    rw [List.foldl_cons,ih]
    have one : k ∈ (m.insert e.1 e.2).keys ↔ k ∈ m.keys ∨ k = e.1 := by
      rw [OrdMap.mem_keys_iff,OrdMap.mem_keys_iff,OrdMap.get?_insert]
      split_ifs with same <;> simp [same]
    rw [one,List.map_cons,List.mem_cons,or_assoc]

variable {α : Type}

theorem mem_addresses_iff (address : α → String) {items : List α} {one : String} :
    one ∈ addresses address items ↔ ∃ item ∈ items, address item = one := by
  unfold addresses
  rw [ofList_keys]
  simp

theorem mem_addresses (address : α → String) {items : List α} {item : α} (inside : item ∈ items) :
    address item ∈ addresses address items :=
  (mem_addresses_iff address).mpr ⟨item,inside,rfl⟩

theorem addresses_nodup (address : α → String) (items : List α) : (addresses address items).Nodup :=
  OrdMap.keys_nodup _

theorem groups_sum (address : α → String) (items : List α) (amount : α → Nat) :
    ((addresses address items).map fun one => ((Groups.group address items one).map amount).sum).sum =
      (items.map amount).sum := by
  have whole := Groups.flatMap_group_perm address (addresses_nodup address items)
    fun item inside => mem_addresses address inside
  rw [← (whole.map amount).sum_eq,List.map_flatMap,List.flatMap_def,List.sum_flatten,List.map_map]
  rfl

theorem buildForecastRewardComponentRows_total (submissions : List Submission) :
    totalReward (buildForecastRewardComponentRows submissions) =
      ((submissions.filter countsForReward).map (·.rewardAmount)).sum := by
  rw [← groups_sum (·.minerAddress)]
  simp [totalReward,buildForecastRewardComponentRows,forecastSubmissionComponentSnapshot,Function.comp_def]

end Clawchain.Mining
