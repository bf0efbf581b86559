import Clawchain.Chain.Reputation

/-! A delta moves a score within its bounds, as long as the sum fits into 32 bits. -/
namespace Clawchain.Chain.Reputation
open Clawchain.Lib Clawchain.Chain

def saturated (score delta : Int) : Int := max 0 (min 1000 (score + delta))

theorem saturated_mono (score : Int) {small large : Int} (order : small ≤ large) :
    saturated score small ≤ saturated score large := by
  unfold saturated
  omega

theorem toInt_clampScore (score : Int32) : (clampScore score).toInt = max 0 (min 1000 score.toInt) := by
  have top : maxScore.toInt = 1000 := by decide
  have bottom : minScore.toInt = 0 := by decide
  have order : ¬ maxScore < minScore := by decide
  unfold clampScore
  dsimp only
  split_ifs with above below
  · rw [gt_iff_lt,Int32.lt_iff_toInt_lt] at above
    omega
  · rw [gt_iff_lt,Int32.lt_iff_toInt_lt] at above
    rw [Int32.lt_iff_toInt_lt] at below
    omega
  · rw [gt_iff_lt,Int32.lt_iff_toInt_lt] at above
    rw [Int32.lt_iff_toInt_lt] at below
    omega

theorem clampScore_add {score delta : Int32} (low : 0 ≤ score.toInt) (high : score.toInt ≤ 1000) :
    (clampScore (score + delta)).toInt = saturated score.toInt delta.toInt ↔ score.toInt + delta.toInt ≤ 2147483647 := by
  have least := Int32.le_toInt delta
  have most := Int32.toInt_lt delta
  rw [toInt_clampScore,Int32.toInt_add]
  unfold saturated
  by_cases fits : score.toInt + delta.toInt ≤ 2147483647
  · have same : (score.toInt + delta.toInt).bmod (2 ^ 32) = score.toInt + delta.toInt := by
      rw [Int.bmod_def]
      omega
    rw [same]
    exact iff_of_true rfl fits
  · have wrapped : (score.toInt + delta.toInt).bmod (2 ^ 32) = score.toInt + delta.toInt - 4294967296 := by
      rw [Int.bmod_def]
      omega
    rw [wrapped]
    omega

section Apply
variable {digest : ReputationDelta → String} {reader : Option Settlement.Keeper} {block : Settlement.Block}
  {controller : String} {delta : ReputationDelta} {keeper : Keeper}

def oldScore (keeper : Keeper) (addr : String) : Int32 := (getMinerScore keeper.scores addr).getD initialScore

def Applies (digest : ReputationDelta → String) (reader : Option Settlement.Keeper) (block : Settlement.Block)
    (controller : String) (delta : ReputationDelta) (keeper : Keeper) : Prop :=
  keeper.applied.get? delta.deltaID = none ∧
    (applyReputationDelta digest reader block controller delta keeper).1.isOk = true

theorem updateScore_score {scores : OrdMap String ReputationScore} (keyed : Keyed scores) (height : Int) (addr : String)
    (delta : Int32) : getMinerScore (updateScore height addr delta scores) addr =
      some (clampScore ((getMinerScore scores addr).getD initialScore + delta)) := by
  unfold getMinerScore updateScore setScore ensureMiner
  cases found : scores.get? addr with
  | none => simp [initMiner,setScore]
  | some score => simp [found,keyed addr score found]

theorem Applies.score (keyed : Keyed keeper.scores) (applies : Applies digest reader block controller delta keeper) :
    getMinerScore (applyReputationDelta digest reader block controller delta keeper).2.scores delta.minerAddress =
      some (clampScore (oldScore keeper delta.minerAddress + delta.delta)) := by
  obtain ⟨absent,accepted⟩ := applies
  rcases applyReputationDelta_cases digest reader block controller delta keeper with
    ⟨e,refused⟩ | ⟨-,-,-,payloadHash,-,⟨existing,found,-⟩ | ⟨-,first⟩⟩
  · simp [refused,Except.isOk,Except.toBool] at accepted
  · rw [absent] at found
    cases found
  · rw [first]
    change getMinerScore (updateScore _ _ _ (ensureMiner _ _ _)) _ = _
    rw [updateScore_ensureMiner,updateScore_score keyed]
    rfl

end Apply

/-- A delta that is applied leaves the saturated sum exactly when the sum fits into 32 bits, and among such deltas a larger
one leaves a score that is no smaller. -/
theorem delta_saturates (digest : ReputationDelta → String) (reader : Option Settlement.Keeper) (keeper : Keeper)
    (keyed : Keyed keeper.scores) (miner : String) (low : 0 ≤ (oldScore keeper miner).toInt)
    (high : (oldScore keeper miner).toInt ≤ 1000) :
    let score (block : Settlement.Block) (controller : String) (delta : ReputationDelta) : Option Int :=
      (getMinerScore (applyReputationDelta digest reader block controller delta keeper).2.scores miner).map Int32.toInt
    (∀ block controller delta, delta.minerAddress = miner → Applies digest reader block controller delta keeper →
      (score block controller delta = some (saturated (oldScore keeper miner).toInt delta.delta.toInt) ↔
        (oldScore keeper miner).toInt + delta.delta.toInt ≤ 2147483647)) ∧
    ∀ block controller small block' controller' large, small.minerAddress = miner → large.minerAddress = miner →
      Applies digest reader block controller small keeper → Applies digest reader block' controller' large keeper →
      small.delta.toInt ≤ large.delta.toInt → (oldScore keeper miner).toInt + large.delta.toInt ≤ 2147483647 →
      ∃ a b, score block controller small = some a ∧ score block' controller' large = some b ∧ a ≤ b := by
  intro score
  have moved {block : Settlement.Block} {controller : String} {delta : ReputationDelta} (own : delta.minerAddress = miner)
      (applies : Applies digest reader block controller delta keeper) :
      score block controller delta = some (clampScore (oldScore keeper miner + delta.delta)).toInt := by
    have after := applies.score keyed
    rw [own] at after
    simp only [score,after,Option.map_some]
  refine ⟨?_,?_⟩
  · intro block controller delta own applies
    rw [moved own applies,Option.some_inj]
    exact clampScore_add low high
  · intro block controller small block' controller' large own own' applies applies' order fits
    refine ⟨_,_,moved own applies,moved own' applies',?_⟩
    rw [(clampScore_add low high).mpr (by omega),(clampScore_add low high).mpr fits]
    exact saturated_mono _ order

/-! The largest delta that is accepted. -/

def largestDelta : ReputationDelta := { sampleDelta with delta := 2147483647, deltaCap := 2147483647 }

def sampleKeeper : Keeper := sampleStart.reputation

def sampleReader : Option Settlement.Keeper := some sampleStart.settlement

theorem sampleKeeper_keyed : Keyed sampleKeeper.scores := initGenesis_keyed _

theorem delta_saturates_sample :
    (getMinerScore (applyReputationDelta (fun _ => sampleHash) sampleReader ⟨2,2⟩ "claw1controller" sampleDelta
      sampleKeeper).2.scores "claw1miner").map Int32.toInt = some (saturated 500 25) := by
  have old : (oldScore sampleKeeper "claw1miner").toInt = 500 := by decide +kernel
  have saturates := (delta_saturates (fun _ => sampleHash) sampleReader sampleKeeper sampleKeeper_keyed "claw1miner"
    (by rw [old]; decide) (by rw [old]; decide)).1 ⟨2,2⟩ "claw1controller" sampleDelta rfl
      ⟨by decide +kernel,by decide +kernel⟩
  rw [old] at saturates
  exact saturates.mpr (by decide)

/-- It takes a miner with 500 points to 0. -/
theorem largestDelta_wraps :
    largestDelta.validate = .ok () ∧ (oldScore sampleKeeper "claw1miner").toInt = 500 ∧
      saturated 500 largestDelta.delta.toInt = 1000 ∧
      (applyReputationDelta (fun _ => sampleHash) sampleReader ⟨2,2⟩ "claw1controller" largestDelta
        sampleKeeper).1.isOk = true ∧
      (getMinerScore (applyReputationDelta (fun _ => sampleHash) sampleReader ⟨2,2⟩ "claw1controller" largestDelta
        sampleKeeper).2.scores "claw1miner").map Int32.toInt = some 0 := by
  decide +kernel

end Clawchain.Chain.Reputation
