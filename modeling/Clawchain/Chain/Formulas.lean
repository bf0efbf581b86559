import Clawchain.Chain.Challenges
import Clawchain.Chain.Checkins

/-! The rewards as the mining service computes them, against the two modules of the chain. -/
namespace Clawchain.Chain.Formulas
open Clawchain.Lib Challenges Poa

def initialMinerPool : Int := 50000000

def halvingEpochs : Int := 210000

def minReward : Int := 1

def halvePool : Nat → Int → Int
  | 0,reward => reward
  | halvings + 1,reward => if reward / 2 < minReward then minReward else halvePool halvings (reward / 2)

def getEpochMinerPool (epoch : Int) : Int := halvePool (epoch / halvingEpochs).toNat initialMinerPool

def calcEarlyBirdMultiplier (registrationIndex : Int) : Int :=
  if registrationIndex ≤ 0 then 100
  else if registrationIndex ≤ 1000 then 300
  else if registrationIndex ≤ 5000 then 200
  else if registrationIndex ≤ 10000 then 150
  else 100

def calcStreakMultiplier (consecutiveDays : Int) : Int :=
  if 90 ≤ consecutiveDays then 150
  else if 30 ≤ consecutiveDays then 125
  else if 7 ≤ consecutiveDays then 110
  else 100

def calculateMinerReward (baseReward registrationIndex consecutiveDays challengesCompleted : Int) : Int :=
  let actual := baseReward * calcEarlyBirdMultiplier registrationIndex * calcStreakMultiplier consecutiveDays / 10000
  max (if challengesCompleted < 100 then actual / 2 else actual) minReward

theorem halvePool_eq (halvings reward : Nat) : halvePool halvings reward = (halve halvings reward : Int) := by
  induction halvings generalizing reward with
  | zero => rfl
  | succ n ih =>
    have half : (reward : Int) / 2 = (reward / 2 : Nat) := by omega
    rw [halvePool,halve,half,ih]
    by_cases small : reward / 2 < 1
    · rw [if_pos small,if_pos (by simp only [minReward]; omega)]
      rfl
    · rw [if_neg small,if_neg (by simp only [minReward]; omega)]

theorem halve_eq_max (halvings : Nat) (reward : UInt64) (positive : 1 ≤ reward.toNat) :
    halve halvings reward.toNat = max 1 (halveReward halvings reward).toNat := by
  induction halvings generalizing reward with
  | zero => simp [halve,halveReward,positive]
  | succ n ih =>
    have half : (reward / 2).toNat = reward.toNat / 2 := UInt64.toNat_div _ _
    rw [halve,halveReward]
    by_cases small : reward.toNat / 2 < 1
    · have gone : reward / 2 = 0 := UInt64.toNat_inj.mp (by rw [half,UInt64.toNat_zero]; omega)
      simp [small,gone]
    · have left : reward / 2 ≠ 0 := fun gone => by simp [gone] at half; omega
      rw [if_neg small,if_neg left,← half]
      exact ih (reward / 2) (by omega)

theorem calculateEpochReward_eq_zero (epoch : UInt64) : calculateEpochReward epoch {} = 0 ↔ 5460000 ≤ epoch.toNat := by
  constructor
  · intro gone
    by_contra early
    have last : calculateEpochReward 5459999 {} = 0 :=
      calculateEpochReward_stays (by change epoch.toNat ≤ 5459999; omega) gone
    exact absurd last (by decide)
  · intro late
    exact calculateEpochReward_stays (show (5460000 : UInt64).toNat ≤ epoch.toNat from late) (by decide)

section Pools
variable {height : Int} (nonneg : 0 ≤ height) (inRange : height < 2 ^ 63)
include nonneg

theorem getBlockReward_eq_pool : (getBlockReward height : Int) = getEpochMinerPool (height / 100) := by
  have epoch : height.tdiv 100 = height / 100 := Int.tdiv_eq_ediv_of_nonneg nonneg
  have halvings : (height / 100).tdiv 210000 = height / 100 / 210000 :=
    Int.tdiv_eq_ediv_of_nonneg (Int.ediv_nonneg nonneg (by decide))
  rw [getBlockReward,epoch,halvings]
  exact (halvePool_eq _ _).symm

include inRange

theorem epoch_toNat : (UInt64.ofNat (height / 100).toNat).toNat = (height / 100).toNat := by
  rw [UInt64.toNat_ofNat']
  exact Nat.mod_eq_of_lt (by omega)

theorem getBlockReward_eq_max :
    getBlockReward height = max 1 (calculateEpochReward (UInt64.ofNat (height / 100).toNat) {}).toNat := by
  have epoch : height.tdiv 100 = height / 100 := Int.tdiv_eq_ediv_of_nonneg nonneg
  have halvings : (height / 100).tdiv 210000 = height / 100 / 210000 :=
    Int.tdiv_eq_ediv_of_nonneg (Int.ediv_nonneg nonneg (by decide))
  have same : (UInt64.ofNat (height / 100).toNat / 210000).toNat = (height / 100 / 210000).toNat := by
    rw [UInt64.toNat_div,epoch_toNat nonneg inRange]
    change (height / 100).toNat / 210000 = _
    omega
  rw [getBlockReward,epoch,halvings,calculateEpochReward,same]
  exact halve_eq_max _ 50000000 (by decide)

theorem calculateEpochReward_eq_iff :
    (calculateEpochReward (UInt64.ofNat (height / 100).toNat) {}).toNat = getBlockReward height ↔ height / 100 < 5460000 := by
  have gone := calculateEpochReward_eq_zero (UInt64.ofNat (height / 100).toNat)
  rw [← UInt64.toNat_inj,epoch_toNat nonneg inRange,UInt64.toNat_zero] at gone
  rw [getBlockReward_eq_max nonneg inRange]
  omega

end Pools

theorem calcEarlyBird_eq {index : Nat} (registered : 1 ≤ index) :
    calcEarlyBirdMultiplier index = (Challenges.earlyBird index : Int) := by
  unfold calcEarlyBirdMultiplier Challenges.earlyBird
  split_ifs <;> first | rfl | omega

theorem calcStreak_eq (days : Nat) : calcStreakMultiplier days = (Challenges.streak days : Int) := by
  unfold calcStreakMultiplier Challenges.streak
  split_ifs <;> first | rfl | omega

theorem getEarlyBird_eq {index : UInt64} (registered : 1 ≤ index.toNat) :
    (getEarlyBirdMultiplier index).toNat = Challenges.earlyBird index.toNat := by
  unfold getEarlyBirdMultiplier Challenges.earlyBird
  simp only [UInt64.le_iff_toNat_le,UInt64.reduceToNat]
  split_ifs <;> first | rfl | omega

theorem getStreakBonus_eq (days : UInt64) : (getStreakBonus days).toNat = Challenges.streak days.toNat := by
  unfold getStreakBonus Challenges.streak
  simp only [UInt64.le_iff_toNat_le,UInt64.reduceToNat]
  split_ifs <;> rfl

def scaledReward (base index days completed : Nat) : Nat :=
  let scaled := base * Challenges.earlyBird index * Challenges.streak days / 10000
  if completed < 100 then scaled / 2 else scaled

theorem calculateMinerReward_eq {index : Nat} (registered : 1 ≤ index) (base days completed : Nat) :
    calculateMinerReward base index days completed = (max 1 (scaledReward base index days completed) : Nat) := by
  unfold calculateMinerReward scaledReward
  rw [calcEarlyBird_eq registered,calcStreak_eq,← Int.natCast_mul,← Int.natCast_mul]
  generalize base * Challenges.earlyBird index * Challenges.streak days = product
  simp only [minReward]
  split_ifs <;> omega

theorem applyBonusMultipliers_eq {keeper : Challenges.Keeper} {addr : String} {data : Challenges.Miner}
    (found : keeper.miners.get? addr = some data) (base : Nat) : applyBonusMultipliers keeper addr base =
      max 1 (scaledReward base data.registrationIndex data.consecutiveDays data.challengesCompleted) := by
  unfold applyBonusMultipliers scaledReward
  simp only [found]
  generalize base * Challenges.earlyBird _ * Challenges.streak _ = product
  split_ifs <;> omega

theorem actualReward_eq {record : MinerRecord} (registered : 1 ≤ record.registrationIndex.toNat) {base : Nat}
    (fits : base * Challenges.earlyBird record.registrationIndex.toNat * Challenges.streak record.consecutiveDays.toNat < 2 ^ 63) :
    (actualReward (UInt64.ofNat base) record).toNat = scaledReward base record.registrationIndex.toNat
      record.consecutiveDays.toNat record.challengesCompleted.toNat := by
  have early := getEarlyBird_eq registered
  have streak := getStreakBonus_eq record.consecutiveDays
  have early_pos : 0 < Challenges.earlyBird record.registrationIndex.toNat := by
    unfold Challenges.earlyBird
    split_ifs <;> decide
  have streak_pos : 0 < Challenges.streak record.consecutiveDays.toNat := by
    unfold Challenges.streak
    split_ifs <;> decide
  have part : base * Challenges.earlyBird record.registrationIndex.toNat < 2 ^ 63 :=
    (Nat.le_mul_of_pos_right _ streak_pos).trans_lt fits
  have small : base < 2 ^ 63 := (Nat.le_mul_of_pos_right _ early_pos).trans_lt part
  have boosted : (UInt64.ofNat base * getEarlyBirdMultiplier record.registrationIndex).toNat =
      base * Challenges.earlyBird record.registrationIndex.toNat := by
    rw [UInt64.toNat_mul,UInt64.toNat_ofNat',early,Nat.mod_eq_of_lt (by omega : base < 2 ^ 64),Nat.mod_eq_of_lt (by omega)]
  have exact_ : (UInt64.ofNat base * getEarlyBirdMultiplier record.registrationIndex *
      getStreakBonus record.consecutiveDays / 10000).toNat =
      base * Challenges.earlyBird record.registrationIndex.toNat * Challenges.streak record.consecutiveDays.toNat / 10000 := by
    rw [UInt64.toNat_div,UInt64.toNat_mul,boosted,streak,Nat.mod_eq_of_lt (by omega)]
    rfl
  have cold : record.challengesCompleted < 100 ↔ record.challengesCompleted.toNat < 100 := UInt64.lt_iff_toNat_lt
  unfold actualReward scaledReward
  simp only [cold]
  split_ifs
  · rw [UInt64.toNat_div,exact_]
    rfl
  · exact exact_

structure SameMiner (data : Challenges.Miner) (record : MinerRecord) : Prop where
  index : record.registrationIndex.toNat = data.registrationIndex
  days : record.consecutiveDays.toNat = data.consecutiveDays
  completed : record.challengesCompleted.toNat = data.challengesCompleted

/-- The pools agree up to the floor, which shows from the twenty-sixth halving on, and the bonuses do. -/
theorem formulas_agree {height : Int} (nonneg : 0 ≤ height) (inRange : height < 2 ^ 63) {keeper : Challenges.Keeper}
    {addr : String} {data : Challenges.Miner} (found : keeper.miners.get? addr = some data) {record : MinerRecord}
    (same : SameMiner data record) (registered : 1 ≤ data.registrationIndex) {base : Nat}
    (fits : base * Challenges.earlyBird data.registrationIndex * Challenges.streak data.consecutiveDays < 2 ^ 63) :
    let pool := (calculateEpochReward (UInt64.ofNat (height / 100).toNat) {}).toNat
    let amount := (actualReward (UInt64.ofNat base) record).toNat
    let paid := applyBonusMultipliers keeper addr base
    (getBlockReward height : Int) = getEpochMinerPool (height / 100) ∧ getBlockReward height = max 1 pool ∧
      (pool = getBlockReward height ↔ height / 100 < 5460000) ∧
      (paid : Int) = calculateMinerReward base data.registrationIndex data.consecutiveDays data.challengesCompleted ∧
      paid = max 1 amount := by
  dsimp only
  refine ⟨getBlockReward_eq_pool nonneg,getBlockReward_eq_max nonneg inRange,calculateEpochReward_eq_iff nonneg inRange,?_,?_⟩
  · rw [calculateMinerReward_eq registered,applyBonusMultipliers_eq found]
  · rw [← same.index] at registered
    rw [← same.index,← same.days] at fits
    rw [applyBonusMultipliers_eq found,actualReward_eq registered fits,same.index,same.days,same.completed]

def sampleRecord : MinerRecord :=
  { address := "m",registeredAt := 0,registrationIndex := 1000,consecutiveDays := 30,challengesCompleted := 99 }

def sampleStore : Challenges.Keeper where
  miners := OrdMap.ofList [("m",{ registrationIndex := 1000,consecutiveDays := 30,challengesCompleted := 99 })]

theorem formulas_agree_sample : applyBonusMultipliers sampleStore "m" 100 = 187 ∧ calculateMinerReward 100 1000 30 99 = 187 ∧
    (actualReward 100 sampleRecord).toNat = 187 := by
  have claim := @formulas_agree 21000000 (by decide) (by decide) sampleStore "m"
    { registrationIndex := 1000,consecutiveDays := 30,challengesCompleted := 99 } (by decide +kernel) sampleRecord
    ⟨rfl,rfl,rfl⟩ (by decide) 100 (by decide)
  have amount : (actualReward 100 sampleRecord).toNat = 187 := by decide
  have paid : applyBonusMultipliers sampleStore "m" 100 = 187 :=
    claim.2.2.2.2.trans (by rw [show UInt64.ofNat 100 = 100 from rfl,amount]; rfl)
  exact ⟨paid,claim.2.2.2.1.symm.trans (by rw [paid]; rfl),amount⟩

/-- After twenty-six halvings the epoch still has a pool of one, and no reward. -/
theorem pools_differ_late : getBlockReward 546000000 = 1 ∧ getEpochMinerPool 5460000 = 1 ∧
    calculateEpochReward 5460000 {} = 0 := by
  decide

end Clawchain.Chain.Formulas
