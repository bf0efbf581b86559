import Mathlib.Algebra.Order.Field.Power
import Mathlib.Data.Rat.Floor
import Mathlib.Tactic.Linarith
import Mathlib.Tactic.Positivity

/-! Floating point numbers as the rationals they stand for: an operation rounds its exact value. Infinities and the
numbers below the smallest normal one are left out. -/
namespace Clawchain.Lib

/-- How an operation rounds its exact value, and how a list is added up. -/
structure Floats where
  round : ℚ → ℚ
  sum : List ℚ → ℚ

def roundHalfEven (x : ℚ) : Int :=
  let rest := x - ⌊x⌋
  if rest < 1 / 2 then ⌊x⌋
  else if 1 / 2 < rest then ⌊x⌋ + 1
  else if ⌊x⌋ % 2 = 0 then ⌊x⌋
  else ⌊x⌋ + 1

theorem one_le_roundHalfEven {x : ℚ} (large : 1 ≤ x) : 1 ≤ roundHalfEven x := by
  have floor : 1 ≤ ⌊x⌋ := Int.le_floor.mpr (by exact_mod_cast large)
  unfold roundHalfEven
  dsimp only
  split_ifs <;> omega

/-- The nearest integer; of two the one farther from zero. -/
def roundHalfAway (x : ℚ) : Int := if 0 ≤ x then ⌊x + 1 / 2⌋ else -⌊-x + 1 / 2⌋

theorem roundHalfAway_mono {x y : ℚ} (below : x ≤ y) : roundHalfAway x ≤ roundHalfAway y := by
  unfold roundHalfAway
  split_ifs with first second second
  · exact Int.floor_le_floor (by linarith)
  · exact absurd (first.trans below) second
  · have left : 0 ≤ ⌊-x + 1 / 2⌋ := Int.floor_nonneg.mpr (by linarith)
    have right : 0 ≤ ⌊y + 1 / 2⌋ := Int.floor_nonneg.mpr (by linarith)
    omega
  · exact neg_le_neg (Int.floor_le_floor (by linarith))

@[simp] theorem roundHalfAway_intCast (k : Int) : roundHalfAway k = k := by
  have half (n : Int) : ⌊(n : ℚ) + 1 / 2⌋ = n := by
    rw [Int.floor_eq_iff]
    constructor <;> linarith
  unfold roundHalfAway
  split_ifs
  · exact half k
  · have negated := half (-k)
    push_cast at negated
    rw [negated,neg_neg]

namespace Binary64

/-- `x / 2 ^ exponent` -/
def scaled (exponent : Int) (x : ℚ) : ℚ :=
  if 0 ≤ exponent then x / 2 ^ exponent.toNat else x * 2 ^ (-exponent).toNat

/-- The exponent with which a number has 53 bits before the point. -/
def exponent (x : ℚ) : Int :=
  let lower := (Nat.log2 x.num.natAbs : Int) - Nat.log2 x.den - 53
  if 2 ^ 53 ≤ |scaled lower x| then lower + 1 else lower

def round (x : ℚ) : ℚ := scaled (-exponent x) (roundHalfEven (scaled (exponent x) x))

example : round (1 / 10) = 3602879701896397 / 36028797018963968 ∧ round 9007199254740993 = 9007199254740992 := by
  decide +kernel

theorem scaled_eq (exponent : Int) (x : ℚ) : scaled exponent x = x * 2 ^ (-exponent) := by
  unfold scaled
  by_cases nonneg : 0 ≤ exponent
  · rw [if_pos nonneg,zpow_neg,div_eq_mul_inv,← zpow_natCast,Int.toNat_of_nonneg nonneg]
  · rw [if_neg nonneg,← zpow_natCast,Int.toNat_of_nonneg (by omega)]

theorem one_le_scaled {x : ℚ} (positive : 0 < x) : 1 ≤ scaled (exponent x) x := by
  have num : 0 < x.num := Rat.num_pos.mpr positive
  have above : (2 : ℚ) ^ ((Nat.log2 x.num.natAbs : Int) - (Nat.log2 x.den + 1 : Int)) ≤ x := by
    have upper : (x.den : ℚ) ≤ 2 ^ (Nat.log2 x.den + 1) := by exact_mod_cast (Nat.lt_log2_self (n := x.den)).le
    have lower : (2 : ℚ) ^ Nat.log2 x.num.natAbs ≤ x.num := by
      have nat : 2 ^ Nat.log2 x.num.natAbs ≤ x.num.natAbs := Nat.log2_self_le (by omega)
      have cast : ((x.num.natAbs : Int) : ℚ) = x.num := by rw [Int.natAbs_of_nonneg num.le]
      rw [← cast]
      exact_mod_cast nat
    calc (2 : ℚ) ^ ((Nat.log2 x.num.natAbs : Int) - (Nat.log2 x.den + 1 : Int))
        = 2 ^ Nat.log2 x.num.natAbs / 2 ^ (Nat.log2 x.den + 1) := by
          rw [zpow_sub₀ two_ne_zero,zpow_natCast]
          congr 1
      _ ≤ x.num / x.den := by gcongr
      _ = x := Rat.num_div_den x
  have two : 2 ≤ scaled ((Nat.log2 x.num.natAbs : Int) - Nat.log2 x.den - 53) x := by
    rw [scaled_eq]
    calc (2 : ℚ) ≤ 2 ^ (52 : Int) := by norm_num
      _ = 2 ^ ((Nat.log2 x.num.natAbs : Int) - (Nat.log2 x.den + 1 : Int)) *
          2 ^ (-((Nat.log2 x.num.natAbs : Int) - Nat.log2 x.den - 53)) := by
        rw [← zpow_add₀ two_ne_zero]
        congr 1
        omega
      _ ≤ _ := by gcongr
  unfold exponent
  dsimp only
  split
  · rw [scaled_eq] at two ⊢
    rw [neg_add,zpow_add₀ two_ne_zero,← mul_assoc,zpow_neg 2 1,zpow_one]
    linarith
  · linarith

theorem round_pos {x : ℚ} (positive : 0 < x) : 0 < round x := by
  have whole := one_le_roundHalfEven (one_le_scaled positive)
  unfold round
  rw [scaled_eq]
  have cast : (1 : ℚ) ≤ (roundHalfEven (scaled (exponent x) x) : ℚ) := by exact_mod_cast whole
  positivity

end Binary64

/-- Numbers of 53 bits, added up from the left. -/
def binary64 : Floats where
  round := Binary64.round
  sum list := list.foldl (fun total x => Binary64.round (total + x)) 0

end Clawchain.Lib
