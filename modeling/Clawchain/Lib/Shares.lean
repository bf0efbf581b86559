import Mathlib.Algebra.BigOperators.Group.List.Basic
import Mathlib.Algebra.Order.Group.Int
import Mathlib.Tactic.Linarith
import Mathlib.Tactic.Ring

/-! Splitting integer amounts: an even split with odd units, and the layers a
family of nonnegative caps cuts out between its successive levels. -/
namespace Clawchain.Lib.Shares

/-- The odd units of an even split go to the first positions. -/
def share (amount : Int) (count idx : Nat) : Int :=
  amount / count + if (idx : Int) < amount % count then 1 else 0

theorem share_nonneg (amount : Int) (count idx : Nat) (enough : 0 ≤ amount) :
    0 ≤ share amount count idx := by
  have even : 0 ≤ amount / count := Int.ediv_nonneg enough (by omega)
  unfold share
  split_ifs <;> omega

theorem sum_share_first (amount : Int) (count n : Nat) (odd : 0 ≤ amount % count) :
    ((List.range n).map (share amount count)).sum =
      n * (amount / count) + min (n : Int) (amount % count) := by
  induction n with
  | zero => simp [odd]
  | succ n ih =>
    rw [List.range_succ,List.map_append,List.sum_append,ih]
    simp only [share,List.map_cons,List.map_nil,List.sum_cons,List.sum_nil]
    push_cast
    split_ifs with early
    · rw [min_eq_left (by omega),min_eq_left (by omega)]
      ring
    · rw [min_eq_right (by omega),min_eq_right (by omega)]
      ring

theorem sum_share (amount : Int) (count : Nat) (some : 0 < count) :
    ((List.range count).map (share amount count)).sum = amount := by
  have positive : (0 : Int) < count := by omega
  have odd := Int.emod_nonneg amount positive.ne'
  have below := Int.emod_lt_of_pos amount positive
  rw [sum_share_first amount count count odd,min_eq_right below.le]
  exact Int.mul_ediv_add_emod amount count

section Layers
variable {α : Type} (cap : α → Int)

def capped (items : List α) (level : Int) : Int := (items.map fun a => min (cap a) level).sum

theorem capped_bottom (items : List α) (nonneg : ∀ a ∈ items, 0 ≤ cap a) : capped cap items 0 = 0 := by
  unfold capped
  apply List.sum_eq_zero
  intro x member
  obtain ⟨a,inside,rfl⟩ := List.mem_map.mp member
  exact min_eq_right (nonneg a inside)

theorem capped_top (items : List α) (level : Int) (bounded : ∀ a ∈ items, cap a ≤ level) :
    capped cap items level = (items.map cap).sum := by
  unfold capped
  congr 1
  apply List.map_congr_left
  intro a member
  exact min_eq_left (bounded a member)

/-- With no cap strictly between two levels, the layer between them holds one
full height for each member that reaches the upper level. -/
theorem capped_step (items : List α) (prev level : Int) (ordered : prev ≤ level)
    (gap : ∀ a ∈ items, cap a ≤ prev ∨ level ≤ cap a) :
    capped cap items level =
      capped cap items prev + (level - prev) * ((items.filter fun a => !decide (cap a < level)).length : Int) := by
  induction items with
  | nil => simp [capped]
  | cons a rest ih =>
    have tail := ih fun b member => gap b (List.mem_cons_of_mem _ member)
    unfold capped at tail ⊢
    simp only [List.map_cons,List.sum_cons,tail]
    rcases gap a List.mem_cons_self with low | high
    · rw [min_eq_left (low.trans ordered),min_eq_left low]
      by_cases reach : cap a < level
      · simp only [List.filter_cons,reach,decide_true,Bool.not_true,Bool.false_eq_true,if_false]
        ring
      · have flat : level = prev := by omega
        subst flat
        simp
    · rw [min_eq_right high,min_eq_right (ordered.trans high)]
      have reach : ¬ cap a < level := by omega
      simp only [List.filter_cons,reach,decide_false,Bool.not_false,if_true,List.length_cons]
      push_cast
      ring

end Layers
end Clawchain.Lib.Shares
