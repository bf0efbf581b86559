import Clawchain.Lib.Floats
import Mathlib.Algebra.BigOperators.Ring.List
import Mathlib.Data.List.Sort
import Mathlib.Tactic.Linarith

/-! A pool of whole units that is split by weights: the shares are computed with floating point numbers and rounded down,
and what is left over goes to the largest remainders. -/
namespace Clawchain.Lib.Apportion

theorem sum_chosen {α : Type} (l : List α) (p : α → Prop) [DecidablePred p] :
    (l.map fun a => if p a then 1 else 0).sum = (l.filter p).length := by
  induction l with
  | nil => rfl
  | cons a rest ih =>
    rw [List.map_cons,List.sum_cons,ih,List.filter_cons]
    by_cases chosen : p a <;> simp [chosen,Nat.add_comm]

def bestFirst {κ : Type} [LinearOrder κ] (a b : κ × ℚ) : Prop := b.2 < a.2 ∨ a.2 = b.2 ∧ a.1 ≤ b.1

instance {κ : Type} [LinearOrder κ] : DecidableRel (@bestFirst κ _) := fun _ _ => inferInstanceAs (Decidable (_ ∨ _))

/-- The first elements of a list, or all but the last ones when the number is negative. -/
def slice {α : Type} (number : Int) (l : List α) : List α := l.take (if 0 ≤ number then number else l.length + number).toNat

theorem slice_length {α : Type} (number : Int) (l : List α) :
    (slice number l).length = number ↔ 0 ≤ number ∧ number ≤ l.length := by
  unfold slice
  rw [List.length_take]
  constructor
  · intro same
    split at same <;> omega
  · rintro ⟨nonneg,enough⟩
    rw [if_pos nonneg]
    omega

section Shares
variable (floats : Floats) (totalWeight : ℚ) (total : Nat)

def exactShare (weight : ℚ) : ℚ := floats.round (floats.round (weight / totalWeight) * floats.round total)

def base (weight : ℚ) : Nat := ⌊exactShare floats totalWeight total weight⌋.toNat

def remainder (weight : ℚ) : ℚ :=
  floats.round (exactShare floats totalWeight total weight - floats.round (base floats totalWeight total weight))

variable {κ : Type} [LinearOrder κ] (items : List (κ × ℚ))

def leftOver : Int := total - (items.map fun item => base floats totalWeight total item.2).sum

def favoured : List κ :=
  (slice (leftOver floats totalWeight total items)
    ((items.map fun item => (item.1,remainder floats totalWeight total item.2)).insertionSort bestFirst)).map Prod.fst

def share (item : κ × ℚ) : Nat :=
  base floats totalWeight total item.2 + if item.1 ∈ favoured floats totalWeight total items then 1 else 0

variable {floats totalWeight total items}

theorem favoured_subperm : (favoured floats totalWeight total items).Subperm (items.map Prod.fst) := by
  have sorted := (List.perm_insertionSort bestFirst
    (items.map fun item => (item.1,remainder floats totalWeight total item.2))).map Prod.fst
  have same : (items.map fun item => (item.1,remainder floats totalWeight total item.2)).map Prod.fst = items.map Prod.fst := by
    simp
  exact ((List.take_sublist _ _).map Prod.fst).subperm.trans (same ▸ sorted).subperm

theorem sum_share (distinct : (items.map Prod.fst).Nodup) : (items.map (share floats totalWeight total items)).sum =
    (items.map fun item => base floats totalWeight total item.2).sum + (favoured floats totalWeight total items).length := by
  obtain ⟨chosen,same,sub⟩ := @favoured_subperm floats totalWeight total _ _ items
  have extra := sum_chosen (items.map Prod.fst) (· ∈ favoured floats totalWeight total items)
  rw [List.map_map] at extra
  have kept : ((items.map Prod.fst).filter fun id => decide (id ∈ favoured floats totalWeight total items)).Perm
      (favoured floats totalWeight total items) := by
    apply (List.perm_ext_iff_of_nodup (distinct.filter _) (same.nodup_iff.mp (distinct.sublist sub))).mpr
    intro id
    rw [List.mem_filter,decide_eq_true_iff]
    exact ⟨And.right,fun member => ⟨sub.subset (same.mem_iff.mpr member),member⟩⟩
  unfold share
  rw [List.sum_map_add]
  exact congrArg _ (extra.trans kept.length_eq)

/-- The shares add up to the pool exactly when what is left over can be given out, at most one unit to each. -/
theorem sum_share_eq (distinct : (items.map Prod.fst).Nodup) : (items.map (share floats totalWeight total items)).sum = total ↔
    0 ≤ leftOver floats totalWeight total items ∧ leftOver floats totalWeight total items ≤ items.length := by
  have given : ((favoured floats totalWeight total items).length : Int) = leftOver floats totalWeight total items ↔
      0 ≤ leftOver floats totalWeight total items ∧ leftOver floats totalWeight total items ≤ items.length := by
    unfold favoured
    rw [List.length_map,slice_length,(List.perm_insertionSort _ _).length_eq,List.length_map]
  rw [← given,sum_share distinct]
  unfold leftOver
  omega

end Shares
end Clawchain.Lib.Apportion
