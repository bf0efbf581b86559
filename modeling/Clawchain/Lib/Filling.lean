import Mathlib.Data.List.Perm.Basic
import Mathlib.Data.List.Nodup

/-! Partial numberings filled up: the keys without a value take the values without a key. -/
namespace Clawchain.Lib.Filling
variable {α β : Type} [DecidableEq α] [DecidableEq β]

theorem filter_mem_perm {list part : List α} (listed : list.Nodup) (distinct : part.Nodup) (inside : part ⊆ list) :
    (list.filter (· ∈ part)).Perm part := by
  rw [List.perm_ext_iff_of_nodup (listed.filter _) distinct]
  intro a
  rw [List.mem_filter,decide_eq_true_eq]
  exact ⟨And.right,fun member => ⟨inside member,member⟩⟩

theorem append_filter_perm {list part rest : List α} (listed : list.Nodup) (distinct : part.Nodup) (inside : part ⊆ list)
    (left : rest.Perm (list.filter (· ∉ part))) : (part ++ rest).Perm list := by
  have halves := List.filter_append_perm (fun a => decide (a ∈ part)) list
  refine List.Perm.trans ?_ halves
  refine (filter_mem_perm listed distinct inside).symm.append (left.trans (List.Perm.of_eq ?_))
  exact List.filter_congr fun a _ => by simp

theorem fill_perm {given : List (α × β)} {keys missing : List α} {values remaining : List β} (keyed : keys.Nodup)
    (valued : values.Nodup) (many : keys.length = values.length) (distinct : (given.map Prod.fst).Nodup)
    (inside : given.map Prod.fst ⊆ keys) (distinct' : (given.map Prod.snd).Nodup) (inside' : given.map Prod.snd ⊆ values)
    (left : missing.Perm (keys.filter (· ∉ given.map Prod.fst)))
    (left' : remaining.Perm (values.filter (· ∉ given.map Prod.snd))) :
    ((given ++ missing.zip remaining).map Prod.fst).Perm keys ∧
      ((given ++ missing.zip remaining).map Prod.snd).Perm values := by
  have allKeys := append_filter_perm keyed distinct inside left
  have allValues := append_filter_perm valued distinct' inside' left'
  have same : missing.length = remaining.length := by
    have total := allKeys.length_eq
    have total' := allValues.length_eq
    simp only [List.length_append,List.length_map] at total total'
    omega
  rw [List.map_append,List.map_append,List.map_fst_zip (Nat.le_of_eq same),List.map_snd_zip (Nat.le_of_eq same.symm)]
  exact ⟨allKeys,allValues⟩

end Clawchain.Lib.Filling
