import Mathlib.Data.List.Induction
import Mathlib.Logic.Relation
import Mathlib.Tactic.SplitIfs

/-! Disjoint sets: pairs are joined one after the other, and two elements have one root exactly when the pairs
connect them. -/
namespace Clawchain.Lib.Unions
variable {α : Type} [DecidableEq α]

/-- The class of the second element gets the root of the first. -/
def union (root : α → α) (pair : α × α) : α → α :=
  let first := root pair.1
  let second := root pair.2
  fun x =>
    let own := root x
    if own = second then first else own

def rootOf (pairs : List (α × α)) : α → α := pairs.foldl union id

def Connected (pairs : List (α × α)) : α → α → Prop := Relation.EqvGen fun a b => (a,b) ∈ pairs

theorem rootOf_eq_iff (pairs : List (α × α)) (x y : α) : rootOf pairs x = rootOf pairs y ↔ Connected pairs x y := by
  unfold Connected
  induction pairs using List.reverseRecOn generalizing x y with
  | nil =>
    constructor
    · intro (same : x = y)
      exact same ▸ .refl x
    · intro linked
      induction linked with
      | rel a b member => cases member
      | refl a => rfl
      | symm a b _ ih => exact ih.symm
      | trans a b c _ _ first next => exact first.trans next
  | append_singleton pairs pair ih =>
    obtain ⟨a,b⟩ := pair
    let root := rootOf pairs
    have last (z : α) : rootOf (pairs ++ [(a,b)]) z = if root z = root b then root a else root z := by
      simp [rootOf,root,union]
    have earlier {u v : α} (same : root u = root v) :
        Relation.EqvGen (fun c d => (c,d) ∈ pairs ++ [(a,b)]) u v := by
      have wider : (fun c d => (c,d) ∈ pairs) ≤ fun c d => (c,d) ∈ pairs ++ [(a,b)] :=
        fun c d member => List.mem_append_left _ member
      exact Relation.EqvGen.mono wider u v ((ih u v).mp same)
    have joined : Relation.EqvGen (fun c d => (c,d) ∈ pairs ++ [(a,b)]) a b := .rel a b (by simp)
    constructor
    · rw [last,last]
      split_ifs with left right right
      · exact fun _ => earlier (left.trans right.symm)
      · exact fun same => (((earlier left).trans _ _ _ (joined.symm _ _))).trans _ _ _ (earlier same)
      · exact fun same => (earlier same).trans _ _ _ (joined.trans _ _ _ (earlier right.symm))
      · exact earlier
    · intro linked
      induction linked with
      | rel c d member =>
        rcases List.mem_append.mp member with inside | new
        · have same : root c = root d := (ih c d).mpr (.rel c d inside)
          rw [last,last,same]
        · obtain ⟨rfl,rfl⟩ : c = a ∧ d = b := by simpa using new
          rw [last,last,if_pos rfl]
          split_ifs <;> rfl
      | refl c => rfl
      | symm c d _ ih => exact ih.symm
      | trans c d e _ _ first next => exact first.trans next

end Clawchain.Lib.Unions
