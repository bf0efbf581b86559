import Mathlib.Data.Nat.Find
import Mathlib.Logic.Function.Iterate
import Clawchain.Lib.Unions

/-! Forests of pointers to parents. The pointers above an element end at a root, so a lookup of the root ends, also when it
halves the path on its way up; joining elements in turn makes the classes of the pairs. -/
namespace Clawchain.Lib.Forests
variable {α : Type} [DecidableEq α]

structure Forest (α : Type) where
  parent : α → α
  grounded : ∀ x, ∃ k, parent (parent^[k] x) = parent^[k] x

omit [DecidableEq α] in
theorem grounded_of_height {parent : α → α} (height : α → Nat) (falls : ∀ x, parent x ≠ x → height (parent x) < height x)
    (x : α) : ∃ k, parent (parent^[k] x) = parent^[k] x := by
  induction bound : height x using Nat.strong_induction_on generalizing x with
  | _ n ih =>
    by_cases top : parent x = x
    · exact ⟨0,top⟩
    · obtain ⟨k,ends⟩ := ih (height (parent x)) (bound ▸ falls x top) (parent x) rfl
      exact ⟨k + 1,ends⟩

namespace Forest

def single : Forest α := ⟨id,fun _ => ⟨0,rfl⟩⟩

variable (forest : Forest α)

def depth (x : α) : Nat := Nat.find (forest.grounded x)

def root (x : α) : α := forest.parent^[forest.depth x] x

theorem parent_root (x : α) : forest.parent (forest.root x) = forest.root x := Nat.find_spec (forest.grounded x)

variable {forest}

variable {x : α}

theorem depth_of_root (top : forest.parent x = x) : forest.depth x = 0 := (Nat.find_eq_zero _).mpr top

theorem root_of_root (top : forest.parent x = x) : forest.root x = x := by
  rw [root,depth_of_root top]
  rfl

theorem depth_parent (inner : forest.parent x ≠ x) : forest.depth x = forest.depth (forest.parent x) + 1 :=
  Nat.find_comp_succ _ (forest.grounded (forest.parent x)) inner

theorem depth_parent_le (x : α) : forest.depth (forest.parent x) ≤ forest.depth x := by
  by_cases top : forest.parent x = x
  · rw [top]
  · rw [depth_parent top]
    exact Nat.le_succ _

theorem depth_parent_lt (inner : forest.parent x ≠ x) : forest.depth (forest.parent x) < forest.depth x := by
  rw [depth_parent inner]
  exact Nat.lt_succ_self _

theorem depth_le_height (height : α → Nat) (falls : ∀ x, forest.parent x ≠ x → height (forest.parent x) < height x) (x : α) :
    forest.depth x ≤ height x := by
  induction bound : height x using Nat.strong_induction_on generalizing x with
  | _ n ih =>
    by_cases top : forest.parent x = x
    · rw [depth_of_root top]
      exact Nat.zero_le _
    · have below := falls x top
      have above := ih _ (bound ▸ below) (forest.parent x) rfl
      rw [depth_parent top]
      omega

theorem eq_of_root {β : Type} {f : α → β} (up : ∀ x, f (forest.parent x) = f x) (x : α) : f (forest.root x) = f x := by
  unfold root
  generalize forest.depth x = k
  induction k generalizing x with
  | zero => rfl
  | succ k ih => rw [Function.iterate_succ_apply,ih,up]

theorem root_unique {f : α → α} (up : ∀ x, f (forest.parent x) = f x) (fixed : ∀ x, forest.parent x = x → f x = x) :
    forest.root = f := by
  funext x
  rw [← eq_of_root up,fixed _ (forest.parent_root x)]

theorem root_parent (x : α) : forest.root (forest.parent x) = forest.root x := by
  by_cases top : forest.parent x = x
  · rw [top]
  · unfold root
    rw [depth_parent top,Function.iterate_succ_apply]

theorem root_eq_self : forest.root x = x ↔ forest.parent x = x := by
  refine ⟨fun own => ?_,root_of_root⟩
  have top := forest.parent_root x
  rwa [own] at top

theorem halved_falls (x : α) : ∀ y, Function.update forest.parent x (forest.parent (forest.parent x)) y ≠ y →
    forest.depth (Function.update forest.parent x (forest.parent (forest.parent x)) y) < forest.depth y := by
  intro y inner
  by_cases here : y = x
  · subst here
    rw [Function.update_self] at inner ⊢
    have inner' : forest.parent y ≠ y := by
      intro top
      exact inner (by rw [top,top])
    exact Nat.lt_of_le_of_lt (depth_parent_le _) (depth_parent_lt inner')
  · rw [Function.update_of_ne here] at inner ⊢
    exact depth_parent_lt inner

def halve (forest : Forest α) (x : α) : Forest α where
  parent := Function.update forest.parent x (forest.parent (forest.parent x))
  grounded := grounded_of_height forest.depth (halved_falls x)

theorem halve_parent (x : α) : (forest.halve x).parent x = forest.parent (forest.parent x) := Function.update_self ..

theorem halve_parent_ne {y : α} (other : y ≠ x) : (forest.halve x).parent y = forest.parent y :=
  Function.update_of_ne other ..

theorem halve_root (x : α) : (forest.halve x).root = forest.root := by
  apply root_unique
  · intro y
    by_cases here : y = x
    · rw [here,halve_parent,root_parent,root_parent]
    · rw [halve_parent_ne here,root_parent]
  · intro y top
    by_cases here : y = x
    · rw [here] at top ⊢
      rw [halve_parent] at top
      by_contra inner
      have inner' : forest.parent x ≠ x := fun own => inner (root_of_root own)
      have lower := Nat.lt_of_le_of_lt (depth_parent_le (forest.parent x)) (depth_parent_lt inner')
      rw [top] at lower
      exact Nat.lt_irrefl _ lower
    · rw [halve_parent_ne here] at top
      exact root_of_root top

theorem halve_lower (inner : forest.parent x ≠ x) :
    (forest.halve x).depth ((forest.halve x).parent x) < forest.depth x := by
  have above : (forest.halve x).depth (forest.parent (forest.parent x)) ≤ forest.depth (forest.parent (forest.parent x)) :=
    depth_le_height forest.depth (halved_falls x) _
  rw [halve_parent]
  exact Nat.lt_of_le_of_lt (Nat.le_trans above (depth_parent_le _)) (depth_parent_lt inner)

def find (forest : Forest α) (x : α) : Forest α × α :=
  if forest.parent x = x then (forest,x) else (forest.halve x).find ((forest.halve x).parent x)
termination_by forest.depth x
decreasing_by exact halve_lower ‹_›

theorem find_spec (forest : Forest α) (x : α) :
    (forest.find x).1.root = forest.root ∧ (forest.find x).2 = forest.root x := by
  induction forest, x using find.induct with
  | case1 forest x top =>
    rw [find,if_pos top]
    exact ⟨rfl,(root_of_root top).symm⟩
  | case2 forest x inner ih =>
    rw [find,if_neg inner]
    refine ⟨ih.1.trans (halve_root x),ih.2.trans ?_⟩
    rw [root_parent,halve_root]

def link (forest : Forest α) (above below : α) (top : forest.parent above = above) (low : forest.parent below = below)
    (apart : above ≠ below) : Forest α where
  parent := Function.update forest.parent below above
  grounded := by
    apply grounded_of_height fun x => if forest.root x = below then forest.depth x + 1 else forest.depth x
    intro x inner
    by_cases here : x = below
    · subst here
      rw [Function.update_self,root_of_root top,root_of_root low,depth_of_root top]
      simp [apart]
    · rw [Function.update_of_ne here] at inner ⊢
      have lower := depth_parent_lt inner
      rw [root_parent]
      split_ifs <;> omega

section Link
variable {above below : α} (top : forest.parent above = above) (low : forest.parent below = below) (apart : above ≠ below)

theorem link_parent : (forest.link above below top low apart).parent below = above := Function.update_self ..

theorem link_parent_ne {x : α} (other : x ≠ below) : (forest.link above below top low apart).parent x = forest.parent x :=
  Function.update_of_ne other ..

theorem link_root (x : α) :
    (forest.link above below top low apart).root x = if forest.root x = below then above else forest.root x := by
  have unique := @root_unique _ _ (forest.link above below top low apart)
    (fun x => if forest.root x = below then above else forest.root x) ?_ ?_
  · exact congrFun unique x
  · intro x
    by_cases here : x = below
    · rw [here,link_parent,root_of_root top,root_of_root low,if_neg apart,if_pos rfl]
    · rw [link_parent_ne _ _ _ here,root_parent]
  · intro x fixed
    by_cases here : x = below
    · rw [here,link_parent] at fixed
      exact absurd fixed apart
    · rw [link_parent_ne _ _ _ here] at fixed
      rw [root_of_root fixed,if_neg here]

end Link

theorem find_root (forest : Forest α) (x : α) : (forest.find x).1.root = forest.root := (find_spec forest x).1

theorem find_found (forest : Forest α) (x : α) : (forest.find x).2 = forest.root x := (find_spec forest x).2

theorem found_top (forest : Forest α) (a b : α) :
    ((forest.find a).1.find b).1.parent (forest.find a).2 = (forest.find a).2 := by
  rw [← root_eq_self,find_root,find_root,find_found]
  exact root_of_root (forest.parent_root a)

theorem found_low (forest : Forest α) (b : α) : (forest.find b).1.parent (forest.find b).2 = (forest.find b).2 := by
  rw [← root_eq_self,find_root,find_found]
  exact root_of_root (forest.parent_root b)

/-- Both elements are looked up; the root of the second one goes under that of the first. -/
def join (forest : Forest α) (a b : α) : Forest α :=
  let first := forest.find a
  let second := first.1.find b
  if apart : first.2 ≠ second.2 then
    second.1.link first.2 second.2 (found_top forest a b) (found_low first.1 b) apart
  else second.1

theorem join_root (forest : Forest α) (a b : α) : (forest.join a b).root = Unions.union forest.root (a,b) := by
  funext x
  unfold join Unions.union
  dsimp only
  split_ifs with apart here here
  · rw [link_root,find_root,find_root,find_found,find_found,find_root,if_pos here]
  · rw [link_root,find_root,find_root,find_found,find_root,if_neg here]
  · rw [find_found,find_found,find_root,not_not] at apart
    rw [find_root,find_root,here,apart]
  · rw [find_root,find_root]

def joinAll (forest : Forest α) (pairs : List (α × α)) : Forest α :=
  pairs.foldl (fun forest pair => forest.join pair.1 pair.2) forest

theorem joinAll_root (forest : Forest α) (pairs : List (α × α)) :
    (forest.joinAll pairs).root = pairs.foldl Unions.union forest.root := by
  unfold joinAll
  induction pairs generalizing forest with
  | nil => rfl
  | cons pair rest ih => rw [List.foldl_cons,List.foldl_cons,ih,join_root]

theorem single_root : (single : Forest α).root = id := root_unique (fun _ => rfl) fun _ _ => rfl

theorem joinAll_single (pairs : List (α × α)) (x y : α) :
    (single.joinAll pairs).root x = (single.joinAll pairs).root y ↔ Unions.Connected pairs x y := by
  rw [joinAll_root,single_root]
  exact Unions.rootOf_eq_iff pairs x y

end Forest
end Clawchain.Lib.Forests
