import Mathlib.Data.List.Induction

/-! Lists in which equal values stand together, as in the history of a value that is never taken again. -/
namespace Clawchain.Lib

/-- Between two places of a value stands no other. -/
def Adjacent {α : Type} (values : List α) : Prop :=
  ∀ before value middle after, values = before ++ value :: (middle ++ value :: after) → ∀ other ∈ middle, other = value

namespace Adjacent
variable {α : Type} {values : List α}

theorem start {rest : List α} (adjacent : Adjacent (values ++ rest)) : Adjacent values := by
  intro before value middle after split other inside
  exact adjacent before value middle (after ++ rest) (by simp [split]) other inside

theorem new {value : α} (adjacent : Adjacent (values ++ [value])) (differs : values.getLast? ≠ some value) : value ∉ values := by
  intro inside
  obtain ⟨before,middle,split⟩ := List.append_of_mem inside
  have between := adjacent before value middle [] (by simp [split])
  apply differs
  rw [split]
  cases last : middle.getLast? with
  | none => simp [List.getLast?_eq_none_iff.mp last]
  | some other =>
    rw [List.getLast?_append,List.getLast?_cons,last,between other (List.mem_of_getLast? last)]
    rfl

/-- A value that is the last one before and after some time is the last one all that time. -/
theorem last_between {before middle after : List α} {value here : α} (adjacent : Adjacent (before ++ middle ++ after))
    (first : before.getLast? = some value) (then_ : (before ++ middle).getLast? = some here)
    (back : (before ++ middle ++ after).getLast? = some value) : here = value := by
  induction middle using List.reverseRecOn with
  | nil => exact Option.some.inj (then_.symm.trans (by simpa using first))
  | append_singleton middle other =>
    obtain rfl : other = here := by simpa [← List.append_assoc] using then_
    induction after using List.reverseRecOn with
    | nil => exact Option.some.inj (then_.symm.trans (by simpa using back))
    | append_singleton after last =>
      obtain rfl : last = value := by simpa [← List.append_assoc] using back
      obtain ⟨before,rfl⟩ := List.getLast?_eq_some_iff.mp first
      exact adjacent before last (middle ++ other :: after) [] (by simp) other (by simp)

/-- A test that can be computed. -/
def together [DecidableEq α] (values : List α) : Bool :=
  (List.range values.length).all fun k => (List.range k).all fun j => (List.range j).all fun i =>
    decide (values[i]? = values[k]? → values[j]? = values[i]?)

theorem of_together [DecidableEq α] (tested : together values = true) : Adjacent values := by
  simp only [together,List.all_eq_true,List.mem_range,decide_eq_true_eq] at tested
  intro before value middle after split other inside
  obtain ⟨place,bound,rfl⟩ := List.mem_iff_getElem.mp inside
  have here := tested (before.length + (1 + middle.length)) (by simp [split]; omega) (before.length + (1 + place)) (by omega)
    before.length (by omega)
  simp only [split,List.getElem?_append_right (Nat.le_add_right _ _),Nat.add_sub_cancel_left,Nat.add_comm 1,
    List.getElem?_cons_succ,List.getElem?_append_left bound,List.getElem?_append_right (Nat.le_refl _)] at here
  simpa [List.getElem?_eq_getElem bound] using here

end Adjacent
end Clawchain.Lib
