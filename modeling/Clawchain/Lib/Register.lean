import Mathlib.Order.Lattice
import Mathlib.Data.List.Induction

/-! A register that keeps what was written with the highest version, and the first write where two have the same. Whatever the
order of the writes, it ends with the same version; it ends with the same value when no version was written with two. -/
namespace Clawchain.Lib.Register
variable {κ ν : Type} [LinearOrder κ]

def write (held : Option (κ × ν)) (entry : κ × ν) : Option (κ × ν) :=
  match held with
  | none => some entry
  | some old => if old.1 < entry.1 then some entry else some old

def writes (entries : List (κ × ν)) : Option (κ × ν) := entries.foldl write none

theorem writes_append (entries : List (κ × ν)) (entry : κ × ν) : writes (entries ++ [entry]) = write (writes entries) entry := by
  simp [writes]

theorem write_cases (held : Option (κ × ν)) (entry : κ × ν) :
    (write held entry = some entry ∧ ∀ old, held = some old → old.1 < entry.1) ∨
      ∃ old, held = some old ∧ write held entry = some old ∧ entry.1 ≤ old.1 := by
  cases held with
  | none => exact .inl ⟨rfl,by simp⟩
  | some old =>
    by_cases later : old.1 < entry.1
    · exact .inl ⟨if_pos later,by simpa using later⟩
    · exact .inr ⟨old,rfl,if_neg later,not_lt.mp later⟩

variable {entries : List (κ × ν)}

theorem writes_ne_none (some_ : entries ≠ []) : writes entries ≠ none := by
  cases entries using List.reverseRecOn with
  | nil => exact absurd rfl some_
  | append_singleton entries last =>
    rw [writes_append]
    rcases write_cases (writes entries) last with ⟨done,-⟩ | ⟨_,-,done,-⟩ <;> simp [done]

theorem writes_highest {held : κ × ν} (ended : writes entries = some held) :
    held ∈ entries ∧ ∀ entry ∈ entries, entry.1 ≤ held.1 := by
  induction entries using List.reverseRecOn generalizing held with
  | nil => cases ended
  | append_singleton entries last ih =>
    rw [writes_append] at ended
    rcases write_cases (writes entries) last with ⟨done,above⟩ | ⟨old,before,done,below⟩
    · obtain rfl := Option.some.inj (done.symm.trans ended)
      refine ⟨by simp,fun entry inside => ?_⟩
      rcases List.mem_append.mp inside with earlier | own
      · obtain ⟨old,before⟩ := Option.ne_none_iff_exists'.mp (writes_ne_none (List.ne_nil_of_mem earlier))
        exact ((ih before).2 entry earlier).trans (above old before).le
      · rw [List.mem_singleton.mp own]
    · obtain rfl := Option.some.inj (done.symm.trans ended)
      obtain ⟨inside,highest⟩ := ih before
      refine ⟨List.mem_append_left _ inside,fun entry member => ?_⟩
      rcases List.mem_append.mp member with earlier | own
      · exact highest entry earlier
      · rw [List.mem_singleton.mp own]
        exact below

theorem writes_eq (consistent : ∀ a ∈ entries, ∀ b ∈ entries, a.1 = b.1 → a.2 = b.2) {entry : κ × ν}
    (inside : entry ∈ entries) (highest : ∀ other ∈ entries, other.1 ≤ entry.1) :
    writes entries = some entry := by
  obtain ⟨held,ended⟩ := Option.ne_none_iff_exists'.mp (writes_ne_none (List.ne_nil_of_mem inside))
  obtain ⟨own,above⟩ := writes_highest ended
  have same : held.1 = entry.1 := le_antisymm (highest held own) (above entry inside)
  rw [ended,Prod.ext same (consistent held own entry inside same)]

end Clawchain.Lib.Register
