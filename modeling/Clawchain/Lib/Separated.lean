import Mathlib.Data.List.Basic

/-! Lists put together with a separator between them. What is put together can be cut again at the separators, which tells two
sequences apart up to the separators that their members bring along. -/
namespace Clawchain.Lib.Separated
variable {α : Type} [BEq α] [LawfulBEq α] {separator : α}

def pieces (separator : α) (parts : List (List α)) : List (List α) := parts.flatMap (List.splitOn separator)

variable {parts : List (List α)}

theorem splitOn_intercalate (some_ : parts ≠ []) :
    ([separator].intercalate parts).splitOn separator = pieces separator parts := by
  induction parts with
  | nil => exact absurd rfl some_
  | cons part rest ih =>
    cases rest with
    | nil => simp [pieces]
    | cons next rest =>
      have whole : [separator].intercalate (part :: next :: rest) = part ++ separator :: [separator].intercalate (next :: rest) := by
        simp
      rw [whole,List.splitOn_append_cons_self,ih (by simp)]
      rfl

theorem intercalate_eq_iff {others : List (List α)} (some_ : parts ≠ []) (some' : others ≠ []) :
    [separator].intercalate parts = [separator].intercalate others ↔ pieces separator parts = pieces separator others := by
  rw [← splitOn_intercalate some_,← splitOn_intercalate some']
  constructor
  · intro same
    rw [same]
  · intro same
    calc [separator].intercalate parts
        = [separator].intercalate (([separator].intercalate parts).splitOn separator) := (List.intercalate_splitOn _).symm
      _ = [separator].intercalate (([separator].intercalate others).splitOn separator) := by rw [same]
      _ = [separator].intercalate others := List.intercalate_splitOn _

theorem pieces_eq_self (plain : ∀ part ∈ parts, separator ∉ part) : pieces separator parts = parts := by
  induction parts with
  | nil => rfl
  | cons part rest ih =>
    obtain ⟨own,others⟩ := List.forall_mem_cons.mp plain
    change part.splitOn separator ++ pieces separator rest = _
    rw [List.splitOn_eq_singleton own,ih others]
    rfl

end Clawchain.Lib.Separated
