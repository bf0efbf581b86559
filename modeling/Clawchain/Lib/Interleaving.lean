import Clawchain.Lib.Runs
import Mathlib.Data.List.Basic

/-! Calls that take turns on a shared state: each is at a stage, and a step takes one call to its next stage. -/
namespace Clawchain.Lib

structure Pool (σ ρ τ : Type) where
  shared : σ
  calls : List (ρ × τ)

namespace Pool
variable {σ ρ τ : Type} {advance : ρ → τ → σ → σ × τ} {pool : Pool σ ρ τ} {place : Nat}

def opening (shared : σ) (first : τ) (requests : List ρ) : Pool σ ρ τ := ⟨shared,requests.map fun request => (request,first)⟩

variable (advance) in
def step (pool : Pool σ ρ τ) (place : Nat) : Pool σ ρ τ :=
  match pool.calls[place]? with
  | none => pool
  | some call =>
    let (shared,stage) := advance call.1 call.2 pool.shared
    ⟨shared,pool.calls.set place (call.1,stage)⟩

theorem step_none (absent : pool.calls[place]? = none) : pool.step advance place = pool := by
  rw [step,absent]

variable {request : ρ} {stage : τ}

theorem step_some (present : pool.calls[place]? = some (request,stage)) :
    pool.step advance place = ⟨(advance request stage pool.shared).1,
      pool.calls.set place (request,(advance request stage pool.shared).2)⟩ := by
  rw [step,present]

theorem getElem?_step (present : pool.calls[place]? = some (request,stage)) (other : Nat) :
    (pool.step advance place).calls[other]? =
      if other = place then some (request,(advance request stage pool.shared).2) else pool.calls[other]? := by
  have inside : place < pool.calls.length := (List.getElem?_eq_some_iff.mp present).1
  rw [step_some present,List.getElem?_set]
  by_cases same : place = other
  · simp [same,same ▸ inside]
  · simp [same,Ne.symm same]

theorem countP_step (present : pool.calls[place]? = some (request,stage)) (p : ρ × τ → Bool) :
    (pool.step advance place).calls.countP p + (if p (request,stage) then 1 else 0) =
      pool.calls.countP p + if p (request,(advance request stage pool.shared).2) then 1 else 0 := by
  obtain ⟨inside,here⟩ := List.getElem?_eq_some_iff.mp present
  rw [step_some present]
  dsimp only
  rw [List.countP_set inside,here]
  have counted : (if p (request,stage) then 1 else 0) ≤ pool.calls.countP p := by
    split_ifs with own
    · exact List.countP_pos_iff.mpr ⟨_,List.mem_of_getElem? present,own⟩
    · exact Nat.zero_le _
  omega

theorem opening_stage {shared : σ} {first : τ} {requests : List ρ}
    (present : (opening shared first requests).calls[place]? = some (request,stage)) : stage = first := by
  rw [opening,List.getElem?_map] at present
  obtain ⟨_,-,same⟩ := Option.map_eq_some_iff.mp present
  exact (congrArg Prod.snd same).symm

end Pool
end Clawchain.Lib
