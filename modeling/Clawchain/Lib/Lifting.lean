import Clawchain.Lib.Faulty

/-! Computations over a state that do to a part of it what a computation over the part does. -/
namespace Clawchain.Lib.Faulty

/-- `x` ends as `y` does, and leaves in the part what `y` leaves. -/
structure Lifts {σ τ ε α : Type} (part : σ → τ) (x : Faulty σ ε α) (y : Faulty τ ε α) : Prop where
  outcome : ∀ s, (x s).1 = (y (part s)).1
  below : ∀ s, part (x s).2 = (y (part s)).2

namespace Lifts
variable {σ τ ε α β γ : Type} {part : σ → τ}

theorem pure (a : α) : Lifts part (Pure.pure a : Faulty σ ε α) (Pure.pure a) := ⟨fun _ => rfl,fun _ => rfl⟩

theorem modify {f : σ → σ} {g : τ → τ} (same : ∀ s, part (f s) = g (part s)) :
    Lifts part (Faulty.modify f : Faulty σ ε Unit) (Faulty.modify g) := ⟨fun _ => rfl,same⟩

theorem quiet {f : σ → σ} (same : ∀ s, part (f s) = part s) :
    Lifts part (Faulty.modify f : Faulty σ ε Unit) (Pure.pure ()) := ⟨fun _ => rfl,same⟩

theorem read {f : σ → Faulty σ ε α} {g : τ → Faulty τ ε α} (one : ∀ s, Lifts part (f s) (g (part s))) :
    Lifts part (Faulty.read f) (Faulty.read g) := ⟨fun s => (one s).outcome s,fun s => (one s).below s⟩

variable {x : Faulty σ ε α} {y : Faulty τ ε α}

theorem bind {f : α → Faulty σ ε β} {g : α → Faulty τ ε β} (first : Lifts part x y) (next : ∀ a, Lifts part (f a) (g a))
    : Lifts part (x >>= f) (y >>= g) := by
  have both s : ((x >>= f) s).1 = ((y >>= g) (part s)).1 ∧ part ((x >>= f) s).2 = ((y >>= g) (part s)).2 := by
    have outcome := first.outcome s
    have below := first.below s
    cases left : x s with
    | mk result t =>
      cases right : y (part s) with
      | mk result' t' =>
        rw [left,right] at outcome below
        subst outcome below
        cases result with
        | ok a =>
          rw [bind_of_ok f left,bind_of_ok g right]
          exact ⟨(next a).outcome t,(next a).below t⟩
        | error e =>
          rw [bind_of_error f left,bind_of_error g right]
          exact ⟨rfl,rfl⟩
  exact ⟨fun s => (both s).1,fun s => (both s).2⟩

theorem followed {f : α → Faulty σ ε α} (first : Lifts part x y) (next : ∀ a, Lifts part (f a) (Pure.pure a))
    : Lifts part (x >>= f) y := by
  have law : (y >>= Pure.pure) = y := by
    funext s
    cases run : y s with
    | mk result t =>
      cases result with
      | ok a => rw [bind_of_ok _ run]; rfl
      | error e => rw [bind_of_error _ run]
  rw [← law]
  exact first.bind next

theorem each {f : β → Faulty σ ε Unit} {g : β → Faulty τ ε Unit} {list : List β} (one : ∀ b ∈ list, Lifts part (f b) (g b)) :
    Lifts part (Faulty.each f list) (Faulty.each g list) := by
  induction list with
  | nil => exact Lifts.pure ()
  | cons b rest ih =>
    exact (one b List.mem_cons_self).bind fun _ => ih fun c member => one c (List.mem_cons_of_mem _ member)

end Lifts
end Clawchain.Lib.Faulty
