import Mathlib.Init

/-! Runs of a step function whose commands are allowed where they are taken. -/
namespace Clawchain.Lib

inductive Run {σ κ : Type} (step : σ → κ → σ) (may : σ → κ → Prop) (start : σ) : σ → Prop where
  | start : Run step may start start
  | step {state : σ} (run : Run step may start state) (cmd : κ) (allowed : may state cmd) :
    Run step may start (step state cmd)

/-- Every command of a list is allowed where it is taken. -/
def Along {σ κ : Type} (step : σ → κ → σ) (may : σ → κ → Prop) : List κ → σ → Prop
  | [],_ => True
  | cmd :: rest,state => may state cmd ∧ Along step may rest (step state cmd)

instance decidableAlong {σ κ : Type} {step : σ → κ → σ} {may : σ → κ → Prop} [∀ state cmd, Decidable (may state cmd)] :
    ∀ cmds state, Decidable (Along step may cmds state)
  | [],_ => isTrue trivial
  | cmd :: rest,state =>
    have : Decidable (Along step may rest (step state cmd)) := decidableAlong rest _
    inferInstanceAs (Decidable (_ ∧ _))

theorem Along.append {σ κ : Type} {step : σ → κ → σ} {may : σ → κ → Prop} {first next : List κ} {state : σ}
    (along : Along step may (first ++ next) state) :
    Along step may first state ∧ Along step may next (first.foldl step state) := by
  induction first generalizing state with
  | nil => exact ⟨trivial,along⟩
  | cons cmd rest ih =>
    obtain ⟨here,later⟩ := ih along.2
    exact ⟨⟨along.1,here⟩,later⟩

namespace Run
variable {σ κ : Type} {step : σ → κ → σ} {may : σ → κ → Prop} {start state : σ}

theorem invariant {P : σ → Prop} (initial : P start) (kept : ∀ state cmd, P state → may state cmd → P (step state cmd))
    (run : Run step may start state) : P state := by
  induction run with
  | start => exact initial
  | step run cmd allowed ih => exact kept _ cmd ih allowed

theorem along (run : Run step may start state) {cmds : List κ} (allowed : Along step may cmds state) :
    Run step may start (cmds.foldl step state) := by
  induction cmds generalizing state with
  | nil => exact run
  | cons cmd rest ih => exact ih (run.step cmd allowed.1) allowed.2

end Run
end Clawchain.Lib
