import Clawchain.Lib.Faulty

/-! Loops that may break off: the elements they come to, and the errors a
computation can end with. -/
namespace Clawchain.Lib.Faulty
variable {σ ε α β : Type}

section Turns
variable (f : β → Faulty σ ε Unit)

def visits : List β → σ → List (β × σ)
  | [],_ => []
  | b :: rest,s => (b,s) :: match f b s with
    | (.ok (),t) => visits rest t
    | (.error _,_) => []

def through (list : List β) (s : σ) : σ := list.foldl (fun s b => (f b s).2) s

variable {f}
variable {list : List β} {s : σ}

theorem visits_iff {t : σ} {i : Nat} {b : β} :
    (visits f list s)[i]? = some (b,t) ↔
      list[i]? = some b ∧ t = through f (list.take i) s ∧ InTurn f (fun b => (f b).Ends) (list.take i) s := by
  induction list generalizing s i with
  | nil => simp [visits]
  | cons first rest ih =>
    cases i with
    | zero => simp [visits,through,InTurn,eq_comm]
    | succ i =>
      cases run : f first s with
      | mk outcome middle =>
        cases outcome with
        | error e =>
          have failed : ¬(f first).Ends s := by
            rintro ⟨u,done⟩
            rw [run] at done
            cases done
          simp [visits,run,InTurn,failed]
        | ok done =>
          have ended : (f first).Ends s := ⟨done,by rw [run]⟩
          simp [visits,run,InTurn,ended,through,ih]

theorem inTurn_iff {P : β → σ → Prop} :
    InTurn f P list s ↔ ∀ i b, list[i]? = some b → P b (through f (list.take i) s) := by
  induction list generalizing s with
  | nil => simp [InTurn]
  | cons first rest ih =>
    rw [InTurn,ih]
    constructor
    · rintro ⟨here,later⟩ i b found
      cases i with
      | zero =>
        cases found
        exact here
      | succ i => exact later i b found
    · intro turns
      exact ⟨turns 0 first rfl,fun i b found => turns (i + 1) b found⟩

theorem inTurn_take {P : β → σ → Prop} {i : Nat} :
    InTurn f P (list.take i) s ↔ ∀ j < i, ∀ b, list[j]? = some b → P b (through f (list.take j) s) := by
  rw [inTurn_iff]
  constructor
  · intro turns j early b found
    have here := turns j b (by rw [List.getElem?_take_of_lt early,found])
    rwa [List.take_take,Nat.min_eq_left (Nat.le_of_lt early)] at here
  · intro turns j b found
    rw [List.getElem?_take] at found
    split at found
    · rename_i early
      rw [List.take_take,Nat.min_eq_left (Nat.le_of_lt early)]
      exact turns j early b found
    · cases found

end Turns

/-- Every failure of a computation is one of a kind. -/
def Fails (E : ε → Prop) (x : Faulty σ ε α) : Prop := ∀ s e t, x s = (.error e,t) → E e

section Failures
variable {E : ε → Prop}

theorem Fails.pure (a : α) : Fails E (pure a : Faulty σ ε α) := by
  intro s e t failed
  cases failed

theorem Fails.fail {e : ε} (kind : E e) : Fails E (fail e : Faulty σ ε α) := by
  intro s e' t failed
  cases failed
  exact kind

theorem Fails.modify (f : σ → σ) : Fails E (modify f : Faulty σ ε Unit) := by
  intro s e t failed
  cases failed

theorem Fails.read {f : σ → Faulty σ ε α} (fails : ∀ s, Fails E (f s)) : Fails E (read f) :=
  fun s e t failed => fails s s e t failed

theorem Fails.bind {x : Faulty σ ε α} {f : α → Faulty σ ε β} (first : Fails E x) (next : ∀ a, Fails E (f a)) :
    Fails E (x >>= f) := by
  intro s e t failed
  cases run : x s with
  | mk outcome middle =>
    cases outcome with
    | error e' =>
      cases (bind_of_error f run).symm.trans failed
      exact first s e t run
    | ok a => exact next a middle e t ((bind_of_ok f run).symm.trans failed)

theorem Fails.given {p : Prop} [Decidable p] {x : Faulty σ ε Unit} (fails : Fails E x) :
    Fails E (Faulty.given p x) := by
  unfold Faulty.given
  split
  · exact fails
  · exact Fails.pure ()

theorem Fails.each {f : β → Faulty σ ε Unit} (fails : ∀ b, Fails E (f b)) (list : List β) :
    Fails E (each f list) := by
  induction list with
  | nil => exact Fails.pure ()
  | cons b rest ih => exact Fails.bind (fails b) fun _ => ih

end Failures
end Clawchain.Lib.Faulty
