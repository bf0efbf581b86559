import Mathlib.Tactic.Basic

/-! Computations over a state that survives their failure: a computation that
fails half way leaves the writes it had made. -/
namespace Clawchain.Lib

def Faulty (σ ε α : Type) : Type := σ → Except ε α × σ

namespace Faulty
variable {σ ε α β : Type}

instance : Monad (Faulty σ ε) where
  pure a := fun s => (.ok a,s)
  bind x f := fun s => match x s with
    | (.ok a,t) => f a t
    | (.error e,t) => (.error e,t)

def fail (e : ε) : Faulty σ ε α := fun s => (.error e,s)

def modify (f : σ → σ) : Faulty σ ε Unit := fun s => (.ok (),f s)

/-- A computation that depends on the state it starts in. -/
def read (f : σ → Faulty σ ε α) : Faulty σ ε α := fun s => f s s

/-- A computation that is made when a test holds. -/
def given (p : Prop) [Decidable p] (x : Faulty σ ε Unit) : Faulty σ ε Unit := if p then x else pure ()

def each (f : β → Faulty σ ε Unit) : List β → Faulty σ ε Unit
  | [] => pure ()
  | b :: rest => do
    f b
    each f rest

def collect (f : β → Faulty σ ε α) : List β → Faulty σ ε (List α)
  | [] => pure []
  | b :: rest => do
    let a ← f b
    let others ← collect f rest
    return a :: others

theorem read_run (f : σ → Faulty σ ε α) (s : σ) : read f s = f s s := rfl

theorem modify_bind {f : σ → σ} (g : Unit → Faulty σ ε β) (s : σ) : (modify f >>= g) s = g () (f s) := rfl

variable {x : Faulty σ ε α} {R : σ → σ → Prop} {s t : σ} {f : α → Faulty σ ε β} {p : Prop}

theorem given_of [Decidable p] {x : Faulty σ ε Unit} (holds : p) : given p x = x := if_pos holds

theorem given_of_not [Decidable p] {x : Faulty σ ε Unit} (fails : ¬p) : given p x = pure () := if_neg fails

theorem bind_of_ok {a : α} (f : α → Faulty σ ε β) (done : x s = (.ok a,t)) :
    (x >>= f) s = f a t := by
  change (match x s with | (.ok a,t) => f a t | (.error e,t) => (.error e,t)) = _
  rw [done]

theorem bind_of_error {e : ε} (f : α → Faulty σ ε β) (failed : x s = (.error e,t)) :
    (x >>= f) s = (.error e,t) := by
  change (match x s with | (.ok a,t) => f a t | (.error e,t) => (.error e,t)) = _
  rw [failed]

theorem bind_ok {b : β} (done : (x >>= f) s = (.ok b,t)) :
    ∃ a middle, x s = (.ok a,middle) ∧ f a middle = (.ok b,t) := by
  cases first : x s with
  | mk outcome middle =>
    cases outcome with
    | ok a => exact ⟨a,middle,rfl,(bind_of_ok f first).symm.trans done⟩
    | error e =>
      have failed := (bind_of_error f first).symm.trans done
      simp at failed

theorem bind_error {e : ε} (failed : (x >>= f) s = (.error e,t)) :
    x s = (.error e,t) ∨ ∃ a middle, x s = (.ok a,middle) ∧ f a middle = (.error e,t) := by
  cases first : x s with
  | mk outcome middle =>
    cases outcome with
    | ok a => exact .inr ⟨a,middle,rfl,(bind_of_ok f first).symm.trans failed⟩
    | error other =>
      cases (bind_of_error f first).symm.trans failed
      exact .inl rfl

theorem ok_of_mapError {δ : Type} {x : Except ε α} {f : ε → δ} {a : α} (done : x.mapError f = .ok a) : x = .ok a := by
  cases x with
  | error e => cases done
  | ok b => exact congrArg Except.ok (Except.ok.inj done)

/-- What every run of a computation relates, whether it succeeds or fails. -/
def Moves (R : σ → σ → Prop) (x : Faulty σ ε α) : Prop := ∀ s, R s (x s).2

theorem Moves.pure (refl : ∀ s, R s s) (a : α) : Moves R (pure a : Faulty σ ε α) :=
  fun s => refl s

theorem bind_related (trans : ∀ a b c, R a b → R b c → R a c) (first : R s (x s).2)
    (next : ∀ a t, x s = (.ok a,t) → R t (f a t).2) :
    R s ((x >>= f) s).2 := by
  cases run : x s with
  | mk outcome middle =>
    rw [run] at first
    cases outcome with
    | ok a =>
      rw [bind_of_ok f run]
      exact trans _ _ _ first (next a middle run)
    | error e =>
      rw [bind_of_error f run]
      exact first

theorem Moves.bind (trans : ∀ a b c, R a b → R b c → R a c) (first : Moves R x) (next : ∀ a, Moves R (f a))
    : Moves R (x >>= f) :=
  fun s => bind_related trans (first s) fun a t _ => next a t

theorem Moves.fail (refl : ∀ s, R s s) (e : ε) : Moves R (fail e : Faulty σ ε α) :=
  fun s => refl s

theorem Moves.modify {f : σ → σ} (moved : ∀ s, R s (f s)) : Moves R (modify f : Faulty σ ε Unit) :=
  moved

theorem Moves.read {f : σ → Faulty σ ε α} (moved : ∀ s, Moves R (f s)) : Moves R (read f) :=
  fun s => moved s s

theorem Moves.given {R : σ → σ → Prop} (refl : ∀ s, R s s) {p : Prop} [Decidable p] {x : Faulty σ ε Unit}
    (moved : Moves R x) : Moves R (Faulty.given p x) := by
  unfold Faulty.given
  split
  · exact moved
  · exact Moves.pure refl ()

theorem Moves.each (refl : ∀ s, R s s) (trans : ∀ a b c, R a b → R b c → R a c) {f : β → Faulty σ ε Unit}
    {list : List β} (one : ∀ b ∈ list, Moves R (f b)) : Moves R (each f list) := by
  induction list with
  | nil => exact Moves.pure refl ()
  | cons b rest ih =>
    apply Moves.bind trans (one b List.mem_cons_self)
    intro _
    exact ih fun b member => one b (List.mem_cons_of_mem _ member)

theorem Moves.collect (refl : ∀ s, R s s) (trans : ∀ a b c, R a b → R b c → R a c) {f : β → Faulty σ ε α}
    {list : List β} (one : ∀ b ∈ list, Moves R (f b)) : Moves R (collect f list) := by
  induction list with
  | nil => exact Moves.pure refl []
  | cons b rest ih =>
    apply Moves.bind trans (one b List.mem_cons_self)
    intro a
    apply Moves.bind trans (ih fun b member => one b (List.mem_cons_of_mem _ member))
    exact fun others => Moves.pure refl (a :: others)

def Ends (x : Faulty σ ε α) (s : σ) : Prop := ∃ a, (x s).1 = .ok a

@[simp] theorem ends_pure (a : α) (s : σ) : (pure a : Faulty σ ε α).Ends s := ⟨a,rfl⟩

@[simp] theorem ends_modify (f : σ → σ) (s : σ) : (modify f : Faulty σ ε Unit).Ends s := ⟨(),rfl⟩

@[simp] theorem ends_fail (e : ε) (s : σ) : ¬(fail e : Faulty σ ε α).Ends s := by
  rintro ⟨a,done⟩
  cases done

theorem ends_read (f : σ → Faulty σ ε α) (s : σ) : (read f).Ends s ↔ (f s).Ends s := Iff.rfl

theorem ends_given_modify (p : Prop) [Decidable p] (f : σ → σ) (s : σ) : (given p (modify f) : Faulty σ ε Unit).Ends s := by
  unfold given
  split
  · exact ends_modify f s
  · exact ends_pure () s

theorem ends_bind :
    (x >>= f).Ends s ↔ ∃ a t, x s = (.ok a,t) ∧ (f a).Ends t := by
  constructor
  · rintro ⟨b,done⟩
    obtain ⟨a,t,run,rest⟩ := bind_ok (Prod.ext done rfl : (x >>= f) s = (.ok b,((x >>= f) s).2))
    exact ⟨a,t,run,b,by rw [rest]⟩
  · rintro ⟨a,t,run,b,rest⟩
    exact ⟨b,by rw [bind_of_ok f run,rest]⟩

theorem ends_bind_of (first : x.Ends s) (next : ∀ a t, (f a).Ends t ↔ p) : (x >>= f).Ends s ↔ p := by
  rw [ends_bind]
  constructor
  · rintro ⟨a,t,_,ended⟩
    exact (next a t).mp ended
  · intro holds
    obtain ⟨a,done⟩ := first
    exact ⟨a,(x s).2,Prod.ext done rfl,(next _ _).mpr holds⟩

section Loops
variable (f : β → Faulty σ ε Unit)

/-- A loop that leaves a failing element out, with all that it wrote. -/
def carryOn : List β → σ → σ
  | [],s => s
  | b :: rest,s => match f b s with
    | (.ok (),t) => carryOn rest t
    | (.error _,_) => carryOn rest s

/-- What holds of every element in the state in which a loop comes to it. -/
def InTurn (P : β → σ → Prop) : List β → σ → Prop
  | [],_ => True
  | b :: rest,s => P b s ∧ InTurn P rest (f b s).2

/-- What holds of every element that a loop comes to before something fails. -/
def AsFar (P : β → σ → Prop) : List β → σ → Prop
  | [],_ => True
  | b :: rest,s => P b s ∧ ∀ t, f b s = (.ok (),t) → AsFar P rest t

variable {f}
variable {list : List β} {s : σ}

theorem AsFar.mono {I : σ → Prop} {P Q : β → σ → Prop} (kept : ∀ b, Moves (fun s t => I s → I t) (f b))
    (implies : ∀ b s, I s → P b s → Q b s) (holds : I s) (far : AsFar f P list s) :
    AsFar f Q list s := by
  induction list generalizing s with
  | nil => trivial
  | cons b rest ih =>
    refine ⟨implies b s holds far.1,fun t run => ih ?_ (far.2 t run)⟩
    have along := kept b s holds
    rwa [run] at along

theorem InTurn.congr {P Q : β → σ → Prop} (same : ∀ b ∈ list, ∀ s, P b s ↔ Q b s) (s : σ) :
    InTurn f P list s ↔ InTurn f Q list s := by
  induction list generalizing s with
  | nil => exact Iff.rfl
  | cons b rest ih =>
    exact and_congr (same b List.mem_cons_self s) (ih (fun b member => same b (List.mem_cons_of_mem _ member)) _)

theorem each_of_inTurn (turns : InTurn f (fun b => (f b).Ends) list s) :
    each f list s = (.ok (),carryOn f list s) := by
  induction list generalizing s with
  | nil => rfl
  | cons b rest ih =>
    obtain ⟨⟨u,done⟩,later⟩ := turns
    have run : f b s = (.ok u,(f b s).2) := Prod.ext done rfl
    calc each f (b :: rest) s = each f rest (f b s).2 := bind_of_ok (fun _ => each f rest) run
      _ = (.ok (),carryOn f rest (f b s).2) := ih later
      _ = (.ok (),carryOn f (b :: rest) s) := by rw [carryOn,run]

theorem inTurn_of_each {t : σ} (done : each f list s = (.ok (),t)) :
    InTurn f (fun b => (f b).Ends) list s := by
  induction list generalizing s with
  | nil => trivial
  | cons b rest ih =>
    obtain ⟨u,middle,run,later⟩ := bind_ok done
    have there : (f b s).2 = middle := by rw [run]
    exact ⟨⟨u,by rw [run]⟩,there ▸ ih later⟩

theorem each_carryOn (list : List β) (s : σ) :
    each f list s = (.ok (),carryOn f list s) ↔ InTurn f (fun b => (f b).Ends) list s :=
  ⟨inTurn_of_each,each_of_inTurn⟩

/-- A loop that collects what it is told fails at its first element that does, in the state that those before it leave. -/
theorem collect_error {f : β → Faulty σ ε α} {t : σ} {e : ε} (failed : collect f list s = (.error e,t)) :
    ∃ before b after items middle, list = before ++ b :: after ∧ collect f before s = (.ok items,middle) ∧
      f b middle = (.error e,t) := by
  induction list generalizing s with
  | nil => cases failed
  | cons b rest ih =>
    rcases bind_error failed with first | ⟨a,middle,run,later⟩
    · exact ⟨[],b,rest,[],s,rfl,rfl,first⟩
    · rcases bind_error later with later | ⟨_,_,-,ended⟩
      · obtain ⟨before,other,after,items,last,rfl,done,ends⟩ := ih later
        refine ⟨b :: before,other,after,a :: items,last,rfl,?_,ends⟩
        exact (bind_of_ok _ run).trans (bind_of_ok _ done)
      · cases ended

/-- A loop over different keys in which every step changes the view of its own key only: what a step makes of a key that
still looks as at the start is what the loop makes of it. -/
theorem each_visited {κ ν : Type} {f : κ → Faulty σ ε Unit} {view : σ → κ → ν} {I : σ → Prop} {P : κ → ν → Prop} {start : σ}
    (one : ∀ k s t, I s → view s k = view start k → f k s = (.ok (),t) →
      I t ∧ P k (view t k) ∧ ∀ other, other ≠ k → view t other = view s other)
    {keys : List κ} (distinct : keys.Nodup) {s t : σ} (holds : I s) (fresh : ∀ k ∈ keys, view s k = view start k)
    (done : each f keys s = (.ok (),t)) :
    I t ∧ (∀ k ∈ keys, P k (view t k)) ∧ ∀ k, k ∉ keys → view t k = view s k := by
  induction keys generalizing s with
  | nil =>
    cases done
    exact ⟨holds,fun _ inside => (by cases inside),fun _ _ => rfl⟩
  | cons k rest ih =>
    obtain ⟨absent,tail⟩ := List.nodup_cons.mp distinct
    obtain ⟨_,middle,first,later⟩ := bind_ok done
    obtain ⟨kept,made,others⟩ := one k s middle holds (fresh k List.mem_cons_self) first
    have still : ∀ other ∈ rest, view middle other = view start other := fun other inside =>
      (others other fun same => absent (same ▸ inside)).trans (fresh other (List.mem_cons_of_mem _ inside))
    obtain ⟨kept',visited,unvisited⟩ := ih tail kept still later
    refine ⟨kept',fun other inside => ?_,fun other outside => ?_⟩
    · rcases List.mem_cons.mp inside with rfl | inside
      · rw [unvisited other absent]
        exact made
      · exact visited other inside
    · rw [List.mem_cons,not_or] at outside
      exact (unvisited other outside.2).trans (others other outside.1)

end Loops

/-- From a state with `P` the computation ends with `Q`, or it fails with `E`. -/
structure Triple (P : σ → Prop) (x : Faulty σ ε α) (Q : α → σ → Prop) (E : ε → σ → Prop) : Prop where
  ok : ∀ s a t, P s → x s = (.ok a,t) → Q a t
  error : ∀ s e t, P s → x s = (.error e,t) → E e t

section Rules
variable {P P' : σ → Prop} {Q Q' : α → σ → Prop} {E E' : ε → σ → Prop}
variable {x : Faulty σ ε α}

theorem Triple.pure {a : α} (holds : ∀ s, P s → Q a s) : Triple P (pure a) Q E where
  ok s _ _ before done := by
    cases done
    exact holds s before
  error _ _ _ _ failed := by cases failed

theorem Triple.bind {x : Faulty σ ε β} {f : β → Faulty σ ε α} {R : β → σ → Prop} (first : Triple P x R E)
    (next : ∀ b, Triple (R b) (f b) Q E) : Triple P (x >>= f) Q E where
  ok s a t before done := by
    obtain ⟨b,middle,run,rest⟩ := bind_ok done
    exact (next b).ok _ _ _ (first.ok _ _ _ before run) rest
  error s e t before failed := by
    cases run : x s with
    | mk outcome middle =>
      cases outcome with
      | ok b =>
        rw [bind_of_ok f run] at failed
        exact (next b).error _ _ _ (first.ok _ _ _ before run) failed
      | error e' =>
        rw [bind_of_error f run] at failed
        cases failed
        exact first.error _ _ _ before run

theorem Triple.read {f : σ → Faulty σ ε α} (holds : ∀ s, P s → Triple (fun t => t = s) (f s) Q E) :
    Triple P (read f) Q E where
  ok s a t before done := (holds s before).ok s a t rfl done
  error s e t before failed := (holds s before).error s e t rfl failed

theorem Triple.modify {f : σ → σ} {Q : Unit → σ → Prop} (holds : ∀ s, P s → Q () (f s)) :
    Triple P (modify f) Q E where
  ok s _ _ before done := by
    cases done
    exact holds s before
  error _ _ _ _ failed := by cases failed

theorem Triple.given {p : Prop} [Decidable p] {x : Faulty σ ε Unit} {Q : Unit → σ → Prop} (taken : p → Triple P x Q E)
    (skipped : ¬p → ∀ s, P s → Q () s) : Triple P (given p x) Q E := by
  unfold Faulty.given
  split
  · rename_i holds
    exact taken holds
  · rename_i fails
    exact Triple.pure (skipped fails)

theorem Triple.each {f : β → Faulty σ ε Unit} {I : List β → σ → Prop}
    (one : ∀ b rest, Triple (I (b :: rest)) (f b) (fun _ => I rest) E) (list : List β) :
    Triple (I list) (each f list) (fun _ => I []) E := by
  induction list with
  | nil => exact Triple.pure fun _ holds => holds
  | cons b rest ih => exact Triple.bind (one b rest) fun _ => ih

theorem Triple.conseq (triple : Triple P x Q E) (before : ∀ s, P' s → P s) (after : ∀ a s, Q a s → Q' a s)
    (failed : ∀ e s, E e s → E' e s) : Triple P' x Q' E' where
  ok s a t holds done := after a t (triple.ok s a t (before s holds) done)
  error s e t holds fails := failed e t (triple.error s e t (before s holds) fails)

theorem Triple.before (triple : Triple P x Q E) (holds : ∀ s, P' s → P s) : Triple P' x Q E :=
  triple.conseq holds (fun _ _ after => after) fun _ _ failed => failed

theorem Triple.here {s : σ} (triple : Triple P x Q E) (holds : P s) : Triple (fun t => t = s) x Q E :=
  triple.before fun _ same => same ▸ holds

theorem Triple.runs (triple : Triple P x Q fun _ _ => False) {s : σ} (holds : P s) :
    ∃ a t, x s = (.ok a,t) ∧ Q a t := by
  cases run : x s with
  | mk outcome t =>
    cases outcome with
    | ok a => exact ⟨a,t,rfl,triple.ok s a t holds run⟩
    | error e => exact (triple.error s e t holds run).elim

theorem Triple.of_runs (runs : ∀ s, P s → ∃ a t, x s = (.ok a,t) ∧ Q a t) :
    Triple P x Q fun _ _ => False where
  ok s a t holds done := by
    obtain ⟨b,u,run,after⟩ := runs s holds
    cases run.symm.trans done
    exact after
  error s e t holds failed := by
    obtain ⟨b,u,run,_⟩ := runs s holds
    cases run.symm.trans failed

end Rules

end Faulty
end Clawchain.Lib
