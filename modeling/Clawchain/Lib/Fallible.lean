import Mathlib.Data.List.Forall2
import Mathlib.Data.List.Perm.Basic

/-! Computations that end in a value or an error: what a value says about the
steps before it, and the invariant rule of a loop. -/
namespace Clawchain.Lib.Fallible

variable {ε α β : Type}

variable {l : List α} {f : α → Except ε β} {values : List β} {P : ε → Prop} {x : Except ε α} {b : β}

theorem bind_ok (done : (x >>= f) = .ok b) :
    ∃ a, x = .ok a ∧ f a = .ok b := by
  cases x with
  | error e => cases done
  | ok a => exact ⟨a,rfl,done⟩

theorem mapM_ok : (∃ values, l.mapM f = .ok values) ↔ ∀ a ∈ l, ∃ b, f a = .ok b := by
  induction l with
  | nil => simp [pure,Except.pure]
  | cons a l ih =>
    rw [List.forall_mem_cons,← ih]
    constructor
    · rintro ⟨values,done⟩
      rw [List.mapM_cons] at done
      obtain ⟨b,here,rest⟩ := bind_ok done
      obtain ⟨bs,later,_⟩ := bind_ok rest
      exact ⟨⟨b,here⟩,bs,later⟩
    · rintro ⟨⟨b,here⟩,bs,later⟩
      exact ⟨b :: bs,by rw [List.mapM_cons,here]; change (l.mapM f >>= _) = _; rw [later]; rfl⟩

theorem mapM_forall₂ (each : List.Forall₂ (fun a b => f a = .ok b) l values) : l.mapM f = .ok values := by
  induction each with
  | nil => rfl
  | cons here _ ih =>
    rw [List.mapM_cons,here]
    change (List.mapM f _ >>= _) = _
    rw [ih]
    rfl

theorem forall₂_of_mapM (done : l.mapM f = .ok values) :
    List.Forall₂ (fun a b => f a = .ok b) l values := by
  induction l generalizing values with
  | nil =>
    cases done
    exact .nil
  | cons a l ih =>
    rw [List.mapM_cons] at done
    obtain ⟨b,here,rest⟩ := bind_ok done
    obtain ⟨bs,later,last⟩ := bind_ok rest
    cases last
    exact .cons here (ih later)

theorem mapM_perm {m : List α} (perm : l.Perm m) (done : l.mapM f = .ok values) :
    ∃ values', m.mapM f = .ok values' ∧ values.Perm values' := by
  obtain ⟨values',each,same⟩ := List.perm_comp_forall₂ perm.symm (forall₂_of_mapM done)
  exact ⟨values',mapM_forall₂ each,same.symm⟩

theorem mem_of_mapM (done : l.mapM f = .ok values) :
    (∀ a ∈ l, ∃ b ∈ values, f a = .ok b) ∧ ∀ b ∈ values, ∃ a ∈ l, f a = .ok b := by
  have each := forall₂_of_mapM done
  clear done
  induction each with
  | nil => simp
  | cons here _ ih =>
    constructor
    · intro a listed
      rcases List.mem_cons.mp listed with rfl | later
      · exact ⟨_,List.mem_cons_self,here⟩
      · obtain ⟨b,inside,made⟩ := ih.1 a later
        exact ⟨b,List.mem_cons_of_mem _ inside,made⟩
    · intro b listed
      rcases List.mem_cons.mp listed with rfl | later
      · exact ⟨_,List.mem_cons_self,here⟩
      · obtain ⟨a,inside,made⟩ := ih.2 b later
        exact ⟨a,List.mem_cons_of_mem _ inside,made⟩

theorem map_of_mapM (done : l.mapM f = .ok values) {key : β → α} (keyed : ∀ a b, f a = .ok b → key b = a)
    : values.map key = l := by
  have each := forall₂_of_mapM done
  clear done
  induction each with
  | nil => rfl
  | cons here _ ih => rw [List.map_cons,keyed _ _ here,ih]

theorem foldlM_ok_after {f : β → α → Except ε β} (I : List α → β → Prop)
    (step : ∀ gone a b b', I gone b → f b a = .ok b' → I (gone ++ [a]) b') {gone : List α} {c : β} (start : I gone b)
    (done : l.foldlM f b = .ok c) : I (gone ++ l) c := by
  induction l generalizing gone b with
  | nil =>
    cases done
    simpa using start
  | cons a l ih =>
    rw [List.foldlM_cons] at done
    obtain ⟨b',stepped,rest⟩ := bind_ok done
    simpa using ih (step gone a b b' start stepped) rest

theorem foldlM_ok {f : β → α → Except ε β} (I : List α → β → Prop)
    (step : ∀ gone a b b', I gone b → f b a = .ok b' → I (gone ++ [a]) b') {c : β} (start : I [] b)
    (done : l.foldlM f b = .ok c) : I l c :=
  foldlM_ok_after I step start done

theorem ok_of_toOption {a : α} (done : x.toOption = some a) : x = .ok a := by
  cases x with
  | error e => cases done
  | ok b => exact congrArg _ (Option.some.inj done)

theorem toOption_bind (x : Except ε α) (f : α → Except ε β) :
    (x >>= f).toOption = x.toOption.bind fun a => (f a).toOption := by
  cases x with
  | error e => rfl
  | ok a => rfl

theorem toOption_foldlM (f : β → α → Except ε β) (l : List α) (start : Option β) :
    (start.bind fun b => (l.foldlM f b).toOption) = l.foldl (fun b a => b.bind fun b => (f b a).toOption) start := by
  induction l generalizing start with
  | nil => cases start <;> rfl
  | cons a l ih =>
    rw [List.foldl_cons,← ih]
    cases start with
    | none => rfl
    | some b => exact toOption_bind (f b a) fun b => l.foldlM f b

theorem toOption_foldlM_perm {f : β → α → Except ε β} {m : List α} (perm : l.Perm m)
    (commute : ∀ a ∈ l, ∀ c ∈ l, ∀ b, (f b a >>= fun b => f b c).toOption = (f b c >>= fun b => f b a).toOption) (b : β) :
    (l.foldlM f b).toOption = (m.foldlM f b).toOption := by
  have folded (l : List α) := toOption_foldlM f l (some b)
  simp only [Option.bind_some] at folded
  rw [folded,folded]
  apply perm.foldl_eq'
  intro a first c second start
  cases start with
  | none => rfl
  | some b =>
    have swapped := commute a first c second b
    rw [toOption_bind,toOption_bind] at swapped
    exact swapped

def FailsIn (P : ε → Prop) (x : Except ε α) : Prop := ∀ e, x = .error e → P e

theorem FailsIn.ok (a : α) : FailsIn P (.ok a : Except ε α) := fun _ failed => by cases failed

theorem FailsIn.error {e : ε} (holds : P e) : FailsIn P (.error e : Except ε α) := by
  intro other failed
  cases failed
  exact holds

theorem FailsIn.bind (first : FailsIn P x) (second : ∀ a, x = .ok a → FailsIn P (f a)) : FailsIn P (x >>= f) := by
  intro e failed
  cases x with
  | error e' =>
    cases failed
    exact first e rfl
  | ok a => exact second a rfl e failed

theorem FailsIn.ite {p : Prop} [Decidable p] {y : Except ε α} (first : FailsIn P x) (second : FailsIn P y) :
    FailsIn P (if p then x else y) := by
  split
  · exact first
  · exact second

theorem FailsIn.foldlM {f : β → α → Except ε β} (step : ∀ b a, FailsIn P (f b a)) (l : List α) (b : β) :
    FailsIn P (l.foldlM f b) := by
  induction l generalizing b with
  | nil => exact FailsIn.ok b
  | cons a l ih =>
    rw [List.foldlM_cons]
    exact (step b a).bind fun b' _ => ih b'

end Clawchain.Lib.Fallible
