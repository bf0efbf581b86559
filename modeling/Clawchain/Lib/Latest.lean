import Mathlib.Data.List.Sort
import Mathlib.Data.List.Nodup

/-! The elements of a list with the highest keys, the highest first, and what becomes of the first few of them when some of
those are raised further. -/
namespace Clawchain.Lib

variable {α κ : Type} [LinearOrder κ] (key : α → κ)

def latest (l : List α) : List α := l.insertionSort fun a b => key b ≤ key a

theorem latest_perm (l : List α) : (latest key l).Perm l := List.perm_insertionSort _ _

@[simp] theorem mem_latest {l : List α} {a : α} : a ∈ latest key l ↔ a ∈ l := (latest_perm key l).mem_iff

@[simp] theorem length_latest (l : List α) : (latest key l).length = l.length := (latest_perm key l).length_eq

theorem latest_pairwise (l : List α) : (latest key l).Pairwise fun a b => key b ≤ key a := by
  have total : Std.Total fun a b : α => key b ≤ key a := ⟨fun a b => le_total (key b) (key a)⟩
  have trans : IsTrans α fun a b : α => key b ≤ key a := ⟨fun _ _ _ above below => below.trans above⟩
  exact List.pairwise_insertionSort _ _

theorem latest_map {β : Type} (f : β → α) (l : List β) : (latest (fun b => key (f b)) l).map f = latest key (l.map f) :=
  List.map_insertionSort _ _ f l fun _ _ _ _ => Iff.rfl

variable {key} {l m : List α}

theorem latest_eq (distinct : (l.map key).Nodup) (perm : m.Perm l) (sorted : m.Pairwise fun a b => key b ≤ key a) :
    latest key l = m := by
  apply ((latest_perm key l).trans perm.symm).eq_of_pairwise _ (latest_pairwise key l) sorted
  intro a b first second above below
  exact List.inj_on_of_nodup_map distinct ((mem_latest key).mp first) (perm.mem_iff.mp second) (le_antisymm below above)

theorem head?_latest (distinct : (l.map key).Nodup) {a : α} :
    (latest key l).head? = some a ↔ a ∈ l ∧ ∀ b ∈ l, key b ≤ key a := by
  have sorted := latest_pairwise key l
  have members (b : α) : b ∈ latest key l ↔ b ∈ l := mem_latest key
  cases found : latest key l with
  | nil =>
    rw [found] at members
    constructor
    · intro none
      cases none
    · rintro ⟨member,-⟩
      cases (members a).mpr member
  | cons first rest =>
    rw [found] at sorted members
    have greatest : ∀ b ∈ l, key b ≤ key first := by
      intro b member
      rcases List.mem_cons.mp ((members b).mpr member) with rfl | later
      · exact le_rfl
      · exact (List.pairwise_cons.mp sorted).1 b later
    have inside : first ∈ l := (members first).mp List.mem_cons_self
    rw [List.head?_cons,Option.some_inj]
    constructor
    · rintro rfl
      exact ⟨inside,greatest⟩
    · rintro ⟨member,above⟩
      exact List.inj_on_of_nodup_map distinct inside member (le_antisymm (above first inside) (greatest a member))

theorem getLast?_insertionSort (distinct : (l.map key).Nodup) :
    (l.insertionSort fun a b => key a ≤ key b).getLast? = (latest key l).head? := by
  have total : Std.Total fun a b : α => key a ≤ key b := ⟨fun a b => le_total (key a) (key b)⟩
  have trans : IsTrans α fun a b : α => key a ≤ key b := ⟨fun _ _ _ below above => below.trans above⟩
  have reversed : latest key l = (l.insertionSort fun a b => key a ≤ key b).reverse :=
    latest_eq distinct ((List.reverse_perm _).trans (List.perm_insertionSort _ l))
      (List.pairwise_reverse.mpr (List.pairwise_insertionSort _ l))
  rw [reversed,List.head?_reverse]

/-- When some of the first few elements are raised, the first few are the same as before, in a new order. -/
theorem take_latest_map {f : α → α} {k : Nat} (raised : ∀ a ∈ (latest key l).take k, key a ≤ key (f a))
    (others : ∀ a ∈ (latest key l).drop k, f a = a) (distinct : ((l.map f).map key).Nodup) :
    (latest key (l.map f)).take k = latest key (((latest key l).take k).map f) := by
  have same : latest key (l.map f) = latest key (((latest key l).take k).map f) ++ (latest key l).drop k := by
    apply latest_eq distinct
    · have kept : ((latest key l).drop k).map f = (latest key l).drop k :=
        (List.map_congr_left others).trans (List.map_id _)
      calc latest key (((latest key l).take k).map f) ++ (latest key l).drop k
          = latest key (((latest key l).take k).map f) ++ ((latest key l).drop k).map f := by rw [kept]
        _ |>.Perm (((latest key l).take k).map f ++ ((latest key l).drop k).map f) := (latest_perm _ _).append_right _
        _ |>.Perm (l.map f) := by
          rw [← List.map_append,List.take_append_drop]
          exact (latest_perm key l).map f
    · have split := latest_pairwise key l
      rw [← List.take_append_drop k (latest key l)] at split
      obtain ⟨-,later,across⟩ := List.pairwise_append.mp split
      refine List.pairwise_append.mpr ⟨latest_pairwise key _,later,fun a first b last => ?_⟩
      obtain ⟨old,before,rfl⟩ := List.mem_map.mp ((mem_latest key).mp first)
      exact (across old before b last).trans (raised old before)
  rw [same]
  by_cases enough : k ≤ l.length
  · exact List.take_left' (by simp [enough])
  · have few : (latest key l).drop k = [] := List.drop_eq_nil_of_le (by rw [length_latest]; omega)
    rw [few,List.append_nil]
    exact List.take_of_length_le (by simp)

end Clawchain.Lib
