import Mathlib.Data.List.Sort
import Mathlib.Data.List.Induction
import Mathlib.Data.List.Nodup

/-! Stable sorting by a comparison, the order it gives where the comparison
follows a key, and numbering rows in the order of such a sort. -/
namespace Clawchain.Lib.Sorting

variable {α κ : Type}

/-- A stable sort: of two elements neither of which is less, the earlier one stays first. -/
def sortBy (less : α → α → Bool) (l : List α) : List α := l.insertionSort fun a b => less b a = false

theorem sortBy_perm (less : α → α → Bool) (l : List α) : (sortBy less l).Perm l := List.perm_insertionSort _ _

variable {l : List α} {places : List Nat} {less : α → α → Bool}

@[simp] theorem mem_sortBy {a : α} : a ∈ sortBy less l ↔ a ∈ l :=
  (sortBy_perm less l).mem_iff

variable [LinearOrder κ]

theorem sortBy_eq_insertionSort (key : α → κ) (agrees : ∀ a ∈ l, ∀ b ∈ l, less a b = true ↔ key a < key b) :
    sortBy less l = l.insertionSort fun a b => key a ≤ key b := by
  have mapped := List.map_insertionSort (fun a b => less b a = false) (fun a b : α => key a ≤ key b) id l ?_
  · simpa [sortBy] using mapped
  · intro a first b second
    rw [id,id,← Bool.not_eq_true,agrees b second a first,not_lt]

theorem sortBy_pairwise {less : α → α → Bool} {l : List α} (key : α → κ)
    (agrees : ∀ a ∈ l, ∀ b ∈ l, less a b = true ↔ key a < key b) :
    (sortBy less l).Pairwise fun a b => key a ≤ key b := by
  have same := sortBy_eq_insertionSort key agrees
  have total : Std.Total fun a b : α => key a ≤ key b := ⟨fun a b => le_total (key a) (key b)⟩
  have trans : IsTrans α fun a b : α => key a ≤ key b := ⟨fun _ _ _ => le_trans⟩
  rw [same]
  exact List.pairwise_insertionSort _ _

theorem sortBy_eq_of_perm {m : List α} (key : α → κ) (agrees : ∀ a ∈ l, ∀ b ∈ l, less a b = true ↔ key a < key b)
    (apart : ∀ a ∈ l, ∀ b ∈ l, key a = key b → a = b) (perm : l.Perm m) : sortBy less l = sortBy less m := by
  have sorted := sortBy_pairwise key agrees
  have sortedToo : (sortBy less m).Pairwise fun a b => key a ≤ key b :=
    sortBy_pairwise key fun a first b second => agrees a (perm.mem_iff.mpr first) b (perm.mem_iff.mpr second)
  apply ((sortBy_perm less l).trans (perm.trans (sortBy_perm less m).symm)).eq_of_pairwise _ sorted sortedToo
  intro a b first second below above
  exact apart a (mem_sortBy.mp first) b (perm.mem_iff.mpr (mem_sortBy.mp second)) (le_antisymm below above)

theorem sortBy_filter (key : α → κ) (agrees : ∀ a ∈ l, ∀ b ∈ l, less a b = true ↔ key a < key b) {kept : α → Bool}
    (tied : ∀ a, kept a = true → ∀ b, kept b = true → key a = key b) : (sortBy less l).filter kept = l.filter kept := by
  have total : Std.Total fun a b : α => key a ≤ key b := ⟨fun a b => le_total (key a) (key b)⟩
  have trans : IsTrans α fun a b : α => key a ≤ key b := ⟨fun _ _ _ => le_trans⟩
  have sorted : (l.filter kept).Pairwise fun a b => key a ≤ key b :=
    List.pairwise_of_forall_mem_list fun a first b second =>
      (tied a (List.mem_filter.mp first).2 b (List.mem_filter.mp second).2).le
  have inside := (List.sublist_insertionSort sorted List.filter_sublist).filter kept
  rw [List.filter_filter] at inside
  simp only [Bool.and_self] at inside
  rw [sortBy_eq_insertionSort key agrees]
  exact (inside.eq_of_length ((List.perm_insertionSort _ l).filter _).length_eq.symm).symm

theorem foldl_better {better : α → α → Bool} {l : List α} {start : α} (key : α → κ)
    (agrees : ∀ a b, better a b = true ↔ key a < key b) :
    l.foldl (fun best a => if better a best then a else best) start ∈ start :: l ∧
      ∀ a ∈ start :: l, key (l.foldl (fun best a => if better a best then a else best) start) ≤ key a := by
  induction l generalizing start with
  | nil => simp
  | cons a l ih =>
    rw [List.foldl_cons]
    by_cases improves : better a start = true
    · rw [if_pos improves]
      obtain ⟨member,least⟩ := @ih a
      refine ⟨List.mem_cons_of_mem _ member,?_⟩
      intro b inside
      rcases List.mem_cons.mp inside with rfl | inside
      · exact (least a List.mem_cons_self).trans ((agrees a b).mp improves).le
      · exact least b inside
    · rw [if_neg improves]
      obtain ⟨member,least⟩ := @ih start
      have kept : key start ≤ key a := not_lt.mp fun less => improves ((agrees a start).mpr less)
      constructor
      · rcases List.mem_cons.mp member with same | inside
        · exact List.mem_cons.mpr (.inl same)
        · exact List.mem_cons_of_mem _ (List.mem_cons_of_mem _ inside)
      · intro b inside
        rcases List.mem_cons.mp inside with rfl | inside
        · exact least b List.mem_cons_self
        · rcases List.mem_cons.mp inside with rfl | inside
          · exact (least start List.mem_cons_self).trans kept
          · exact least b (List.mem_cons_of_mem _ inside)

theorem eq_filter_append {p : α → Bool} (front : l.Pairwise fun a b => p b = true → p a = true) :
    l = l.filter p ++ l.filter fun a => !p a := by
  induction l with
  | nil => rfl
  | cons a l ih =>
    obtain ⟨first,rest⟩ := List.pairwise_cons.mp front
    cases marked : p a with
    | true =>
      rw [List.filter_cons_of_pos marked,List.filter_cons_of_neg (by simp [marked]),List.cons_append,← ih rest]
    | false =>
      have none_ : l.filter p = [] := by
        rw [List.filter_eq_nil_iff]
        intro b member held
        have := first b member held
        simp [marked] at this
      have all : l.filter (fun a => !p a) = l := by
        have cut := ih rest
        rw [none_,List.nil_append] at cut
        exact cut.symm
      rw [List.filter_cons_of_neg (by simp [marked]),List.filter_cons_of_pos (by simp [marked]),none_,all,List.nil_append]

/-! Numbering: the rows at the listed places are rewritten with their position in the list. -/

def numbered (places : List Nat) (write : Nat → α → α) (rows : List α) : List α :=
  places.zipIdx.foldl (fun rows place => rows.modify place.1 (write place.2)) rows

theorem getElem?_foldl_modify (distinct : places.Nodup) (write : Nat → α → α) (rows : List α) (start i : Nat) :
    ((places.zipIdx start).foldl (fun rows place => rows.modify place.1 (write place.2)) rows)[i]? =
      if i ∈ places then rows[i]?.map (write (start + places.idxOf i)) else rows[i]? := by
  induction places generalizing rows start with
  | nil => simp
  | cons place places ih =>
    have apart := List.nodup_cons.mp distinct
    rw [List.zipIdx_cons,List.foldl_cons,ih apart.2]
    by_cases here : i = place
    · subst here
      rw [if_neg apart.1,if_pos List.mem_cons_self,List.getElem?_modify_eq,List.idxOf_cons_self,Nat.add_zero]
      rfl
    · have position : (place :: places).idxOf i = places.idxOf i + 1 := by
        rw [List.idxOf_cons_ne _ (Ne.symm here)]
      rw [List.getElem?_modify_ne _ _ (Ne.symm here),position]
      simp only [List.mem_cons,here,false_or]
      congr 2
      congr 1
      omega

theorem getElem?_foldl_rewrite (distinct : places.Nodup) (write : Nat → α → α) (rows : List α) (i : Nat) :
    (places.foldl (fun rows place => rows.modify place (write place)) rows)[i]? =
      if i ∈ places then rows[i]?.map (write i) else rows[i]? := by
  induction places generalizing rows with
  | nil => simp
  | cons place places ih =>
    have apart := List.nodup_cons.mp distinct
    rw [List.foldl_cons,ih apart.2]
    by_cases here : i = place
    · subst here
      rw [if_neg apart.1,if_pos List.mem_cons_self,List.getElem?_modify_eq]
      rfl
    · rw [List.getElem?_modify_ne _ _ (Ne.symm here)]
      simp only [List.mem_cons,here,false_or]

theorem getElem?_numbered (distinct : places.Nodup) (write : Nat → α → α) (rows : List α) (i : Nat) :
    (numbered places write rows)[i]? =
      if i ∈ places then rows[i]?.map (write (places.idxOf i)) else rows[i]? := by
  rw [numbered,getElem?_foldl_modify distinct,Nat.zero_add]

omit [LinearOrder κ] in
theorem filterMap_eq_range {β : Type} (f : α → Option β) (l : List α) :
    l.filterMap f = (List.range l.length).filterMap fun i => l[i]?.bind f := by
  induction l using List.reverseRecOn with
  | nil => rfl
  | append_singleton l a ih =>
    rw [List.filterMap_append,List.length_append,List.length_singleton,List.range_succ,List.filterMap_append,ih]
    congr 1
    · apply List.filterMap_congr
      intro i member
      rw [List.getElem?_append_left (List.mem_range.mp member)]
    · rw [List.filterMap_cons,List.filterMap_cons,List.getElem?_concat_length]
      rfl

omit [LinearOrder κ] in
theorem map_filter_isSome {β : Type} (f : α → Option β) (l : List α) :
    (l.filter fun a => (f a).isSome).map f = (l.filterMap f).map some := by
  induction l with
  | nil => rfl
  | cons a l ih =>
    cases value : f a with
    | none =>
      rw [List.filter_cons_of_neg (by simp [value]),List.filterMap_cons_none value,ih]
    | some b =>
      rw [List.filter_cons_of_pos (by simp [value]),List.filterMap_cons_some value,List.map_cons,List.map_cons,ih,value]

theorem idxOf_perm_range (distinct : places.Nodup) {n : Nat} (inside : ∀ i ∈ places, i < n) :
    (((List.range n).filter (· ∈ places)).map places.idxOf).Perm (List.range places.length) := by
  have same : ((List.range n).filter (· ∈ places)).Perm places := by
    rw [List.perm_ext_iff_of_nodup (List.nodup_range.filter _) distinct]
    intro i
    rw [List.mem_filter,List.mem_range,decide_eq_true_iff]
    exact ⟨And.right,fun member => ⟨inside i member,member⟩⟩
  apply (same.map _).trans
  apply List.Perm.of_eq
  apply List.ext_getElem
  · simp
  · intro i left right
    simp only [List.getElem_map,List.getElem_range]
    exact distinct.idxOf_getElem i (by simpa using left)

theorem pairwise_idxOf {R : Nat → Nat → Prop} (ordered : places.Pairwise R) {i j : Nat} (first : i ∈ places)
    (second : j ∈ places) (before : places.idxOf i < places.idxOf j) : R i j := by
  have holds := List.pairwise_iff_getElem.mp ordered _ _ (List.idxOf_lt_length_of_mem first)
    (List.idxOf_lt_length_of_mem second) before
  rwa [List.getElem_idxOf,List.getElem_idxOf] at holds

theorem mergeSort_eq_of_perm {first next : List κ} (perm : first.Perm next) :
    first.mergeSort (fun a b => decide (a ≤ b)) = next.mergeSort fun a b => decide (a ≤ b) := by
  have sorted (l : List κ) : (l.mergeSort fun a b => decide (a ≤ b)).Pairwise fun a b => a ≤ b := by
    have pairwise : (l.mergeSort fun a b => decide (a ≤ b)).Pairwise fun a b => decide (a ≤ b) = true := by
      apply List.pairwise_mergeSort
      · intro a b c below above
        rw [decide_eq_true_iff] at below above ⊢
        exact below.trans above
      · intro a b
        simpa using le_total a b
    exact pairwise.imp fun below => by simpa using below
  have same (l : List κ) : (l.mergeSort fun a b => decide (a ≤ b)).Perm l := List.mergeSort_perm l _
  exact ((same first).trans (perm.trans (same next).symm)).eq_of_pairwise (fun a b _ _ => le_antisymm) (sorted first) (sorted next)

theorem insertionSort_keys {r : α → α → Prop} [DecidableRel r] {key : α → κ} (agrees : ∀ a b, r a b ↔ key a ≤ key b)
    {sorted : List α} (perm : l.Perm sorted) (ordered : sorted.Pairwise fun a b => key a ≤ key b) :
    (l.insertionSort r).map key = sorted.map key := by
  have total : Std.Total r := ⟨fun a b => by rw [agrees,agrees]; exact le_total _ _⟩
  have trans : IsTrans α r := ⟨fun a b c below above => by rw [agrees] at below above ⊢; exact below.trans above⟩
  have first : ((l.insertionSort r).map key).Pairwise (· ≤ ·) :=
    List.pairwise_map.mpr ((List.pairwise_insertionSort r l).imp fun below => (agrees _ _).mp below)
  exact (((List.perm_insertionSort r l).trans perm).map key).eq_of_pairwise (fun a b _ _ => le_antisymm) first
    (List.pairwise_map.mpr ordered)

/-- In a list that is strictly ordered, an element stands behind as many as come before it in the order. -/
theorem countP_before {before : α → α → Prop} [DecidableRel before] (asymm : ∀ a b, before a b → ¬before b a)
    (ordered : l.Pairwise before) {i : Nat} {a : α} (found : l[i]? = some a) : l.countP (fun b => before b a) = i := by
  induction l generalizing i with
  | nil => simp at found
  | cons b l ih =>
    obtain ⟨first,later⟩ := List.pairwise_cons.mp ordered
    cases i with
    | zero =>
      cases Option.some.inj found
      rw [List.countP_eq_zero]
      intro c inside ahead
      have ahead := of_decide_eq_true ahead
      rcases List.mem_cons.mp inside with rfl | inside
      · exact asymm _ _ ahead ahead
      · exact asymm _ _ (first c inside) ahead
    | succ i =>
      rw [List.getElem?_cons_succ] at found
      rw [List.countP_cons_of_pos (by simpa using first a (List.mem_of_getElem? found)),ih later found]

end Clawchain.Lib.Sorting
