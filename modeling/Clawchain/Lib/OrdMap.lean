import Clawchain.Lib.Texts
import Mathlib.Data.List.Induction
import Mathlib.Data.List.Sort
import Mathlib.Data.List.Pairwise
import Mathlib.Algebra.BigOperators.Group.List.Basic
import Mathlib.Order.Basic
import Mathlib.Tactic.Abel

/-! Finite maps over a linearly ordered key type.
A map is its association list in strictly increasing key order, so equal
lookups give equal maps and a traversal has one canonical order. -/
namespace Clawchain.Lib

structure OrdMap (κ ν : Type) [LinearOrder κ] where
  entries : List (κ × ν)
  sorted : entries.Pairwise (fun a b => a.1 < b.1)

namespace OrdMap
variable {κ ν μ : Type} [LinearOrder κ]

variable {k k' : κ} {m : OrdMap κ ν} {v : ν} {l : List (κ × ν)} {M : Type} {p : κ → ν → Bool} {P : κ → ν → Prop}

theorem entries_injective {n : OrdMap κ ν} (same : m.entries = n.entries) : m = n := by
  cases m; cases n; cases same; rfl

instance [DecidableEq ν] : DecidableEq (OrdMap κ ν) := fun m n =>
  decidable_of_iff (m.entries = n.entries) ⟨entries_injective,fun same => same ▸ rfl⟩

def empty : OrdMap κ ν := ⟨[],List.Pairwise.nil⟩

instance : Inhabited (OrdMap κ ν) := ⟨empty⟩

def get? (m : OrdMap κ ν) (k : κ) : Option ν := m.entries.lookup k

def keys (m : OrdMap κ ν) : List κ := m.entries.map Prod.fst

def size (m : OrdMap κ ν) : Nat := m.entries.length

/-- Insertion into an ordered list, replacing the value of a present key. -/
def insertEntry (k : κ) (v : ν) : List (κ × ν) → List (κ × ν)
  | [] => [(k,v)]
  | e :: rest =>
    if k < e.1 then (k,v) :: e :: rest
    else if k = e.1 then (k,v) :: rest
    else e :: insertEntry k v rest

theorem mem_insertEntry {e : κ × ν} (member : e ∈ insertEntry k v l) : e = (k,v) ∨ e ∈ l := by
  induction l with
  | nil => simpa [insertEntry] using member
  | cons head rest ih =>
    rw [insertEntry] at member
    split_ifs at member with below equal
    · simpa using member
    · rcases List.mem_cons.mp member with rfl | inside
      · exact .inl rfl
      · exact .inr (List.mem_cons_of_mem _ inside)
    · rcases List.mem_cons.mp member with rfl | inside
      · exact .inr List.mem_cons_self
      · exact (ih inside).imp id (List.mem_cons_of_mem _)

theorem insertEntry_sorted (k : κ) (v : ν) (l : List (κ × ν))
    (sorted : l.Pairwise (fun a b => a.1 < b.1)) :
    (insertEntry k v l).Pairwise (fun a b => a.1 < b.1) := by
  induction l with
  | nil => simp [insertEntry]
  | cons head rest ih =>
    obtain ⟨above,tail⟩ := List.pairwise_cons.mp sorted
    rw [insertEntry]
    split_ifs with below equal
    · refine List.pairwise_cons.mpr ⟨?_,sorted⟩
      intro e member
      rcases List.mem_cons.mp member with rfl | inside
      · exact below
      · exact below.trans (above e inside)
    · subst equal
      exact List.pairwise_cons.mpr ⟨above,tail⟩
    · refine List.pairwise_cons.mpr ⟨?_,ih tail⟩
      intro e member
      rcases mem_insertEntry member with rfl | inside
      · exact lt_of_le_of_ne (not_lt.mp below) (Ne.symm equal)
      · exact above e inside

def insert (m : OrdMap κ ν) (k : κ) (v : ν) : OrdMap κ ν :=
  ⟨insertEntry k v m.entries,insertEntry_sorted k v m.entries m.sorted⟩

def erase (m : OrdMap κ ν) (k : κ) : OrdMap κ ν :=
  ⟨m.entries.filter (fun e => e.1 ≠ k),m.sorted.filter _⟩

def filter (p : κ → ν → Bool) (m : OrdMap κ ν) : OrdMap κ ν :=
  ⟨m.entries.filter (fun e => p e.1 e.2),m.sorted.filter _⟩

/-- Every value replaced through a function of its key; the keys stay. -/
def mapVals (f : κ → ν → μ) (m : OrdMap κ ν) : OrdMap κ μ :=
  ⟨m.entries.map (fun e => (e.1,f e.1 e.2)),by
    rw [List.pairwise_map]
    exact m.sorted⟩

def modifyAt (k : κ) (f : ν → ν) (m : OrdMap κ ν) : OrdMap κ ν :=
  m.mapVals fun k' v => if k' = k then f v else v

def ofList (l : List (κ × ν)) : OrdMap κ ν := l.foldl (fun m e => m.insert e.1 e.2) empty

/-- Keys whose entry satisfies a test, in increasing order. -/
def keysWhere (p : κ → ν → Bool) (m : OrdMap κ ν) : List κ :=
  (m.entries.filter (fun e => p e.1 e.2)).map Prod.fst

def sumBy {M : Type} [AddCommMonoid M] (f : κ → ν → M) (m : OrdMap κ ν) : M :=
  (m.entries.map (fun e => f e.1 e.2)).sum

theorem lookup_eq_some_iff (sorted : l.Pairwise (fun a b => a.1 < b.1)) : l.lookup k = some v ↔ (k,v) ∈ l := by
  induction l with
  | nil => simp
  | cons head rest ih =>
    obtain ⟨above,tail⟩ := List.pairwise_cons.mp sorted
    obtain ⟨k',v'⟩ := head
    by_cases same : k = k'
    · subst same
      have absent : (k,v) ∉ rest := fun inside => lt_irrefl k (above (k,v) inside)
      simp [absent,eq_comm]
    · have differ : (k == k') = false := by simpa using same
      simp [List.lookup_cons,differ,same,ih tail]

theorem get?_eq_some_iff :
    m.get? k = some v ↔ (k,v) ∈ m.entries := lookup_eq_some_iff m.sorted

theorem mem_keys_iff : k ∈ m.keys ↔ ∃ v, m.get? k = some v := by
  simp [keys,get?_eq_some_iff]

theorem get?_eq_none_iff : m.get? k = none ↔ k ∉ m.keys := by
  rw [mem_keys_iff,Option.eq_none_iff_forall_ne_some]
  simp

theorem keys_sorted (m : OrdMap κ ν) : m.keys.Pairwise (· < ·) :=
  List.pairwise_map.mpr m.sorted

theorem keys_nodup (m : OrdMap κ ν) : m.keys.Nodup :=
  m.keys_sorted.imp fun below => ne_of_lt below

@[simp] theorem length_keys (m : OrdMap κ ν) : m.keys.length = m.size := by simp [keys,size]

theorem ext_get? {n : OrdMap κ ν} (same : ∀ k, m.get? k = n.get? k) : m = n := by
  apply entries_injective
  have members (e : κ × ν) : e ∈ m.entries ↔ e ∈ n.entries := by
    obtain ⟨k,v⟩ := e
    rw [← get?_eq_some_iff,← get?_eq_some_iff,same]
  have distinct (l : OrdMap κ ν) : l.entries.Nodup := by
    refine l.sorted.imp ?_
    rintro a b below rfl
    exact lt_irrefl _ below
  have permuted := (List.perm_ext_iff_of_nodup (distinct m) (distinct n)).mpr members
  exact permuted.eq_of_pairwise (fun a b _ _ ab ba => absurd ab (not_lt.mpr ba.le)) m.sorted n.sorted

@[simp] theorem get?_empty (k : κ) : (empty : OrdMap κ ν).get? k = none := rfl

theorem get?_insert (m : OrdMap κ ν) (k k' : κ) (v : ν) :
    (m.insert k v).get? k' = if k' = k then some v else m.get? k' := by
  obtain ⟨l,sorted⟩ := m
  change (insertEntry k v l).lookup k' = if k' = k then some v else l.lookup k'
  induction l with
  | nil =>
    by_cases same : k' = k
    · simp [insertEntry,same]
    · have differ : (k' == k) = false := by simpa using same
      simp [insertEntry,List.lookup_cons,differ,same]
  | cons head rest ih =>
    have tail := ih (List.pairwise_cons.mp sorted).2
    obtain ⟨h,w⟩ := head
    rw [insertEntry]
    by_cases same : k' = k
    · subst same
      rw [if_pos rfl] at tail ⊢
      split_ifs with below equal
      · simp
      · simp
      · have differ : (k' == h) = false := by simpa using equal
        simpa [List.lookup_cons,differ] using tail
    · have differ : (k' == k) = false := by simpa using same
      simp only [same,if_false] at tail ⊢
      split_ifs with below equal
      · simp [List.lookup_cons,differ]
      · subst equal
        simp [List.lookup_cons,differ]
      · simp only [List.lookup_cons,tail]

@[simp] theorem get?_insert_self (m : OrdMap κ ν) (k : κ) (v : ν) : (m.insert k v).get? k = some v := by
  simp [get?_insert]

theorem get?_insert_of_ne (m : OrdMap κ ν) (v : ν) (differ : k' ≠ k) :
    (m.insert k v).get? k' = m.get? k' := by simp [get?_insert,differ]

theorem insert_of_get? (found : m.get? k = some v) : m.insert k v = m := by
  refine ext_get? fun other => ?_
  rw [get?_insert]
  split_ifs with same
  · rw [same,found]
  · rfl

theorem get?_erase (m : OrdMap κ ν) (k k' : κ) :
    (m.erase k).get? k' = if k' = k then none else m.get? k' := by
  apply Option.ext
  intro v
  rw [get?_eq_some_iff]
  by_cases same : k' = k
  · simp [erase,same]
  · simp [erase,same,get?_eq_some_iff]

theorem get?_filter (p : κ → ν → Bool) (m : OrdMap κ ν) (k : κ) :
    (m.filter p).get? k = (m.get? k).filter (p k) := by
  apply Option.ext
  intro v
  rw [get?_eq_some_iff,Option.filter_eq_some_iff,get?_eq_some_iff]
  simp [filter]

@[simp] theorem get?_mapVals (f : κ → ν → μ) (m : OrdMap κ ν) (k : κ) :
    (m.mapVals f).get? k = (m.get? k).map (f k) := by
  apply Option.ext
  intro v
  rw [get?_eq_some_iff,Option.map_eq_some_iff]
  constructor
  · intro member
    obtain ⟨⟨k',w⟩,inside,equal⟩ := List.mem_map.mp member
    cases equal
    exact ⟨w,get?_eq_some_iff.mpr inside,rfl⟩
  · rintro ⟨w,found,rfl⟩
    exact List.mem_map.mpr ⟨(k,w),get?_eq_some_iff.mp found,rfl⟩

theorem get?_modifyAt (k : κ) (f : ν → ν) (m : OrdMap κ ν) (k' : κ) :
    (m.modifyAt k f).get? k' = if k' = k then (m.get? k').map f else m.get? k' := by
  rw [modifyAt,get?_mapVals]
  split_ifs with same
  · rfl
  · exact Option.map_id'

theorem of_get?_modifyAt {f : ν → ν} (found : (m.modifyAt k f).get? k' = some v) :
    ∃ old, m.get? k' = some old ∧ v = if k' = k then f old else old := by
  rw [get?_modifyAt] at found
  split_ifs at found with same
  · obtain ⟨old,held,rfl⟩ := Option.map_eq_some_iff.mp found
    exact ⟨old,held,(if_pos same).symm⟩
  · exact ⟨v,found,(if_neg same).symm⟩

theorem insert_comm (m : OrdMap κ ν) (v v' : ν) (differ : k ≠ k') :
    (m.insert k v).insert k' v' = (m.insert k' v').insert k v := by
  apply ext_get?
  intro other
  simp only [get?_insert]
  split_ifs with here there
  · exact absurd (there.symm.trans here) differ
  all_goals rfl

theorem modifyAt_comm (k k' : κ) {f g : ν → ν} (commute : ∀ v, f (g v) = g (f v)) (m : OrdMap κ ν) :
    (m.modifyAt k f).modifyAt k' g = (m.modifyAt k' g).modifyAt k f := by
  apply ext_get?
  intro other
  simp only [get?_modifyAt]
  split_ifs with here there
  · cases m.get? other with
    | none => rfl
    | some v => exact congrArg some (commute v).symm
  all_goals rfl

theorem mem_of_get?_ofList (found : (ofList l).get? k = some v) : (k,v) ∈ l := by
  induction l using List.reverseRecOn with
  | nil => cases found
  | append_singleton l e ih =>
    have last : ofList (l ++ [e]) = (ofList l).insert e.1 e.2 := by simp [ofList]
    rw [last,get?_insert] at found
    split_ifs at found with same
    · cases found
      exact List.mem_append.mpr (.inr (by simp [same]))
    · exact List.mem_append.mpr (.inl (ih found))

theorem get?_ofList_append (l r : List (κ × ν)) (k : κ) :
    (ofList (l ++ r)).get? k = ((ofList r).get? k).or ((ofList l).get? k) := by
  induction r using List.reverseRecOn with
  | nil => simp [ofList]
  | append_singleton r e ih =>
    have last (m : List (κ × ν)) : ofList (m ++ [e]) = (ofList m).insert e.1 e.2 := by simp [ofList]
    rw [← List.append_assoc,last,last,get?_insert,get?_insert,ih]
    split_ifs
    · rfl
    · rfl

theorem get?_ofList_eq_none (absent : k ∉ l.map Prod.fst) : (ofList l).get? k = none := by
  by_contra found
  obtain ⟨v,held⟩ := Option.ne_none_iff_exists'.mp found
  exact absent (List.mem_map.mpr ⟨_,mem_of_get?_ofList held,rfl⟩)

theorem get?_ofList (distinct : (l.map Prod.fst).Nodup) :
    (ofList l).get? k = some v ↔ (k,v) ∈ l := by
  refine ⟨mem_of_get?_ofList,fun inside => ?_⟩
  induction l with
  | nil => cases inside
  | cons e rest ih =>
    obtain ⟨absent,later⟩ := List.nodup_cons.mp distinct
    change (ofList ([e] ++ rest)).get? k = some v
    rw [get?_ofList_append]
    rcases List.mem_cons.mp inside with rfl | behind
    · rw [get?_ofList_eq_none absent,Option.none_or]
      exact get?_insert_self _ _ _
    · rw [ih later behind]
      rfl

@[simp] theorem ofList_entries (m : OrdMap κ ν) : ofList m.entries = m := by
  refine ext_get? fun k => Option.ext fun v => ?_
  rw [get?_ofList m.keys_nodup,get?_eq_some_iff]

/-- A map whose keys are told by its values is the map of its values. -/
theorem ofList_values {key : ν → κ} (keyed : ∀ k v, m.get? k = some v → key v = k) :
    ofList ((m.entries.map Prod.snd).map fun v => (key v,v)) = m := by
  have entries : (m.entries.map Prod.snd).map (fun v => (key v,v)) = m.entries := by
    rw [List.map_map]
    refine (List.map_congr_left fun e inside => ?_).trans (List.map_id _)
    exact Prod.ext (keyed e.1 e.2 (get?_eq_some_iff.mpr inside)) rfl
  rw [entries,ofList_entries]

def insertAll (m : OrdMap κ ν) (l : List (κ × ν)) : OrdMap κ ν := l.foldl (fun m e => m.insert e.1 e.2) m

theorem insertAll_append (m : OrdMap κ ν) (l r : List (κ × ν)) : m.insertAll (l ++ r) = (m.insertAll l).insertAll r :=
  List.foldl_append

theorem get?_insertAll (m : OrdMap κ ν) (l : List (κ × ν)) (k : κ) :
    (m.insertAll l).get? k = ((ofList l).get? k).or (m.get? k) := by
  induction l using List.reverseRecOn with
  | nil => rfl
  | append_singleton l e ih =>
    have last : ofList (l ++ [e]) = (ofList l).insert e.1 e.2 := by simp [ofList]
    have last' : m.insertAll (l ++ [e]) = (m.insertAll l).insert e.1 e.2 := by simp [insertAll]
    rw [last,last',get?_insert,get?_insert,ih]
    split_ifs
    · rfl
    · rfl

theorem entries_insertAll (m : OrdMap κ ν) (distinct : (l.map Prod.fst).Nodup) :
    (m.insertAll l).entries.Perm ((m.filter fun k _ => k ∉ l.map Prod.fst).entries ++ l) := by
  have once (n : OrdMap κ ν) : n.entries.Nodup := List.Nodup.of_map Prod.fst n.keys_nodup
  have apart : ((m.filter fun k _ => k ∉ l.map Prod.fst).entries ++ l).Nodup := by
    refine List.nodup_append.mpr ⟨once _,List.Nodup.of_map Prod.fst distinct,?_⟩
    rintro e kept _ inserted rfl
    have held := get?_eq_some_iff.mpr kept
    rw [get?_filter,Option.filter_eq_some_iff,decide_eq_true_eq] at held
    exact held.2 (List.mem_map_of_mem inserted)
  refine (List.perm_ext_iff_of_nodup (once _) apart).mpr ?_
  rintro ⟨k,v⟩
  rw [List.mem_append,← get?_eq_some_iff,← get?_eq_some_iff,get?_insertAll,get?_filter,← get?_ofList distinct]
  by_cases inserted : k ∈ l.map Prod.fst
  · obtain ⟨⟨key,w⟩,inside,same⟩ := List.mem_map.mp inserted
    cases same
    rw [(get?_ofList distinct).mpr inside]
    cases m.get? key <;> simp [inserted]
  · rw [get?_ofList_eq_none inserted]
    cases m.get? k <;> simp [inserted]

@[simp] theorem keys_mapVals (f : κ → ν → μ) (m : OrdMap κ ν) : (m.mapVals f).keys = m.keys := by
  simp [keys,mapVals,Function.comp_def]

theorem keys_insert_of_mem (m : OrdMap κ ν) (v : ν) (member : k ∈ m.keys) :
    (m.insert k v).keys = m.keys := by
  have permuted : (m.insert k v).keys.Perm m.keys := by
    refine (List.perm_ext_iff_of_nodup (keys_nodup _) (keys_nodup _)).mpr fun k' => ?_
    rw [mem_keys_iff,get?_insert]
    by_cases same : k' = k
    · simp [same,member]
    · simp [same,mem_keys_iff]
  exact permuted.eq_of_pairwise (fun a b _ _ ab ba => absurd ab (not_lt.mpr ba.le))
    (keys_sorted _) (keys_sorted _)

theorem mem_keysWhere :
    k ∈ m.keysWhere p ↔ ∃ v, m.get? k = some v ∧ p k v = true := by
  simp only [keysWhere,List.mem_map,List.mem_filter,get?_eq_some_iff]
  constructor
  · rintro ⟨⟨k',v⟩,⟨inside,holds⟩,rfl⟩
    exact ⟨v,inside,holds⟩
  · rintro ⟨v,inside,holds⟩
    exact ⟨(k,v),⟨inside,holds⟩,rfl⟩

theorem mem_keys_insert : k' ∈ (m.insert k v).keys ↔ k' = k ∨ k' ∈ m.keys := by
  rw [mem_keys_iff,mem_keys_iff,get?_insert]
  by_cases same : k' = k
  · simp [same]
  · simp [same]

theorem keysWhere_sublist (p : κ → ν → Bool) (m : OrdMap κ ν) : (m.keysWhere p).Sublist m.keys :=
  List.Sublist.map _ List.filter_sublist

theorem keysWhere_sorted (p : κ → ν → Bool) (m : OrdMap κ ν) : (m.keysWhere p).Pairwise (· < ·) :=
  m.keys_sorted.sublist (keysWhere_sublist p m)

theorem keysWhere_nodup (p : κ → ν → Bool) (m : OrdMap κ ν) : (m.keysWhere p).Nodup :=
  m.keys_nodup.sublist (keysWhere_sublist p m)

theorem keysWhere_mapVals (p : κ → μ → Bool) (f : κ → ν → μ) (m : OrdMap κ ν) :
    (m.mapVals f).keysWhere p = m.keysWhere fun k v => p k (f k v) := by
  simp [keysWhere,mapVals,List.filter_map,Function.comp_def]

theorem keysWhere_congr {q : κ → ν → Bool} (m : OrdMap κ ν) (same : ∀ k v, m.get? k = some v → p k v = q k v)
    : m.keysWhere p = m.keysWhere q := by
  unfold keysWhere
  congr 1
  apply List.filter_congr
  intro e member
  exact same e.1 e.2 (get?_eq_some_iff.mpr member)

theorem keysWhere_insert_same (m : OrdMap κ ν) {old new : ν} (found : m.get? k = some old) (same : p k new = p k old) :
    (m.insert k new).keysWhere p = m.keysWhere p := by
  have view : (m.insert k new).mapVals p = m.mapVals p := by
    apply ext_get?
    intro k'
    rw [get?_mapVals,get?_mapVals,get?_insert]
    by_cases own : k' = k
    · rw [if_pos own,own,found,Option.map_some,Option.map_some,same]
    · rw [if_neg own]
  have listed (n : OrdMap κ ν) : n.keysWhere p = (n.mapVals p).keysWhere fun _ holds => holds := by
    rw [keysWhere_mapVals]
  rw [listed,listed,view]

def All (P : κ → ν → Prop) (m : OrdMap κ ν) : Prop := ∀ k v, m.get? k = some v → P k v

theorem all_iff : m.All P ↔ ∀ e ∈ m.entries, P e.1 e.2 :=
  ⟨fun all e member => all e.1 e.2 (get?_eq_some_iff.mpr member),
    fun all k v found => all (k,v) (get?_eq_some_iff.mp found)⟩

instance {P : κ → ν → Prop} [∀ k v, Decidable (P k v)] {m : OrdMap κ ν} : Decidable (m.All P) :=
  decidable_of_iff _ all_iff.symm

theorem All.insert (all : m.All P) (new : P k v) : (m.insert k v).All P := by
  intro k' v' found
  rw [get?_insert] at found
  split_ifs at found with same
  · cases found
    exact same ▸ new
  · exact all k' v' found

theorem All.mapVals {Q : κ → μ → Prop} {f : κ → ν → μ} (all : m.All P) (lifted : ∀ k v, P k v → Q k (f k v))
    : (m.mapVals f).All Q := by
  intro k w found
  rw [get?_mapVals] at found
  obtain ⟨v,held,rfl⟩ := Option.map_eq_some_iff.mp found
  exact lifted k v (all k v held)

theorem sumBy_mapVals [AddCommMonoid M] (f : κ → μ → M) (g : κ → ν → μ) (m : OrdMap κ ν) :
    (m.mapVals g).sumBy f = m.sumBy (fun k v => f k (g k v)) := by
  simp [sumBy,mapVals,Function.comp_def]

theorem sumBy_filter [AddCommMonoid M] (p : κ → ν → Bool) (f : κ → ν → M) (m : OrdMap κ ν) :
    (m.filter p).sumBy f = m.sumBy fun k v => if p k v = true then f k v else 0 := by
  obtain ⟨l,sorted⟩ := m
  simp only [sumBy,filter]
  clear sorted
  induction l with
  | nil => rfl
  | cons head rest ih =>
    rw [List.filter_cons,List.map_cons,List.sum_cons,← ih]
    split_ifs
    · rw [List.map_cons,List.sum_cons]
    · rw [zero_add]

theorem sumBy_add [AddCommMonoid M] (f g : κ → ν → M) (m : OrdMap κ ν) :
    m.sumBy (fun k v => f k v + g k v) = m.sumBy f + m.sumBy g := List.sum_map_add

section Sum
variable {M : Type} [AddCommGroup M] (f : κ → ν → M)

theorem sumBy_insert (m : OrdMap κ ν) (k : κ) (v : ν) :
    (m.insert k v).sumBy f = m.sumBy f - ((m.get? k).map (f k)).getD 0 + f k v := by
  obtain ⟨l,sorted⟩ := m
  change ((insertEntry k v l).map (fun e => f e.1 e.2)).sum =
    (l.map (fun e => f e.1 e.2)).sum - ((l.lookup k).map (f k)).getD 0 + f k v
  induction l with
  | nil => simp [insertEntry]
  | cons head rest ih =>
    obtain ⟨above,tail⟩ := List.pairwise_cons.mp sorted
    obtain ⟨h,w⟩ := head
    rw [insertEntry]
    split_ifs with below equal
    · have absent : List.lookup k ((h,w) :: rest) = none := by
        rw [Option.eq_none_iff_forall_ne_some]
        intro u found
        rcases List.mem_cons.mp ((lookup_eq_some_iff sorted).mp found) with same | inside
        · exact absurd below (by cases same; exact lt_irrefl _)
        · exact absurd (below.trans (above _ inside)) (lt_irrefl _)
      simp only [absent,List.map_cons,List.sum_cons,Option.map_none,Option.getD_none]
      abel
    · subst equal
      simp only [List.map_cons,List.sum_cons,List.lookup_cons_self,Option.map_some,Option.getD_some]
      abel
    · have differ : (k == h) = false := by simpa using equal
      simp only [List.map_cons,List.sum_cons,List.lookup_cons,differ,ih tail]
      abel

theorem sumBy_insert_of_get? (m : OrdMap κ ν) {k : κ} {old : ν} (v : ν) (found : m.get? k = some old) :
    (m.insert k v).sumBy f = m.sumBy f - f k old + f k v := by
  rw [sumBy_insert,found]
  rfl

end Sum

theorem sumBy_congr [AddCommMonoid M] {f g : κ → ν → M} (m : OrdMap κ ν)
    (same : ∀ k v, m.get? k = some v → f k v = g k v) : m.sumBy f = m.sumBy g := by
  unfold sumBy
  congr 1
  apply List.map_congr_left
  intro e member
  exact same e.1 e.2 (get?_eq_some_iff.mpr member)

/-! Values that are stored under their keys. -/
section Values
variable {m : OrdMap κ ν} {key : ν → κ} (keyed : ∀ k v, m.get? k = some v → key v = k)
include keyed

theorem map_values : (m.entries.map Prod.snd).map key = m.keys := by
  unfold keys
  rw [List.map_map]
  apply List.map_congr_left
  intro e inside
  exact keyed e.1 e.2 (get?_eq_some_iff.mpr inside)

theorem mem_values {v : ν} : v ∈ m.entries.map Prod.snd ↔ m.get? (key v) = some v := by
  rw [get?_eq_some_iff]
  constructor
  · intro listed
    obtain ⟨⟨k,u⟩,inside,rfl⟩ := List.mem_map.mp listed
    have own : key u = k := keyed k u (get?_eq_some_iff.mpr inside)
    exact own ▸ inside
  · exact fun inside => List.mem_map.mpr ⟨(key v,v),inside,rfl⟩

end Values

/-- The values after an insertion: the new one, and those under the other keys. -/
theorem values_insert (m : OrdMap κ ν) (k : κ) (v : ν) : ((m.insert k v).entries.map Prod.snd).Perm
    (v :: (m.filter fun k' _ => k' ≠ k).entries.map Prod.snd) := by
  have entries := entries_insertAll m (l := [(k,v)]) (by simp)
  have inserted : m.insertAll [(k,v)] = m.insert k v := rfl
  simp only [inserted,List.map_cons,List.map_nil,List.mem_singleton] at entries
  exact (entries.map Prod.snd).trans (by simp)

theorem filter_ne_of_get?_none (absent : m.get? k = none) : (m.filter fun k' _ => k' ≠ k) = m := by
  refine ext_get? fun other => ?_
  rw [get?_filter]
  by_cases same : other = k
  · simp [same,absent]
  · cases m.get? other <;> simp [same]

theorem sum_map_eq_sumBy [DecidableEq ν] [AddCommMonoid M] {key : ν → κ} (keyed : ∀ k v, m.get? k = some v → key v = k)
    (f : ν → M) {l : List ν} (distinct : (l.map key).Nodup) (stored : ∀ v ∈ l, m.get? (key v) = some v)
    : (l.map f).sum = m.sumBy fun _ v => if v ∈ l then f v else 0 := by
  have values : ((m.entries.map Prod.snd).map key).Nodup := by
    rw [map_values keyed]
    exact keys_nodup m
  have same : l.Perm ((m.entries.map Prod.snd).filter (· ∈ l)) := by
    rw [List.perm_ext_iff_of_nodup (List.Nodup.of_map key distinct) ((List.Nodup.of_map key values).filter _)]
    intro v
    rw [List.mem_filter,decide_eq_true_iff,iff_and_self]
    exact fun inside => (mem_values keyed).mpr (stored v inside)
  rw [(same.map f).sum_eq,List.filter_map,List.map_map]
  have filtered := sumBy_filter (fun _ v => decide (v ∈ l)) (fun _ => f) m
  simpa [sumBy,filter,Function.comp_def] using filtered

end OrdMap
end Clawchain.Lib
