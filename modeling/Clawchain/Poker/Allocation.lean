import Clawchain.Lib.Quotas
import Clawchain.Poker.Reconcile

/-! Splitting a reward pool by weights: what every item gets of it. -/
namespace Clawchain.Poker
open Clawchain.Lib

def allotted (shares : List (String × Nat)) (item : String × ℚ) : Nat := (shares.lookup item.1).getD 0

/-- What an item would get if units could be split. -/
def quotaOf (items : List (String × ℚ)) (total : Nat) (item : String × ℚ) : ℚ :=
  if ∃ other ∈ items, 0 < other.2 then total * max 0 item.2 / (items.map fun other => max 0 other.2).sum
  else total / items.length

/-- A pool is given out whole, each item has its quota rounded to one side, and weights are respected. -/
structure Fair (items : List (String × ℚ)) (total : Nat) (shares : List (String × Nat)) : Prop where
  ids : shares.map Prod.fst = items.map Prod.fst
  whole : items ≠ [] → (shares.map Prod.snd).sum = total
  rounded : ∀ item ∈ items, (allotted shares item : Int) = ⌊quotaOf items total item⌋ ∨
    (allotted shares item : Int) = ⌈quotaOf items total item⌉
  weightless : (∃ other ∈ items, 0 < other.2) → ∀ item ∈ items, item.2 ≤ 0 → allotted shares item = 0
  ordered : (∃ other ∈ items, 0 < other.2) → ∀ small ∈ items, ∀ large ∈ items, small.2 < large.2 →
    allotted shares small ≤ allotted shares large
  alike : ∀ one ∈ items, ∀ other ∈ items, one.2 = other.2 → allotted shares one ≤ allotted shares other + 1

def counted (items : List (String × ℚ)) (item : String × ℚ) : String × ℚ :=
  if ∃ other ∈ items, 0 < other.2 then (item.1,max 0 item.2) else (item.1,1)

theorem counted_id (items : List (String × ℚ)) (item : String × ℚ) : (counted items item).1 = item.1 := by
  unfold counted
  split_ifs <;> rfl

theorem sum_max_pos {items : List (String × ℚ)} : 0 < (items.map fun item => max 0 item.2).sum ↔ ∃ item ∈ items, 0 < item.2 := by
  have nonneg : ∀ weight ∈ items.map fun item => max 0 item.2, (0 : ℚ) ≤ weight := by
    intro weight inside
    obtain ⟨item,-,rfl⟩ := List.mem_map.mp inside
    exact le_max_left _ _
  constructor
  · intro positive
    by_contra none_
    push Not at none_
    have zero : items.map (fun item => max 0 item.2) = items.map fun _ => (0 : ℚ) :=
      List.map_congr_left fun item inside => max_eq_left (none_ item inside)
    simp [zero] at positive
  · rintro ⟨item,inside,positive⟩
    have single := List.single_le_sum nonneg _ (List.mem_map_of_mem (f := fun item : String × ℚ => max 0 item.2) inside)
    exact (lt_max_of_lt_right positive).trans_le single

theorem lookup_of_mem {shares : List (String × Nat)} (distinct : (shares.map Prod.fst).Nodup) {id : String} {share : Nat}
    (inside : (id,share) ∈ shares) : shares.lookup id = some share := by
  induction shares with
  | nil => cases inside
  | cons first rest ih =>
    rw [List.map_cons,List.nodup_cons] at distinct
    rcases List.mem_cons.mp inside with same | later
    · simp [← same]
    · have apart : id ≠ first.1 := fun same => distinct.1 (same ▸ List.mem_map_of_mem (f := Prod.fst) later)
      rw [List.lookup_cons,beq_eq_false_iff_ne.mpr apart]
      exact ih distinct.2 later

section Counted
variable {items : List (String × ℚ)}

def countedWeight (items : List (String × ℚ)) : ℚ := ((items.map (counted items)).map Prod.snd).sum

theorem counted_positive (some_ : ∃ other ∈ items, 0 < other.2) (item : String × ℚ) : (counted items item).2 = max 0 item.2 := by
  simp [counted,some_]

theorem counted_equal (none_ : ¬∃ other ∈ items, 0 < other.2) (item : String × ℚ) : (counted items item).2 = 1 := by
  simp [counted,if_neg none_]

theorem countedWeight_positive (some_ : ∃ other ∈ items, 0 < other.2) :
    countedWeight items = (items.map fun item => max 0 item.2).sum := by
  unfold countedWeight
  rw [List.map_map]
  exact congrArg _ (List.map_congr_left fun item _ => counted_positive some_ item)

theorem countedWeight_equal (none_ : ¬∃ other ∈ items, 0 < other.2) : countedWeight items = items.length := by
  have ones : (items.map (counted items)).map Prod.snd = items.map fun _ => (1 : ℚ) := by
    rw [List.map_map]
    exact List.map_congr_left fun item _ => counted_equal none_ item
  unfold countedWeight
  rw [ones]
  simp

theorem counted_weighed (distinct : (items.map Prod.fst).Nodup) (some_ : items ≠ []) :
    Apportion.Weighed (items.map (counted items)) (countedWeight items) where
  distinct := by
    have same : (items.map (counted items)).map Prod.fst = items.map Prod.fst := by
      rw [List.map_map]
      exact List.map_congr_left fun item _ => counted_id items item
    rw [same]
    exact distinct
  nonneg := by
    intro weighed inside
    obtain ⟨item,-,rfl⟩ := List.mem_map.mp inside
    by_cases positive : ∃ other ∈ items, 0 < other.2
    · rw [counted_positive positive]
      exact le_max_left _ _
    · rw [counted_equal positive]
      exact zero_le_one
  sum := rfl
  positive := by
    by_cases positive : ∃ other ∈ items, 0 < other.2
    · rw [countedWeight_positive positive]
      exact sum_max_pos.mpr positive
    · rw [countedWeight_equal positive]
      exact_mod_cast List.length_pos_of_ne_nil some_

theorem quota_counted (total : Nat) (item : String × ℚ) :
    Apportion.quota (countedWeight items) total (counted items item).2 = quotaOf items total item := by
  unfold Apportion.quota quotaOf
  by_cases positive : ∃ other ∈ items, 0 < other.2
  · rw [if_pos positive,counted_positive positive,countedWeight_positive positive]
    ring
  · rw [if_neg positive,counted_equal positive,countedWeight_equal positive]
    ring

end Counted

section Exact
variable {settings : PokerSettings} (exact_ : settings.floats = Apportion.exactly)
include exact_

theorem allocationWeights_exactly (items : List (String × ℚ)) :
    allocationWeights settings items = (items.map (counted items),countedWeight items) := by
  unfold allocationWeights
  rw [exact_]
  have sum : Apportion.exactly.sum = List.sum := rfl
  have round (x : ℚ) : Apportion.exactly.round x = x := rfl
  by_cases some_ : ∃ other ∈ items, 0 < other.2
  · have all : counted items = fun item => (item.1,max 0 item.2) := by
      funext item
      exact if_pos some_
    have positive := sum_max_pos.mpr some_
    simp only [sum,List.map_map,Function.comp_def,if_neg (not_le.mpr positive),countedWeight_positive some_,all]
  · have all : counted items = fun item => (item.1,1) := by
      funext item
      exact if_neg some_
    simp only [sum,round,List.map_map,Function.comp_def,if_pos (not_lt.mp (mt sum_max_pos.mp some_)),
      countedWeight_equal some_,all]

variable {items : List (String × ℚ)} {total : Nat}

theorem allocations_exactly (some_ : items ≠ []) (pool : 0 < total) : allocateIntegerPoolByWeights settings items total =
    items.map fun item => (item.1,Apportion.share Apportion.exactly (countedWeight items) total (items.map (counted items))
      (counted items item)) := by
  unfold allocateIntegerPoolByWeights
  rw [if_neg (by simp [some_,pool.ne']),allocationWeights_exactly exact_,exact_]
  simp only [List.map_map]
  exact List.map_congr_left fun item _ => Prod.ext (counted_id items item) rfl

theorem allotted_exactly (distinct : (items.map Prod.fst).Nodup) (pool : 0 < total) {item : String × ℚ} (inside : item ∈ items) :
    allotted (allocateIntegerPoolByWeights settings items total) item =
      Apportion.share Apportion.exactly (countedWeight items) total (items.map (counted items)) (counted items item) := by
  rw [allocations_exactly exact_ (List.ne_nil_of_mem inside) pool]
  unfold allotted
  have listed := List.mem_map_of_mem (f := fun item => (item.1,Apportion.share Apportion.exactly (countedWeight items) total
    (items.map (counted items)) (counted items item))) inside
  rw [lookup_of_mem _ listed]
  · rfl
  · simpa [Function.comp_def] using distinct

theorem allocation_fair (distinct : (items.map Prod.fst).Nodup) (pool : 0 < total) :
    Fair items total (allocateIntegerPoolByWeights settings items total) where
  ids := by
    by_cases some_ : items = []
    · simp [allocateIntegerPoolByWeights,some_]
    · simp [allocations_exactly exact_ some_ pool]
  whole := by
    intro some_
    have given := @Apportion.sum_share_exactly _ _ _ (counted_weighed distinct some_) total _
    simp only [List.map_map] at given
    rw [allocations_exactly exact_ some_ pool,List.map_map]
    exact given
  rounded := by
    intro item inside
    have weighed := counted_weighed distinct (List.ne_nil_of_mem inside)
    rw [allotted_exactly exact_ distinct pool inside,← quota_counted]
    exact Apportion.share_rounds weighed (List.mem_map_of_mem inside)
  weightless := by
    intro positive item inside none_
    have weighed := counted_weighed distinct (List.ne_nil_of_mem inside)
    rw [allotted_exactly exact_ distinct pool inside]
    exact Apportion.share_zero weighed (List.mem_map_of_mem inside) ((counted_positive positive item).trans (max_eq_left none_))
  ordered := by
    intro positive small inside large inside' less
    have weighed := counted_weighed distinct (List.ne_nil_of_mem inside)
    rcases le_or_gt large.2 0 with none_ | some_
    · have zero : (counted items small).2 = 0 := (counted_positive positive small).trans (max_eq_left (less.le.trans none_))
      rw [allotted_exactly exact_ distinct pool inside,Apportion.share_zero weighed (List.mem_map_of_mem inside) zero]
      exact Nat.zero_le _
    · rw [allotted_exactly exact_ distinct pool inside,allotted_exactly exact_ distinct pool inside']
      apply Apportion.share_mono weighed pool (List.mem_map_of_mem inside) (List.mem_map_of_mem inside')
      rw [counted_positive positive,counted_positive positive]
      exact max_lt (lt_max_of_lt_right some_) (lt_max_of_lt_right less)
  alike := by
    intro one inside other inside' same
    rw [allotted_exactly exact_ distinct pool inside,allotted_exactly exact_ distinct pool inside']
    apply Apportion.share_same
    unfold counted
    split_ifs
    · exact congrArg (max 0) same
    · rfl

theorem allocation_perm {other : List (String × ℚ)} (pool : 0 < total) (perm : items.Perm other) :
    (allocateIntegerPoolByWeights settings items total).Perm (allocateIntegerPoolByWeights settings other total) := by
  by_cases none_ : items = []
  · rw [none_,List.nil_perm] at perm
    rw [none_,perm]
  · have some_ : other ≠ [] := fun gone => none_ (List.perm_nil.mp (gone ▸ perm))
    have same : counted items = counted other := by
      funext item
      unfold counted
      simp only [perm.mem_iff]
    have weight : countedWeight items = countedWeight other := by
      unfold countedWeight
      rw [same]
      exact ((perm.map _).map _).sum_eq
    rw [allocations_exactly exact_ none_ pool,allocations_exactly exact_ some_ pool,weight,same]
    have shares : (fun item => (item.1,Apportion.share Apportion.exactly (countedWeight other) total (items.map (counted other))
        (counted other item))) = fun item : String × ℚ => (item.1,Apportion.share Apportion.exactly (countedWeight other) total
        (other.map (counted other)) (counted other item)) := by
      funext item
      rw [Apportion.share_perm (perm.map _)]
    rw [shares]
    exact perm.map _

omit exact_ in
/-- The split of a pool is fair, and it does not depend on the order of the items. -/
theorem allocation_exact_and_fair (numbers : settings.floats = Apportion.exactly) (distinct : (items.map Prod.fst).Nodup)
    (pool : 0 < total) : Fair items total (allocateIntegerPoolByWeights settings items total) ∧
      ∀ other, items.Perm other →
        (allocateIntegerPoolByWeights settings items total).Perm (allocateIntegerPoolByWeights settings other total) :=
  ⟨allocation_fair numbers distinct pool,fun _ perm => allocation_perm numbers pool perm⟩

end Exact

/-! A pool of seven for three items, and a pool of one for two items without weight. -/

def exactSettings : PokerSettings := { plainPokerSettings with floats := Apportion.exactly }

theorem allocation_exact_and_fair_seven : Fair [("a",3),("b",0),("c",2)] 7 [("a",4),("b",0),("c",3)] := by
  have claim := (@allocation_exact_and_fair exactSettings [("a",3),("b",0),("c",2)] 7 rfl (by decide) (by decide)).1
  have shares : allocateIntegerPoolByWeights exactSettings [("a",3),("b",0),("c",2)] 7 = [("a",4),("b",0),("c",3)] := by
    decide +kernel
  rwa [shares] at claim

/-- Without positive weight all quotas are equal, and the smaller weight has the unit. -/
theorem smaller_weight_gets_more : allocateIntegerPoolByWeights exactSettings [("a",-1),("b",0)] 1 = [("a",1),("b",0)] := by
  decide +kernel

end Clawchain.Poker
