import Clawchain.Lib.Apportion
import Mathlib.Algebra.BigOperators.Ring.Finset
import Mathlib.Algebra.Order.BigOperators.Group.List
import Mathlib.Data.Rat.Floor
import Mathlib.Tactic.Ring

/-! The split of a pool by weights in exact numbers: every share is its quota rounded to one side, and only positive
remainders are rounded up. -/
namespace Clawchain.Lib.Apportion

def exactly : Floats := ⟨id,List.sum⟩

section Sorted
variable {κ : Type} [LinearOrder κ]

instance : Std.Total (@bestFirst κ _) where
  total a b := by
    rcases lt_trichotomy a.2 b.2 with less | same | more
    · exact .inr (.inl less)
    · rcases le_total a.1 b.1 with first | second
      · exact .inl (.inr ⟨same,first⟩)
      · exact .inr (.inr ⟨same.symm,second⟩)
    · exact .inl (.inl more)

instance : IsTrans (κ × ℚ) bestFirst where
  trans a b c := by
    rintro (one | ⟨one,first⟩) (two | ⟨two,second⟩)
    · exact .inl (two.trans one)
    · exact .inl (two ▸ one)
    · exact .inl (one ▸ two)
    · exact .inr ⟨one.trans two,first.trans second⟩

theorem bestFirst_antisymm {a b : κ × ℚ} (one : bestFirst a b) (two : bestFirst b a) : a = b := by
  rcases one with one | ⟨same,first⟩ <;> rcases two with two | ⟨_,second⟩
  · exact absurd one (not_lt.mpr two.le)
  · exact absurd one (by simp [*])
  · exact absurd two (by simp [same])
  · exact Prod.ext (le_antisymm first second) same

instance : Std.Antisymm (@bestFirst κ _) := ⟨fun _ _ => bestFirst_antisymm⟩

theorem mem_take_of_before {l : List (κ × ℚ)} (sorted : l.Pairwise bestFirst) {n : Nat} {a b : κ × ℚ} (taken : a ∈ l.take n)
    (inside : b ∈ l) (before : bestFirst b a) : b ∈ l.take n := by
  rw [← List.take_append_drop n l] at sorted inside
  rcases List.mem_append.mp inside with taken_too | dropped
  · exact taken_too
  · have behind := (List.pairwise_append.mp sorted).2.2 a taken b dropped
    exact bestFirst_antisymm behind before ▸ taken

end Sorted

section Exact
variable {κ : Type}

def quota (totalWeight : ℚ) (total : Nat) (weight : ℚ) : ℚ := weight / totalWeight * total

structure Weighed (items : List (κ × ℚ)) (totalWeight : ℚ) : Prop where
  distinct : (items.map Prod.fst).Nodup
  nonneg : ∀ item ∈ items, 0 ≤ item.2
  sum : (items.map Prod.snd).sum = totalWeight
  positive : 0 < totalWeight

variable {items : List (κ × ℚ)} {totalWeight : ℚ} (weighed : Weighed items totalWeight) {total : Nat}

theorem quota_mono (positive : 0 < totalWeight) {small large : ℚ} (le : small ≤ large) :
    quota totalWeight total small ≤ quota totalWeight total large := by
  unfold quota
  gcongr

theorem quota_nonneg (positive : 0 < totalWeight) {weight : ℚ} (nonneg : 0 ≤ weight) : 0 ≤ quota totalWeight total weight := by
  unfold quota
  positivity

theorem base_exactly (positive : 0 < totalWeight) {weight : ℚ} (nonneg : 0 ≤ weight) :
    (base exactly totalWeight total weight : Int) = ⌊quota totalWeight total weight⌋ :=
  Int.toNat_of_nonneg (Int.floor_nonneg.mpr (quota_nonneg positive nonneg))

theorem remainder_exactly (positive : 0 < totalWeight) {weight : ℚ} (nonneg : 0 ≤ weight) :
    remainder exactly totalWeight total weight = Int.fract (quota totalWeight total weight) := by
  have floor := @base_exactly totalWeight total positive weight nonneg
  have cast : ((base exactly totalWeight total weight : Nat) : ℚ) = (⌊quota totalWeight total weight⌋ : ℚ) := by
    rw [← floor]
    rfl
  change quota totalWeight total weight - (base exactly totalWeight total weight : ℚ) = _
  rw [cast]
  rfl

include weighed

theorem sum_quota : (items.map fun item => quota totalWeight total item.2).sum = total := by
  have scaled : (items.map fun item => quota totalWeight total item.2).sum = (items.map Prod.snd).sum * (total / totalWeight) := by
    rw [← List.sum_map_mul_right]
    congr 1
    apply List.map_congr_left
    intro item _
    change item.2 / totalWeight * total = item.2 * (total / totalWeight)
    ring
  have nonzero := weighed.positive.ne'
  rw [scaled,weighed.sum]
  field_simp

theorem leftOver_eq : (leftOver exactly totalWeight total items : ℚ) =
    (items.map fun item => Int.fract (quota totalWeight total item.2)).sum := by
  have whole := @sum_quota κ items totalWeight weighed total
  have parts : (items.map fun item => quota totalWeight total item.2).sum =
      (items.map fun item => (base exactly totalWeight total item.2 : ℚ)).sum +
        (items.map fun item => Int.fract (quota totalWeight total item.2)).sum := by
    rw [← List.sum_map_add]
    congr 1
    apply List.map_congr_left
    intro item inside
    have floor := @base_exactly totalWeight total weighed.positive item.2 (weighed.nonneg item inside)
    have cast : ((base exactly totalWeight total item.2 : Nat) : ℚ) = (⌊quota totalWeight total item.2⌋ : ℚ) := by
      rw [← floor]
      rfl
    rw [cast,Int.floor_add_fract]
  unfold leftOver
  push_cast
  rw [parts] at whole
  rw [← whole]
  simp only [List.map_map,Function.comp_def,Int.cast_natCast]
  ring

theorem leftOver_nonneg : 0 ≤ leftOver exactly totalWeight total items := by
  have fractions := @leftOver_eq κ items totalWeight weighed total
  have nonneg : (0 : ℚ) ≤ leftOver exactly totalWeight total items := by
    rw [fractions]
    apply List.sum_nonneg
    intro part inside
    obtain ⟨item,-,rfl⟩ := List.mem_map.mp inside
    exact Int.fract_nonneg _
  exact_mod_cast nonneg

omit weighed in
theorem sum_le_positive {α : Type} (l : List α) (part : α → ℚ) (below : ∀ a, part a < 1) (nonneg : ∀ a, 0 ≤ part a) :
    (l.map part).sum ≤ (l.filter fun a => 0 < part a).length := by
  induction l with
  | nil => simp
  | cons a rest ih =>
    rw [List.map_cons,List.sum_cons,List.filter_cons]
    by_cases positive : 0 < part a
    · simp only [positive,decide_true,if_true,List.length_cons]
      push_cast
      linarith [below a]
    · have none_ : part a = 0 := le_antisymm (not_lt.mp positive) (nonneg a)
      simp only [none_,zero_add,lt_self_iff_false,decide_false,Bool.false_eq_true,if_false]
      exact ih

theorem leftOver_le : leftOver exactly totalWeight total items ≤
    (items.filter fun item => 0 < Int.fract (quota totalWeight total item.2)).length := by
  have fractions := @leftOver_eq κ items totalWeight weighed total
  have bound := sum_le_positive items (fun item => Int.fract (quota totalWeight total item.2)) (fun _ => Int.fract_lt_one _)
    fun _ => Int.fract_nonneg _
  rw [← fractions] at bound
  exact_mod_cast bound

variable [LinearOrder κ]
variable {item : κ × ℚ}

theorem sum_share_exactly : (items.map (share exactly totalWeight total items)).sum = total := by
  rw [sum_share_eq weighed.distinct]
  have filtered := List.length_filter_le (fun item => decide (0 < Int.fract (quota totalWeight total item.2))) items
  have bound := @leftOver_le κ items totalWeight weighed total
  exact ⟨leftOver_nonneg weighed,by omega⟩

omit weighed in
def ranked (totalWeight : ℚ) (total : Nat) (items : List (κ × ℚ)) : List (κ × ℚ) :=
  (items.map fun item => (item.1,remainder exactly totalWeight total item.2)).insertionSort bestFirst

omit weighed in
theorem ranked_perm : (ranked totalWeight total items).Perm
    (items.map fun item => (item.1,remainder exactly totalWeight total item.2)) := List.perm_insertionSort _ _

omit weighed in
theorem ranked_sorted : (ranked totalWeight total items).Pairwise bestFirst := List.pairwise_insertionSort _ _

theorem mem_favoured (inside : item ∈ items) : item.1 ∈ favoured exactly totalWeight total items ↔
    (item.1,remainder exactly totalWeight total item.2) ∈
      (ranked totalWeight total items).take (leftOver exactly totalWeight total items).toNat := by
  have taken : favoured exactly totalWeight total items =
      ((ranked totalWeight total items).take (leftOver exactly totalWeight total items).toNat).map Prod.fst := by
    unfold favoured slice
    rw [if_pos (leftOver_nonneg weighed)]
    rfl
  rw [taken,List.mem_map]
  constructor
  · rintro ⟨pair,chosen,same⟩
    obtain ⟨other,listed,rfl⟩ := List.mem_map.mp (ranked_perm.subset (List.mem_of_mem_take chosen))
    obtain rfl : other = item := List.inj_on_of_nodup_map weighed.distinct listed inside same
    exact chosen
  · exact fun chosen => ⟨_,chosen,rfl⟩

theorem favoured_of_larger {small large : κ × ℚ} (inside : small ∈ items) (inside' : large ∈ items)
    (less : remainder exactly totalWeight total small.2 < remainder exactly totalWeight total large.2)
    (chosen : small.1 ∈ favoured exactly totalWeight total items) : large.1 ∈ favoured exactly totalWeight total items := by
  rw [mem_favoured weighed inside] at chosen
  rw [mem_favoured weighed inside']
  have listed : (large.1,remainder exactly totalWeight total large.2) ∈ ranked totalWeight total items :=
    ranked_perm.symm.subset (List.mem_map_of_mem (f := fun item => (item.1,remainder exactly totalWeight total item.2)) inside')
  exact mem_take_of_before ranked_sorted chosen listed (.inl less)

theorem favoured_positive (inside : item ∈ items) (chosen : item.1 ∈ favoured exactly totalWeight total items) :
    0 < Int.fract (quota totalWeight total item.2) := by
  by_contra whole
  have fraction {other : κ × ℚ} (listed : other ∈ items) := @remainder_exactly totalWeight total weighed.positive other.2
    (weighed.nonneg other listed)
  let positives := items.filter fun item => 0 < Int.fract (quota totalWeight total item.2)
  have among : ∀ id ∈ (item :: positives).map Prod.fst, id ∈ favoured exactly totalWeight total items := by
    rw [List.map_cons]
    intro id listed
    rcases List.mem_cons.mp listed with rfl | listed
    · exact chosen
    · obtain ⟨other,positive,rfl⟩ := List.mem_map.mp listed
      obtain ⟨other_in,more⟩ := List.mem_filter.mp positive
      apply favoured_of_larger weighed inside other_in _ chosen
      rw [fraction inside,fraction other_in]
      exact (not_lt.mp whole).trans_lt (of_decide_eq_true more)
  have apart : ((item :: positives).map Prod.fst).Nodup := by
    rw [List.map_cons,List.nodup_cons]
    refine ⟨fun again => ?_,weighed.distinct.sublist ((List.filter_sublist).map _)⟩
    obtain ⟨other,positive,same⟩ := List.mem_map.mp again
    obtain ⟨other_in,more⟩ := List.mem_filter.mp positive
    obtain rfl : other = item := List.inj_on_of_nodup_map weighed.distinct other_in inside same
    exact whole (of_decide_eq_true more)
  have fits := (List.subperm_of_subset apart among).length_le
  have given : (favoured exactly totalWeight total items).length ≤ (leftOver exactly totalWeight total items).toNat := by
    unfold favoured slice
    rw [if_pos (leftOver_nonneg weighed),List.length_map,List.length_take]
    exact min_le_left _ _
  have bound := @leftOver_le κ items totalWeight weighed total
  rw [List.length_map,List.length_cons] at fits
  change leftOver exactly totalWeight total items ≤ positives.length at bound
  omega

theorem share_rounds {item : κ × ℚ} (inside : item ∈ items) :
    (share exactly totalWeight total items item : Int) = ⌊quota totalWeight total item.2⌋ ∨
      (share exactly totalWeight total items item : Int) = ⌈quota totalWeight total item.2⌉ := by
  have floor := @base_exactly totalWeight total weighed.positive item.2 (weighed.nonneg item inside)
  unfold share
  split_ifs with chosen
  · have positive := favoured_positive weighed inside chosen
    right
    push_cast
    rw [floor,eq_comm,Int.ceil_eq_iff]
    have parts := Int.floor_add_fract (quota totalWeight total item.2)
    have less := Int.fract_lt_one (quota totalWeight total item.2)
    push_cast
    constructor <;> linarith
  · exact .inl floor

theorem share_zero (inside : item ∈ items) (none_ : item.2 = 0) :
    share exactly totalWeight total items item = 0 := by
  have rounded := @share_rounds κ items totalWeight weighed total _ item inside
  simp only [none_,quota,zero_div,zero_mul,Int.floor_zero,Int.ceil_zero,or_self] at rounded
  exact_mod_cast rounded

theorem share_mono {small large : κ × ℚ} (some_ : 0 < total) (inside : small ∈ items) (inside' : large ∈ items)
    (less : small.2 < large.2) : share exactly totalWeight total items small ≤ share exactly totalWeight total items large := by
  have positive := weighed.positive
  have small_nonneg := weighed.nonneg small inside
  have large_nonneg := weighed.nonneg large inside'
  have ordered := @quota_mono totalWeight total positive _ _ less.le
  have floors : base exactly totalWeight total small.2 ≤ base exactly totalWeight total large.2 := by
    have cast := Int.floor_le_floor ordered
    rw [← base_exactly positive small_nonneg,← base_exactly positive large_nonneg] at cast
    exact_mod_cast cast
  unfold share
  by_cases chosen : small.1 ∈ favoured exactly totalWeight total items
  · rw [if_pos chosen]
    rcases floors.lt_or_eq with below | same
    · omega
    · have strictly : quota totalWeight total small.2 < quota totalWeight total large.2 := by
        unfold quota
        have many : (0 : ℚ) < total := by exact_mod_cast some_
        gcongr
      have floors_same : ⌊quota totalWeight total small.2⌋ = ⌊quota totalWeight total large.2⌋ := by
        rw [← base_exactly positive small_nonneg,← base_exactly positive large_nonneg,same]
      have remainders : remainder exactly totalWeight total small.2 < remainder exactly totalWeight total large.2 := by
        rw [remainder_exactly positive small_nonneg,remainder_exactly positive large_nonneg]
        unfold Int.fract
        rw [floors_same]
        linarith
      rw [if_pos (favoured_of_larger weighed inside inside' remainders chosen),same]
  · rw [if_neg chosen]
    omega

omit weighed in
theorem share_same {one other : κ × ℚ} (same : one.2 = other.2) :
    share exactly totalWeight total items one ≤ share exactly totalWeight total items other + 1 := by
  unfold share
  rw [same]
  split_ifs <;> omega

omit weighed in
theorem share_perm {other : List (κ × ℚ)} (perm : items.Perm other) (item : κ × ℚ) :
    share exactly totalWeight total items item = share exactly totalWeight total other item := by
  have left : leftOver exactly totalWeight total items = leftOver exactly totalWeight total other := by
    unfold leftOver
    rw [(perm.map fun item => base exactly totalWeight total item.2).sum_eq]
  have order : ranked totalWeight total items = ranked totalWeight total other :=
    List.Perm.eq_of_pairwise' ranked_sorted ranked_sorted
      (ranked_perm.trans ((perm.map _).trans ranked_perm.symm))
  have chosen : favoured exactly totalWeight total items = favoured exactly totalWeight total other := by
    change (slice _ (ranked totalWeight total items)).map Prod.fst = (slice _ (ranked totalWeight total other)).map Prod.fst
    rw [order,left]
  unfold share
  rw [chosen]

end Exact
end Clawchain.Lib.Apportion
