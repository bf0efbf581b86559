import Clawchain.Ranking.Finalize
import Mathlib.Data.Prod.Lex
import Mathlib.Order.BooleanAlgebra.Basic

/-! The comparisons of the finalizer follow lexicographic keys, as long as the
floats they look at are finite. -/
namespace Clawchain.Ranking
open Clawchain.Lib Clawchain.Lib.Sorting

namespace F64

def rat : F64 → ℚ
  | finite value => value
  | _ => 0

theorem lt_iff {a b : F64} (finiteA : a.isFinite = true) (finiteB : b.isFinite = true) : lt a b = true ↔ a.rat < b.rat := by
  cases a <;> cases b <;> simp_all [isFinite,lt,rat]

theorem eq_iff {a b : F64} (finiteA : a.isFinite = true) (finiteB : b.isFinite = true) : eq a b = true ↔ a.rat = b.rat := by
  cases a <;> cases b <;> simp_all [isFinite,eq,rat]

end F64

variable (go : Go)

abbrev MemberKey := Bool ×ₗ Int ×ₗ String ×ₗ Bool ×ₗ Int ×ₗ String

def memberSortKey (memberID : String) : MemberKey :=
  let (userID,entry) := parseMemberID go memberID
  let user := toInt go (.text userID)
  toLex (user.isNone,toLex (user.getD 0,toLex (userID,toLex (entry.isNone,toLex (entry.getD 0,memberID)))))

theorem numbers_first {a b : Option Int} {less : Bool} :
    (if a.isSome ∧ b.isSome ∧ a ≠ b then decide (a.getD 0 < b.getD 0)
      else if a.isSome ≠ b.isSome then a.isSome else less) = true ↔
      a.isNone < b.isNone ∨ a.isNone = b.isNone ∧ (a.getD 0 < b.getD 0 ∨ a.getD 0 = b.getD 0 ∧ less = true) := by
  cases a with
  | none => cases b <;> simp
  | some x =>
    cases b with
    | none => simp
    | some y =>
      by_cases same : x = y
      · simp [same]
      · simp [same]

theorem differing_first {κ : Type} [LinearOrder κ] {a b : κ} {less : Bool} :
    (if a ≠ b then decide (a < b) else less) = true ↔ a < b ∨ a = b ∧ less = true := by
  by_cases same : a = b
  · simp [same]
  · simp [same]

theorem memberSortKeyLess_iff (left right : String) :
    memberSortKeyLess go left right = true ↔ memberSortKey go left < memberSortKey go right := by
  unfold memberSortKeyLess memberSortKey
  simp only [Prod.Lex.toLex_lt_toLex]
  rw [numbers_first,differing_first,numbers_first,decide_eq_true_iff]

def scoreKey (alive : ZMember) : ℚ ×ₗ MemberKey := toLex (-alive.score.rat,memberSortKey go alive.member)

theorem canonicalAliveRows_pairwise {rows : List ZMember} (finite : ∀ alive ∈ rows, alive.score.isFinite = true) :
    (canonicalAliveRows go rows).Pairwise fun a b => scoreKey go a ≤ scoreKey go b := by
  apply sortBy_pairwise
  intro a first b second
  have equal := F64.eq_iff (finite a first) (finite b second)
  have greater := F64.lt_iff (finite b second) (finite a first)
  unfold scoreKey
  rw [Prod.Lex.toLex_lt_toLex,neg_lt_neg_iff,neg_inj]
  by_cases same : a.score.rat = b.score.rat
  · rw [if_neg (by simp [equal.mpr same]),memberSortKeyLess_iff]
    simp [same]
  · rw [if_pos (by rw [← Bool.not_eq_true]; exact fun held => same (equal.mp held)),greater]
    simp [same]

theorem canonicalAliveRows_perm (rows : List ZMember) : (canonicalAliveRows go rows).Perm rows := sortBy_perm _ _

def payoutKey (row : FinalRankingRow) : Int ×ₗ Bool ×ₗ ℚ ×ₗ MemberKey :=
  toLex (rankForSort [row.displayRank,row.rank],toLex (decide (row.status ≠ .alive),
    toLex (if row.status = .died then -row.startChip.rat else 0,memberSortKey go row.memberID)))

theorem payoutLess_iff {left right : FinalRankingRow} (leftChip : left.startChip.isFinite = true)
    (rightChip : right.startChip.isFinite = true) (leftEnded : left.status ≠ .pending)
    (rightEnded : right.status ≠ .pending) :
    payoutLess go left right = true ↔ payoutKey go left < payoutKey go right := by
  have equal := F64.eq_iff leftChip rightChip
  have greater := F64.lt_iff rightChip leftChip
  unfold payoutLess payoutKey
  rw [differing_first,Prod.Lex.toLex_lt_toLex,Prod.Lex.toLex_lt_toLex,Prod.Lex.toLex_lt_toLex]
  refine or_congr Iff.rfl (and_congr Iff.rfl ?_)
  cases leftStatus : left.status with
  | pending => exact absurd leftStatus leftEnded
  | alive =>
    cases rightStatus : right.status with
    | pending => exact absurd rightStatus rightEnded
    | alive => simp [memberSortKeyLess_iff]
    | died => simp
  | died =>
    cases rightStatus : right.status with
    | pending => exact absurd rightStatus rightEnded
    | alive => simp
    | died =>
      by_cases same : left.startChip.rat = right.startChip.rat
      · simp [equal.mpr same,memberSortKeyLess_iff,same]
      · have apart : F64.eq left.startChip right.startChip = false := by
          rw [← Bool.not_eq_true]
          exact fun held => same (equal.mp held)
        simp [apart,greater,same]

def finalKey (row : FinalRankingRow) : Bool ×ₗ Int ×ₗ Nat ×ₗ MemberKey :=
  match row.rank with
  | some rank => toLex (false,toLex (rank,toLex (0,memberSortKey go row.memberID)))
  | none =>
    toLex (true,toLex (rankForSort [row.displayRank],
      toLex (statusSortOrder row.status,memberSortKey go row.memberID)))

theorem finalLess_iff (left right : FinalRankingRow) :
    finalLess go left right = true ↔ finalKey go left < finalKey go right := by
  unfold finalLess finalKey
  cases left.rank with
  | some leftRank =>
    cases right.rank with
    | some rightRank =>
      simp only [Prod.Lex.toLex_lt_toLex]
      rw [differing_first,memberSortKeyLess_iff]
      simp
    | none => simp [Prod.Lex.toLex_lt_toLex]
  | none =>
    cases right.rank with
    | some rightRank => simp [Prod.Lex.toLex_lt_toLex]
    | none =>
      simp only [Prod.Lex.toLex_lt_toLex]
      rw [differing_first,differing_first,memberSortKeyLess_iff]
      simp

theorem sortFinalRows_perm (rows : List FinalRankingRow) : (sortFinalRows go rows).Perm rows := sortBy_perm _ _

theorem sortFinalRows_pairwise (rows : List FinalRankingRow) :
    (sortFinalRows go rows).Pairwise fun a b => finalKey go a ≤ finalKey go b :=
  sortBy_pairwise (finalKey go) fun a _ b _ => finalLess_iff go a b

theorem memberSortKey_injective : Function.Injective (memberSortKey go) := by
  intro left right same
  simp only [memberSortKey,toLex_inj,Prod.mk.injEq] at same
  exact same.2.2.2.2.2

section LastKey

variable {α κ : Type} [LinearOrder κ] (first : α → κ) (member : α → String)

def lessThenMember (left right : α) : Bool :=
  if first left ≠ first right then decide (first left < first right)
  else memberSortKeyLess go (member left) (member right)

/-- A possible result of a sort: the rows in an order in which none stands after one that it is less than. -/
def SortResult (less : α → α → Bool) (rows result : List α) : Prop :=
  result.Perm rows ∧ result.Pairwise fun left right => less right left = false

def lastKey (row : α) : κ ×ₗ MemberKey := toLex (first row,memberSortKey go (member row))

theorem lessThenMember_iff (left right : α) :
    lessThenMember go first member left right = true ↔ lastKey go first member left < lastKey go first member right := by
  rw [lessThenMember,differing_first,memberSortKeyLess_iff,lastKey,lastKey,Prod.Lex.toLex_lt_toLex]

theorem sortResult_sorted {rows result : List α} (sorted : SortResult (lessThenMember go first member) rows result) :
    result.Pairwise fun left right => lastKey go first member left ≤ lastKey go first member right := by
  refine sorted.2.imp fun {left right} notLess => ?_
  have later := mt (lessThenMember_iff go first member right left).mpr (by simp [notLess])
  exact not_lt.mp later

theorem sortResult_unique {rows result other : List α} (one : SortResult (lessThenMember go first member) rows result)
    (two : SortResult (lessThenMember go first member) rows other) :
    result.map (fun row => (first row,member row)) = other.map fun row => (first row,member row) := by
  have keys : result.map (lastKey go first member) = other.map (lastKey go first member) := by
    apply @List.Perm.eq_of_pairwise _ (fun a b => a ≤ b)
    · exact fun a b _ _ below above => le_antisymm below above
    · exact List.pairwise_map.mpr (sortResult_sorted go first member one)
    · exact List.pairwise_map.mpr (sortResult_sorted go first member two)
    · exact (one.1.trans two.1.symm).map _
  have injective : ∀ a b : α, lastKey go first member a = lastKey go first member b →
      (first a,member a) = (first b,member b) := by
    intro a b same
    simp only [lastKey,toLex_inj,Prod.mk.injEq] at same
    exact Prod.ext same.1 (memberSortKey_injective go same.2)
  have length := congrArg List.length keys
  simp only [List.length_map] at length
  apply List.ext_getElem (by simpa using length)
  intro i below below'
  simp only [List.length_map] at below below'
  have here := List.getElem_of_eq keys (by simpa using below)
  simp only [List.getElem_map] at here ⊢
  exact injective _ _ here

end LastKey

/-- The order of members is strict and total, so a sort that uses it as its last key has one possible result. -/
theorem memberSortKeyLess_strictTotal :
    (∀ a, memberSortKeyLess go a a = false) ∧
    (∀ a b c, memberSortKeyLess go a b = true → memberSortKeyLess go b c = true → memberSortKeyLess go a c = true) ∧
    (∀ a b, a ≠ b → (memberSortKeyLess go a b = true ↔ memberSortKeyLess go b a = false)) ∧
    (∀ names others : List String, names.Perm others →
      sortBy (memberSortKeyLess go) names = sortBy (memberSortKeyLess go) others) ∧
    ∀ {α κ : Type} [LinearOrder κ] (first : α → κ) (member : α → String) (rows result other : List α),
      SortResult (lessThenMember go first member) rows result → SortResult (lessThenMember go first member) rows other →
      result.map (fun row => (first row,member row)) = other.map fun row => (first row,member row) := by
  refine ⟨fun a => ?_,fun a b c => ?_,fun a b differ => ?_,fun names others perm => ?_,fun first member _ _ _ => sortResult_unique go first member⟩
  · rw [← Bool.not_eq_true,memberSortKeyLess_iff]
    exact lt_irrefl (memberSortKey go a)
  · simp only [memberSortKeyLess_iff]
    exact lt_trans
  · rw [← Bool.not_eq_true,memberSortKeyLess_iff,memberSortKeyLess_iff,not_lt]
    exact ((memberSortKey_injective go).ne differ).le_iff_lt.symm
  · exact sortBy_eq_of_perm (memberSortKey go) (fun a _ b _ => memberSortKeyLess_iff go a b)
      (fun _ _ _ _ same => memberSortKey_injective go same) perm

end Clawchain.Ranking
