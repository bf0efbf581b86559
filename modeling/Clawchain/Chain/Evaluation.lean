import Clawchain.Chain.MapOrder

/-! The evaluation of a challenge against its miners: who answered, and who was assigned and did not. -/
namespace Clawchain.Chain.Challenges
open Clawchain.Lib

def Concerned (ch : Challenge) (addr : String) : Prop := (ch.reveals.get? addr).isSome ∨ addr ∈ ch.assignees

instance (ch : Challenge) (addr : String) : Decidable (Concerned ch addr) := inferInstanceAs (Decidable (_ ∨ _))

/-- Everybody concerned is listed once, nobody else is, and who is listed as completed gave the consensus answer. -/
structure Partitions (ch : Challenge) (result : ChallengeResult) : Prop where
  once : ∀ addr, (result.completedMiners ++ result.failedMiners).count addr = if Concerned ch addr then 1 else 0
  completed : ∀ addr, addr ∈ result.completedMiners ↔ ch.reveals.get? addr = some result.consensusAnswer

section Partition
variable {ranges : Ranges} {id : String} {ch : Challenge}

theorem count_answered (addr : String) :
    ((ranges.penalise.entries ch.reveals).map Prod.fst).count addr = if (ch.reveals.get? addr).isSome then 1 else 0 := by
  have same := (ranges.penalise.entries_perm ch.reveals).map Prod.fst
  rw [same.count_eq]
  change ch.reveals.keys.count addr = _
  split_ifs with answered
  · exact List.count_eq_one_of_mem ch.reveals.keys_nodup (OrdMap.mem_keys_iff.mpr (Option.isSome_iff_exists.mp answered))
  · rw [List.count_eq_zero]
    exact fun inside => answered (Option.isSome_iff_exists.mpr (OrdMap.mem_keys_iff.mp inside))

theorem mem_answered (pass : String → Bool) (addr : String) :
    addr ∈ answered ranges ch pass ↔ ∃ answer, ch.reveals.get? addr = some answer ∧ pass answer := by
  unfold answered
  rw [List.mem_map]
  constructor
  · rintro ⟨⟨other,answer⟩,inside,rfl⟩
    obtain ⟨listed,passes⟩ := List.mem_filter.mp inside
    exact ⟨answer,OrdMap.get?_eq_some_iff.mpr ((ranges.penalise.entries_perm _).subset listed),passes⟩
  · rintro ⟨answer,found,passes⟩
    refine ⟨(addr,answer),List.mem_filter.mpr ⟨?_,passes⟩,rfl⟩
    exact (ranges.penalise.entries_perm _).symm.subset (OrdMap.get?_eq_some_iff.mp found)

theorem count_judged (consensus addr : String) :
    (answered ranges ch (fun answer => answer = consensus) ++ answered ranges ch fun answer => answer ≠ consensus).count addr =
      if (ch.reveals.get? addr).isSome then 1 else 0 := by
  rw [← @count_answered ranges]
  unfold answered
  rw [← List.map_append]
  have split := List.filter_append_perm (fun entry : String × String => decide (entry.2 = consensus))
    (ranges.penalise.entries ch.reveals)
  have other : (fun entry : String × String => decide (entry.2 ≠ consensus)) =
      fun entry => !decide (entry.2 = consensus) := by
    funext entry
    simp
  rw [other]
  exact (split.map Prod.fst).count_eq addr

theorem count_silent (distinct : ch.assignees.Nodup) (addr : String) :
    (ch.assignees.filter fun addr => (ch.reveals.get? addr).isNone).count addr =
      if addr ∈ ch.assignees ∧ (ch.reveals.get? addr).isNone then 1 else 0 := by
  split_ifs with misses
  · exact List.count_eq_one_of_mem (distinct.filter _) (List.mem_filter.mpr misses)
  · exact List.count_eq_zero.mpr fun inside => misses (List.mem_filter.mp inside)

theorem partitions_answered (distinct : ch.assignees.Nodup) (some_ : ch.reveals.size ≠ 0) :
    Partitions ch (evaluateChallenge ranges id ch) := by
  unfold evaluateChallenge
  simp only [if_neg some_]
  refine ⟨fun addr => ?_,fun addr => ?_⟩
  · rw [← List.append_assoc,List.count_append,count_judged,count_silent distinct]
    unfold Concerned
    rw [← Option.not_isSome]
    by_cases given : (ch.reveals.get? addr).isSome <;> simp [given]
  · rw [mem_answered]
    simp

theorem unanswered (silent : ch.reveals.size = 0) (addr : String) : ch.reveals.get? addr = none := by
  have none_ : ch.reveals.entries = [] := List.eq_nil_of_length_eq_zero silent
  by_contra some_
  obtain ⟨answer,found⟩ := Option.ne_none_iff_exists'.mp some_
  rw [OrdMap.get?_eq_some_iff,none_] at found
  cases found

theorem evaluateChallenge_silent (silent : ch.reveals.size = 0) : evaluateChallenge ranges id ch =
    { challengeID := id,failedMiners := ch.assignees ++ ch.assignees } := by
  simp [evaluateChallenge,silent,unanswered silent]

theorem partitions_silent (silent : ch.reveals.size = 0) :
    Partitions ch (evaluateChallenge ranges id ch) ↔ ch.assignees = [] := by
  rw [evaluateChallenge_silent silent]
  constructor
  · intro partition
    rw [List.eq_nil_iff_forall_not_mem]
    intro addr assigned
    have once := partition.once addr
    have some_ := List.count_pos_iff.mpr assigned
    rw [if_pos (.inr assigned),List.nil_append,List.count_append] at once
    omega
  · intro nobody
    refine ⟨fun addr => ?_,fun addr => ?_⟩
    · simp [Concerned,nobody,unanswered silent]
    · simp [unanswered silent]

end Partition

theorem evaluateChallenge_id (entry : String × Challenge) (ranges : Ranges) :
    (evaluateChallenge ranges entry.1 entry.2).challengeID = entry.1 := by
  unfold evaluateChallenge
  dsimp only
  split_ifs <;> rfl

/-- Every challenge of the epoch has one result, and the result partitions its miners exactly when somebody answered or
nobody was assigned. -/
theorem evaluation_partitions (ranges : String → Ranges) (epoch : Nat) (keeper : Keeper) :
    (evaluateChallenges ranges epoch keeper).1.map ChallengeResult.challengeID =
      keeper.challenges.keys.filter (inEpoch epoch) ∧
    ∀ result ∈ (evaluateChallenges ranges epoch keeper).1, ∃ ch,
      keeper.challenges.get? result.challengeID = some ch ∧
        (ch.assignees.Nodup → (Partitions ch result ↔ ch.reveals.size ≠ 0 ∨ ch.assignees = [])) := by
  refine ⟨?_,?_⟩
  · unfold evaluateChallenges OrdMap.keys
    rw [List.map_map,List.filter_map]
    exact List.map_congr_left fun entry _ => evaluateChallenge_id entry _
  · intro result inside
    obtain ⟨⟨id,ch⟩,listed,rfl⟩ := List.mem_map.mp inside
    have named := evaluateChallenge_id (id,ch) (ranges id)
    rw [named]
    refine ⟨ch,OrdMap.get?_eq_some_iff.mpr (List.mem_filter.mp listed).1,fun distinct => ?_⟩
    by_cases silent : ch.reveals.size = 0
    · rw [partitions_silent silent]
      simp [silent]
    · exact iff_of_true (partitions_answered distinct silent) (.inl silent)

def answeredChallenge : Challenge where
  epoch := 1
  createdHeight := 100
  assignees := ["a","b"]
  reveals := OrdMap.ofList [("a","4"),("c","5")]

def silentChallenge : Challenge := { answeredChallenge with reveals := OrdMap.empty }

def twoChallenges : Keeper where
  challenges := OrdMap.ofList [("ch-1-0",answeredChallenge),("ch-1-1",silentChallenge)]

theorem evaluation_partitions_twoChallenges : Partitions answeredChallenge ⟨"ch-1-0",["a"],["c","b"],"4"⟩ := by
  have inside : (⟨"ch-1-0",["a"],["c","b"],"4"⟩ : ChallengeResult) ∈ (evaluateChallenges (fun _ => {}) 1 twoChallenges).1 := by
    decide +kernel
  obtain ⟨ch,found,partitions⟩ := (evaluation_partitions (fun _ => {}) 1 twoChallenges).2 _ inside
  have own : twoChallenges.challenges.get? "ch-1-0" = some answeredChallenge := by decide +kernel
  have same : ch = answeredChallenge := Option.some.inj (found.symm.trans own)
  subst same
  exact (partitions (by decide)).mpr (.inl (by decide +kernel))

/-- Nobody answers the second challenge, and both its miners are listed twice. -/
theorem silent_challenge_listed_twice :
    silentChallenge.assignees.Nodup ∧ ∃ result ∈ (evaluateChallenges (fun _ => {}) 1 twoChallenges).1,
      result.challengeID = "ch-1-1" ∧ (result.completedMiners ++ result.failedMiners).count "a" = 2 := by
  decide +kernel

end Clawchain.Chain.Challenges
