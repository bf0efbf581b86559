import Clawchain.Chain.Settling

/-! The evaluation of an epoch's challenges, and what of a settlement depends on the order in which the
maps of answers and of votes are visited. -/
namespace Clawchain.Chain.Challenges
open Clawchain.Lib

structure ChallengeResult where
  challengeID : String
  completedMiners : List String := []
  failedMiners : List String := []
  consensusAnswer : String := ""
  deriving DecidableEq, Repr

def consensusAnswer (ranges : Ranges) (ch : Challenge) : String :=
  if ch.expectedAnswer ≠ "" then ch.expectedAnswer else (majority id ranges ch.reveals).answer

def answered (ranges : Ranges) (ch : Challenge) (pass : String → Bool) : List String :=
  ((ranges.penalise.entries ch.reveals).filter fun entry => pass entry.2).map Prod.fst

def evaluateChallenge (ranges : Ranges) (challengeID : String) (ch : Challenge) : ChallengeResult :=
  let silent := ch.assignees.filter fun addr => (ch.reveals.get? addr).isNone
  if ch.reveals.size = 0 then { challengeID := challengeID, failedMiners := ch.assignees ++ silent }
  else
    let consensus := consensusAnswer ranges ch
    { challengeID := challengeID
      completedMiners := answered ranges ch fun answer => answer = consensus
      failedMiners := answered ranges ch (fun answer => answer ≠ consensus) ++ silent
      consensusAnswer := consensus }

def inEpoch (epoch : Nat) (challengeID : String) : Bool := (s!"ch-{epoch}-").toList.isPrefixOf challengeID.toList

def evaluateChallenges (ranges : String → Ranges) (epoch : Nat) (keeper : Keeper) : List ChallengeResult × Keeper :=
  ((keeper.challenges.entries.filter fun entry => inEpoch epoch entry.1).map fun entry =>
      evaluateChallenge (ranges entry.1) entry.1 entry.2,
    { keeper with challenges := keeper.challenges.mapVals fun challengeID ch =>
        if inEpoch epoch challengeID then { ch with status := .complete } else ch })

section Orders
variable (normalize : String → String)

def Tied (reveals : OrdMap String String) : Prop :=
  ∃ one ∈ reveals.entries, ∃ other ∈ reveals.entries, normalize one.2 ≠ normalize other.2 ∧
    (support normalize reveals (normalize one.2)).length = (support normalize reveals (normalize other.2)).length ∧
    ∀ entry ∈ reveals.entries,
      (support normalize reveals (normalize entry.2)).length ≤ (support normalize reveals (normalize one.2)).length

instance (reveals : OrdMap String String) : Decidable (Tied normalize reveals) :=
  inferInstanceAs (Decidable (∃ _ ∈ _, _))

def agreement (dev : Bool) (ranges : Ranges) (ch : Challenge) : Option (String × List String) :=
  let best := majority normalize ranges ch.reveals
  if requiredSubmissions dev ≤ ch.reveals.size ∧ minMajority dev ≤ best.maxVotes then some (best.answer,best.miners)
  else none

/-- Any two orders settle a challenge alike: on one answer, for the same miners, and with the same store. -/
def SettlesAlike (dev : Bool) (height : Int) (challengeID : String) (ch : Challenge) (keeper : Keeper) : Prop :=
  ∀ ranges ranges',
    (agreement normalize dev ranges ch).map Prod.fst = (agreement normalize dev ranges' ch).map Prod.fst ∧
    (((agreement normalize dev ranges ch).map Prod.snd).getD []).Perm
      (((agreement normalize dev ranges' ch).map Prod.snd).getD []) ∧
    settle normalize dev ranges height challengeID ch keeper =
      settle normalize dev ranges' height challengeID ch keeper

def EvaluatesAlike (epoch : Nat) (keeper : Keeper) : Prop :=
  ∀ ranges ranges',
    List.Forall₂ (fun one other : ChallengeResult => one.challengeID = other.challengeID ∧
        one.consensusAnswer = other.consensusAnswer ∧ one.completedMiners.Perm other.completedMiners)
      (evaluateChallenges ranges epoch keeper).1 (evaluateChallenges ranges' epoch keeper).1 ∧
    (evaluateChallenges ranges epoch keeper).2 = (evaluateChallenges ranges' epoch keeper).2

end Orders

section Majority
variable {normalize : String → String}
variable {reveals : OrdMap String String} {entry : String × String}

theorem consider_most (listed : List (String × List String)) (best : Majority)
    (counted : best.maxVotes = best.miners.length) :
    ∀ entry ∈ listed, entry.2.length ≤ (listed.foldl Majority.consider best).maxVotes := by
  induction listed generalizing best with
  | nil => simp
  | cons first rest ih =>
    have step : (best.consider first).maxVotes = (best.consider first).miners.length ∧
        first.2.length ≤ (best.consider first).maxVotes := by
      unfold Majority.consider
      split_ifs with more
      · exact ⟨rfl,Nat.le_refl _⟩
      · exact ⟨counted,Nat.not_lt.mp more⟩
    intro entry inside
    rcases List.mem_cons.mp inside with rfl | later
    · exact step.2.trans (consider_fold rest _ step.1).2.1
    · exact ih _ step.1 entry later

theorem support_answer (given : entry ∈ reveals.entries) :
    0 < (support normalize reveals (normalize entry.2)).length := by
  apply List.length_pos_of_mem
  exact OrdMap.mem_keysWhere.mpr ⟨entry.2,OrdMap.get?_eq_some_iff.mpr given,by simp⟩

theorem majority_most (ranges : Ranges) (reveals : OrdMap String String) (given : entry ∈ reveals.entries) :
    (support normalize reveals (normalize entry.2)).length ≤ (majority normalize ranges reveals).maxVotes := by
  have votes := @answerVotes_perm normalize ranges.tally reveals (normalize entry.2)
  cases found : (answerVotes normalize ranges.tally reveals).get? (normalize entry.2) with
  | none =>
    rw [found] at votes
    exact absurd votes.length_eq.symm (Nat.ne_of_gt (support_answer given))
  | some voters =>
    rw [found,Option.getD_some] at votes
    rw [← votes.length_eq]
    exact consider_most _ {} rfl _ ((ranges.pick.entries_perm _).mem_iff.mpr (OrdMap.get?_eq_some_iff.mp found))

theorem majority_given (ranges : Ranges) {reveals : OrdMap String String} {entry : String × String}
    (given : entry ∈ reveals.entries) :
    ∃ first ∈ reveals.entries, normalize first.2 = (majority normalize ranges reveals).answer ∧
      (majority normalize ranges reveals).maxVotes =
        (support normalize reveals (majority normalize ranges reveals).answer).length := by
  have voted : 0 < (majority normalize ranges reveals).maxVotes :=
    Nat.lt_of_lt_of_le (support_answer given) (majority_most ranges reveals given)
  obtain ⟨length,same⟩ := majority_spec ranges reveals voted
  rw [same.length_eq] at length
  obtain ⟨miner,inside⟩ := List.exists_mem_of_length_pos (length ▸ voted)
  obtain ⟨answer,found,meets⟩ := OrdMap.mem_keysWhere.mp inside
  exact ⟨(miner,answer),OrdMap.get?_eq_some_iff.mp found,by simpa using meets,length⟩

theorem majority_alike (untied : ¬ Tied normalize reveals) (ranges ranges' : Ranges) (given : entry ∈ reveals.entries) :
    (majority normalize ranges reveals).answer = (majority normalize ranges' reveals).answer ∧
      (majority normalize ranges reveals).maxVotes = (majority normalize ranges' reveals).maxVotes := by
  obtain ⟨one,inside,answer,most⟩ := @majority_given normalize ranges _ _ given
  obtain ⟨other,inside',answer',most'⟩ := @majority_given normalize ranges' _ _ given
  have votes : (majority normalize ranges reveals).maxVotes = (majority normalize ranges' reveals).maxVotes := by
    apply Nat.le_antisymm
    · rw [most,← answer]
      exact majority_most ranges' reveals inside
    · rw [most',← answer']
      exact majority_most ranges reveals inside'
  refine ⟨?_,votes⟩
  by_contra differ
  refine untied ⟨one,inside,other,inside',?_,?_,fun entry given => ?_⟩
  · rw [answer,answer']
    exact differ
  · rw [answer,answer',← most,← most']
    exact votes
  · rw [answer,← most]
    exact majority_most ranges reveals given

def RangeOrder.leading (first : String) : RangeOrder where
  visit keys := if first ∈ keys then first :: keys.erase first else keys
  perm keys := by
    split_ifs with inside
    · exact (List.perm_cons_erase inside).symm
    · exact .refl _

theorem consider_none (listed : List (String × List String)) {best : Majority}
    (fewer : ∀ entry ∈ listed, entry.2.length ≤ best.maxVotes) : listed.foldl Majority.consider best = best := by
  induction listed with
  | nil => rfl
  | cons first rest ih =>
    have kept : best.consider first = best := if_neg (Nat.not_lt.mpr (fewer first List.mem_cons_self))
    rw [List.foldl_cons,kept]
    exact ih fun entry later => fewer entry (List.mem_cons_of_mem _ later)

theorem votes_support (order : RangeOrder) (reveals : OrdMap String String) {entry : String × List String}
    (listed : entry ∈ (answerVotes normalize order reveals).entries) :
    entry.2.Perm (support normalize reveals entry.1) := by
  have votes := @answerVotes_perm normalize order reveals entry.1
  rwa [OrdMap.get?_eq_some_iff.mpr listed,Option.getD_some] at votes

theorem majority_leading {first : String × String} (given : first ∈ reveals.entries)
    (most : ∀ entry ∈ reveals.entries, (support normalize reveals (normalize entry.2)).length ≤
      (support normalize reveals (normalize first.2)).length) :
    (majority normalize { pick := .leading (normalize first.2) } reveals).answer = normalize first.2 := by
  let votes := answerVotes normalize .sorted reveals
  have bound : ∀ entry ∈ votes.entries, entry.2.length ≤ (support normalize reveals (normalize first.2)).length := by
    intro entry listed
    rw [(votes_support .sorted reveals listed).length_eq]
    rcases (support normalize reveals entry.1).length.eq_zero_or_pos with none_ | some_
    · simp [none_]
    · obtain ⟨miner,inside⟩ := List.exists_mem_of_length_pos some_
      obtain ⟨answer,found,meets⟩ := OrdMap.mem_keysWhere.mp inside
      have own : normalize answer = entry.1 := by simpa using meets
      rw [← own]
      exact most (miner,answer) (OrdMap.get?_eq_some_iff.mp found)
  have counted := (@answerVotes_perm normalize .sorted reveals (normalize first.2)).length_eq
  cases found : votes.get? (normalize first.2) with
  | none =>
    rw [show (answerVotes normalize .sorted reveals).get? (normalize first.2) = none from found] at counted
    exact absurd counted.symm (Nat.ne_of_gt (support_answer given))
  | some voters =>
    rw [show (answerVotes normalize .sorted reveals).get? (normalize first.2) = some voters from found,
      Option.getD_some] at counted
    have visited : (RangeOrder.leading (normalize first.2)).entries votes = (normalize first.2,voters) ::
        ((votes.keys.erase (normalize first.2)).filterMap fun k => (votes.get? k).map fun v => (k,v)) := by
      unfold RangeOrder.entries RangeOrder.leading
      simp only [if_pos (OrdMap.mem_keys_iff.mpr ⟨voters,found⟩),List.filterMap_cons,found,Option.map_some]
    have ahead : ({} : Majority).consider (normalize first.2,voters) = ⟨normalize first.2,voters,voters.length⟩ :=
      if_pos (counted ▸ support_answer given)
    change ((RangeOrder.leading (normalize first.2)).entries votes |>.foldl Majority.consider {}).answer = _
    rw [visited,List.foldl_cons,ahead,consider_none]
    intro entry later
    obtain ⟨k,-,listed⟩ := List.mem_filterMap.mp later
    obtain ⟨v,held,same⟩ := Option.map_eq_some_iff.mp listed
    rw [counted,← same]
    exact bound (k,v) (OrdMap.get?_eq_some_iff.mp held)

theorem tied_either (tied : Tied normalize reveals) :
    ∃ ranges ranges', (majority normalize ranges reveals).answer ≠ (majority normalize ranges' reveals).answer := by
  obtain ⟨one,inside,other,inside',differ,level,most⟩ := tied
  refine ⟨{ pick := .leading (normalize one.2) },{ pick := .leading (normalize other.2) },?_⟩
  rw [majority_leading inside most,majority_leading inside' fun entry given => (most entry given).trans_eq level]
  exact differ

end Majority

/-! What the other loops write does not depend on their order. -/
section Writes
variable {normalize : String → String}

theorem pendingKey_injective (height : Int) (challengeID : String) :
    Function.Injective (pendingKey height challengeID) := by
  intro one other same
  unfold pendingKey at same
  have chars := congrArg String.toList same
  simp only [String.toList_append] at chars
  exact String.toList_inj.mp (List.append_cancel_left chars)

theorem rewardMiner_comm (height : Int) (challengeID : String) (reward : Nat) (keeper : Keeper) (one other : String) :
    rewardMiner height challengeID reward (rewardMiner height challengeID reward keeper one) other =
      rewardMiner height challengeID reward (rewardMiner height challengeID reward keeper other) one := by
  by_cases same : one = other
  · rw [same]
  · have bonus := @rewardMiner_bonus height challengeID _ _ reward keeper
      (fun eq => same eq.symm : other ≠ one) reward
    have bonus' := @rewardMiner_bonus height challengeID _ _ reward keeper
      same reward
    have keys : pendingKey height challengeID one ≠ pendingKey height challengeID other :=
      fun eq => same (pendingKey_injective height challengeID eq)
    unfold rewardMiner at bonus bonus' ⊢
    simp only [bonus,bonus',OrdMap.insert_comm _ _ _ keys]
    exact congrArg (Keeper.mk _ · _) (OrdMap.modifyAt_comm _ _ (fun _ => rfl) _)

theorem penaliseMiner_comm (answer : String) (keeper : Keeper) (one other : String × String) :
    penaliseMiner normalize answer (penaliseMiner normalize answer keeper one) other =
      penaliseMiner normalize answer (penaliseMiner normalize answer keeper other) one := by
  unfold penaliseMiner
  split_ifs
  · rfl
  · rfl
  · rfl
  · exact congrArg (Keeper.mk _ · _) (OrdMap.modifyAt_comm _ _ (fun _ => rfl) _)

theorem settle_alike {dev : Bool} {ranges ranges' : Ranges} {ch : Challenge}
    (answer : (majority normalize ranges ch.reveals).answer = (majority normalize ranges' ch.reveals).answer)
    (votes : (majority normalize ranges ch.reveals).maxVotes = (majority normalize ranges' ch.reveals).maxVotes)
    (miners : (majority normalize ranges ch.reveals).miners.Perm (majority normalize ranges' ch.reveals).miners)
    (height : Int) (challengeID : String) (keeper : Keeper) :
    settle normalize dev ranges height challengeID ch keeper =
      settle normalize dev ranges' height challengeID ch keeper := by
  have penalised := (ranges.penalise.entries_perm ch.reveals).trans (ranges'.penalise.entries_perm ch.reveals).symm
  unfold settle
  dsimp only
  rw [answer,votes,miners.length_eq,
    miners.foldl_eq' fun one _ other _ keeper => rewardMiner_comm height challengeID _ keeper one other,
    penalised.foldl_eq' fun one _ other _ keeper => penaliseMiner_comm _ keeper one other]

end Writes

section Alike
variable {normalize : String → String} {dev : Bool} {ch : Challenge}

theorem agreement_decided (ranges : Ranges) :
    agreement normalize dev ranges ch = if Decided normalize dev ch.reveals then
      some ((majority normalize ranges ch.reveals).answer,(majority normalize ranges ch.reveals).miners) else none := by
  have same : (requiredSubmissions dev ≤ ch.reveals.size ∧
      minMajority dev ≤ (majority normalize ranges ch.reveals).maxVotes) ↔ Decided normalize dev ch.reveals := by
    constructor
    · rintro ⟨enough,agreed⟩
      exact majority_decides enough agreed
    · rintro ⟨enough,entry,given,agreed⟩
      exact ⟨enough,agreed.trans (majority_most ranges ch.reveals given)⟩
  unfold agreement
  simp only [same]

theorem settle_undecided (undecided : ¬ Decided normalize dev ch.reveals) (ranges : Ranges) (height : Int)
    (challengeID : String) (keeper : Keeper) : settle normalize dev ranges height challengeID ch keeper = (ch,keeper) := by
  unfold settle
  split_ifs with enough
  · exact if_neg fun agreed => undecided (majority_decides enough agreed)
  · rfl

theorem settlesAlike_iff (height : Int) (challengeID : String) (keeper : Keeper) :
    SettlesAlike normalize dev height challengeID ch keeper ↔
      ¬ (Decided normalize dev ch.reveals ∧ Tied normalize ch.reveals) := by
  constructor
  · rintro alike ⟨decided,tied⟩
    obtain ⟨ranges,ranges',differ⟩ := tied_either tied
    have same := (alike ranges ranges').1
    rw [agreement_decided,agreement_decided,if_pos decided,if_pos decided] at same
    exact differ (Option.some.inj same)
  · intro fine ranges ranges'
    rw [agreement_decided,agreement_decided]
    by_cases decided : Decided normalize dev ch.reveals
    · obtain ⟨entry,given,-⟩ := decided.2
      obtain ⟨answer,votes⟩ := majority_alike (fun tied => fine ⟨decided,tied⟩) ranges ranges' given
      have voted (r : Ranges) := (@majority_spec normalize r ch.reveals
        (Nat.lt_of_lt_of_le (support_answer given) (majority_most r ch.reveals given))).2
      have miners : (majority normalize ranges ch.reveals).miners.Perm (majority normalize ranges' ch.reveals).miners := by
        have one := voted ranges
        rw [answer] at one
        exact one.trans (voted ranges').symm
      rw [if_pos decided,if_pos decided]
      exact ⟨congrArg some answer,miners,settle_alike answer votes miners height challengeID keeper⟩
    · rw [if_neg decided,if_neg decided,settle_undecided decided,settle_undecided decided]
      exact ⟨rfl,.refl _,rfl⟩

theorem answered_perm (ranges ranges' : Ranges) (pass : String → Bool) :
    (answered ranges ch pass).Perm (answered ranges' ch pass) :=
  (((ranges.penalise.entries_perm ch.reveals).trans
    (ranges'.penalise.entries_perm ch.reveals).symm).filter _).map _

theorem nonempty_reveals {reveals : OrdMap String String} (answers : ¬ reveals.size = 0) : ∃ entry, entry ∈ reveals.entries :=
  List.exists_mem_of_length_pos (Nat.pos_of_ne_zero answers)

theorem evaluatesAlike_iff (epoch : Nat) (keeper : Keeper) :
    EvaluatesAlike epoch keeper ↔ ∀ challengeID ch, keeper.challenges.get? challengeID = some ch →
      inEpoch epoch challengeID → ch.expectedAnswer = "" → ¬ Tied id ch.reveals := by
  constructor
  · intro alike challengeID ch found current open_ tied
    obtain ⟨ranges,ranges',differ⟩ := tied_either tied
    have pairs := (alike (fun _ => ranges) (fun _ => ranges')).1
    unfold evaluateChallenges at pairs
    rw [List.forall₂_map_left_iff,List.forall₂_map_right_iff,List.forall₂_same] at pairs
    have same := (pairs (challengeID,ch) (List.mem_filter.mpr ⟨OrdMap.get?_eq_some_iff.mp found,current⟩)).2.1
    have some_ : ¬ ch.reveals.size = 0 := by
      obtain ⟨one,inside,-⟩ := tied
      exact Nat.ne_of_gt (List.length_pos_of_mem inside)
    simp only [evaluateChallenge,if_neg some_,consensusAnswer,open_,ne_eq,not_true_eq_false,if_false] at same
    exact differ same
  · intro untied ranges ranges'
    refine ⟨?_,rfl⟩
    unfold evaluateChallenges
    rw [List.forall₂_map_left_iff,List.forall₂_map_right_iff,List.forall₂_same]
    intro entry listed
    obtain ⟨listed,current⟩ := List.mem_filter.mp listed
    have consensus (some_ : ¬ entry.2.reveals.size = 0) :
        consensusAnswer (ranges entry.1) entry.2 = consensusAnswer (ranges' entry.1) entry.2 := by
      unfold consensusAnswer
      split_ifs with open_
      · rfl
      · obtain ⟨first,given⟩ := nonempty_reveals some_
        exact (majority_alike (untied entry.1 entry.2 (OrdMap.get?_eq_some_iff.mpr listed) current (not_not.mp open_))
          _ _ given).1
    unfold evaluateChallenge
    split_ifs with none_
    · exact ⟨rfl,rfl,.refl _⟩
    · refine ⟨rfl,consensus none_,?_⟩
      change (answered (ranges entry.1) entry.2 fun answer => answer = consensusAnswer (ranges entry.1) entry.2).Perm
        (answered (ranges' entry.1) entry.2 fun answer => answer = consensusAnswer (ranges' entry.1) entry.2)
      rw [consensus none_]
      exact answered_perm _ _ _

/-- The order in which maps are visited shows exactly where two answers share the first place. -/
theorem alike_iff_untied (height : Int) (challengeID : String) (epoch : Nat) (keeper : Keeper) :
    (SettlesAlike normalize dev height challengeID ch keeper ∧ EvaluatesAlike epoch keeper) ↔
      ¬ (Decided normalize dev ch.reveals ∧ Tied normalize ch.reveals) ∧
      ∀ id' ch', keeper.challenges.get? id' = some ch' → inEpoch epoch id' → ch'.expectedAnswer = "" →
        ¬ Tied id ch'.reveals := by
  rw [settlesAlike_iff,evaluatesAlike_iff]

def splitVote : Challenge :=
  { epoch := 1, createdHeight := 1, reveals := .ofList [("a","4"),("b","4"),("c","5"),("d","5")] }

theorem splitVote_forks :
    ¬ (SettlesAlike id false 100 "ch-1-0" splitVote { challenges := OrdMap.empty.insert "ch-1-0" splitVote } ∧
      EvaluatesAlike 1 { challenges := OrdMap.empty.insert "ch-1-0" splitVote }) := by
  rintro ⟨settles,-⟩
  exact (settlesAlike_iff _ _ _).mp settles (by decide +kernel)

end Alike
end Clawchain.Chain.Challenges
