import Clawchain.Chain.Settling
import Mathlib.Algebra.Order.BigOperators.Group.List

/-! What the settlements of an epoch's challenges give away, against the epoch's miner pool. -/
namespace Clawchain.Chain.Challenges
open Clawchain.Lib

def written (before after : Keeper) : List PendingReward :=
  (after.pending.entries.filter fun entry => before.pending.get? entry.1 ≠ some entry.2).map Prod.snd

def ofEpoch (epoch : Nat) (keeper : Keeper) (record : PendingReward) : Bool :=
  (keeper.challenges.get? record.challengeID).any fun ch => ch.epoch = epoch

def epochRewards (epoch : Nat) (before after : Keeper) : List PendingReward :=
  (written before after).filter (ofEpoch epoch before)

section Runs
variable (normalize digest : String → String) (dev : Bool) (epoch : Nat)

def emission : Keeper → List Call → Nat
  | _,[] => 0
  | keeper,call :: rest =>
    let after := (perform normalize digest dev call keeper).2
    ((epochRewards epoch keeper after).map PendingReward.amount).sum + emission after rest

def settlements : Keeper → List Call → List String
  | _,[] => []
  | keeper,call :: rest =>
    let after := (perform normalize digest dev call keeper).2
    ((epochRewards epoch keeper after).map PendingReward.challengeID).dedup ++ settlements after rest

def Generated (keeper : Keeper) : Prop :=
  keeper.challenges.All fun id ch => ∃ number : Nat, id = s!"ch-{ch.epoch}-{number}"

/-- A settlement pays no more miners than the challenge's pool has uclaw. -/
def Affordable (keeper : Keeper) (call : Call) : Prop :=
  ∀ height, call.height? = some height →
    (epochRewards epoch keeper (perform normalize digest dev call keeper).2).length ≤ perChallengePool keeper height epoch

/-- The miners that are paid have registration indices, streaks and completion counts of a kind. -/
def PaysOnly (Allowed : Nat → Nat → Nat → Prop) (keeper : Keeper) (call : Call) : Prop :=
  ∀ record ∈ epochRewards epoch keeper (perform normalize digest dev call keeper).2, ∀ miner,
    keeper.miners.get? record.minerAddr = some miner →
      Allowed miner.registrationIndex miner.consecutiveDays miner.challengesCompleted

/-- An epoch's challenges, each settled once from a height on. -/
structure EpochRun (height : Int) (keeper : Keeper) (calls : List Call) : Prop where
  generated : Generated keeper
  few : getEpochChallengeCount epoch keeper ≤ getBlockReward height
  heights : ∀ call ∈ calls, ∀ now, call.height? = some now → height ≤ now
  once : (settlements normalize digest dev epoch keeper calls).Nodup
  affordable : Along normalize digest dev (Affordable normalize digest dev epoch) keeper calls

end Runs

/-- The factor of a miner's bonus, in ten-thousandths, is no more than what the cold start halves. -/
def Unboosted (regIndex consecutiveDays completed : Nat) : Prop :=
  earlyBird regIndex * streak consecutiveDays ≤ if completed < 100 then 20000 else 10000

theorem halve_le (halvings reward : Nat) (pos : 1 ≤ reward) : halve halvings reward ≤ reward := by
  induction halvings generalizing reward with
  | zero => exact Nat.le_refl _
  | succ n ih =>
    unfold halve
    split_ifs with small
    · exact pos
    · exact (ih (reward / 2) (by omega)).trans (Nat.div_le_self _ _)

theorem halve_antitone {few many : Nat} (le : few ≤ many) (reward : Nat) (pos : 1 ≤ reward) :
    halve many reward ≤ halve few reward := by
  induction few generalizing many reward with
  | zero => exact halve_le many reward pos
  | succ n ih =>
    obtain ⟨more,rfl⟩ : ∃ more, many = more + 1 := ⟨many - 1,by omega⟩
    unfold halve
    split_ifs with small
    · exact Nat.le_refl _
    · exact ih (by omega) (reward / 2) (by omega)

theorem getBlockReward_antitone {early late : Int} (le : early ≤ late) : getBlockReward late ≤ getBlockReward early := by
  unfold getBlockReward
  apply halve_antitone _ _ (by decide)
  have epochs : early.tdiv 100 ≤ late.tdiv 100 := Int.tdiv_le_tdiv (by decide) le
  exact Int.toNat_le_toNat (Int.tdiv_le_tdiv (by decide) epochs)

theorem perChallengePool_le {keeper : Keeper} {early late : Int} (le : early ≤ late) (epoch : Nat) :
    perChallengePool keeper late epoch ≤ perChallengePool keeper early epoch := by
  have fewer := Nat.div_le_div_right (c := max (getEpochChallengeCount epoch keeper) 1) (getBlockReward_antitone le)
  unfold perChallengePool
  dsimp only
  split_ifs <;> omega

theorem applyBonus_le {keeper : Keeper} {miner : String} {base : Nat} (pos : 1 ≤ base)
    (unboosted : ∀ data, keeper.miners.get? miner = some data →
      Unboosted data.registrationIndex data.consecutiveDays data.challengesCompleted) :
    applyBonusMultipliers keeper miner base ≤ base := by
  unfold applyBonusMultipliers
  cases found : keeper.miners.get? miner with
  | none => exact Nat.le_refl _
  | some data =>
    have bound := unboosted data found
    unfold Unboosted at bound
    dsimp only
    rw [Nat.mul_assoc]
    by_cases cold : data.challengesCompleted < 100
    · rw [if_pos cold] at bound
      have scaled : base * (earlyBird data.registrationIndex * streak data.consecutiveDays) ≤ base * 20000 :=
        Nat.mul_le_mul_left _ bound
      simp only [if_pos cold]
      split_ifs <;> omega
    · rw [if_neg cold] at bound
      have scaled : base * (earlyBird data.registrationIndex * streak data.consecutiveDays) ≤ base * 10000 :=
        Nat.mul_le_mul_left _ bound
      simp only [if_neg cold]
      split_ifs <;> omega

/-! A run keeps the epoch's challenges. -/
section Kept
variable {normalize digest : String → String} {dev : Bool}
variable {before after : Keeper} {call : Call}

theorem generatedID_begins (epoch number : Nat) :
    (s!"ch-{epoch}-").toList.isPrefixOf (s!"ch-{epoch}-{number}").toList = true := by
  rw [List.isPrefixOf_iff_prefix]
  exact ⟨(toString number).toList,by simp⟩

def epochIDs (epoch : Nat) (keeper : Keeper) : List String :=
  keeper.challenges.keys.filter fun id => (s!"ch-{epoch}-").toList.isPrefixOf id.toList

theorem getEpochChallengeCount_eq (epoch : Nat) (keeper : Keeper) :
    getEpochChallengeCount epoch keeper = if (epochIDs epoch keeper).length = 0 then 1 else (epochIDs epoch keeper).length := by
  have same : (keeper.challenges.keysWhere fun id _ => (s!"ch-{epoch}-").toList.isPrefixOf id.toList) =
      epochIDs epoch keeper := by
    simp [OrdMap.keysWhere,epochIDs,OrdMap.keys,List.filter_map,Function.comp_def]
  unfold getEpochChallengeCount
  rw [same]

theorem Generated.mem_epochIDs {keeper : Keeper} (generated : Generated keeper) {id : String} {ch : Challenge}
    (found : keeper.challenges.get? id = some ch) : id ∈ epochIDs ch.epoch keeper := by
  obtain ⟨number,rfl⟩ := generated id ch found
  exact List.mem_filter.mpr ⟨OrdMap.mem_keys_iff.mpr ⟨ch,found⟩,generatedID_begins ch.epoch number⟩

theorem Effect.keeps (effect : Effect normalize digest dev call before after) :
    after.challenges.keys = before.challenges.keys ∧
      ∀ id ch', after.challenges.get? id = some ch' →
        ∃ ch, before.challenges.get? id = some ch ∧ ch'.epoch = ch.epoch := by
  cases effect with
  | ignored _ ids kept =>
    refine ⟨ids,fun id ch' found' => ?_⟩
    obtain ⟨ch,found⟩ := OrdMap.mem_keys_iff.mp (ids ▸ OrdMap.mem_keys_iff.mpr ⟨ch',found'⟩)
    obtain ⟨same,held,-,epoch⟩ := kept id ch found
    rw [found'] at held
    cases held
    exact ⟨ch,found,epoch⟩
  | recorded height id ch final miners _ found _ stored epoch _ _ _ =>
    rw [stored]
    refine ⟨OrdMap.keys_insert_of_mem _ _ (OrdMap.mem_keys_iff.mpr ⟨ch,found⟩),fun other ch' found' => ?_⟩
    rw [OrdMap.get?_insert] at found'
    split_ifs at found' with own
    · cases found'
      exact ⟨ch,own ▸ found,epoch⟩
    · exact ⟨ch',found',rfl⟩

theorem Effect.generated (effect : Effect normalize digest dev call before after) (generated : Generated before)
    : Generated after := by
  intro id ch' found'
  obtain ⟨ch,found,epoch⟩ := effect.keeps.2 id ch' found'
  rw [epoch]
  exact generated id ch found

theorem Effect.epochIDs_eq (effect : Effect normalize digest dev call before after) (epoch : Nat) :
    epochIDs epoch after = epochIDs epoch before := by
  unfold epochIDs
  rw [effect.keeps.1]

theorem mem_epochRewards {epoch : Nat} {record : PendingReward} :
    record ∈ epochRewards epoch before after ↔
      (∃ key, after.pending.get? key = some record ∧ before.pending.get? key ≠ some record) ∧
        ∃ ch, before.challenges.get? record.challengeID = some ch ∧ ch.epoch = epoch := by
  unfold epochRewards written ofEpoch
  rw [List.mem_filter,List.mem_map]
  constructor
  · rintro ⟨⟨entry,inside,rfl⟩,own⟩
    obtain ⟨stored,new⟩ := List.mem_filter.mp inside
    refine ⟨⟨entry.1,OrdMap.get?_eq_some_iff.mpr stored,by simpa using new⟩,?_⟩
    simpa [Option.any_eq_true] using own
  · rintro ⟨⟨key,found,new⟩,ch,stored,own⟩
    refine ⟨⟨(key,record),List.mem_filter.mpr ⟨OrdMap.get?_eq_some_iff.mp found,by simpa using new⟩,rfl⟩,?_⟩
    simp [stored,own]

end Kept

section Step
variable {normalize digest : String → String} {dev : Bool} {epoch : Nat}

theorem epochRewards_length_le {before after : Keeper} {height : Int} {id : String} {miners : List String}
    {share : String → PendingReward}
    (each : ∀ key record, after.pending.get? key = some record → before.pending.get? key = some record ∨
      ∃ miner ∈ miners, key = pendingKey height id miner ∧ record = share miner) :
    (epochRewards epoch before after).length ≤ miners.length := by
  have entries : (after.pending.entries.filter fun entry => before.pending.get? entry.1 ≠ some entry.2) ⊆
      miners.map fun miner => (pendingKey height id miner,share miner) := by
    intro entry inside
    obtain ⟨stored,new⟩ := List.mem_filter.mp inside
    rcases each entry.1 entry.2 (OrdMap.get?_eq_some_iff.mpr stored) with old | ⟨miner,member,key,value⟩
    · exact absurd old (by simpa using new)
    · exact List.mem_map.mpr ⟨miner,member,Prod.ext key.symm value.symm⟩
  have distinct : after.pending.entries.Nodup := List.Nodup.of_map Prod.fst after.pending.keys_nodup
  calc (epochRewards epoch before after).length
      ≤ (written before after).length := List.length_filter_le _ _
    _ = (after.pending.entries.filter fun entry => before.pending.get? entry.1 ≠ some entry.2).length :=
        List.length_map _
    _ ≤ (miners.map fun miner => (pendingKey height id miner,share miner)).length :=
        (List.subperm_of_subset (distinct.filter _) entries).length_le
    _ = miners.length := List.length_map _

theorem sum_amounts_le {records : List PendingReward} {bound : Nat} (each : ∀ record ∈ records, record.amount ≤ bound) :
    (records.map PendingReward.amount).sum ≤ records.length * bound := by
  have total := List.sum_le_card_nsmul (records.map PendingReward.amount) bound (by simpa using each)
  simpa using total

theorem shares_le_pool {paid miners pool : Nat} (fewer : paid ≤ miners) (affordable : paid ≤ pool) :
    paid * rewardPerMiner pool miners ≤ pool := by
  unfold rewardPerMiner
  split_ifs with small
  · rwa [Nat.mul_one]
  · exact (Nat.mul_le_mul_right _ fewer).trans (Nat.mul_div_le pool miners)

theorem rewardPerMiner_pos (pool miners : Nat) : 1 ≤ rewardPerMiner pool miners := by
  unfold rewardPerMiner
  split_ifs <;> omega

theorem Effect.emission_le {call : Call} {before after : Keeper} (effect : Effect normalize digest dev call before after)
    {height : Int} (generated : Generated before) (from_ : ∀ now, call.height? = some now → height ≤ now)
    (affordable : ∀ now, call.height? = some now →
      (epochRewards epoch before after).length ≤ perChallengePool before now epoch)
    (unboosted : ∀ record ∈ epochRewards epoch before after, ∀ miner,
      before.miners.get? record.minerAddr = some miner →
        Unboosted miner.registrationIndex miner.consecutiveDays miner.challengesCompleted) :
    let settled := ((epochRewards epoch before after).map PendingReward.challengeID).dedup
    (∀ id ∈ settled, id ∈ epochIDs epoch before) ∧
      ((epochRewards epoch before after).map PendingReward.amount).sum ≤
        settled.length * perChallengePool before height epoch := by
  intro settled
  refine ⟨?_,?_⟩
  · intro id inside
    obtain ⟨record,member,rfl⟩ := List.mem_map.mp (List.mem_dedup.mp inside)
    obtain ⟨-,ch,found,rfl⟩ := mem_epochRewards.mp member
    exact generated.mem_epochIDs found
  · cases effect with
    | ignored pending _ _ =>
      have none_ : epochRewards epoch before after = [] := by
        apply List.eq_nil_iff_forall_not_mem.mpr
        intro record inside
        obtain ⟨⟨key,found,new⟩,-⟩ := mem_epochRewards.mp inside
        exact new (pending key record found)
      simp [none_]
    | recorded now id ch final miners at_ found late stored _ distinct _ pending =>
      have share : ∀ record ∈ epochRewards epoch before after, ch.epoch = epoch ∧
          ∃ miner, record = shareOf now id epoch miners.length before miner := by
        intro record inside
        obtain ⟨⟨key,held,new⟩,ch',found',own⟩ := mem_epochRewards.mp inside
        rcases pending key record held with old | ⟨miner,-,-,rfl⟩
        · exact absurd old new
        · change before.challenges.get? id = some ch' at found'
          rw [found] at found'
          cases found'
          exact ⟨own,miner,by rw [own]⟩
      by_cases none_ : epochRewards epoch before after = []
      · simp [none_]
      · obtain ⟨first,member⟩ := List.exists_mem_of_ne_nil _ none_
        obtain ⟨own,-⟩ := share first member
        have one : 1 ≤ settled.length := by
          apply List.length_pos_of_mem (a := first.challengeID)
          exact List.mem_dedup.mpr (List.mem_map_of_mem member)
        calc ((epochRewards epoch before after).map PendingReward.amount).sum
            ≤ (epochRewards epoch before after).length *
                rewardPerMiner (perChallengePool before now epoch) miners.length := by
              apply sum_amounts_le
              intro record inside
              have data := unboosted record inside
              obtain ⟨-,miner,rfl⟩ := share record inside
              exact applyBonus_le (rewardPerMiner_pos _ _) data
          _ ≤ perChallengePool before now epoch :=
              shares_le_pool (epochRewards_length_le pending) (affordable now at_)
          _ ≤ perChallengePool before height epoch := perChallengePool_le (from_ now at_) epoch
          _ ≤ settled.length * perChallengePool before height epoch := Nat.le_mul_of_pos_left _ one

end Step

section Whole
variable {normalize digest : String → String} {dev : Bool} {epoch : Nat}
variable {height : Int} {keeper : Keeper}

theorem Effect.perChallengePool_eq {call : Call} {before after : Keeper}
    (effect : Effect normalize digest dev call before after) (height : Int) (epoch : Nat) :
    perChallengePool after height epoch = perChallengePool before height epoch := by
  unfold perChallengePool
  rw [getEpochChallengeCount_eq,getEpochChallengeCount_eq,effect.epochIDs_eq]

theorem run_emission_le {calls : List Call} (generated : Generated keeper)
    (from_ : ∀ call ∈ calls, ∀ now, call.height? = some now → height ≤ now)
    (affordable : Along normalize digest dev (Affordable normalize digest dev epoch) keeper calls)
    (unboosted : Along normalize digest dev (PaysOnly normalize digest dev epoch Unboosted) keeper calls) :
    (∀ id ∈ settlements normalize digest dev epoch keeper calls, id ∈ epochIDs epoch keeper) ∧
      emission normalize digest dev epoch keeper calls ≤
        (settlements normalize digest dev epoch keeper calls).length * perChallengePool keeper height epoch := by
  induction calls generalizing keeper with
  | nil => exact ⟨nofun,Nat.zero_le _⟩
  | cons call rest ih =>
    have effect : Effect normalize digest dev call keeper _ := perform_effect call keeper
    obtain ⟨own,first⟩ := effect.emission_le generated (from_ call List.mem_cons_self) affordable.1 unboosted.1
    obtain ⟨others,later⟩ := ih (effect.generated generated)
      (fun other inside => from_ other (List.mem_cons_of_mem _ inside)) affordable.2 unboosted.2
    rw [effect.epochIDs_eq] at others
    rw [effect.perChallengePool_eq] at later
    unfold settlements emission
    refine ⟨fun id inside => (List.mem_append.mp inside).elim (own id) (others id),?_⟩
    rw [List.length_append,Nat.add_mul]
    exact Nat.add_le_add first later

theorem pools_le {settled : Nat} (few : getEpochChallengeCount epoch keeper ≤ getBlockReward height)
    (inside : settled ≤ (epochIDs epoch keeper).length) :
    settled * perChallengePool keeper height epoch ≤ getBlockReward height := by
  rw [getEpochChallengeCount_eq] at few
  unfold perChallengePool
  rw [getEpochChallengeCount_eq]
  by_cases empty : (epochIDs epoch keeper).length = 0
  · have none_ : settled = 0 := by omega
    rw [none_,Nat.zero_mul]
    exact Nat.zero_le _
  · rw [if_neg empty] at few ⊢
    rw [Nat.max_eq_left (by omega)]
    dsimp only
    split_ifs with small
    · omega
    · exact (Nat.mul_le_mul_right _ inside).trans (Nat.mul_div_le _ _)

theorem EpochRun.emission_le {calls : List Call} (run : EpochRun normalize digest dev epoch height keeper calls)
    (unboosted : Along normalize digest dev (PaysOnly normalize digest dev epoch Unboosted) keeper calls) :
    emission normalize digest dev epoch keeper calls ≤ getBlockReward height := by
  obtain ⟨inside,total⟩ := run_emission_le run.generated run.heights run.affordable unboosted
  exact total.trans (pools_le run.few (List.subperm_of_subset run.once inside).length_le)

end Whole

/-! An epoch with one challenge, answered by three miners with the same bonus. -/
section Boosted
variable (normalize digest : String → String) (dev : Bool) (regIndex consecutiveDays completed : Nat)

def twiceAnswered : Challenge :=
  { epoch := 0, createdHeight := 0, reveals := OrdMap.ofList [("a","4"),("b","4")] }

def agreed : OrdMap String String := OrdMap.ofList [("a","4"),("b","4"),("c","4")]

def boosted : Miner :=
  { registrationIndex := regIndex, consecutiveDays := consecutiveDays, challengesCompleted := completed }

def boostedMiners : Keeper where
  challenges := OrdMap.ofList [("ch-0-0",twiceAnswered)]
  miners := OrdMap.ofList [("a",boosted regIndex consecutiveDays completed),
    ("b",boosted regIndex consecutiveDays completed),("c",boosted regIndex consecutiveDays completed)]

def thirdAnswer : Call := .submitAnswer {} 0 ⟨"ch-0-0","c","4"⟩

def bonus : Nat := applyBonusMultipliers (boostedMiners regIndex consecutiveDays completed) "a" 16666666

def bonusOf (miner : String) : PendingReward := ⟨"ch-0-0",miner,bonus regIndex consecutiveDays completed,0⟩

theorem majority_agreed : majority normalize {} agreed = ⟨normalize "4",["a","b","c"],3⟩ := by
  have visited : RangeOrder.sorted.entries agreed = [("a","4"),("b","4"),("c","4")] := by decide +kernel
  have votes : answerVotes normalize .sorted agreed = OrdMap.insert OrdMap.empty (normalize "4") ["a","b","c"] := by
    apply OrdMap.ext_get?
    intro k
    unfold answerVotes
    rw [visited]
    simp only [List.foldl_cons,List.foldl_nil,castVote,OrdMap.get?_insert_self,OrdMap.get?_empty,OrdMap.get?_insert]
    split_ifs <;> simp
  have picked : RangeOrder.sorted.entries (OrdMap.insert OrdMap.empty (normalize "4") ["a","b","c"]) =
      [(normalize "4",["a","b","c"])] := by
    simp [RangeOrder.entries,RangeOrder.sorted,OrdMap.keys,OrdMap.insert,OrdMap.insertEntry,OrdMap.empty,OrdMap.get?]
  change (RangeOrder.sorted.entries (answerVotes normalize .sorted agreed)).foldl Majority.consider {} = _
  rw [votes,picked]
  rfl

theorem boostedMiners_challenge :
    (boostedMiners regIndex consecutiveDays completed).challenges.get? "ch-0-0" = some twiceAnswered := by
  simp [boostedMiners,OrdMap.ofList]

theorem boostedMiners_miner {miner : String} (known : miner ∈ ["a","b","c"]) :
    (boostedMiners regIndex consecutiveDays completed).miners.get? miner =
      some (boosted regIndex consecutiveDays completed) := by
  simp only [List.mem_cons,List.not_mem_nil,or_false] at known
  rcases known with rfl | rfl | rfl <;> simp [boostedMiners,OrdMap.ofList,OrdMap.get?_insert]

theorem thirdAnswer_recorded :
    (perform normalize digest dev thirdAnswer (boostedMiners regIndex consecutiveDays completed)).2 =
      (recordAnswer normalize dev {} 0 "ch-0-0" "c" "4" twiceAnswered
        (boostedMiners regIndex consecutiveDays completed)).2 := by
  have active : activeMiner "c" (boostedMiners regIndex consecutiveDays completed) = .ok () := by
    unfold activeMiner
    rw [boostedMiners_miner _ _ _ (by simp)]
    rfl
  have inTime : expired dev 0 twiceAnswered = false := by cases dev <;> rfl
  have admitted : admitAnswer ⟨"ch-0-0","c","4"⟩ twiceAnswered = .ok () := by decide +kernel
  simp [perform,thirdAnswer,submitAnswer,active,boostedMiners_challenge,inTime,admitted]

theorem thirdAnswer_pending :
    (perform normalize digest dev thirdAnswer (boostedMiners regIndex consecutiveDays completed)).2.pending =
      OrdMap.ofList (["a","b","c"].map fun miner =>
        (pendingKey 0 "ch-0-0" miner,bonusOf regIndex consecutiveDays completed miner)) := by
  have answered : twiceAnswered.reveals.insert "c" "4" = agreed := by decide +kernel
  have enough : requiredSubmissions dev ≤ agreed.size := by cases dev <;> decide +kernel
  have many : minMajority dev ≤ 3 := by cases dev <;> decide
  have epoch : twiceAnswered.epoch = 0 := rfl
  have base : rewardPerMiner (perChallengePool (boostedMiners regIndex consecutiveDays completed) 0 0) 3 = 16666666 := by
    have closed : rewardPerMiner (perChallengePool (boostedMiners 0 0 0) 0 0) 3 = 16666666 := by decide +kernel
    exact closed
  have one (keeper : Keeper) (miner : String) (reward : Nat) :
      (rewardMiner 0 "ch-0-0" reward keeper miner).pending = keeper.pending.insert (pendingKey 0 "ch-0-0" miner)
        ⟨"ch-0-0",miner,applyBonusMultipliers keeper miner reward,0⟩ := rfl
  have same {miner : String} (known : miner ∈ ["a","b","c"]) :
      applyBonusMultipliers (boostedMiners regIndex consecutiveDays completed) miner 16666666 =
        bonus regIndex consecutiveDays completed := by
    unfold bonus applyBonusMultipliers
    rw [boostedMiners_miner _ _ _ known,boostedMiners_miner _ _ _ (by simp)]
  rw [thirdAnswer_recorded]
  unfold recordAnswer settle
  simp only [answered,if_pos enough,majority_agreed,if_pos many,penalise_same,List.length_cons,List.length_nil,
    epoch,base,List.foldl_cons,List.foldl_nil]
  rw [one,one,one,rewardMiner_bonus (by decide),rewardMiner_bonus (by decide),rewardMiner_bonus (by decide),
    same (by simp),same (by simp),same (by simp)]
  rfl

theorem thirdAnswer_rewards :
    epochRewards 0 (boostedMiners regIndex consecutiveDays completed)
        (perform normalize digest dev thirdAnswer (boostedMiners regIndex consecutiveDays completed)).2 =
      ["a","b","c"].map (bonusOf regIndex consecutiveDays completed) := by
  have ab : ¬ pendingKey 0 "ch-0-0" "b" < pendingKey 0 "ch-0-0" "a" := by decide +kernel
  have ac : ¬ pendingKey 0 "ch-0-0" "c" < pendingKey 0 "ch-0-0" "a" := by decide +kernel
  have bc : ¬ pendingKey 0 "ch-0-0" "c" < pendingKey 0 "ch-0-0" "b" := by decide +kernel
  have ab' : pendingKey 0 "ch-0-0" "b" ≠ pendingKey 0 "ch-0-0" "a" := by decide +kernel
  have ac' : pendingKey 0 "ch-0-0" "c" ≠ pendingKey 0 "ch-0-0" "a" := by decide +kernel
  have bc' : pendingKey 0 "ch-0-0" "c" ≠ pendingKey 0 "ch-0-0" "b" := by decide +kernel
  have entries : (OrdMap.ofList (["a","b","c"].map fun miner =>
      (pendingKey 0 "ch-0-0" miner,bonusOf regIndex consecutiveDays completed miner))).entries =
      ["a","b","c"].map fun miner =>
        (pendingKey 0 "ch-0-0" miner,bonusOf regIndex consecutiveDays completed miner) := by
    simp [OrdMap.ofList,OrdMap.insert,OrdMap.insertEntry,OrdMap.empty,ab,ac,bc,ab',ac',bc']
  have before : (boostedMiners regIndex consecutiveDays completed).pending = OrdMap.empty := rfl
  have own (miner : String) : ofEpoch 0 (boostedMiners regIndex consecutiveDays completed)
      (bonusOf regIndex consecutiveDays completed miner) = true := by
    simp [ofEpoch,bonusOf,boostedMiners_challenge,twiceAnswered]
  unfold epochRewards written
  rw [thirdAnswer_pending,entries,before]
  simp [own]

theorem thirdAnswer_epochRun :
    EpochRun normalize digest dev 0 0 (boostedMiners regIndex consecutiveDays completed) [thirdAnswer] where
  generated := by
    intro id ch found
    have only : id = "ch-0-0" ∧ ch = twiceAnswered := by
      have listed := OrdMap.mem_of_get?_ofList (l := [("ch-0-0",twiceAnswered)]) found
      simpa using listed
    exact ⟨0,only.1.trans (by rw [only.2]; rfl)⟩
  few := by
    have closed : getEpochChallengeCount 0 (boostedMiners 0 0 0) ≤ getBlockReward 0 := by decide +kernel
    exact closed
  heights := by
    intro call inside now at_
    rw [List.mem_singleton.mp inside] at at_
    exact le_of_eq (Option.some.inj at_)
  once := by
    unfold settlements
    dsimp only
    rw [thirdAnswer_rewards]
    simp [settlements,bonusOf]
  affordable := by
    refine ⟨fun height at_ => ?_,trivial⟩
    cases at_
    have closed : 3 ≤ perChallengePool (boostedMiners 0 0 0) 0 0 := by decide +kernel
    rw [thirdAnswer_rewards]
    exact closed

theorem thirdAnswer_emission :
    emission normalize digest dev 0 (boostedMiners regIndex consecutiveDays completed) [thirdAnswer] =
      3 * bonus regIndex consecutiveDays completed := by
  unfold emission
  dsimp only
  rw [thirdAnswer_rewards]
  simp only [List.map_cons,List.map_nil,bonusOf,List.sum_cons,List.sum_nil,emission]
  omega

theorem thirdAnswer_paysOnly {Allowed : Nat → Nat → Nat → Prop} (allowed : Allowed regIndex consecutiveDays completed) :
    Along normalize digest dev (PaysOnly normalize digest dev 0 Allowed)
      (boostedMiners regIndex consecutiveDays completed) [thirdAnswer] := by
  refine ⟨?_,trivial⟩
  intro record inside miner found
  rw [thirdAnswer_rewards] at inside
  obtain ⟨name,known,rfl⟩ := List.mem_map.mp inside
  change OrdMap.get? _ name = some miner at found
  rw [boostedMiners_miner _ _ _ known] at found
  cases found
  exact allowed

theorem bonus_exceeds (above : ¬ Unboosted regIndex consecutiveDays completed) :
    getBlockReward 0 < 3 * bonus regIndex consecutiveDays completed := by
  have pool : getBlockReward 0 = 50000000 := by decide
  unfold Unboosted at above
  unfold bonus applyBonusMultipliers
  rw [boostedMiners_miner _ _ _ (by simp),pool]
  dsimp only [boosted]
  unfold earlyBird streak at above ⊢
  by_cases cold : completed < 100
  · simp only [if_pos cold] at above ⊢
    split_ifs at above ⊢ <;> omega
  · simp only [if_neg cold] at above ⊢
    split_ifs at above ⊢ <;> omega

end Boosted

/-- The rewards of every epoch stay within its miner pool exactly for those populations of miners in which
no bonus factor, halved in the cold start, is above one. -/
theorem emission_capped_iff (normalize digest : String → String) (dev : Bool) (Allowed : Nat → Nat → Nat → Prop) :
    (∀ (epoch : Nat) (height : Int) (keeper : Keeper) (calls : List Call),
      EpochRun normalize digest dev epoch height keeper calls →
      Along normalize digest dev (PaysOnly normalize digest dev epoch Allowed) keeper calls →
        emission normalize digest dev epoch keeper calls ≤ getBlockReward height) ↔
      ∀ regIndex consecutiveDays completed, Allowed regIndex consecutiveDays completed →
        Unboosted regIndex consecutiveDays completed := by
  constructor
  · intro capped regIndex consecutiveDays completed allowed
    by_contra above
    have within := capped 0 0 _ _ (thirdAnswer_epochRun normalize digest dev regIndex consecutiveDays completed)
      (thirdAnswer_paysOnly normalize digest dev regIndex consecutiveDays completed allowed)
    rw [thirdAnswer_emission] at within
    exact absurd (bonus_exceeds regIndex consecutiveDays completed above) (Nat.not_lt.mpr within)
  · intro unboosted epoch height keeper calls run pays
    exact run.emission_le (along_imp (fun now call only record inside miner found =>
      unboosted _ _ _ (only record inside miner found)) pays)

/-- Three of the first thousand miners, past the cold start, share one challenge. -/
theorem early_birds_exceed_pool :
    EpochRun id id false 0 0 (boostedMiners 1 0 100) [thirdAnswer] ∧
      getBlockReward 0 = 50000000 ∧ emission id id false 0 (boostedMiners 1 0 100) [thirdAnswer] = 149999994 :=
  ⟨thirdAnswer_epochRun id id false 1 0 100,by decide,by
    rw [thirdAnswer_emission]
    decide +kernel⟩

end Clawchain.Chain.Challenges
