import Clawchain.Chain.PaidOnce

/-! The counter of completed challenges: a settlement counts the challenge, and the transfer of its reward counts it
again. -/
namespace Clawchain.Chain.Challenges
open Clawchain.Lib

section Counts
variable (normalize digest : String → String) (dev : Bool)

def rewarded (ranges : Ranges) (reveals : OrdMap String String) : List String :=
  if requiredSubmissions dev ≤ reveals.size ∧ minMajority dev ≤ (majority normalize ranges reveals).maxVotes then
    (majority normalize ranges reveals).miners
  else []

def settlementOf (keeper : Keeper) : Call → Option (String × List String)
  | .submitAnswer ranges height req =>
    match (submitAnswer normalize dev ranges height req keeper).1,keeper.challenges.get? req.challengeID with
    | .ok _,some ch => some (req.challengeID,rewarded normalize dev ranges (ch.reveals.insert req.minerAddr req.answer))
    | _,_ => none
  | .submitReveal ranges height req =>
    match (submitRevealREST normalize digest dev ranges height req keeper).1,keeper.challenges.get? req.challengeID with
    | .ok _,some ch => some (req.challengeID,rewarded normalize dev ranges (ch.reveals.insert req.minerAddr req.answer))
    | _,_ => none
  | _ => none

def rewardedBy (keeper : Keeper) (call : Call) : List String := ((settlementOf normalize digest dev keeper call).map Prod.snd).getD []

def settledBy (keeper : Keeper) (call : Call) : List String :=
  if rewardedBy normalize digest dev keeper call = [] then []
  else ((settlementOf normalize digest dev keeper call).map Prod.fst).toList

def rewardsBy (miner : String) (keeper : Keeper) (call : Call) : List String :=
  if miner ∈ rewardedBy normalize digest dev keeper call then settledBy normalize digest dev keeper call else []

def gathered (f : Keeper → Call → List String) : Keeper → List Call → List String
  | _,[] => []
  | keeper,call :: rest => f keeper call ++ gathered f (perform normalize digest dev call keeper).2 rest

def settledChallenges : Keeper → List Call → List String := gathered normalize digest dev (settledBy normalize digest dev)

def rewardingChallenges (miner : String) : Keeper → List Call → List String :=
  gathered normalize digest dev (rewardsBy normalize digest dev miner)

def outcome (calls : List Call) (keeper : Keeper) : Keeper :=
  calls.foldl (fun keeper call => (perform normalize digest dev call keeper).2) keeper

end Counts

def completedOf (keeper : Keeper) (miner : String) : Nat :=
  ((keeper.miners.get? miner).map fun record => record.challengesCompleted).getD 0

def Unpaid (miner : String) (keeper : Keeper) : Call → Prop
  | .processPendingRewards validAddr send => ∀ entry ∈ keeper.pending.entries, entry.2.minerAddr = miner →
      validAddr miner = false ∨ send entry.2 = false
  | _ => True

structure Grows (miner : String) (n : Nat) (before after : Keeper) : Prop where
  counter : completedOf after miner = completedOf before miner + n
  known : (after.miners.get? miner).isSome

section Lemmas
variable {normalize digest : String → String} {dev : Bool} {miner : String} {keeper : Keeper}

theorem Grows.refl (known : (keeper.miners.get? miner).isSome) : Grows miner 0 keeper keeper := ⟨rfl,known⟩

theorem Grows.trans {before middle after : Keeper} {m n : Nat} (first : Grows miner m before middle)
    (second : Grows miner n middle after) : Grows miner (m + n) before after := by
  refine ⟨?_,second.known⟩
  rw [second.counter,first.counter,Nat.add_assoc]

def Miner.completes (record : Miner) : Miner := { record with challengesCompleted := record.challengesCompleted + 1 }

def Miner.fails (record : Miner) : Miner := { record with challengesFailed := record.challengesFailed + 1 }

def Miner.receives (amount : Nat) (record : Miner) : Miner :=
  { record.completes with totalRewards := record.totalRewards + amount }

theorem grows_modifyAt {after : Keeper} (target : String) (update : Miner → Miner) (n : Nat)
    (wrote : after.miners = keeper.miners.modifyAt target update) (known : (keeper.miners.get? miner).isSome)
    (adds : ∀ record, (update record).challengesCompleted = record.challengesCompleted + n) :
    Grows miner (if miner = target then n else 0) keeper after := by
  obtain ⟨record,found⟩ := Option.isSome_iff_exists.mp known
  by_cases own : miner = target
  · constructor <;> simp [completedOf,wrote,OrdMap.get?_modifyAt,← own,found,adds]
  · constructor <;> simp [completedOf,wrote,OrdMap.get?_modifyAt,own,found]

theorem rewardMiners_grows (height : Int) (id : String) (reward : Nat) (miners : List String)
    (known : (keeper.miners.get? miner).isSome) :
    Grows miner (miners.count miner) keeper (miners.foldl (rewardMiner height id reward) keeper) := by
  induction miners generalizing keeper with
  | nil => exact .refl known
  | cons first rest ih =>
    have once : Grows miner (if miner = first then 1 else 0) keeper (rewardMiner height id reward keeper first) :=
      grows_modifyAt first Miner.completes 1 rfl known fun _ => rfl
    have sum : (first :: rest).count miner = (if miner = first then 1 else 0) + rest.count miner := by
      rw [List.count_cons,Nat.add_comm]
      by_cases own : miner = first
      · simp [own]
      · simp [own,Ne.symm own]
    rw [sum]
    exact once.trans (ih once.known)

theorem penalise_grows (answer : String) (entries : List (String × String)) (known : (keeper.miners.get? miner).isSome) :
    Grows miner 0 keeper (entries.foldl (penaliseMiner normalize answer) keeper) := by
  induction entries generalizing keeper with
  | nil => exact .refl known
  | cons entry rest ih =>
    have first : Grows miner 0 keeper (penaliseMiner normalize answer keeper entry) := by
      unfold penaliseMiner
      split_ifs
      · exact .refl known
      · have failed : Grows miner (if miner = entry.1 then 0 else 0) keeper
            { keeper with miners := keeper.miners.modifyAt entry.1 Miner.fails } :=
          grows_modifyAt entry.1 Miner.fails 0 rfl known fun _ => rfl
        rwa [ite_self] at failed
    exact first.trans (ih first.known)

theorem rewarded_nodup (ranges : Ranges) (reveals : OrdMap String String) : (rewarded normalize dev ranges reveals).Nodup := by
  unfold rewarded
  split_ifs with settles
  · have voters := (majority_spec ranges reveals (Nat.lt_of_lt_of_le (minMajority_pos dev) settles.2)).2
    exact voters.nodup_iff.mpr (OrdMap.keysWhere_nodup _ _)
  · exact List.nodup_nil

theorem settle_grows (ranges : Ranges) (height : Int) (id : String) (ch : Challenge)
    (known : (keeper.miners.get? miner).isSome) :
    Grows miner (if miner ∈ rewarded normalize dev ranges ch.reveals then 1 else 0) keeper
      (settle normalize dev ranges height id ch keeper).2 := by
  have distinct := @rewarded_nodup normalize dev ranges ch.reveals
  unfold settle
  unfold rewarded at distinct ⊢
  by_cases enough : requiredSubmissions dev ≤ ch.reveals.size
  · by_cases agreed : minMajority dev ≤ (majority normalize ranges ch.reveals).maxVotes
    · simp only [if_pos enough,if_pos agreed,if_pos (And.intro enough agreed)] at distinct ⊢
      have counted := rewardMiners_grows height id
        (rewardPerMiner (perChallengePool keeper height ch.epoch) (majority normalize ranges ch.reveals).miners.length)
        (majority normalize ranges ch.reveals).miners known
      rw [distinct.count] at counted
      exact counted.trans (penalise_grows _ _ counted.known)
    · simpa [enough,agreed] using Grows.refl known
  · simpa [enough] using Grows.refl known

theorem recordAnswer_grows (ranges : Ranges) (height : Int) (id minerAddr answer : String) (ch : Challenge)
    (known : (keeper.miners.get? miner).isSome) :
    Grows miner (if miner ∈ rewarded normalize dev ranges (ch.reveals.insert minerAddr answer) then 1 else 0) keeper
      (recordAnswer normalize dev ranges height id minerAddr answer ch keeper).2 := by
  have settled := @settle_grows normalize dev _ _ ranges height id
    { ch with reveals := ch.reveals.insert minerAddr answer, status := .reveal } known
  exact ⟨settled.counter,settled.known⟩

theorem submitAnswer_outcome (ranges : Ranges) (height : Int) (req : SubmitAnswerRequest) (keeper : Keeper) :
    (∃ failure, (submitAnswer normalize dev ranges height req keeper).1 = .error failure ∧
      (submitAnswer normalize dev ranges height req keeper).2.miners = keeper.miners) ∨
    ∃ ch, keeper.challenges.get? req.challengeID = some ch ∧
      ∃ response, submitAnswer normalize dev ranges height req keeper = (.ok response,
        (recordAnswer normalize dev ranges height req.challengeID req.minerAddr req.answer ch keeper).2) := by
  unfold submitAnswer
  cases activeMiner req.minerAddr keeper with
  | error failure => exact .inl ⟨failure,rfl,rfl⟩
  | ok _ =>
    cases keeper.challenges.get? req.challengeID with
    | none => exact .inl ⟨_,rfl,rfl⟩
    | some ch =>
      by_cases old : expired dev height ch
      · simp only [if_pos old]
        exact .inl ⟨_,rfl,trivial⟩
      · simp only [if_neg old]
        cases admitAnswer req ch with
        | error failure => exact .inl ⟨failure,rfl,rfl⟩
        | ok _ => exact .inr ⟨ch,rfl,_,rfl⟩

theorem submitReveal_outcome (ranges : Ranges) (height : Int) (req : RevealRequest) (keeper : Keeper) :
    (∃ failure, submitRevealREST normalize digest dev ranges height req keeper = (.error failure,keeper)) ∨
    ∃ ch, keeper.challenges.get? req.challengeID = some ch ∧
      ∃ response, submitRevealREST normalize digest dev ranges height req keeper = (.ok response,
        (recordAnswer normalize dev ranges height req.challengeID req.minerAddr req.answer ch keeper).2) := by
  unfold submitRevealREST
  split_ifs with blank unknown
  · exact .inl ⟨_,rfl⟩
  · exact .inl ⟨_,rfl⟩
  · cases keeper.challenges.get? req.challengeID with
    | none => exact .inl ⟨_,rfl⟩
    | some ch =>
      cases admitted : admitReveal digest req ch with
      | error failure =>
        simp only [admitted]
        exact .inl ⟨failure,rfl⟩
      | ok _ =>
        simp only [admitted]
        exact .inr ⟨ch,rfl,_,rfl⟩

theorem submitAnswer_grows (ranges : Ranges) (height : Int) (req : SubmitAnswerRequest)
    (known : (keeper.miners.get? miner).isSome) :
    Grows miner (if miner ∈ rewardedBy normalize digest dev keeper (.submitAnswer ranges height req) then 1 else 0) keeper
      (submitAnswer normalize dev ranges height req keeper).2 := by
  unfold rewardedBy settlementOf
  rcases @submitAnswer_outcome normalize dev ranges height req keeper with
    ⟨failure,refused,same⟩ | ⟨ch,found,response,accepted⟩
  · have kept : Grows miner 0 keeper (submitAnswer normalize dev ranges height req keeper).2 := by
      constructor
      · rw [completedOf,same]
        rfl
      · rw [same]
        exact known
    simpa [refused] using kept
  · simp only [accepted,found,Option.map_some,Option.getD_some]
    exact recordAnswer_grows ranges height req.challengeID req.minerAddr req.answer ch known

theorem submitReveal_grows (ranges : Ranges) (height : Int) (req : RevealRequest)
    (known : (keeper.miners.get? miner).isSome) :
    Grows miner (if miner ∈ rewardedBy normalize digest dev keeper (.submitReveal ranges height req) then 1 else 0) keeper
      (submitRevealREST normalize digest dev ranges height req keeper).2 := by
  unfold rewardedBy settlementOf
  rcases @submitReveal_outcome normalize digest dev ranges height req keeper with
    ⟨failure,refused⟩ | ⟨ch,found,response,accepted⟩
  · simpa [refused] using Grows.refl known
  · simp only [accepted,found,Option.map_some,Option.getD_some]
    exact recordAnswer_grows ranges height req.challengeID req.minerAddr req.answer ch known

theorem submitCommit_grows (req : CommitRequest) (known : (keeper.miners.get? miner).isSome) :
    Grows miner 0 keeper (submitCommitREST req keeper).2 := by
  have same : (submitCommitREST req keeper).2.miners = keeper.miners := by
    unfold submitCommitREST
    split_ifs
    · rfl
    · cases activeMiner req.minerAddr keeper with
      | error failure => rfl
      | ok _ =>
        cases keeper.challenges.get? req.challengeID with
        | none => rfl
        | some ch =>
          dsimp only
          split_ifs <;> rfl
  constructor
  · rw [completedOf,same]
    rfl
  · rw [same]
    exact known

def pays (validAddr : String → Bool) (send : PendingReward → Bool) (record : PendingReward) : Bool :=
  validAddr record.minerAddr && send record

def paidOut (entry : String × PendingReward) (keeper : Keeper) : Keeper :=
  { keeper with
    miners := keeper.miners.modifyAt entry.2.minerAddr (Miner.receives entry.2.amount)
    pending := keeper.pending.erase entry.1 }

theorem processReward_cases (validAddr : String → Bool) (send : PendingReward → Bool) (transfers : List PendingReward)
    (keeper : Keeper) (entry : String × PendingReward) :
    pays validAddr send entry.2 = true ∧
      processReward validAddr send (transfers,keeper) entry = (transfers ++ [entry.2],paidOut entry keeper) ∨
    pays validAddr send entry.2 = false ∧ ∃ pending,
      processReward validAddr send (transfers,keeper) entry = (transfers,{ keeper with pending := pending }) := by
  unfold pays processReward
  cases validAddr entry.2.minerAddr with
  | false => exact .inr ⟨rfl,_,rfl⟩
  | true =>
    cases send entry.2 with
    | false => exact .inr ⟨rfl,_,rfl⟩
    | true => exact .inl ⟨rfl,rfl⟩

def transfersTo (miner : String) (transfers : List PendingReward) : Nat := transfers.countP (·.minerAddr = miner)

theorem processRewards_transfers (validAddr : String → Bool) (send : PendingReward → Bool)
    (entries : List (String × PendingReward)) (transfers : List PendingReward) (keeper : Keeper) :
    (entries.foldl (processReward validAddr send) (transfers,keeper)).1 =
      transfers ++ (entries.map Prod.snd).filter (pays validAddr send) := by
  induction entries generalizing transfers keeper with
  | nil => simp
  | cons entry rest ih =>
    rw [List.foldl_cons]
    rcases processReward_cases validAddr send transfers keeper entry with ⟨goes,paid⟩ | ⟨stays,pending,same⟩
    · simp [paid,ih,goes]
    · simp [same,ih,stays]

theorem processRewards_grows (validAddr : String → Bool) (send : PendingReward → Bool)
    (entries : List (String × PendingReward)) (transfers : List PendingReward)
    (known : (keeper.miners.get? miner).isSome) :
    Grows miner (transfersTo miner ((entries.map Prod.snd).filter (pays validAddr send))) keeper
      (entries.foldl (processReward validAddr send) (transfers,keeper)).2 := by
  induction entries generalizing transfers keeper with
  | nil => exact .refl known
  | cons entry rest ih =>
    rw [List.foldl_cons,List.map_cons,List.filter_cons]
    rcases processReward_cases validAddr send transfers keeper entry with ⟨goes,paid⟩ | ⟨stays,pending,same⟩
    · have once : Grows miner (if miner = entry.2.minerAddr then 1 else 0) keeper (paidOut entry keeper) :=
        grows_modifyAt entry.2.minerAddr (Miner.receives entry.2.amount) 1 rfl known fun _ => rfl
      have sum (others : List PendingReward) : transfersTo miner (entry.2 :: others) =
          (if miner = entry.2.minerAddr then 1 else 0) + transfersTo miner others := by
        rw [transfersTo,List.countP_cons,Nat.add_comm]
        by_cases own : miner = entry.2.minerAddr
        · simp [own,transfersTo]
        · simp [own,Ne.symm own,transfersTo]
      rw [paid,if_pos goes,sum]
      exact once.trans (ih (transfers ++ [entry.2]) once.known)
    · rw [same,if_neg (by simp [stays])]
      have kept : Grows miner 0 keeper { keeper with pending := pending } := ⟨rfl,known⟩
      have more := kept.trans (ih transfers kept.known)
      rwa [Nat.zero_add] at more

theorem processPendingRewards_transfers (validAddr : String → Bool) (send : PendingReward → Bool) (keeper : Keeper) :
    (processPendingRewards validAddr send keeper).1 =
      (keeper.pending.entries.map Prod.snd).filter (pays validAddr send) :=
  processRewards_transfers validAddr send keeper.pending.entries [] keeper

theorem transfersTo_eq_zero (validAddr : String → Bool) (send : PendingReward → Bool) (keeper : Keeper) :
    transfersTo miner (processPendingRewards validAddr send keeper).1 = 0 ↔
      Unpaid miner keeper (.processPendingRewards validAddr send) := by
  unfold transfersTo Unpaid
  rw [processPendingRewards_transfers,List.countP_eq_zero]
  constructor
  · intro none_ entry inside own
    by_contra paid
    have goes : pays validAddr send entry.2 = true := by
      simp only [not_or,Bool.not_eq_false] at paid
      simp [pays,own,paid]
    exact none_ entry.2 (List.mem_filter.mpr ⟨List.mem_map_of_mem inside,goes⟩) (by simpa using own)
  · intro unpaid record inside own
    obtain ⟨member,goes⟩ := List.mem_filter.mp inside
    obtain ⟨entry,listed,rfl⟩ := List.mem_map.mp member
    have own : entry.2.minerAddr = miner := by simpa using own
    rcases unpaid entry listed own with invalid | failed
    · simp [pays,own,invalid] at goes
    · simp [pays,failed] at goes

theorem perform_grows (call : Call) (known : (keeper.miners.get? miner).isSome) :
    Grows miner ((if miner ∈ rewardedBy normalize digest dev keeper call then 1 else 0) +
        transfersTo miner (perform normalize digest dev call keeper).1) keeper
      (perform normalize digest dev call keeper).2 := by
  cases call with
  | submitAnswer ranges height req => exact submitAnswer_grows ranges height req known
  | submitReveal ranges height req => exact submitReveal_grows ranges height req known
  | submitCommit req => exact submitCommit_grows req known
  | processPendingRewards validAddr send =>
    have counted := processRewards_grows validAddr send keeper.pending.entries [] known
    rw [← processPendingRewards_transfers] at counted
    have nobody : miner ∉ rewardedBy normalize digest dev keeper (.processPendingRewards validAddr send) := by
      simp [rewardedBy,settlementOf]
    rw [if_neg nobody,Nat.zero_add]
    exact counted

theorem transfersTo_perform (call : Call) : transfersTo miner (perform normalize digest dev call keeper).1 = 0 ↔
    Unpaid miner keeper call := by
  cases call with
  | processPendingRewards validAddr send => exact transfersTo_eq_zero validAddr send keeper
  | submitAnswer ranges height req => simp [perform,transfersTo,Unpaid]
  | submitReveal ranges height req => simp [perform,transfersTo,Unpaid]
  | submitCommit req => simp [perform,transfersTo,Unpaid]

theorem rewardsBy_length (call : Call) : (rewardsBy normalize digest dev miner keeper call).length =
    if miner ∈ rewardedBy normalize digest dev keeper call then 1 else 0 := by
  unfold rewardsBy settledBy
  split_ifs with own nobody
  · rw [nobody] at own
    cases own
  · unfold rewardedBy at own
    cases settles : settlementOf normalize digest dev keeper call with
    | none => simp [settles] at own
    | some settlement => rfl
  · rfl

theorem rewardsBy_sublist (call : Call) :
    (rewardsBy normalize digest dev miner keeper call).Sublist (settledBy normalize digest dev keeper call) := by
  unfold rewardsBy
  split_ifs
  · exact .refl _
  · exact List.nil_sublist _

theorem rewardingChallenges_sublist (calls : List Call) (keeper : Keeper) :
    (rewardingChallenges normalize digest dev miner keeper calls).Sublist (settledChallenges normalize digest dev keeper calls) := by
  induction calls generalizing keeper with
  | nil => exact .refl _
  | cons call rest ih => exact (rewardsBy_sublist call).append (ih _)

theorem outcome_grows (calls : List Call) (known : (keeper.miners.get? miner).isSome) :
    ∃ paid, Grows miner ((rewardingChallenges normalize digest dev miner keeper calls).length + paid) keeper
      (outcome normalize digest dev calls keeper) ∧ (paid = 0 ↔ Along normalize digest dev (Unpaid miner) keeper calls) := by
  induction calls generalizing keeper with
  | nil => exact ⟨0,.refl known,by simp [Along]⟩
  | cons call rest ih =>
    have once := @perform_grows normalize digest dev _ _ call known
    obtain ⟨paid,more,unpaid⟩ := ih once.known
    have total : (rewardingChallenges normalize digest dev miner keeper (call :: rest)).length =
        (if miner ∈ rewardedBy normalize digest dev keeper call then 1 else 0) +
          (rewardingChallenges normalize digest dev miner (perform normalize digest dev call keeper).2 rest).length := by
      rw [← rewardsBy_length]
      exact List.length_append
    refine ⟨transfersTo miner (perform normalize digest dev call keeper).1 + paid,?_,?_⟩
    · rw [total,Nat.add_add_add_comm]
      exact once.trans more
    · rw [Nat.add_eq_zero_iff,transfersTo_perform,unpaid]
      rfl

end Lemmas

/-- A run that settles each challenge once counts one for each challenge that rewards the miner exactly when it pays the
miner nothing; a miner that such a run finds with nothing completed is halved until it has a hundred rewards. -/
theorem completed_counts_once (normalize digest : String → String) (dev : Bool) (calls : List Call) (keeper : Keeper)
    (miner : String) (known : (keeper.miners.get? miner).isSome) (once : (settledChallenges normalize digest dev keeper calls).Nodup) :
    (rewardingChallenges normalize digest dev miner keeper calls).Nodup ∧
    (completedOf (outcome normalize digest dev calls keeper) miner =
        completedOf keeper miner + (rewardingChallenges normalize digest dev miner keeper calls).length ↔
      Along normalize digest dev (Unpaid miner) keeper calls) ∧
    (completedOf keeper miner = 0 → Along normalize digest dev (Unpaid miner) keeper calls →
      (completedOf (outcome normalize digest dev calls keeper) miner < 100 ↔
        (rewardingChallenges normalize digest dev miner keeper calls).length < 100)) := by
  obtain ⟨paid,grows,unpaid⟩ := @outcome_grows normalize digest dev _ _ calls known
  have counter := grows.counter
  refine ⟨(rewardingChallenges_sublist calls keeper).nodup once,?_,?_⟩
  · rw [← unpaid,counter]
    omega
  · intro zero holds
    have none_ := unpaid.mpr holds
    rw [counter,zero,none_]
    omega

theorem completed_counts_once_unpaid :
    completedOf (outcome id id false [answers 110 "a",answers 110 "b",answers 110 "c"] openChallenge) "a" = 1 := by
  have counts := completed_counts_once id id false [answers 110 "a",answers 110 "b",answers 110 "c"] openChallenge "a"
    (by decide +kernel) (by decide +kernel)
  have rewards : (rewardingChallenges id id false "a" openChallenge
      [answers 110 "a",answers 110 "b",answers 110 "c"]).length = 1 := by decide +kernel
  have start : completedOf openChallenge "a" = 0 := by decide +kernel
  rw [counts.2.1.mpr ⟨trivial,trivial,trivial,trivial⟩,start,rewards]

/-- One challenge rewards the miner and is paid: the counter stands at two. -/
theorem paid_challenge_counts_twice :
    settledChallenges id id false openChallenge threeAnswers = ["ch-1-0"] ∧
      rewardingChallenges id id false "a" openChallenge threeAnswers = ["ch-1-0"] ∧
      completedOf openChallenge "a" = 0 ∧ completedOf (outcome id id false threeAnswers openChallenge) "a" = 2 := by
  decide +kernel

end Clawchain.Chain.Challenges
