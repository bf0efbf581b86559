import Clawchain.Chain.Challenges

/-! The majority among the answers, runs of the handlers, and what each call can write. -/
namespace Clawchain.Chain.Challenges
open Clawchain.Lib

theorem filterMap_keys {ν : Type} (m : OrdMap String ν) :
    (m.keys.filterMap fun k => (m.get? k).map fun v => (k,v)) = m.entries := by
  have each : ∀ e ∈ m.entries, (m.get? e.1).map (fun v => (e.1,v)) = some e := by
    intro e inside
    rw [OrdMap.get?_eq_some_iff.mpr inside]
    rfl
  rw [OrdMap.keys,List.filterMap_map]
  have same : m.entries.filterMap ((fun k => (m.get? k).map fun v => (k,v)) ∘ Prod.fst) = m.entries.filterMap some :=
    List.filterMap_congr fun e inside => each e inside
  rw [same,List.filterMap_some]

theorem RangeOrder.entries_perm {ν : Type} (order : RangeOrder) (m : OrdMap String ν) :
    (order.entries m).Perm m.entries := by
  have shuffled := (order.perm m.keys).filterMap fun k => (m.get? k).map fun v => (k,v)
  rwa [filterMap_keys] at shuffled

section Majority
variable {normalize : String → String}

def support (normalize : String → String) (reveals : OrdMap String String) (answer : String) : List String :=
  reveals.keysWhere fun _ given => normalize given = answer

def Decided (normalize : String → String) (dev : Bool) (reveals : OrdMap String String) : Prop :=
  requiredSubmissions dev ≤ reveals.size ∧
    ∃ entry ∈ reveals.entries, minMajority dev ≤ (support normalize reveals (normalize entry.2)).length

instance (dev : Bool) (reveals : OrdMap String String) : Decidable (Decided normalize dev reveals) :=
  inferInstanceAs (Decidable (_ ∧ _))

theorem castVotes_get? (visited : List (String × String)) (votes : OrdMap String (List String)) (answer : String) :
    ((visited.foldl (castVote normalize) votes).get? answer).getD [] =
      (votes.get? answer).getD [] ++ (Groups.group (fun e => normalize e.2) visited answer).map Prod.fst := by
  induction visited generalizing votes with
  | nil => simp [Groups.group]
  | cons entry rest ih =>
    rw [List.foldl_cons,ih]
    unfold castVote Groups.group
    rw [OrdMap.get?_insert,List.filter_cons]
    by_cases own : answer = normalize entry.2
    · simp [own]
    · have other : ¬ normalize entry.2 = answer := fun same => own same.symm
      simp [own,other]

theorem answerVotes_perm (order : RangeOrder) (reveals : OrdMap String String) (answer : String) :
    (((answerVotes normalize order reveals).get? answer).getD []).Perm (support normalize reveals answer) := by
  unfold answerVotes
  rw [castVotes_get?]
  have same := (Groups.group_perm (fun e : String × String => normalize e.2) (order.entries_perm reveals) answer).map Prod.fst
  simpa [support,OrdMap.keysWhere,Groups.group] using same

theorem consider_fold (listed : List (String × List String)) (best : Majority)
    (counted : best.maxVotes = best.miners.length) :
    let final := listed.foldl Majority.consider best
    final.maxVotes = final.miners.length ∧ best.maxVotes ≤ final.maxVotes ∧
      (final = best ∨ (final.answer,final.miners) ∈ listed) := by
  induction listed generalizing best with
  | nil => exact ⟨counted,Nat.le_refl _,.inl rfl⟩
  | cons entry rest ih =>
    rw [List.foldl_cons]
    by_cases more : best.maxVotes < entry.2.length
    · have taken : best.consider entry = ⟨entry.1,entry.2,entry.2.length⟩ := if_pos more
      rw [taken]
      obtain ⟨length,above,from_⟩ := ih ⟨entry.1,entry.2,entry.2.length⟩ rfl
      refine ⟨length,(Nat.le_of_lt more).trans above,.inr ?_⟩
      rcases from_ with same | later
      · rw [same]
        exact List.mem_cons_self
      · exact List.mem_cons_of_mem _ later
    · have kept : best.consider entry = best := if_neg more
      rw [kept]
      obtain ⟨length,above,from_⟩ := ih best counted
      exact ⟨length,above,from_.imp_right (List.mem_cons_of_mem _)⟩

theorem majority_spec (ranges : Ranges) (reveals : OrdMap String String)
    (voted : 0 < (majority normalize ranges reveals).maxVotes) :
    (majority normalize ranges reveals).maxVotes = (majority normalize ranges reveals).miners.length ∧
      (majority normalize ranges reveals).miners.Perm
        (support normalize reveals (majority normalize ranges reveals).answer) := by
  obtain ⟨length,-,from_⟩ := consider_fold
    (ranges.pick.entries (answerVotes normalize ranges.tally reveals)) {} rfl
  refine ⟨length,?_⟩
  rcases from_ with none_ | listed
  · unfold majority at voted
    rw [none_] at voted
    exact absurd voted (Nat.lt_irrefl 0)
  · have found := OrdMap.get?_eq_some_iff.mpr ((ranges.pick.entries_perm _).subset listed)
    have votes : (((answerVotes normalize ranges.tally reveals).get?
        (majority normalize ranges reveals).answer).getD []).Perm _ := answerVotes_perm ranges.tally reveals _
    unfold majority at votes ⊢
    rwa [found,Option.getD_some] at votes

theorem minMajority_pos (dev : Bool) : 0 < minMajority dev := by cases dev <;> decide

theorem majority_decides {dev : Bool} {ranges : Ranges} {reveals : OrdMap String String}
    (enough : requiredSubmissions dev ≤ reveals.size)
    (agreed : minMajority dev ≤ (majority normalize ranges reveals).maxVotes) : Decided normalize dev reveals := by
  obtain ⟨length,same⟩ := majority_spec ranges reveals (Nat.lt_of_lt_of_le (minMajority_pos dev) agreed)
  have size := same.length_eq
  obtain ⟨miner,given⟩ : ∃ miner, miner ∈ support normalize reveals (majority normalize ranges reveals).answer := by
    apply List.exists_mem_of_length_pos
    rw [← size,← length]
    exact Nat.lt_of_lt_of_le (minMajority_pos dev) agreed
  obtain ⟨answer,found,meets⟩ := OrdMap.mem_keysWhere.mp given
  have own : normalize answer = (majority normalize ranges reveals).answer := by simpa using meets
  refine ⟨enough,(miner,answer),OrdMap.get?_eq_some_iff.mp found,?_⟩
  rw [own,← size,← length]
  exact agreed

end Majority

section Runs
variable (normalize : String → String) (digest : String → String) (dev : Bool)

inductive Call where
  | submitAnswer (ranges : Ranges) (height : Int) (req : SubmitAnswerRequest)
  | submitCommit (req : CommitRequest)
  | submitReveal (ranges : Ranges) (height : Int) (req : RevealRequest)
  | processPendingRewards (validAddr : String → Bool) (send : PendingReward → Bool)

def Call.height? : Call → Option Int
  | .submitAnswer _ height _ => some height
  | .submitReveal _ height _ => some height
  | _ => none

def perform (call : Call) (keeper : Keeper) : List PendingReward × Keeper :=
  match call with
  | .submitAnswer ranges height req => ([],(submitAnswer normalize dev ranges height req keeper).2)
  | .submitCommit req => ([],(submitCommitREST req keeper).2)
  | .submitReveal ranges height req => ([],(submitRevealREST normalize digest dev ranges height req keeper).2)
  | .processPendingRewards validAddr send => processPendingRewards validAddr send keeper

def isNew (before : Keeper) (entry : String × PendingReward) : Bool :=
  (before.pending.get? entry.1).all fun old => old.payee ≠ entry.2.payee

def createdBy (before after : Keeper) : List (String × String) :=
  (after.pending.entries.filter (isNew before)).map fun entry => entry.2.payee

def created : Keeper → List Call → List (String × String)
  | _,[] => []
  | keeper,call :: rest =>
    let after := (perform normalize digest dev call keeper).2
    createdBy keeper after ++ created after rest

def transferred : Keeper → List Call → List (String × String)
  | _,[] => []
  | keeper,call :: rest =>
    let result := perform normalize digest dev call keeper
    result.1.map PendingReward.payee ++ transferred result.2 rest

/-- The handler takes the submission, though the recorded answers decide the challenge already. -/
def Late (keeper : Keeper) : Call → Prop
  | .submitAnswer _ height req => ∃ ch, keeper.challenges.get? req.challengeID = some ch ∧
      Decided normalize dev ch.reveals ∧ activeMiner req.minerAddr keeper = .ok () ∧ expired dev height ch = false ∧
      admitAnswer req ch = .ok ()
  | .submitReveal _ _ req => ∃ ch, keeper.challenges.get? req.challengeID = some ch ∧
      Decided normalize dev ch.reveals ∧ (keeper.miners.get? req.minerAddr).isSome ∧ admitReveal digest req ch = .ok ()
  | _ => False

/-- Each call of a run meets a condition on the store it finds. -/
def Along (P : Keeper → Call → Prop) : Keeper → List Call → Prop
  | _,[] => True
  | keeper,call :: rest => P keeper call ∧ Along P (perform normalize digest dev call keeper).2 rest

variable {normalize digest dev} in
theorem along_imp {P Q : Keeper → Call → Prop} (weaker : ∀ keeper call, P keeper call → Q keeper call)
    {keeper : Keeper} {calls : List Call} (all : Along normalize digest dev P keeper calls) :
    Along normalize digest dev Q keeper calls := by
  induction calls generalizing keeper with
  | nil => trivial
  | cons call rest ih => exact ⟨weaker keeper call all.1,ih all.2⟩

def Timely (keeper : Keeper) (calls : List Call) : Prop :=
  Along normalize digest dev (fun now call => ¬ Late normalize digest dev now call) keeper calls

end Runs

section Writes
variable {normalize : String → String} {digest : String → String}

theorem rewardMiners_challenges (height : Int) (challengeID : String) (reward : Nat) (miners : List String)
    (keeper : Keeper) : (miners.foldl (rewardMiner height challengeID reward) keeper).challenges = keeper.challenges := by
  induction miners generalizing keeper with
  | nil => rfl
  | cons miner rest ih => exact ih _

theorem rewardMiner_bonus {height : Int} {challengeID minerAddr other : String} {reward : Nat} {keeper : Keeper}
    (differ : other ≠ minerAddr) (base : Nat) :
    applyBonusMultipliers (rewardMiner height challengeID reward keeper minerAddr) other base =
      applyBonusMultipliers keeper other base := by
  have same : (rewardMiner height challengeID reward keeper minerAddr).miners.get? other = keeper.miners.get? other := by
    unfold rewardMiner
    rw [OrdMap.get?_modifyAt,if_neg differ]
  unfold applyBonusMultipliers
  rw [same]

theorem rewardMiners_pending {height : Int} {challengeID : String} {reward : Nat} {miners : List String}
    {keeper : Keeper} {key : String} {record : PendingReward} (distinct : miners.Nodup)
    (found : (miners.foldl (rewardMiner height challengeID reward) keeper).pending.get? key = some record) :
    keeper.pending.get? key = some record ∨ ∃ miner ∈ miners, key = pendingKey height challengeID miner ∧
      record = ⟨challengeID,miner,applyBonusMultipliers keeper miner reward,height⟩ := by
  induction miners generalizing keeper with
  | nil => exact .inl found
  | cons miner rest ih =>
    obtain ⟨absent,tail⟩ := List.nodup_cons.mp distinct
    rcases ih tail found with before | ⟨other,inside,place,value⟩
    · change (keeper.pending.insert _ _).get? key = _ at before
      rw [OrdMap.get?_insert] at before
      split_ifs at before with own
      · exact .inr ⟨miner,List.mem_cons_self,own,(Option.some.inj before).symm⟩
      · exact .inl before
    · have differ : other ≠ miner := fun same => absent (same ▸ inside)
      rw [rewardMiner_bonus differ] at value
      exact .inr ⟨other,List.mem_cons_of_mem _ inside,place,value⟩

theorem penalise_same (normalize : String → String) (answer : String) (entries : List (String × String)) (keeper : Keeper) :
    (entries.foldl (penaliseMiner normalize answer) keeper).pending = keeper.pending ∧
      (entries.foldl (penaliseMiner normalize answer) keeper).challenges = keeper.challenges := by
  induction entries generalizing keeper with
  | nil => exact ⟨rfl,rfl⟩
  | cons entry rest ih =>
    obtain ⟨pending,challenges⟩ := ih (penaliseMiner normalize answer keeper entry)
    rw [List.foldl_cons,pending,challenges]
    unfold penaliseMiner
    split_ifs <;> exact ⟨rfl,rfl⟩

def shareOf (height : Int) (challengeID : String) (epoch majoritySize : Nat) (keeper : Keeper) (miner : String) :
    PendingReward :=
  ⟨challengeID,miner,applyBonusMultipliers keeper miner
    (rewardPerMiner (perChallengePool keeper height epoch) majoritySize),height⟩

theorem settle_spec (normalize : String → String) (dev : Bool) (ranges : Ranges) (height : Int) (challengeID : String)
    (ch : Challenge) (keeper : Keeper) :
    let result := settle normalize dev ranges height challengeID ch keeper
    result.1.reveals = ch.reveals ∧ result.1.epoch = ch.epoch ∧ result.2.challenges = keeper.challenges ∧
      ∃ miners : List String, miners.Nodup ∧ (miners ≠ [] → Decided normalize dev ch.reveals) ∧
        ∀ key record, result.2.pending.get? key = some record → keeper.pending.get? key = some record ∨
          ∃ miner ∈ miners, key = pendingKey height challengeID miner ∧
            record = shareOf height challengeID ch.epoch miners.length keeper miner := by
  intro result
  have shape : result = settle normalize dev ranges height challengeID ch keeper := rfl
  unfold settle at shape
  by_cases enough : requiredSubmissions dev ≤ ch.reveals.size
  · by_cases agreed : minMajority dev ≤ (majority normalize ranges ch.reveals).maxVotes
    · rw [if_pos enough] at shape
      simp only [if_pos agreed] at shape
      rw [shape]
      obtain ⟨pending,challenges⟩ := penalise_same normalize
        (majority normalize ranges ch.reveals).answer (ranges.penalise.entries ch.reveals)
        ((majority normalize ranges ch.reveals).miners.foldl (rewardMiner height challengeID
          (rewardPerMiner (perChallengePool keeper height ch.epoch) (majority normalize ranges ch.reveals).miners.length))
          keeper)
      have voters := (majority_spec ranges ch.reveals (Nat.lt_of_lt_of_le (minMajority_pos dev) agreed)).2
      have distinct := voters.nodup_iff.mpr (OrdMap.keysWhere_nodup _ _)
      refine ⟨rfl,rfl,challenges.trans (rewardMiners_challenges _ _ _ _ _),_,distinct,
        fun _ => majority_decides enough agreed,?_⟩
      intro key record found
      rw [pending] at found
      exact rewardMiners_pending distinct found
    · rw [if_pos enough] at shape
      simp only [if_neg agreed] at shape
      rw [shape]
      exact ⟨rfl,rfl,rfl,[],List.nodup_nil,absurd rfl,fun _ _ found => .inl found⟩
  · rw [if_neg enough] at shape
    rw [shape]
    exact ⟨rfl,rfl,rfl,[],List.nodup_nil,absurd rfl,fun _ _ found => .inl found⟩

/-- What a call can do to the store: nothing that matters here, or record one more answer and share out
the rewards if the answers then decide the challenge. -/
inductive Effect (normalize digest : String → String) (dev : Bool) (call : Call) (before after : Keeper) : Prop
  | ignored (pending : ∀ key record, after.pending.get? key = some record → before.pending.get? key = some record)
      (ids : after.challenges.keys = before.challenges.keys)
      (kept : ∀ id ch, before.challenges.get? id = some ch →
        ∃ ch', after.challenges.get? id = some ch' ∧ ch'.reveals = ch.reveals ∧ ch'.epoch = ch.epoch)
  | recorded (height : Int) (id : String) (ch final : Challenge) (miners : List String)
      (at_ : call.height? = some height) (found : before.challenges.get? id = some ch)
      (late : Decided normalize dev ch.reveals → Late normalize digest dev before call)
      (stored : after.challenges = before.challenges.insert id final) (epoch : final.epoch = ch.epoch)
      (distinct : miners.Nodup) (decided : miners ≠ [] → Decided normalize dev final.reveals)
      (pending : ∀ key record, after.pending.get? key = some record → before.pending.get? key = some record ∨
        ∃ miner ∈ miners, key = pendingKey height id miner ∧
          record = shareOf height id ch.epoch miners.length before miner)

section Cases
variable {dev : Bool} {call : Call}

theorem Effect.refl (keeper : Keeper) : Effect normalize digest dev call keeper keeper :=
  .ignored (fun _ _ found => found) rfl fun _ ch found => ⟨ch,found,rfl,rfl⟩

theorem effect_status {keeper : Keeper} {id : String} {ch new : Challenge}
    (found : keeper.challenges.get? id = some ch) (reveals : new.reveals = ch.reveals) (epoch : new.epoch = ch.epoch) :
    Effect normalize digest dev call keeper { keeper with challenges := keeper.challenges.insert id new } := by
  refine .ignored (fun _ _ found => found)
    (OrdMap.keys_insert_of_mem _ _ (OrdMap.mem_keys_iff.mpr ⟨ch,found⟩)) fun other held stored => ?_
  change ∃ ch', (keeper.challenges.insert id new).get? other = some ch' ∧ _
  rw [OrdMap.get?_insert]
  split_ifs with own
  · rw [own,found] at stored
    cases stored
    exact ⟨new,rfl,reveals,epoch⟩
  · exact ⟨held,stored,rfl,rfl⟩

theorem recordAnswer_effect (ranges : Ranges) {height : Int} {id miner answer : String} {ch : Challenge}
    {keeper : Keeper} (at_ : call.height? = some height) (found : keeper.challenges.get? id = some ch)
    (late : Decided normalize dev ch.reveals → Late normalize digest dev keeper call) :
    Effect normalize digest dev call keeper
      (recordAnswer normalize dev ranges height id miner answer ch keeper).2 := by
  obtain ⟨reveals,epoch,challenges,miners,distinct,decided,pending⟩ := settle_spec normalize dev ranges height id
    { ch with reveals := ch.reveals.insert miner answer, status := .reveal } keeper
  unfold recordAnswer
  refine .recorded height id ch _ miners at_ found late
    (congrArg (fun held => OrdMap.insert held id _) challenges) epoch distinct ?_ pending
  rw [reveals]
  exact decided

theorem submitAnswer_effect (ranges : Ranges) (height : Int) (req : SubmitAnswerRequest) (keeper : Keeper) :
    Effect normalize digest dev (.submitAnswer ranges height req) keeper
      (submitAnswer normalize dev ranges height req keeper).2 := by
  unfold submitAnswer
  cases active : activeMiner req.minerAddr keeper with
  | error failure => exact .refl keeper
  | ok _ =>
    cases found : keeper.challenges.get? req.challengeID with
    | none => exact .refl keeper
    | some ch =>
      by_cases old : expired dev height ch
      · simp only [if_pos old]
        exact effect_status found rfl rfl
      · simp only [if_neg old]
        cases admitted : admitAnswer req ch with
        | error failure => exact .refl keeper
        | ok _ =>
          exact recordAnswer_effect ranges rfl found fun decided =>
            ⟨ch,found,decided,active,Bool.eq_false_iff.mpr old,admitted⟩

theorem submitReveal_effect (ranges : Ranges) (height : Int) (req : RevealRequest) (keeper : Keeper) :
    Effect normalize digest dev (.submitReveal ranges height req) keeper
      (submitRevealREST normalize digest dev ranges height req keeper).2 := by
  unfold submitRevealREST
  split_ifs with blank unknown
  · exact .refl keeper
  · exact .refl keeper
  · cases found : keeper.challenges.get? req.challengeID with
    | none => exact .refl keeper
    | some ch =>
      cases admitted : admitReveal digest req ch with
      | error failure =>
        simp only [admitted]
        exact .refl keeper
      | ok _ =>
        simp only [admitted]
        exact recordAnswer_effect ranges rfl found fun decided =>
          ⟨ch,found,decided,by simpa [Option.isSome_iff_ne_none] using unknown,admitted⟩

theorem submitCommit_effect (req : CommitRequest) (keeper : Keeper) :
    Effect normalize digest dev (.submitCommit req) keeper (submitCommitREST req keeper).2 := by
  unfold submitCommitREST
  by_cases blank : req.challengeID = "" ∨ req.minerAddr = "" ∨ req.commitHash = ""
  · rw [if_pos blank]
    exact .refl keeper
  · rw [if_neg blank]
    cases activeMiner req.minerAddr keeper with
    | error failure => exact .refl keeper
    | ok _ =>
      cases found : keeper.challenges.get? req.challengeID with
      | none => exact .refl keeper
      | some ch =>
        dsimp only
        split_ifs with closed committed
        · exact .refl keeper
        · exact .refl keeper
        · exact effect_status found rfl rfl

theorem processReward_spec (validAddr : String → Bool) (send : PendingReward → Bool)
    (state : List PendingReward × Keeper) (entry : String × PendingReward) :
    (processReward validAddr send state entry).2.challenges = state.2.challenges ∧
      ∀ key record, (processReward validAddr send state entry).2.pending.get? key = some record →
        state.2.pending.get? key = some record := by
  obtain ⟨transfers,keeper⟩ := state
  have fewer (key : String) (record : PendingReward) (left : (keeper.pending.erase entry.1).get? key = some record) :
      keeper.pending.get? key = some record := by
    rw [OrdMap.get?_erase] at left
    split_ifs at left
    exact left
  unfold processReward
  by_cases invalid : !validAddr entry.2.minerAddr
  · simp only [if_pos invalid]
    exact ⟨trivial,fewer⟩
  · by_cases failed : !send entry.2
    · simp only [if_neg invalid,if_pos failed]
      exact ⟨trivial,fun _ _ found => found⟩
    · simp only [if_neg invalid,if_neg failed]
      exact ⟨trivial,fewer⟩

theorem processPendingRewards_spec (validAddr : String → Bool) (send : PendingReward → Bool) (keeper : Keeper) :
    (processPendingRewards validAddr send keeper).2.challenges = keeper.challenges ∧
      ∀ key record, (processPendingRewards validAddr send keeper).2.pending.get? key = some record →
        keeper.pending.get? key = some record := by
  unfold processPendingRewards
  generalize keeper.pending.entries = entries
  suffices general : ∀ state : List PendingReward × Keeper,
      (entries.foldl (processReward validAddr send) state).2.challenges = state.2.challenges ∧
        ∀ key record, (entries.foldl (processReward validAddr send) state).2.pending.get? key = some record →
          state.2.pending.get? key = some record from general ([],keeper)
  induction entries with
  | nil => exact fun _ => ⟨rfl,fun _ _ found => found⟩
  | cons entry rest ih =>
    intro state
    obtain ⟨challenges,fewer⟩ := ih (processReward validAddr send state entry)
    obtain ⟨challenges',fewer'⟩ := processReward_spec validAddr send state entry
    exact ⟨challenges.trans challenges',fun key record found => fewer' key record (fewer key record found)⟩

theorem perform_effect (call : Call) (keeper : Keeper) :
    Effect normalize digest dev call keeper (perform normalize digest dev call keeper).2 := by
  cases call with
  | submitAnswer ranges height req => exact submitAnswer_effect ranges height req keeper
  | submitCommit req => exact submitCommit_effect req keeper
  | submitReveal ranges height req => exact submitReveal_effect ranges height req keeper
  | processPendingRewards validAddr send =>
    obtain ⟨challenges,fewer⟩ := processPendingRewards_spec validAddr send keeper
    refine .ignored fewer (congrArg OrdMap.keys challenges) fun id ch found => ⟨ch,?_,rfl,rfl⟩
    rw [perform,challenges]
    exact found

end Cases
end Writes
end Clawchain.Chain.Challenges
