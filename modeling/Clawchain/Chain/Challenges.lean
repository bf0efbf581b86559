import Clawchain.Lib.OrdMap
import Clawchain.Lib.Groups
import Mathlib.Data.String.Basic

/-! The challenge module's handlers: miners answer a challenge, the majority among
the answers is rewarded through pending records, and the end blocker pays these out. -/
namespace Clawchain.Chain.Challenges
open Clawchain.Lib

inductive ChallengeStatus where
  | pending
  | commit
  | reveal
  | complete
  | expired
  deriving DecidableEq, Repr

structure Challenge where
  epoch : Nat
  expectedAnswer : String := ""
  assignees : List String := []
  status : ChallengeStatus := .pending
  createdHeight : Int
  commits : OrdMap String String := OrdMap.empty
  reveals : OrdMap String String := OrdMap.empty
  deriving DecidableEq

/-- The fields of a miner's JSON record that the handlers read; an absent number reads as 0. -/
structure Miner where
  status : Option String := some "active"
  registrationIndex : Nat := 0
  consecutiveDays : Nat := 0
  challengesCompleted : Nat := 0
  challengesFailed : Nat := 0
  totalRewards : Nat := 0
  deriving DecidableEq, Repr

structure PendingReward where
  (challengeID minerAddr : String)
  amount : Nat
  height : Int
  deriving DecidableEq, Repr

def PendingReward.payee (reward : PendingReward) : String × String := (reward.challengeID,reward.minerAddr)

/-- The module's store: `challenge:`, `miner:` and `pending_reward:` are prefixes of their own. -/
structure Keeper where
  challenges : OrdMap String Challenge := OrdMap.empty
  miners : OrdMap String Miner := OrdMap.empty
  pending : OrdMap String PendingReward := OrdMap.empty
  deriving DecidableEq

inductive ChallengeError where
  | minerNotRegistered
  | minerNotActive
  | challengeNotFound
  | challengeExpired
  | notAssigned
  | alreadySubmitted
  | commitFieldsRequired
  | notAcceptingCommits (status : ChallengeStatus)
  | alreadyCommitted
  | revealFieldsRequired
  | noCommit
  | commitHashMismatch
  | alreadyRevealed
  deriving DecidableEq, Repr

structure Response where
  (submissionCount requiredSubmissions : Nat)
  status : ChallengeStatus
  deriving DecidableEq, Repr

/-- The order in which a `range` over a map visits its keys, any order of them. -/
structure RangeOrder where
  visit : List String → List String
  perm : ∀ keys, (visit keys).Perm keys

def RangeOrder.sorted : RangeOrder := ⟨fun keys => keys,fun _ => .refl _⟩

def RangeOrder.entries {ν : Type} (order : RangeOrder) (m : OrdMap String ν) : List (String × ν) :=
  (order.visit m.keys).filterMap fun k => (m.get? k).map fun v => (k,v)

/-- The three maps a settlement ranges over: the answers, the votes and the answers again. -/
structure Ranges where
  tally : RangeOrder := .sorted
  pick : RangeOrder := .sorted
  penalise : RangeOrder := .sorted

def halve : Nat → Nat → Nat
  | 0,reward => reward
  | halvings + 1,reward => if reward / 2 < 1 then 1 else halve halvings (reward / 2)

def getBlockReward (height : Int) : Nat :=
  halve ((height.tdiv 100).tdiv 210000).toNat 50000000

def getEpochChallengeCount (epoch : Nat) (keeper : Keeper) : Nat :=
  let count := (keeper.challenges.keysWhere fun id _ => (s!"ch-{epoch}-").toList.isPrefixOf id.toList).length
  if count = 0 then 1 else count

def earlyBird (regIndex : Nat) : Nat :=
  if 0 < regIndex ∧ regIndex ≤ 1000 then 300
  else if regIndex ≤ 5000 then 200
  else if regIndex ≤ 10000 then 150
  else 100

def streak (consecutiveDays : Nat) : Nat :=
  if 90 ≤ consecutiveDays then 150
  else if 30 ≤ consecutiveDays then 125
  else if 7 ≤ consecutiveDays then 110
  else 100

def applyBonusMultipliers (keeper : Keeper) (minerAddr : String) (baseReward : Nat) : Nat :=
  match keeper.miners.get? minerAddr with
  | none => baseReward
  | some miner =>
    let scaled := baseReward * earlyBird miner.registrationIndex * streak miner.consecutiveDays / 10000
    let actualReward := if miner.challengesCompleted < 100 then scaled / 2 else scaled
    if actualReward < 1 then 1 else actualReward

def perChallengePool (keeper : Keeper) (height : Int) (epoch : Nat) : Nat :=
  let pool := getBlockReward height / max (getEpochChallengeCount epoch keeper) 1
  if pool < 1 then 1 else pool

def rewardPerMiner (pool miners : Nat) : Nat := if pool / miners < 1 then 1 else pool / miners

section Settlement
variable (normalize : String → String)

def castVote (votes : OrdMap String (List String)) (entry : String × String) : OrdMap String (List String) :=
  votes.insert (normalize entry.2) ((votes.get? (normalize entry.2)).getD [] ++ [entry.1])

def answerVotes (order : RangeOrder) (reveals : OrdMap String String) : OrdMap String (List String) :=
  (order.entries reveals).foldl (castVote normalize) OrdMap.empty

structure Majority where
  answer : String := ""
  miners : List String := []
  maxVotes : Nat := 0
  deriving DecidableEq, Repr

def Majority.consider (best : Majority) (entry : String × List String) : Majority :=
  if best.maxVotes < entry.2.length then ⟨entry.1,entry.2,entry.2.length⟩ else best

def majority (ranges : Ranges) (reveals : OrdMap String String) : Majority :=
  (ranges.pick.entries (answerVotes normalize ranges.tally reveals)).foldl Majority.consider {}

def pendingKey (height : Int) (challengeID minerAddr : String) : String :=
  s!"pending_reward:{height}:{challengeID}:{minerAddr}"

def rewardMiner (height : Int) (challengeID : String) (reward : Nat) (keeper : Keeper) (minerAddr : String) : Keeper :=
  { keeper with
    pending := keeper.pending.insert (pendingKey height challengeID minerAddr)
      ⟨challengeID,minerAddr,applyBonusMultipliers keeper minerAddr reward,height⟩
    miners := keeper.miners.modifyAt minerAddr fun miner =>
      { miner with challengesCompleted := miner.challengesCompleted + 1 } }

def penaliseMiner (majorityAnswer : String) (keeper : Keeper) (entry : String × String) : Keeper :=
  if normalize entry.2 = majorityAnswer then keeper
  else { keeper with
    miners := keeper.miners.modifyAt entry.1 fun miner =>
      { miner with challengesFailed := miner.challengesFailed + 1 } }

/-- `CLAWCHAIN_DEV=1` lets a single miner settle a challenge. -/
def requiredSubmissions (dev : Bool) : Nat := if dev then 1 else 3

def minMajority (dev : Bool) : Nat := if dev then 1 else 2

def settle (dev : Bool) (ranges : Ranges) (height : Int) (challengeID : String) (ch : Challenge)
    (keeper : Keeper) : Challenge × Keeper :=
  if requiredSubmissions dev ≤ ch.reveals.size then
    let best := majority normalize ranges ch.reveals
    if minMajority dev ≤ best.maxVotes then
      let reward := rewardPerMiner (perChallengePool keeper height ch.epoch) best.miners.length
      let rewarded := best.miners.foldl (rewardMiner height challengeID reward) keeper
      ({ ch with status := .complete },
        (ranges.penalise.entries ch.reveals).foldl (penaliseMiner normalize best.answer) rewarded)
    else (ch,keeper)
  else (ch,keeper)

def recordAnswer (dev : Bool) (ranges : Ranges) (height : Int) (challengeID minerAddr answer : String)
    (ch : Challenge) (keeper : Keeper) : Response × Keeper :=
  let answered := { ch with reveals := ch.reveals.insert minerAddr answer, status := .reveal }
  let (final,settled) := settle normalize dev ranges height challengeID answered keeper
  (⟨answered.reveals.size,requiredSubmissions dev,final.status⟩,
    { settled with challenges := settled.challenges.insert challengeID final })

end Settlement

section Handlers
variable (normalize : String → String) (digest : String → String) (dev : Bool)

structure SubmitAnswerRequest where
  (challengeID minerAddr answer : String)
  deriving DecidableEq, Repr

structure CommitRequest where
  (challengeID minerAddr commitHash : String)
  deriving DecidableEq, Repr

structure RevealRequest where
  (challengeID minerAddr answer nonce : String)
  deriving DecidableEq, Repr

def activeMiner (minerAddr : String) (keeper : Keeper) : Except ChallengeError Unit :=
  match keeper.miners.get? minerAddr with
  | none => .error .minerNotRegistered
  | some miner => if miner.status.any (· ≠ "active") then .error .minerNotActive else .ok ()

def expired (height : Int) (ch : Challenge) : Bool := !dev && decide (200 < height - ch.createdHeight)

def admitAnswer (req : SubmitAnswerRequest) (ch : Challenge) : Except ChallengeError Unit :=
  if ch.assignees ≠ [] ∧ req.minerAddr ∉ ch.assignees then .error .notAssigned
  else if (ch.reveals.get? req.minerAddr).isSome then .error .alreadySubmitted
  else .ok ()

def submitAnswer (ranges : Ranges) (height : Int) (req : SubmitAnswerRequest) (keeper : Keeper) :
    Except ChallengeError Response × Keeper :=
  match activeMiner req.minerAddr keeper with
  | .error failure => (.error failure,keeper)
  | .ok () =>
    match keeper.challenges.get? req.challengeID with
    | none => (.error .challengeNotFound,keeper)
    | some ch =>
      if expired dev height ch then
        (.error .challengeExpired,
          { keeper with challenges := keeper.challenges.insert req.challengeID { ch with status := .expired } })
      else
        match admitAnswer req ch with
        | .error failure => (.error failure,keeper)
        | .ok () =>
          let (response,after) :=
            recordAnswer normalize dev ranges height req.challengeID req.minerAddr req.answer ch keeper
          (.ok response,after)

def submitCommitREST (req : CommitRequest) (keeper : Keeper) : Except ChallengeError ChallengeStatus × Keeper :=
  if req.challengeID = "" ∨ req.minerAddr = "" ∨ req.commitHash = "" then (.error .commitFieldsRequired,keeper)
  else
    match activeMiner req.minerAddr keeper with
    | .error failure => (.error failure,keeper)
    | .ok () =>
      match keeper.challenges.get? req.challengeID with
      | none => (.error .challengeNotFound,keeper)
      | some ch =>
        if ch.status ≠ .pending ∧ ch.status ≠ .commit then (.error (.notAcceptingCommits ch.status),keeper)
        else if (ch.commits.get? req.minerAddr).isSome then (.error .alreadyCommitted,keeper)
        else
          let committed := { ch with commits := ch.commits.insert req.minerAddr req.commitHash, status := .commit }
          (.ok .commit,{ keeper with challenges := keeper.challenges.insert req.challengeID committed })

def admitReveal (req : RevealRequest) (ch : Challenge) : Except ChallengeError Unit :=
  match ch.commits.get? req.minerAddr with
  | none => .error .noCommit
  | some commitHash =>
    if digest (req.answer ++ req.nonce) ≠ commitHash then .error .commitHashMismatch
    else if (ch.reveals.get? req.minerAddr).isSome then .error .alreadyRevealed
    else .ok ()

def submitRevealREST (ranges : Ranges) (height : Int) (req : RevealRequest) (keeper : Keeper) :
    Except ChallengeError Response × Keeper :=
  if req.challengeID = "" ∨ req.minerAddr = "" ∨ req.answer = "" ∨ req.nonce = "" then
    (.error .revealFieldsRequired,keeper)
  else if (keeper.miners.get? req.minerAddr).isNone then (.error .minerNotRegistered,keeper)
  else
    match keeper.challenges.get? req.challengeID with
    | none => (.error .challengeNotFound,keeper)
    | some ch =>
      match admitReveal digest req ch with
      | .error failure => (.error failure,keeper)
      | .ok () =>
        let (response,after) :=
          recordAnswer normalize dev ranges height req.challengeID req.minerAddr req.answer ch keeper
        (.ok response,after)

def processReward (validAddr : String → Bool) (send : PendingReward → Bool)
    (state : List PendingReward × Keeper) (entry : String × PendingReward) : List PendingReward × Keeper :=
  let (transfers,keeper) := state
  if !validAddr entry.2.minerAddr then (transfers,{ keeper with pending := keeper.pending.erase entry.1 })
  else if !send entry.2 then (transfers,keeper)
  else
    (transfers ++ [entry.2],{ keeper with
      miners := keeper.miners.modifyAt entry.2.minerAddr fun miner =>
        { miner with
          challengesCompleted := miner.challengesCompleted + 1
          totalRewards := miner.totalRewards + entry.2.amount }
      pending := keeper.pending.erase entry.1 })

def processPendingRewards (validAddr : String → Bool) (send : PendingReward → Bool) (keeper : Keeper) :
    List PendingReward × Keeper :=
  keeper.pending.entries.foldl (processReward validAddr send) ([],keeper)

end Handlers
end Clawchain.Chain.Challenges
