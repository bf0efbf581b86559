import Clawchain.Chain.Poa
import Mathlib.Logic.Function.Iterate

/-! The rewards of an epoch, and the check-in streak of the miners who earn them. -/
namespace Clawchain.Chain.Poa
open Clawchain.Lib

structure MinerRecord extends Miner where
  totalRewards : UInt64 := 0
  challengesCompleted : UInt64 := 0
  lastActiveEpoch : UInt64 := 0
  consecutiveDays : UInt64 := 0
  lastCheckinEpoch : UInt64 := 0
  deriving DecidableEq, Repr

structure RewardParams where
  halvingEpochs : UInt64 := 210000
  halvingEpochs_pos : 0 < halvingEpochs := by decide
  initialReward : UInt64 := 50000000
  minerRewardShare : UInt32 := 100

def halveReward : Nat → UInt64 → UInt64
  | 0,reward => reward
  | halvings + 1,reward => if reward / 2 = 0 then 0 else halveReward halvings (reward / 2)

def calculateEpochReward (epochNumber : UInt64) (params : RewardParams) : UInt64 :=
  halveReward (epochNumber / params.halvingEpochs).toNat params.initialReward

def getEarlyBirdMultiplier (registrationIndex : UInt64) : UInt64 :=
  if registrationIndex ≤ 1000 then 300
  else if registrationIndex ≤ 5000 then 200
  else if registrationIndex ≤ 10000 then 150
  else 100

def getStreakBonus (consecutiveDays : UInt64) : UInt64 :=
  if 90 ≤ consecutiveDays then 150
  else if 30 ≤ consecutiveDays then 125
  else if 7 ≤ consecutiveDays then 110
  else 100

def actualReward (perMiner : UInt64) (record : MinerRecord) : UInt64 :=
  let reward := perMiner * getEarlyBirdMultiplier record.registrationIndex * getStreakBonus record.consecutiveDays / 10000
  if record.challengesCompleted < 100 then reward / 2 else reward

def epochsPerDay : UInt64 := 144

/-- The streak after a check-in; a difference wraps at 64 bits. -/
def nextStreak (epochNumber : UInt64) (record : MinerRecord) : UInt64 :=
  let away := epochNumber - record.lastCheckinEpoch
  if 0 < record.lastCheckinEpoch ∧ away ≤ epochsPerDay then
    if epochsPerDay - 10 ≤ away then record.consecutiveDays + 1 else record.consecutiveDays
  else if 0 < record.lastCheckinEpoch then 0
  else record.consecutiveDays

def checkedIn (perMiner epochNumber : UInt64) (record : MinerRecord) : MinerRecord :=
  { record with
    consecutiveDays := nextStreak epochNumber record
    totalRewards := record.totalRewards + actualReward perMiner record
    challengesCompleted := record.challengesCompleted + 1
    lastActiveEpoch := epochNumber
    lastCheckinEpoch := epochNumber }

def distributeEpochRewards (params : RewardParams) (epochNumber : UInt64) (completedMiners : List String)
    (miners : OrdMap String MinerRecord) : OrdMap String MinerRecord :=
  let reward := calculateEpochReward epochNumber params
  if reward = 0 ∨ completedMiners = [] then miners
  else
    let minerPool := reward * params.minerRewardShare.toUInt64 / 100
    let perMiner := minerPool / UInt64.ofNat completedMiners.length
    completedMiners.foldl (fun miners addr => miners.modifyAt addr (checkedIn perMiner epochNumber)) miners

structure Epoch where
  number : UInt64
  completedMiners : List String
  deriving DecidableEq, Repr

def distributeAll (params : RewardParams) (epochs : List Epoch) (miners : OrdMap String MinerRecord) :
    OrdMap String MinerRecord :=
  epochs.foldl (fun miners epoch => distributeEpochRewards params epoch.number epoch.completedMiners miners) miners

theorem get?_modifyAll (update : MinerRecord → MinerRecord) (addrs : List String) (miners : OrdMap String MinerRecord)
    (addr : String) : (addrs.foldl (fun miners addr => miners.modifyAt addr update) miners).get? addr =
      (miners.get? addr).map update^[addrs.count addr] := by
  induction addrs generalizing miners with
  | nil => simp
  | cons first rest ih =>
    rw [List.foldl_cons,ih,OrdMap.get?_modifyAt,List.count_cons]
    by_cases own : addr = first
    · simp [own,Function.comp_def]
    · simp [own,Ne.symm own]

variable {epochNumber : UInt64} {record : MinerRecord}

theorem checkedIn_again {perMiner : UInt64} (now : record.lastCheckinEpoch = epochNumber) :
    (checkedIn perMiner epochNumber record).consecutiveDays = record.consecutiveDays := by
  have today : ¬(epochsPerDay - 10 ≤ (0 : UInt64)) := by decide
  have within : (0 : UInt64) ≤ epochsPerDay := by decide
  simp only [checkedIn,nextStreak,now,UInt64.sub_self,within,and_true,if_neg today]
  split_ifs <;> rfl

theorem checkedIn_iterate (perMiner epochNumber : UInt64) (record : MinerRecord) (n : Nat) :
    ((checkedIn perMiner epochNumber)^[n + 1] record).consecutiveDays = nextStreak epochNumber record ∧
      ((checkedIn perMiner epochNumber)^[n + 1] record).lastCheckinEpoch = epochNumber := by
  induction n with
  | zero => exact ⟨rfl,rfl⟩
  | succ n ih =>
    rw [Function.iterate_succ_apply']
    exact ⟨(checkedIn_again ih.2).trans ih.1,rfl⟩

section Epochs
variable {params : RewardParams} {miners : OrdMap String MinerRecord} {addr : String} {record : MinerRecord}

theorem distribute_unrewarded {number : UInt64} (unrewarded : calculateEpochReward number params = 0)
    (completedMiners : List String) : distributeEpochRewards params number completedMiners miners = miners := by
  simp [distributeEpochRewards,unrewarded]

theorem distribute_absent {number : UInt64} {completedMiners : List String} (absent : addr ∉ completedMiners) :
    (distributeEpochRewards params number completedMiners miners).get? addr = miners.get? addr := by
  unfold distributeEpochRewards
  dsimp only
  split_ifs
  · rfl
  · rw [get?_modifyAll,List.count_eq_zero.mpr absent]
    simp

theorem distribute_listed {number : UInt64} {completedMiners : List String} (rewarded : calculateEpochReward number params ≠ 0)
    (listed : addr ∈ completedMiners) (found : miners.get? addr = some record) :
    ∃ after, (distributeEpochRewards params number completedMiners miners).get? addr = some after ∧
      after.consecutiveDays = nextStreak number record ∧ after.lastCheckinEpoch = number := by
  have some_ : completedMiners ≠ [] := List.ne_nil_of_mem listed
  unfold distributeEpochRewards
  simp only [rewarded,some_,or_self,if_false,get?_modifyAll,found,Option.map_some]
  obtain ⟨n,times⟩ := Nat.exists_eq_succ_of_ne_zero (List.count_pos_iff.mpr listed).ne'
  rw [times]
  exact ⟨_,rfl,checkedIn_iterate _ _ _ n⟩

end Epochs

theorem halveReward_zero (n : Nat) : halveReward n 0 = 0 := by
  cases n with
  | zero => rfl
  | succ n => rfl

theorem halveReward_stays {n : Nat} {reward : UInt64} (gone : halveReward n reward = 0) (more : Nat) :
    halveReward (n + more) reward = 0 := by
  induction n generalizing reward with
  | zero =>
    rw [halveReward] at gone
    rw [gone]
    exact halveReward_zero _
  | succ n ih =>
    rw [Nat.succ_add,halveReward]
    rw [halveReward] at gone
    split_ifs at gone ⊢
    · rfl
    · exact ih gone

theorem calculateEpochReward_stays {params : RewardParams} {earlier later : UInt64} (order : earlier.toNat ≤ later.toNat)
    (gone : calculateEpochReward earlier params = 0) : calculateEpochReward later params = 0 := by
  unfold calculateEpochReward at gone ⊢
  have fewer : (earlier / params.halvingEpochs).toNat ≤ (later / params.halvingEpochs).toNat := by
    rw [UInt64.toNat_div,UInt64.toNat_div]
    exact Nat.div_le_div_right order
  obtain ⟨more,same⟩ := Nat.exists_eq_add_of_le fewer
  rw [same]
  exact halveReward_stays gone more

/-! Consecutive epochs, which a miner completes one and all. -/

theorem nextStreak_gap (earlier : 0 < record.lastCheckinEpoch.toNat)
    (gap : record.lastCheckinEpoch.toNat + 144 < epochNumber.toNat) : nextStreak epochNumber record = 0 := by
  have away : (epochNumber - record.lastCheckinEpoch).toNat = epochNumber.toNat - record.lastCheckinEpoch.toNat :=
    UInt64.toNat_sub_of_le _ _ (UInt64.le_iff_toNat_le.mpr (by omega))
  have present : 0 < record.lastCheckinEpoch := UInt64.lt_iff_toNat_lt.mpr earlier
  have late : ¬epochNumber - record.lastCheckinEpoch ≤ epochsPerDay := by
    rw [UInt64.le_iff_toNat_le,away]
    change ¬epochNumber.toNat - record.lastCheckinEpoch.toNat ≤ 144
    omega
  simp [nextStreak,present,late]

theorem nextStreak_successor (earlier : 0 < record.lastCheckinEpoch.toNat)
    (next : epochNumber.toNat = record.lastCheckinEpoch.toNat + 1)
    : nextStreak epochNumber record = record.consecutiveDays := by
  have away : (epochNumber - record.lastCheckinEpoch).toNat = 1 := by
    rw [UInt64.toNat_sub_of_le _ _ (UInt64.le_iff_toNat_le.mpr (by omega))]
    omega
  have one : epochNumber - record.lastCheckinEpoch = 1 := UInt64.toNat_inj.mp away
  have present : 0 < record.lastCheckinEpoch := UInt64.lt_iff_toNat_lt.mpr earlier
  have today : ¬epochsPerDay - 10 ≤ (1 : UInt64) := by decide
  have within : (1 : UInt64) ≤ epochsPerDay := by decide
  simp [nextStreak,one,present,today,within]

section Runs
variable {params : RewardParams} {addr : String}
variable {epochs : List Epoch} {first count : Nat}

theorem distributeAll_unrewarded (epochs : List Epoch) (miners : OrdMap String MinerRecord)
    (unrewarded : ∀ epoch ∈ epochs, calculateEpochReward epoch.number params = 0) :
    distributeAll params epochs miners = miners := by
  induction epochs generalizing miners with
  | nil => rfl
  | cons epoch epochs ih =>
    have first := @distribute_unrewarded _ miners _ (unrewarded epoch List.mem_cons_self) epoch.completedMiners
    rw [distributeAll,List.foldl_cons,first]
    exact ih miners fun later listed => unrewarded later (List.mem_cons_of_mem _ listed)

def Consecutive (first count : Nat) (epochs : List Epoch) : Prop :=
  epochs.map (·.number.toNat) = List.range' first count

instance (first count : Nat) (epochs : List Epoch) : Decidable (Consecutive first count epochs) :=
  inferInstanceAs (Decidable (_ = _))

theorem Consecutive.from_first (consecutive : Consecutive first count epochs) {epoch : Epoch} (listed : epoch ∈ epochs)
    : first ≤ epoch.number.toNat := by
  have inside : epoch.number.toNat ∈ List.range' first count :=
    consecutive ▸ List.mem_map_of_mem (f := fun epoch : Epoch => epoch.number.toNat) listed
  exact (List.mem_range'_1.mp inside).1

theorem Consecutive.uncons (consecutive : Consecutive first (count + 1) epochs) :
    ∃ epoch rest, epochs = epoch :: rest ∧ epoch.number.toNat = first ∧ Consecutive (first + 1) count rest := by
  unfold Consecutive at consecutive
  rw [List.range'_succ] at consecutive
  obtain ⟨epoch,rest,rfl,number,later⟩ := List.map_eq_cons_iff.mp consecutive
  exact ⟨epoch,rest,rfl,number,later⟩

theorem Consecutive.unrewarded (consecutive : Consecutive first count epochs) {number : UInt64}
    (start : number.toNat ≤ first) (gone : calculateEpochReward number params = 0) :
    ∀ epoch ∈ epochs, calculateEpochReward epoch.number params = 0 :=
  fun _ listed => calculateEpochReward_stays (start.trans (consecutive.from_first listed)) gone

theorem distributeAll_steady {first count : Nat} {epochs : List Epoch} (consecutive : Consecutive first count epochs)
    (present : ∀ epoch ∈ epochs, addr ∈ epoch.completedMiners) {miners : OrdMap String MinerRecord} {record : MinerRecord}
    (found : miners.get? addr = some record) (earlier : 0 < record.lastCheckinEpoch.toNat)
    (next : first = record.lastCheckinEpoch.toNat + 1) :
    ∃ after, (distributeAll params epochs miners).get? addr = some after ∧ after.consecutiveDays = record.consecutiveDays := by
  induction count generalizing first epochs miners record with
  | zero =>
    rw [Consecutive,List.range'_zero,List.map_eq_nil_iff] at consecutive
    exact ⟨record,by simpa [consecutive,distributeAll] using found,rfl⟩
  | succ count ih =>
    obtain ⟨epoch,rest,rfl,number,later⟩ := consecutive.uncons
    by_cases rewarded : calculateEpochReward epoch.number params = 0
    · have none_ := consecutive.unrewarded number.le rewarded
      exact ⟨record,by rw [distributeAll_unrewarded _ _ none_,found],rfl⟩
    · obtain ⟨checked,held,days,last⟩ := distribute_listed rewarded (present epoch List.mem_cons_self) found
      rw [nextStreak_successor earlier (by omega)] at days
      obtain ⟨after,reached,kept⟩ := ih later (fun epoch listed => present epoch (List.mem_cons_of_mem _ listed)) held
        (by rw [last]; omega) (by rw [last,number])
      exact ⟨after,reached,kept.trans days⟩

theorem distributeAll_consecutive {first count : Nat} {epochs : List Epoch} (consecutive : Consecutive first (count + 1) epochs)
    (positive : 0 < first) (present : ∀ epoch ∈ epochs, addr ∈ epoch.completedMiners)
    {miners : OrdMap String MinerRecord} {record : MinerRecord} (found : miners.get? addr = some record) :
    ∃ after, (distributeAll params epochs miners).get? addr = some after ∧
      after.consecutiveDays = if calculateEpochReward (UInt64.ofNat first) params = 0 then record.consecutiveDays
        else nextStreak (UInt64.ofNat first) record := by
  obtain ⟨epoch,rest,rfl,rfl,later⟩ := consecutive.uncons
  rw [UInt64.ofNat_toNat]
  split_ifs with rewarded
  · have none_ := consecutive.unrewarded le_rfl rewarded
    exact ⟨record,by rw [distributeAll_unrewarded _ _ none_,found],rfl⟩
  · obtain ⟨checked,held,days,last⟩ := distribute_listed rewarded (present epoch List.mem_cons_self) found
    obtain ⟨after,reached,kept⟩ := @distributeAll_steady params _ _ _ _ later
      (fun epoch listed => present epoch (List.mem_cons_of_mem _ listed)) _ _ held (by rw [last]; exact positive) (by rw [last])
    exact ⟨after,reached,kept.trans days⟩

/-- The streak that a miner has before the epoch `first` already gives `days` when the epoch is counted. -/
def EntersWith (params : RewardParams) (first : Nat) (record : MinerRecord) (days : Nat) : Prop :=
  let away := UInt64.ofNat first - record.lastCheckinEpoch
  if calculateEpochReward (UInt64.ofNat first) params = 0 ∨ record.lastCheckinEpoch = 0 ∨ away < epochsPerDay - 10 then
    days ≤ record.consecutiveDays.toNat
  else if away ≤ epochsPerDay then days ≤ (record.consecutiveDays + 1).toNat
  else days = 0

theorem entersWith_iff (first : Nat) (record : MinerRecord) (days : Nat) : EntersWith params first record days ↔
    days ≤ (if calculateEpochReward (UInt64.ofNat first) params = 0 then record.consecutiveDays
      else nextStreak (UInt64.ofNat first) record).toNat := by
  unfold EntersWith
  by_cases unrewarded : calculateEpochReward (UInt64.ofNat first) params = 0
  · simp [unrewarded]
  · by_cases fresh : record.lastCheckinEpoch = 0
    · simp [unrewarded,fresh,nextStreak]
    · have present : 0 < record.lastCheckinEpoch := UInt64.pos_iff_ne_zero.mpr fresh
      simp only [unrewarded,fresh,false_or,if_false,nextStreak,present,true_and,if_true]
      generalize UInt64.ofNat first - record.lastCheckinEpoch = away
      have day : (epochsPerDay - 10).toNat = 134 ∧ epochsPerDay.toNat = 144 := by decide
      simp only [UInt64.lt_iff_toNat_lt,UInt64.le_iff_toNat_le,day.1,day.2]
      by_cases today : away.toNat < 134
      · simp [today,(by omega : away.toNat ≤ 144),if_neg (by omega : ¬134 ≤ away.toNat)]
      · by_cases within : away.toNat ≤ 144
        · simp [today,within,(by omega : 134 ≤ away.toNat)]
        · simp [today,within]

def lastListed (addr : String) (epochs : List Epoch) : Option UInt64 :=
  (epochs.filter fun epoch => addr ∈ epoch.completedMiners).getLast?.map (·.number)

theorem lastListed_append (epochs : List Epoch) (epoch : Epoch) :
    lastListed addr (epochs ++ [epoch]) = if addr ∈ epoch.completedMiners then some epoch.number else lastListed addr epochs := by
  unfold lastListed
  rw [List.filter_append]
  by_cases listed : addr ∈ epoch.completedMiners <;> simp [listed]

theorem distributeAll_append (epochs : List Epoch) (epoch : Epoch) (miners : OrdMap String MinerRecord) :
    distributeAll params (epochs ++ [epoch]) miners =
      distributeEpochRewards params epoch.number epoch.completedMiners (distributeAll params epochs miners) := by
  simp [distributeAll]

theorem lastListed_held {miners : OrdMap String MinerRecord} {record : MinerRecord} (found : miners.get? addr = some record)
    (epochs : List Epoch) : ∃ after, (distributeAll params epochs miners).get? addr = some after ∧
      ∀ last, lastListed addr epochs = some last → calculateEpochReward last params ≠ 0 → after.lastCheckinEpoch = last := by
  induction epochs using List.reverseRecOn with
  | nil => exact ⟨record,found,fun last none_ => by simp [lastListed] at none_⟩
  | append_singleton epochs epoch ih =>
    obtain ⟨before,held,last⟩ := ih
    rw [distributeAll_append,lastListed_append]
    by_cases listed : addr ∈ epoch.completedMiners
    · simp only [listed,if_true,Option.some.injEq,forall_eq']
      by_cases rewarded : calculateEpochReward epoch.number params = 0
      · exact ⟨before,by rw [distribute_unrewarded rewarded,held],fun paid => absurd rewarded paid⟩
      · obtain ⟨after,reached,-,now⟩ := distribute_listed rewarded listed held
        exact ⟨after,reached,fun _ => now⟩
    · simp only [listed,if_false]
      exact ⟨before,(distribute_absent listed).trans held,last⟩

theorem distributeAll_gap {miners : OrdMap String MinerRecord} {record before : MinerRecord}
    (found : miners.get? addr = some record) {last : UInt64} {epoch : Epoch} (seen : lastListed addr epochs = some last)
    (positive : 0 < last.toNat) (gap : last.toNat + 144 < epoch.number.toNat) (listed : addr ∈ epoch.completedMiners)
    (held : (distributeAll params epochs miners).get? addr = some before) :
    ∃ after, (distributeAll params (epochs ++ [epoch]) miners).get? addr = some after ∧
      (after.consecutiveDays = 0 ↔ calculateEpochReward epoch.number params ≠ 0 ∨ before.consecutiveDays = 0) := by
  rw [distributeAll_append]
  by_cases rewarded : calculateEpochReward epoch.number params = 0
  · exact ⟨before,by rw [distribute_unrewarded rewarded,held],by simp [rewarded]⟩
  · have paid : calculateEpochReward last params ≠ 0 := fun gone => rewarded (calculateEpochReward_stays (by omega) gone)
    obtain ⟨same,reached,checkin⟩ := @lastListed_held params _ _ _ found epochs
    obtain rfl : same = before := Option.some.inj (reached.symm.trans held)
    obtain ⟨after,reached,days,-⟩ := distribute_listed rewarded listed held
    have gone : after.consecutiveDays = 0 := by
      rw [days]
      apply nextStreak_gap <;> rw [checkin last seen paid] <;> assumption
    exact ⟨after,reached,by simp [gone,rewarded]⟩

end Runs

/-! A miner that completes the first 288 epochs, and one that misses a day. -/

def freshMiner : MinerRecord := { address := "m",registeredAt := 0,registrationIndex := 1 }

def freshMiners : OrdMap String MinerRecord := OrdMap.ofList [("m",freshMiner)]

def everyEpoch (count : Nat) : List Epoch :=
  (List.range' 1 count).map fun number => { number := UInt64.ofNat number,completedMiners := ["m"] }

end Clawchain.Chain.Poa
