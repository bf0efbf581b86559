import Clawchain.Lib.OrdMap
import Clawchain.Lib.Format
import Mathlib.Data.String.Basic
import Mathlib.Tactic.Linarith

/-! The proof-of-activity module's stakes: a miner's stake grows by staking, and
leaves it by unstaking, through a queue, and by slashing. -/
namespace Clawchain.Chain.Poa
open Clawchain.Lib

inductive MinerStatus where
  | inactive
  | active
  | unstaking
  | suspended
  deriving DecidableEq, Repr

structure Miner where
  address : String
  stakeAmount : UInt64 := 0
  status : MinerStatus := .inactive
  registeredAt : Int
  reputationScore : Int32 := 500
  registrationIndex : UInt64
  deriving DecidableEq, Repr

structure UnstakeEntry where
  minerAddress : String
  amount : UInt64
  completionTime : Int
  deriving DecidableEq, Repr

structure Params where
  minStake : UInt64
  unstakeCooldown : Int
  deriving DecidableEq, Repr

def defaultParams : Params := ⟨100000000,7 * 24 * 3600 * 1000000000⟩

inductive PoaError where
  | minerAlreadyRegistered
  | minerNotFound
  | insufficientStake
  deriving DecidableEq, Repr

structure Keeper where
  miners : OrdMap String Miner := OrdMap.empty
  unstakeQueue : OrdMap String UnstakeEntry := OrdMap.empty
  minerCount : UInt64 := 0
  deriving DecidableEq

section Calls
variable (params : Params)

def registerMiner (now : Int) (address : String) (keeper : Keeper) : Except PoaError Unit × Keeper :=
  if (keeper.miners.get? address).isSome then (.error .minerAlreadyRegistered,keeper)
  else
    let miner : Miner := { address := address, registeredAt := now, registrationIndex := keeper.minerCount + 1 }
    (.ok (),{ keeper with
      minerCount := keeper.minerCount + 1
      miners := keeper.miners.insert address miner })

def staked (amount : UInt64) (miner : Miner) : Miner :=
  let stakeAmount := miner.stakeAmount + amount
  { miner with
    stakeAmount := stakeAmount
    status := if stakeAmount ≥ params.minStake ∧ miner.status = .inactive then .active else miner.status }

def stakeMiner (address : String) (amount : UInt64) (keeper : Keeper) : Except PoaError Unit × Keeper :=
  match keeper.miners.get? address with
  | none => (.error .minerNotFound,keeper)
  | some miner => (.ok (),{ keeper with miners := keeper.miners.insert address (staked params amount miner) })

def unstaked (amount : UInt64) (miner : Miner) : Miner :=
  let stakeAmount := miner.stakeAmount - amount
  { miner with
    stakeAmount := stakeAmount
    status := if stakeAmount < params.minStake then .inactive else .unstaking }

def queueKey (now : Int) (address : String) : String := toString (now / 1000000000) ++ ":" ++ address

def unstakeMiner (now : Int) (address : String) (amount : UInt64) (keeper : Keeper) : Except PoaError Unit × Keeper :=
  match keeper.miners.get? address with
  | none => (.error .minerNotFound,keeper)
  | some miner =>
    if amount > miner.stakeAmount then (.error .insufficientStake,keeper)
    else (.ok (),{ keeper with
      miners := keeper.miners.insert address (unstaked params amount miner)
      unstakeQueue := keeper.unstakeQueue.insert (queueKey now address)
        ⟨address,amount,now + params.unstakeCooldown⟩ })

/-- The product wraps at 64 bits before it is divided. -/
def slashAmount (slashPercent : UInt32) (stakeAmount : UInt64) : UInt64 :=
  let amount := stakeAmount * slashPercent.toUInt64 / 100
  if amount > stakeAmount then stakeAmount else amount

def slashed (slashPercent : UInt32) (miner : Miner) : Miner :=
  let stakeAmount := miner.stakeAmount - slashAmount slashPercent miner.stakeAmount
  { miner with
    stakeAmount := stakeAmount
    status := if stakeAmount < params.minStake then .suspended else miner.status }

def slashMiner (address : String) (slashPercent : UInt32) (keeper : Keeper) : Except PoaError Unit × Keeper :=
  match keeper.miners.get? address with
  | none => (.error .minerNotFound,keeper)
  | some miner => (.ok (),{ keeper with miners := keeper.miners.insert address (slashed params slashPercent miner) })

def due (now : Int) (entry : UnstakeEntry) : Bool := entry.completionTime < now

def processUnstakeQueue (now : Int) (keeper : Keeper) : Keeper :=
  { keeper with unstakeQueue := keeper.unstakeQueue.filter fun _ entry => !due now entry }

end Calls

inductive Call where
  | register (address : String)
  | stake (address : String) (amount : UInt64)
  | unstake (address : String) (amount : UInt64)
  | slash (address : String) (slashPercent : UInt32)
  | processQueue
  deriving DecidableEq, Repr

section Run
variable (params : Params)

def perform (now : Int) (call : Call) (keeper : Keeper) : Except PoaError Unit × Keeper :=
  match call with
  | .register address => registerMiner now address keeper
  | .stake address amount => stakeMiner params address amount keeper
  | .unstake address amount => unstakeMiner params now address amount keeper
  | .slash address slashPercent => slashMiner params address slashPercent keeper
  | .processQueue => (.ok (),processUnstakeQueue now keeper)

def stakeOf (keeper : Keeper) (address : String) : Nat :=
  ((keeper.miners.get? address).map fun miner => miner.stakeAmount.toNat).getD 0

def queuedOf (keeper : Keeper) (address : String) : Int :=
  keeper.unstakeQueue.sumBy fun _ entry => if entry.minerAddress = address then (entry.amount.toNat : Int) else 0

def dueOf (now : Int) (keeper : Keeper) (address : String) : Int :=
  keeper.unstakeQueue.sumBy fun _ entry =>
    if due now entry = true ∧ entry.minerAddress = address then (entry.amount.toNat : Int) else 0

structure Totals where
  staked : Int := 0
  slashed : Int := 0
  released : Int := 0
  deriving DecidableEq, Repr

def count (address : String) (now : Int) (call : Call) (keeper : Keeper) (totals : Totals) : Totals :=
  match call with
  | .stake target amount =>
    if target = address ∧ (keeper.miners.get? target).isSome then { totals with staked := totals.staked + amount.toNat }
    else totals
  | .slash target slashPercent =>
    if target = address then { totals with slashed := totals.slashed +
      (((keeper.miners.get? target).map fun miner => (slashAmount slashPercent miner.stakeAmount).toNat).getD 0 : Nat) }
    else totals
  | .processQueue => { totals with released := totals.released + dueOf now keeper address }
  | _ => totals

structure Event where
  now : Int
  call : Call
  deriving DecidableEq, Repr

/-- The module's state with every miner's totals. -/
structure Books where
  keeper : Keeper := {}
  totals : String → Totals := fun _ => {}

def Books.record (event : Event) (books : Books) : Books :=
  ⟨(perform params event.now event.call books.keeper).2,
    fun address => count address event.now event.call books.keeper (books.totals address)⟩

def books (history : List Event) : Books := history.foldl (fun books event => books.record params event) {}

theorem books_concat (history : List Event) (event : Event) :
    books params (history ++ [event]) = (books params history).record params event := by
  simp [books]

def deficit (books : Books) (address : String) : Int :=
  (books.totals address).staked - (stakeOf books.keeper address + queuedOf books.keeper address +
    (books.totals address).slashed + (books.totals address).released)

def Conserved (books : Books) (address : String) : Prop :=
  (books.totals address).staked = stakeOf books.keeper address + queuedOf books.keeper address +
    (books.totals address).slashed + (books.totals address).released

theorem conserved_iff_deficit (books : Books) (address : String) : Conserved books address ↔ deficit books address = 0 := by
  unfold Conserved deficit
  omega

def covers (address : String) (amount : UInt64) (keeper : Keeper) : Bool :=
  (keeper.miners.get? address).any fun miner => amount ≤ miner.stakeAmount

def occupied (now : Int) (address : String) (keeper : Keeper) : Int :=
  ((keeper.unstakeQueue.get? (queueKey now address)).map fun entry => (entry.amount.toNat : Int)).getD 0

def overwritten (address : String) (event : Event) (keeper : Keeper) : Int :=
  match event.call with
  | .unstake target amount =>
    if target = address ∧ covers address amount keeper then occupied event.now address keeper else 0
  | _ => 0

def Keyed (keeper : Keeper) : Prop :=
  keeper.unstakeQueue.All fun key entry => ∃ now, key = queueKey now entry.minerAddress

theorem queueKey_injective {now then' : Int} {address other : String}
    (same : queueKey now address = queueKey then' other) : address = other :=
  (Format.fields_injective (Format.colon_notMem_toString _) (Format.colon_notMem_toString _) same).2

variable {params}

theorem stakeOf_insert {keeper after : Keeper} {target : String} {miner : Miner}
    (wrote : after.miners = keeper.miners.insert target miner) (address : String) :
    stakeOf after address = if address = target then miner.stakeAmount.toNat else stakeOf keeper address := by
  unfold stakeOf
  rw [wrote,OrdMap.get?_insert]
  split_ifs <;> rfl

theorem stakeOf_found {keeper : Keeper} {address : String} {miner : Miner}
    (found : keeper.miners.get? address = some miner) : stakeOf keeper address = miner.stakeAmount.toNat := by
  simp [stakeOf,found]

theorem slashAmount_le (slashPercent : UInt32) (stakeAmount : UInt64) : slashAmount slashPercent stakeAmount ≤ stakeAmount := by
  unfold slashAmount
  simp only
  split_ifs with above
  · exact UInt64.le_refl _
  · exact UInt64.not_lt.mp above

theorem queuedOf_process (now : Int) (keeper : Keeper) (address : String) :
    queuedOf (processUnstakeQueue now keeper) address + dueOf now keeper address = queuedOf keeper address := by
  unfold queuedOf dueOf processUnstakeQueue
  rw [OrdMap.sumBy_filter,← OrdMap.sumBy_add]
  apply OrdMap.sumBy_congr
  intro key entry _
  cases due now entry <;> simp

theorem queuedOf_insert {keeper after : Keeper} (keyed : Keyed keeper) {now completionTime : Int} {target : String}
    {amount : UInt64} (wrote : after.unstakeQueue =
      keeper.unstakeQueue.insert (queueKey now target) ⟨target,amount,completionTime⟩) (address : String) :
    queuedOf after address = queuedOf keeper address +
      if target = address then (amount.toNat : Int) - occupied now address keeper else 0 := by
  unfold queuedOf occupied
  rw [wrote,OrdMap.sumBy_insert]
  cases found : keeper.unstakeQueue.get? (queueKey now target) with
  | none =>
    split_ifs with own
    · rw [← own,found]
      simp
    · simp
  | some old =>
    obtain ⟨before,same⟩ := keyed _ _ found
    have owner : target = old.minerAddress := queueKey_injective same
    split_ifs with own
    · rw [← own,found]
      simp only [Option.map_some,Option.getD_some,← owner,if_true]
      omega
    · simp [← owner,own]

theorem Keyed.perform {keeper : Keeper} (keyed : Keyed keeper) (now : Int) (call : Call) :
    Keyed (perform params now call keeper).2 := by
  cases call with
  | register address =>
    simp only [Poa.perform,registerMiner]
    split_ifs
    · exact keyed
    · exact keyed
  | stake address amount =>
    simp only [Poa.perform,stakeMiner]
    cases keeper.miners.get? address with
    | none => exact keyed
    | some miner => exact keyed
  | unstake address amount =>
    simp only [Poa.perform,unstakeMiner]
    cases keeper.miners.get? address with
    | none => exact keyed
    | some miner =>
      simp only
      split_ifs
      · exact keyed
      · exact OrdMap.All.insert keyed ⟨now,rfl⟩
  | slash address slashPercent =>
    simp only [Poa.perform,slashMiner]
    cases keeper.miners.get? address with
    | none => exact keyed
    | some miner => exact keyed
  | processQueue =>
    intro key entry found
    simp only [Poa.perform,processUnstakeQueue,OrdMap.get?_filter,Option.filter_eq_some_iff] at found
    exact keyed key entry found.1

theorem books_keyed (history : List Event) : Keyed (books params history).keeper := by
  induction history using List.reverseRecOn with
  | nil => intro key entry found; cases found
  | append_singleton history event ih =>
    rw [books_concat]
    exact ih.perform event.now event.call

def Fits (address : String) (event : Event) (keeper : Keeper) : Prop :=
  ∀ amount, event.call = .stake address amount → stakeOf keeper address + amount.toNat < 2 ^ 64

theorem deficit_register {books : Books} {address : String} (now : Int) (target : String) :
    deficit (books.record params ⟨now,.register target⟩) address = deficit books address := by
  obtain ⟨keeper,totals⟩ := books
  simp only [deficit,Books.record,perform,registerMiner,count]
  split_ifs with known
  · rfl
  · have absent : keeper.miners.get? target = none := by simpa using known
    rw [stakeOf_insert rfl]
    simp only [queuedOf]
    split_ifs with own
    · simp [stakeOf,own,absent]
    · rfl

theorem deficit_stake {books : Books} {address : String} {now : Int} {target : String} {amount : UInt64}
    (fits : Fits address ⟨now,.stake target amount⟩ books.keeper) :
    deficit (books.record params ⟨now,.stake target amount⟩) address = deficit books address := by
  obtain ⟨keeper,totals⟩ := books
  simp only [deficit,Books.record,perform,stakeMiner,count]
  cases found : keeper.miners.get? target with
  | none => simp
  | some miner =>
    simp only [Option.isSome_some,and_true]
    rw [stakeOf_insert rfl]
    simp only [queuedOf]
    by_cases own : target = address
    · subst own
      have room := fits amount rfl
      have held : stakeOf keeper target = miner.stakeAmount.toNat := stakeOf_found found
      have grown : (miner.stakeAmount + amount).toNat = miner.stakeAmount.toNat + amount.toNat := by
        rw [UInt64.toNat_add]
        exact Nat.mod_eq_of_lt (held ▸ room)
      simp only [if_true,staked,grown,held]
      omega
    · rw [if_neg own,if_neg (Ne.symm own)]

theorem unstakeMiner_covered (params : Params) {keeper : Keeper} {target : String} {amount : UInt64} (now : Int)
    (covered : covers target amount keeper = true) : ∃ miner, keeper.miners.get? target = some miner ∧
      amount ≤ miner.stakeAmount ∧ (unstakeMiner params now target amount keeper).2 = { keeper with
        miners := keeper.miners.insert target (unstaked params amount miner)
        unstakeQueue := keeper.unstakeQueue.insert (queueKey now target)
          ⟨target,amount,now + params.unstakeCooldown⟩ } := by
  unfold covers at covered
  obtain ⟨miner,found,enough⟩ := (Option.any_eq_true _ _).mp covered
  rw [decide_eq_true_iff] at enough
  refine ⟨miner,found,enough,?_⟩
  have allowed : ¬amount > miner.stakeAmount := UInt64.not_lt.mpr enough
  simp only [unstakeMiner,found,if_neg allowed]

theorem unstakeMiner_short {keeper : Keeper} {target : String} {amount : UInt64} (now : Int)
    (short : covers target amount keeper = false) : (unstakeMiner params now target amount keeper).2 = keeper := by
  unfold unstakeMiner
  cases found : keeper.miners.get? target with
  | none => rfl
  | some miner =>
    have above : amount > miner.stakeAmount := by simpa [covers,found] using short
    simp only [if_pos above]

theorem deficit_unstake {books : Books} {address : String} {now : Int} {target : String} {amount : UInt64}
    (keyed : Keyed books.keeper) :
    deficit (books.record params ⟨now,.unstake target amount⟩) address =
      deficit books address + overwritten address ⟨now,.unstake target amount⟩ books.keeper := by
  obtain ⟨keeper,totals⟩ := books
  simp only [deficit,Books.record,perform,count,overwritten]
  cases covered : covers target amount keeper with
  | false =>
    have nothing : ¬(target = address ∧ covers address amount keeper = true) := by
      rintro ⟨rfl,accepted⟩
      rw [covered] at accepted
      cases accepted
    rw [unstakeMiner_short now covered,if_neg nothing,add_zero]
  | true =>
    obtain ⟨miner,found,enough,wrote⟩ := unstakeMiner_covered params now covered
    rw [stakeOf_insert (congrArg Keeper.miners wrote),queuedOf_insert keyed (congrArg Keeper.unstakeQueue wrote)]
    by_cases own : target = address
    · subst own
      have held := stakeOf_found found
      have less : (miner.stakeAmount - amount).toNat + amount.toNat = miner.stakeAmount.toNat := by
        rw [UInt64.toNat_sub_of_le _ _ enough]
        exact Nat.sub_add_cancel enough
      simp only [if_true,unstaked,held,covered,and_self]
      omega
    · simp [own,Ne.symm own]

theorem deficit_slash {books : Books} {address : String} (now : Int) (target : String) (slashPercent : UInt32) :
    deficit (books.record params ⟨now,.slash target slashPercent⟩) address = deficit books address := by
  obtain ⟨keeper,totals⟩ := books
  simp only [deficit,Books.record,perform,slashMiner,count]
  cases found : keeper.miners.get? target with
  | none => simp
  | some miner =>
    simp only
    rw [stakeOf_insert rfl]
    simp only [queuedOf]
    by_cases own : target = address
    · subst own
      have held := stakeOf_found found
      have bound := slashAmount_le slashPercent miner.stakeAmount
      have less : (miner.stakeAmount - slashAmount slashPercent miner.stakeAmount).toNat +
          (slashAmount slashPercent miner.stakeAmount).toNat = miner.stakeAmount.toNat := by
        rw [UInt64.toNat_sub_of_le _ _ bound]
        exact Nat.sub_add_cancel bound
      simp only [if_true,slashed,held,Option.map_some,Option.getD_some]
      omega
    · rw [if_neg own,if_neg (Ne.symm own)]

theorem deficit_process {books : Books} {address : String} (now : Int) :
    deficit (books.record params ⟨now,.processQueue⟩) address = deficit books address := by
  have split := queuedOf_process now books.keeper address
  have kept : stakeOf (processUnstakeQueue now books.keeper) address = stakeOf books.keeper address := rfl
  simp only [deficit,Books.record,perform,count,kept]
  omega

theorem deficit_record (params : Params) {books : Books} {address : String} {event : Event} (keyed : Keyed books.keeper)
    (fits : Fits address event books.keeper) :
    deficit (books.record params event) address = deficit books address + overwritten address event books.keeper := by
  obtain ⟨now,call⟩ := event
  cases call with
  | register target => exact (deficit_register now target).trans (add_zero _).symm
  | stake target amount => exact (deficit_stake fits).trans (add_zero _).symm
  | unstake target amount => exact deficit_unstake keyed
  | slash target slashPercent => exact (deficit_slash now target slashPercent).trans (add_zero _).symm
  | processQueue => exact (deficit_process now).trans (add_zero _).symm

/-- A condition on the events of a run and the states they meet. -/
def Along (params : Params) (holds : Event → Keeper → Prop) (history : List Event) : Prop :=
  ∀ past event, past ++ [event] <+: history → holds event (books params past).keeper

theorem Along.nil {holds : Event → Keeper → Prop} : Along params holds [] := by
  intro past event seen
  cases past <;> cases List.prefix_nil.mp seen

theorem Along.concat {holds : Event → Keeper → Prop} {history : List Event} {event : Event}
    (along : Along params holds history) (last : holds event (books params history).keeper) :
    Along params holds (history ++ [event]) := by
  intro past next seen
  rcases List.prefix_concat_iff.mp seen with whole | within
  · obtain ⟨rfl,tail⟩ := List.append_inj' whole rfl
    cases tail
    exact last
  · exact along past next within

theorem Along.prior {holds : Event → Keeper → Prop} {past history : List Event} (along : Along params holds history)
    (seen : past <+: history) : Along params holds past :=
  fun earlier event inside => along earlier event (inside.trans seen)

/-- No unstaking of the miner meets an entry of its own with an amount, made in the same second. -/
def NeverOverwrites (params : Params) (address : String) (history : List Event) : Prop :=
  ∀ past now amount, past ++ [⟨now,.unstake address amount⟩] <+: history →
    covers address amount (books params past).keeper = true → occupied now address (books params past).keeper = 0

theorem neverOverwrites_iff {address : String} {history : List Event} :
    NeverOverwrites params address history ↔
      ∀ past event, past ++ [event] <+: history → overwritten address event (books params past).keeper = 0 := by
  constructor
  · rintro never past ⟨now,call⟩ seen
    unfold overwritten
    split
    · rename_i target amount shape
      cases shape
      split_ifs with own
      · obtain ⟨rfl,covered⟩ := own
        exact never past now amount seen covered
      · rfl
    · rfl
  · intro none_ past now amount seen covered
    have zero := none_ past ⟨now,.unstake address amount⟩ seen
    simpa [overwritten,covered] using zero

/-- The stake of a miner is conserved at every point of a run exactly when none of its
unstakings falls into the second of an earlier one that still waits in the queue. -/
theorem stake_conserved_iff (params : Params) (address : String) (history : List Event)
    (fits : Along params (Fits address) history) :
    (∀ past, past <+: history → Conserved (books params past) address) ↔ NeverOverwrites params address history := by
  rw [neverOverwrites_iff]
  constructor
  · intro conserved past event seen
    have step := deficit_record params (books_keyed past) (fits past event seen)
    rw [← books_concat,(conserved_iff_deficit _ _).mp (conserved _ seen),
      (conserved_iff_deficit _ _).mp (conserved _ ((List.prefix_append _ _).trans seen)),zero_add] at step
    exact step.symm
  · intro never past seen
    rw [conserved_iff_deficit]
    induction past using List.reverseRecOn with
    | nil => rfl
    | append_singleton past event ih =>
      rw [books_concat,deficit_record params (books_keyed past) (fits past event seen),
        ih ((List.prefix_append _ _).trans seen),never past event seen,zero_add]

end Run

def unstakedTwice : List Event :=
  [⟨0,.register "claw1"⟩] ++ [⟨0,.stake "claw1" 200000000⟩] ++ [⟨5000000000,.unstake "claw1" 30000000⟩] ++
    [⟨5000000000,.unstake "claw1" 20000000⟩]

theorem unstakedTwice_fits : Along defaultParams (Fits "claw1") unstakedTwice := by
  refine (((Along.nil.concat ?_).concat ?_).concat ?_).concat ?_
  · intro amount shape
    cases shape
  · intro amount shape
    cases shape
    decide +kernel
  · intro amount shape
    cases shape
  · intro amount shape
    cases shape

theorem stake_conserved_iff_unstakedTwice :
    (∀ past, past <+: unstakedTwice → Conserved (books defaultParams past) "claw1") ↔
      NeverOverwrites defaultParams "claw1" unstakedTwice :=
  stake_conserved_iff defaultParams "claw1" unstakedTwice unstakedTwice_fits

theorem unstakedTwice_loses : Along defaultParams (Fits "claw1") unstakedTwice ∧
    unstakedTwice.Pairwise (fun earlier later => earlier.now ≤ later.now) ∧
    ¬Conserved (books defaultParams unstakedTwice) "claw1" := by
  refine ⟨unstakedTwice_fits,by decide +kernel,?_⟩
  unfold Conserved
  decide +kernel

section Status
variable {params : Params}

def statusOf (keeper : Keeper) (address : String) : Option MinerStatus :=
  (keeper.miners.get? address).map Miner.status

def touched (params : Params) (address : String) (call : Call) (miner : Miner) : Miner :=
  match call with
  | .stake target amount => if target = address then staked params amount miner else miner
  | .unstake target amount =>
    if target = address ∧ amount ≤ miner.stakeAmount then unstaked params amount miner else miner
  | .slash target slashPercent => if target = address then slashed params slashPercent miner else miner
  | _ => miner

theorem get?_insert_touched {miners : OrdMap String Miner} {address target : String} {miner other : Miner}
    {update : Miner → Miner} (found : miners.get? address = some miner) (held : miners.get? target = some other) :
    (miners.insert target (update other)).get? address = some (if target = address then update miner else miner) := by
  rw [OrdMap.get?_insert]
  by_cases own : target = address
  · subst own
    rw [found] at held
    cases held
    simp
  · rw [if_neg (Ne.symm own),if_neg own,found]

theorem absent_other {miners : OrdMap String Miner} {address target : String} {miner : Miner}
    (found : miners.get? address = some miner) (absent : miners.get? target = none) : target ≠ address := by
  rintro rfl
  rw [absent] at found
  cases found

theorem perform_miner (params : Params) {keeper : Keeper} {address : String} {miner : Miner} (now : Int) (call : Call)
    (found : keeper.miners.get? address = some miner) :
    (perform params now call keeper).2.miners.get? address = some (touched params address call miner) := by
  cases call with
  | register target =>
    simp only [perform,registerMiner,touched]
    split_ifs with known
    · exact found
    · have other : address ≠ target := by
        rintro rfl
        exact known (by simp [found])
      rw [OrdMap.get?_insert_of_ne _ _ other,found]
  | stake target amount =>
    simp only [perform,stakeMiner,touched]
    cases held : keeper.miners.get? target with
    | none => rw [if_neg (absent_other found held),found]
    | some other => exact get?_insert_touched found held
  | unstake target amount =>
    simp only [perform,touched]
    cases covered : covers target amount keeper with
    | false =>
      have short : ¬(target = address ∧ amount ≤ miner.stakeAmount) := by
        rintro ⟨rfl,enough⟩
        simp [covers,found,enough] at covered
      rw [unstakeMiner_short now covered,if_neg short,found]
    | true =>
      obtain ⟨other,held,enough,wrote⟩ := unstakeMiner_covered params now covered
      have same : (target = address ∧ amount ≤ miner.stakeAmount) ↔ target = address := by
        refine ⟨And.left,?_⟩
        rintro rfl
        rw [found] at held
        cases held
        exact ⟨rfl,enough⟩
      rw [congrArg Keeper.miners wrote,get?_insert_touched found held]
      simp only [same]
  | slash target slashPercent =>
    simp only [perform,slashMiner,touched]
    cases held : keeper.miners.get? target with
    | none => rw [if_neg (absent_other found held),found]
    | some other => exact get?_insert_touched found held
  | processQueue => exact found

theorem perform_new {keeper : Keeper} {address : String} {miner : Miner} {now : Int} {call : Call}
    (absent : keeper.miners.get? address = none)
    (found : (perform params now call keeper).2.miners.get? address = some miner) : miner.status = .inactive := by
  have unwritten {target : String} {other updated : Miner} (held : keeper.miners.get? target = some other) :
      (keeper.miners.insert target updated).get? address ≠ some miner := by
    rw [OrdMap.get?_insert_of_ne _ _ (absent_other held absent),absent]
    exact nofun
  have untouched : keeper.miners.get? address ≠ some miner := by
    rw [absent]
    exact nofun
  cases call with
  | register target =>
    simp only [perform,registerMiner] at found
    split_ifs at found with known
    · exact absurd found untouched
    · rw [OrdMap.get?_insert] at found
      split_ifs at found with own
      · cases found
        rfl
      · exact absurd found untouched
  | stake target amount =>
    simp only [perform,stakeMiner] at found
    cases held : keeper.miners.get? target with
    | none => exact absurd (by simpa only [held] using found) untouched
    | some other => exact absurd (by simpa only [held] using found) (unwritten held)
  | unstake target amount =>
    simp only [perform] at found
    cases covered : covers target amount keeper with
    | false => exact absurd (unstakeMiner_short now covered ▸ found) untouched
    | true =>
      obtain ⟨other,held,enough,wrote⟩ := unstakeMiner_covered params now covered
      rw [congrArg Keeper.miners wrote] at found
      exact absurd found (unwritten held)
  | slash target slashPercent =>
    simp only [perform,slashMiner] at found
    cases held : keeper.miners.get? target with
    | none => exact absurd (by simpa only [held] using found) untouched
    | some other => exact absurd (by simpa only [held] using found) (unwritten held)
  | processQueue => exact absurd found untouched

/-- The steps of a miner that neither lift a suspension nor leave a full stake unused: no unstaking
meets the miner suspended, and no stake that reaches the minimum meets it unstaking. -/
def Orderly (params : Params) (address : String) (event : Event) (keeper : Keeper) : Prop :=
  ∀ miner, keeper.miners.get? address = some miner →
    (∀ amount, event.call = .unstake address amount → amount ≤ miner.stakeAmount → miner.status ≠ .suspended) ∧
    (∀ amount, event.call = .stake address amount → miner.stakeAmount + amount ≥ params.minStake →
      miner.status ≠ .unstaking)

theorem touched_suspended {address : String} {event : Event} {keeper : Keeper} {miner : Miner}
    (orderly : Orderly params address event keeper) (found : keeper.miners.get? address = some miner)
    (suspended : miner.status = .suspended) : (touched params address event.call miner).status = .suspended := by
  have own := (orderly miner found).1
  cases call : event.call with
  | register target => exact suspended
  | stake target amount =>
    simp only [touched]
    split_ifs
    · simp [staked,suspended]
    · exact suspended
  | unstake target amount =>
    simp only [touched]
    split_ifs with both
    · obtain ⟨rfl,enough⟩ := both
      exact absurd suspended (own amount call enough)
    · exact suspended
  | slash target slashPercent =>
    simp only [touched]
    split_ifs
    · simp [slashed,suspended]
    · exact suspended
  | processQueue => exact suspended

def NeverSlashed (address : String) (history : List Event) : Prop :=
  ∀ event ∈ history, ∀ slashPercent, event.call ≠ .slash address slashPercent

theorem suspended_kept {address : String} {past later : List Event}
    (orderly : Along params (Orderly params address) (past ++ later))
    (suspended : statusOf (books params past).keeper address = some .suspended) :
    statusOf (books params (past ++ later)).keeper address = some .suspended := by
  induction later using List.reverseRecOn with
  | nil => rwa [List.append_nil]
  | append_singleton later event ih =>
    rw [← List.append_assoc] at orderly ⊢
    have before := ih (orderly.prior (List.prefix_append _ _))
    obtain ⟨miner,found,held⟩ := Option.map_eq_some_iff.mp before
    rw [books_concat]
    apply Option.map_eq_some_iff.mpr
    exact ⟨_,perform_miner params event.now event.call found,
      touched_suspended (orderly _ event (List.prefix_refl _)) found held⟩

theorem touched_unslashed {address : String} {call : Call} {miner : Miner}
    (other : ∀ slashPercent, call ≠ .slash address slashPercent) (free : miner.status ≠ .suspended) :
    (touched params address call miner).status ≠ .suspended := by
  cases call with
  | register target => exact free
  | stake target amount =>
    simp only [touched]
    split_ifs
    · simp only [staked]
      split_ifs
      · exact nofun
      · exact free
    · exact free
  | unstake target amount =>
    simp only [touched]
    split_ifs
    · simp only [unstaked]
      split_ifs <;> exact nofun
    · exact free
  | slash target slashPercent =>
    simp only [touched]
    split_ifs with own
    · exact absurd (own ▸ rfl) (other slashPercent)
    · exact free
  | processQueue => exact free

theorem unslashed_free {address : String} {history : List Event} (never : NeverSlashed address history)
    {miner : Miner} (found : (books params history).keeper.miners.get? address = some miner) :
    miner.status ≠ .suspended := by
  induction history using List.reverseRecOn generalizing miner with
  | nil => cases found
  | append_singleton history event ih =>
    rw [books_concat] at found
    have earlier : NeverSlashed address history := fun e inside => never e (List.mem_append_left _ inside)
    cases before : (books params history).keeper.miners.get? address with
    | none => simp [perform_new before found]
    | some old =>
      have after := perform_miner params event.now event.call before
      have same : some (touched params address event.call old) = some miner := after.symm.trans found
      cases same
      exact touched_unslashed (never event (by simp)) (ih earlier before)

/-- In a run whose steps are orderly for a miner, its suspension lasts to the end, and as long as it was
never slashed each of its stakes that ends with the minimum or more leaves it active. -/
theorem suspension_lasts_and_stake_activates (params : Params) (address : String) (history : List Event)
    (orderly : Along params (Orderly params address) history) :
    (∀ past later, past ++ later <+: history →
      statusOf (books params past).keeper address = some .suspended →
        statusOf (books params (past ++ later)).keeper address = some .suspended) ∧
    (∀ past now amount, past ++ [⟨now,.stake address amount⟩] <+: history → NeverSlashed address past →
      ∀ miner, (books params (past ++ [⟨now,.stake address amount⟩])).keeper.miners.get? address = some miner →
        miner.stakeAmount ≥ params.minStake → miner.status = .active) := by
  constructor
  · intro past later seen suspended
    exact suspended_kept (orderly.prior seen) suspended
  · intro past now amount seen never miner found full
    cases before : (books params past).keeper.miners.get? address with
    | none =>
      simp [books_concat,Books.record,perform,stakeMiner,before] at found
    | some old =>
      rw [books_concat] at found
      have after := perform_miner params now (.stake address amount) before
      have same : some (touched params address (.stake address amount) old) = some miner := after.symm.trans found
      cases same
      simp only [touched,if_true,staked] at full ⊢
      have notUnstaking := (orderly past _ seen old before).2 amount rfl full
      have notSuspended := unslashed_free never before
      cases status : old.status with
      | inactive => simp [full]
      | active => simp
      | unstaking => exact absurd status notUnstaking
      | suspended => exact absurd status notSuspended

end Status

def suspensionLifted : List Event :=
  [⟨0,.register "claw1"⟩] ++ [⟨0,.stake "claw1" 200000000⟩] ++ [⟨1,.slash "claw1" 90⟩] ++
    [⟨2,.unstake "claw1" 1⟩] ++ [⟨3,.stake "claw1" 80000001⟩]

def stakeUnused : List Event :=
  [⟨0,.register "claw1"⟩] ++ [⟨0,.stake "claw1" 200000000⟩] ++ [⟨1,.unstake "claw1" 50000000⟩] ++
    [⟨2,.stake "claw1" 10000000⟩]

theorem suspension_lifted_and_stake_unused :
    (statusOf (books defaultParams (suspensionLifted.take 3)).keeper "claw1" = some .suspended ∧
      statusOf (books defaultParams suspensionLifted).keeper "claw1" = some .active) ∧
    (NeverSlashed "claw1" stakeUnused ∧ defaultParams.minStake.toNat ≤ stakeOf (books defaultParams stakeUnused).keeper "claw1" ∧
      statusOf (books defaultParams stakeUnused).keeper "claw1" = some .unstaking) := by
  refine ⟨⟨by decide +kernel,by decide +kernel⟩,?_,by decide +kernel,by decide +kernel⟩
  intro event member slashPercent
  simp only [stakeUnused,List.cons_append,List.nil_append,List.mem_cons,List.not_mem_nil,or_false] at member
  rcases member with rfl | rfl | rfl | rfl <;> exact nofun

def suspensionKept : List Event :=
  [⟨0,.register "claw1"⟩] ++ [⟨0,.stake "claw1" 200000000⟩] ++ [⟨1,.slash "claw1" 90⟩] ++
    [⟨3,.stake "claw1" 300000000⟩]

theorem suspensionKept_orderly : Along defaultParams (Orderly defaultParams "claw1") suspensionKept := by
  have stakes {keeper : Keeper} {now : Int} {amount : UInt64}
      (ready : (keeper.miners.get? "claw1").all (fun miner => miner.status ≠ .unstaking) = true) :
      Orderly defaultParams "claw1" ⟨now,.stake "claw1" amount⟩ keeper := by
    intro miner found
    rw [found] at ready
    exact ⟨nofun,fun _ _ _ => by simpa using ready⟩
  refine (((Along.nil.concat ?_).concat ?_).concat ?_).concat ?_
  · exact fun miner found => ⟨nofun,nofun⟩
  · exact stakes (by decide +kernel)
  · exact fun miner found => ⟨nofun,nofun⟩
  · exact stakes (by decide +kernel)

theorem suspension_lasts_and_stake_activates_kept :
    statusOf (books defaultParams suspensionKept).keeper "claw1" = some .suspended :=
  (suspension_lasts_and_stake_activates defaultParams "claw1" suspensionKept suspensionKept_orderly).1
    (suspensionKept.take 3) (suspensionKept.drop 3) (List.prefix_refl _) (by decide +kernel)

end Clawchain.Chain.Poa
