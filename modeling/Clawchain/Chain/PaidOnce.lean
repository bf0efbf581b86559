import Clawchain.Chain.Settling

/-! How often a challenge pays a miner: a settlement writes one record for each miner of
the majority, and whoever answers a challenge that is decided already settles it again. -/
namespace Clawchain.Chain.Challenges
open Clawchain.Lib

/-! The records of a run and its transfers. -/
section Accounts
variable {normalize digest : String → String} {dev : Bool}
variable {before after keeper : Keeper} {given paid : List (String × String)} {transfers : List PendingReward}

/-- The account of a run so far: who got a record, and whose record was paid out. -/
structure Accounted (normalize : String → String) (dev : Bool) (keeper : Keeper) (given paid : List (String × String)) : Prop where
  once : given.Nodup
  settled : ∀ payee ∈ given, ∃ ch, keeper.challenges.get? payee.1 = some ch ∧ Decided normalize dev ch.reveals
  written : ∀ key record, keeper.pending.get? key = some record → record.payee ∈ given
  single : ∀ key key' record record', keeper.pending.get? key = some record → keeper.pending.get? key' = some record' →
    record.payee = record'.payee → key = key'
  paidOnce : paid.Nodup
  sent : ∀ payee ∈ paid, payee ∈ given
  gone : ∀ key record, keeper.pending.get? key = some record → record.payee ∉ paid

theorem mem_createdBy {payee : String × String} :
    payee ∈ createdBy before after ↔ ∃ key record, after.pending.get? key = some record ∧
      isNew before (key,record) = true ∧ record.payee = payee := by
  unfold createdBy
  rw [List.mem_map]
  constructor
  · rintro ⟨entry,member,rfl⟩
    obtain ⟨inside,new⟩ := List.mem_filter.mp member
    exact ⟨entry.1,entry.2,OrdMap.get?_eq_some_iff.mpr inside,new,rfl⟩
  · rintro ⟨key,record,found,new,rfl⟩
    exact ⟨(key,record),List.mem_filter.mpr ⟨OrdMap.get?_eq_some_iff.mp found,new⟩,rfl⟩

theorem not_isNew_of_held {key : String} {record : PendingReward} (held : before.pending.get? key = some record)
    : isNew before (key,record) = false := by
  simp [isNew,held]

theorem createdBy_eq_nil
    (held : ∀ key record, after.pending.get? key = some record → before.pending.get? key = some record) :
    createdBy before after = [] := by
  apply List.eq_nil_iff_forall_not_mem.mpr
  intro payee inside
  obtain ⟨key,record,found,new,-⟩ := mem_createdBy.mp inside
  rw [not_isNew_of_held (held key record found)] at new
  cases new

theorem createdBy_nodup
    (single : ∀ key key' record record', after.pending.get? key = some record → after.pending.get? key' = some record' →
      record.payee = record'.payee → key = key') : (createdBy before after).Nodup := by
  have entries : after.pending.entries.Nodup := List.Nodup.of_map Prod.fst after.pending.keys_nodup
  refine List.Nodup.map_on ?_ (entries.filter _)
  rintro ⟨key,record⟩ inside ⟨key',record'⟩ inside' same
  have found := OrdMap.get?_eq_some_iff.mpr (List.mem_filter.mp inside).1
  have found' := OrdMap.get?_eq_some_iff.mpr (List.mem_filter.mp inside').1
  have keys := single key key' record record' found found' same
  subst keys
  rw [found] at found'
  cases found'
  rfl

theorem Accounted.effect {call : Call} (accounts : Accounted normalize dev before given paid)
    (timely : ¬ Late normalize digest dev before call) (step : Effect normalize digest dev call before after) :
    Accounted normalize dev after (given ++ createdBy before after) paid := by
  cases step with
  | ignored pending _ kept =>
    have none_ : createdBy before after = [] := createdBy_eq_nil pending
    rw [none_,List.append_nil]
    refine ⟨accounts.once,?_,?_,?_,accounts.paidOnce,accounts.sent,?_⟩
    · intro payee inside
      obtain ⟨ch,found,decided⟩ := accounts.settled payee inside
      obtain ⟨ch',found',same,-⟩ := kept _ _ found
      exact ⟨ch',found',same ▸ decided⟩
    · exact fun key record found => accounts.written key record (pending key record found)
    · exact fun key key' record record' found found' =>
        accounts.single key key' record record' (pending key record found) (pending key' record' found')
    · exact fun key record found => accounts.gone key record (pending key record found)
  | recorded height id ch final miners _ found late stored _ _ decided pending =>
    -- The challenge was undecided, so nobody was given a record for it before.
    have untouched : ∀ payee ∈ given, payee.1 ≠ id := by
      rintro payee inside rfl
      obtain ⟨held,stored',already⟩ := accounts.settled payee inside
      rw [found] at stored'
      cases stored'
      exact timely (late already)
    have elsewhere : ∀ {key record}, before.pending.get? key = some record → record.challengeID ≠ id :=
      fun held => untouched _ (accounts.written _ _ held)
    have origin : ∀ {key record}, after.pending.get? key = some record →
        before.pending.get? key = some record ∨ Decided normalize dev final.reveals ∧ record.challengeID = id ∧
          key = pendingKey height id record.minerAddr := by
      intro key record held
      refine (pending key record held).imp_right ?_
      rintro ⟨miner,inside,rfl,rfl⟩
      exact ⟨decided (List.ne_nil_of_mem inside),rfl,rfl⟩
    have createdHere : ∀ payee ∈ createdBy before after, payee.1 = id ∧ Decided normalize dev final.reveals := by
      intro payee inside
      obtain ⟨key,record,held,new,rfl⟩ := mem_createdBy.mp inside
      rcases origin held with old | ⟨decided,own,-⟩
      · rw [not_isNew_of_held old] at new
        cases new
      · exact ⟨own,decided⟩
    have unique : ∀ key key' record record', after.pending.get? key = some record →
        after.pending.get? key' = some record' → record.payee = record'.payee → key = key' := by
      intro key key' record record' held held' same
      have challenge : record.challengeID = record'.challengeID := congrArg Prod.fst same
      have miner : record.minerAddr = record'.minerAddr := congrArg Prod.snd same
      rcases origin held with old | ⟨-,own,place⟩ <;> rcases origin held' with old' | ⟨-,own',place'⟩
      · exact accounts.single key key' record record' old old' same
      · exact absurd (challenge.trans own') (elsewhere old)
      · exact absurd (challenge.symm.trans own) (elsewhere old')
      · rw [place,place',miner]
    refine ⟨?_,?_,?_,unique,accounts.paidOnce,?_,?_⟩
    · refine List.nodup_append.mpr ⟨accounts.once,createdBy_nodup unique,?_⟩
      rintro payee inside payee' inside' rfl
      exact untouched payee inside (createdHere payee inside').1
    · intro payee inside
      rw [stored,OrdMap.get?_insert]
      rcases List.mem_append.mp inside with old | new
      · rw [if_neg (untouched payee old)]
        exact accounts.settled payee old
      · obtain ⟨own,decided⟩ := createdHere payee new
        rw [if_pos own]
        exact ⟨final,rfl,decided⟩
    · intro key record held
      rw [List.mem_append]
      rcases origin held with old | ⟨-,own,-⟩
      · exact .inl (accounts.written key record old)
      · refine .inr (mem_createdBy.mpr ⟨key,record,held,?_,rfl⟩)
        unfold isNew
        cases before_ : before.pending.get? key with
        | none => rfl
        | some old =>
          have differ : old.payee ≠ record.payee := fun same =>
            elsewhere before_ ((congrArg Prod.fst same).trans own)
          simpa using differ
    · intro payee inside
      exact List.mem_append_left _ (accounts.sent payee inside)
    · intro key record held
      rcases origin held with old | ⟨-,own,-⟩
      · exact accounts.gone key record old
      · exact fun inside => untouched _ (accounts.sent _ inside) own

theorem Accounted.processReward {validAddr : String → Bool} {send : PendingReward → Bool}
    {entry : String × PendingReward}
    (accounts : Accounted normalize dev keeper given (paid ++ transfers.map PendingReward.payee))
    (held : keeper.pending.get? entry.1 = some entry.2) :
    let result := processReward validAddr send (transfers,keeper) entry
    Accounted normalize dev result.2 given (paid ++ result.1.map PendingReward.payee) := by
  have fewer {key : String} {record : PendingReward} (found : (keeper.pending.erase entry.1).get? key = some record) :
      key ≠ entry.1 ∧ keeper.pending.get? key = some record := by
    rw [OrdMap.get?_erase] at found
    split_ifs at found with own
    exact ⟨own,found⟩
  unfold Challenges.processReward
  by_cases invalid : !validAddr entry.2.minerAddr
  · simp only [if_pos invalid]
    exact ⟨accounts.once,accounts.settled,fun key record found => accounts.written key record (fewer found).2,
      fun key key' record record' found found' => accounts.single key key' record record' (fewer found).2 (fewer found').2,
      accounts.paidOnce,accounts.sent,fun key record found => accounts.gone key record (fewer found).2⟩
  · by_cases failed : !send entry.2
    · simp only [if_neg invalid,if_pos failed]
      exact accounts
    · simp only [if_neg invalid,if_neg failed,List.map_append,List.map_cons,List.map_nil,← List.append_assoc]
      refine ⟨accounts.once,accounts.settled,fun key record found => accounts.written key record (fewer found).2,
        fun key key' record record' found found' =>
          accounts.single key key' record record' (fewer found).2 (fewer found').2,?_,?_,?_⟩
      · refine List.nodup_append.mpr ⟨accounts.paidOnce,List.nodup_singleton _,?_⟩
        rintro payee inside payee' last rfl
        rw [List.mem_singleton.mp last] at inside
        exact accounts.gone _ _ held inside
      · intro payee inside
        rcases List.mem_append.mp inside with old | last
        · exact accounts.sent payee old
        · rw [List.mem_singleton.mp last]
          exact accounts.written _ _ held
      · intro key record found inside
        obtain ⟨differ,found⟩ := fewer found
        rcases List.mem_append.mp inside with old | last
        · exact accounts.gone key record found old
        · exact differ (accounts.single key entry.1 record entry.2 found held (List.mem_singleton.mp last))

theorem processReward_other {validAddr : String → Bool} {send : PendingReward → Bool} {entry : String × PendingReward}
    {key : String} (differ : key ≠ entry.1) :
    (processReward validAddr send (transfers,keeper) entry).2.pending.get? key = keeper.pending.get? key := by
  have erased : (keeper.pending.erase entry.1).get? key = keeper.pending.get? key := by
    rw [OrdMap.get?_erase,if_neg differ]
  unfold processReward
  by_cases invalid : !validAddr entry.2.minerAddr
  · simpa only [if_pos invalid] using erased
  · by_cases failed : !send entry.2
    · simp only [if_neg invalid,if_pos failed]
    · simpa only [if_neg invalid,if_neg failed] using erased

theorem Accounted.processRewards (validAddr : String → Bool) (send : PendingReward → Bool)
    {entries : List (String × PendingReward)} (distinct : (entries.map Prod.fst).Nodup)
    (held : ∀ entry ∈ entries, keeper.pending.get? entry.1 = some entry.2)
    (accounts : Accounted normalize dev keeper given (paid ++ transfers.map PendingReward.payee)) :
    let result := entries.foldl (Challenges.processReward validAddr send) (transfers,keeper)
    Accounted normalize dev result.2 given (paid ++ result.1.map PendingReward.payee) := by
  induction entries generalizing keeper transfers with
  | nil => exact accounts
  | cons entry rest ih =>
    rw [List.map_cons,List.nodup_cons] at distinct
    have others : ∀ other ∈ rest,
        (Challenges.processReward validAddr send (transfers,keeper) entry).2.pending.get? other.1 = some other.2 := by
      intro other inside
      have differ : other.1 ≠ entry.1 := fun same => distinct.1 (same ▸ List.mem_map_of_mem inside)
      rw [processReward_other differ]
      exact held other (List.mem_cons_of_mem _ inside)
    exact ih distinct.2 others (accounts.processReward (held entry List.mem_cons_self))

end Accounts

section Runs
variable {normalize digest : String → String} {dev : Bool}

theorem Accounted.perform {call : Call} {keeper : Keeper} {given paid : List (String × String)}
    (timely : ¬ Late normalize digest dev keeper call) (accounts : Accounted normalize dev keeper given paid) :
    let result := perform normalize digest dev call keeper
    Accounted normalize dev result.2 (given ++ createdBy keeper result.2) (paid ++ result.1.map PendingReward.payee) := by
  intro result
  have noTransfers (none_ : result.1 = []) : paid ++ result.1.map PendingReward.payee = paid := by
    rw [none_,List.map_nil,List.append_nil]
  cases call with
  | submitAnswer ranges height req =>
    rw [noTransfers rfl]
    exact accounts.effect timely (perform_effect _ keeper)
  | submitCommit req =>
    rw [noTransfers rfl]
    exact accounts.effect timely (perform_effect _ keeper)
  | submitReveal ranges height req =>
    rw [noTransfers rfl]
    exact accounts.effect timely (perform_effect _ keeper)
  | processPendingRewards validAddr send =>
    have start : Accounted normalize dev keeper given (paid ++ ([] : List PendingReward).map PendingReward.payee) := by
      simpa using accounts
    have after := start.processRewards validAddr send keeper.pending.keys_nodup
      fun entry inside => OrdMap.get?_eq_some_iff.mpr inside
    have none_ : createdBy keeper (processPendingRewards validAddr send keeper).2 = [] :=
      createdBy_eq_nil (processPendingRewards_spec validAddr send keeper).2
    change Accounted normalize dev _ (given ++ createdBy keeper (processPendingRewards validAddr send keeper).2) _
    rw [none_,List.append_nil]
    exact after

theorem Accounted.run {calls : List Call} {keeper : Keeper} {given paid : List (String × String)}
    (timely : Timely normalize digest dev keeper calls) (accounts : Accounted normalize dev keeper given paid) :
    (given ++ created normalize digest dev keeper calls).Nodup ∧
      (paid ++ transferred normalize digest dev keeper calls).Nodup := by
  induction calls generalizing keeper given paid with
  | nil => simpa [created,transferred] using ⟨accounts.once,accounts.paidOnce⟩
  | cons call rest ih =>
    have later := ih timely.2 (accounts.perform timely.1)
    simpa only [created,transferred,List.append_assoc] using later

/-- While no answer is taken for a challenge that the recorded answers decide already, each miner gets at
most one record for each challenge, and is paid at most once for it. -/
theorem challenge_pays_once (normalize digest : String → String) (dev : Bool) (calls : List Call) (keeper : Keeper)
    (none_ : keeper.pending = OrdMap.empty) (timely : Timely normalize digest dev keeper calls) :
    (created normalize digest dev keeper calls).Nodup ∧
      (transferred normalize digest dev keeper calls).Nodup := by
  have noRecord {key : String} {record : PendingReward} : keeper.pending.get? key ≠ some record := by
    rw [none_]
    exact nofun
  have start : Accounted normalize dev keeper [] [] :=
    ⟨List.nodup_nil,nofun,fun _ _ found => absurd found noRecord,fun _ _ _ _ found => absurd found noRecord,
      List.nodup_nil,nofun,fun _ _ found => absurd found noRecord⟩
  simpa using start.run timely

def openChallenge : Keeper where
  challenges := OrdMap.ofList [("ch-1-0",{ epoch := 1, createdHeight := 100 })]
  miners := OrdMap.ofList [("a",{}),("b",{}),("c",{}),("d",{})]

def answers (height : Int) (minerAddr : String) : Call := .submitAnswer {} height ⟨"ch-1-0",minerAddr,"4"⟩

def payOut : Call := .processPendingRewards (fun _ => true) (fun _ => true)

def threeAnswers : List Call := [answers 110 "a",answers 110 "b",answers 110 "c",payOut]

theorem challenge_pays_once_threeAnswers :
    created id id false openChallenge threeAnswers = [("ch-1-0","a"),("ch-1-0","b"),("ch-1-0","c")] ∧
      (created id id false openChallenge threeAnswers).Nodup ∧
      (transferred id id false openChallenge threeAnswers).Nodup := by
  refine ⟨by decide +kernel,challenge_pays_once id id false threeAnswers openChallenge rfl ?_⟩
  have undecided : ∀ {keeper : Keeper} {minerAddr : String},
      (keeper.challenges.get? "ch-1-0").any (fun ch => decide (Decided id false ch.reveals)) = false →
        ¬ Late id id false keeper (answers 110 minerAddr) := by
    rintro keeper minerAddr open_ ⟨ch,found,decided,-⟩
    change keeper.challenges.get? "ch-1-0" = some ch at found
    rw [found,Option.any_some,decide_eq_false_iff_not] at open_
    exact open_ decided
  exact ⟨undecided (by decide +kernel),undecided (by decide +kernel),undecided (by decide +kernel),id,trivial⟩

/-- The fourth answer comes after the payment, and everybody is paid again. -/
theorem fourth_answer_pays_again :
    (threeAnswers ++ [answers 120 "d",payOut]).filterMap Call.height? = [110,110,110,120] ∧
      (created id id false openChallenge (threeAnswers ++ [answers 120 "d",payOut])).count ("ch-1-0","a") = 2 ∧
      (transferred id id false openChallenge (threeAnswers ++ [answers 120 "d",payOut])).count ("ch-1-0","a") = 2 := by
  decide +kernel

end Runs
end Clawchain.Chain.Challenges
