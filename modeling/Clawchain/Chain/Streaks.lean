import Clawchain.Chain.Scores
import Mathlib.Order.Bounds.Basic

/-! The streak of a miner: the counter that a record keeps from day to day is the length of the longest block of
consecutive active days. -/
namespace Clawchain.Chain.Reputation
open Clawchain.Lib Clawchain.Chain

/-- The longest block of consecutive days that ends at a day. -/
def IsBlock (days : Set Int) (last : Int) (length : Nat) : Prop :=
  IsGreatest {n : Nat | ∀ i : Nat, i < n → last - i ∈ days} length

variable {scores : OrdMap String ReputationScore} {days : Set Int} {addr other : String} {height last : Int}
  {blockTime : Int64} {length : Nat}

theorem isBlock_iff :
    IsBlock days last length ↔ (∀ i : Nat, i < length → last - i ∈ days) ∧ last - length ∉ days := by
  constructor
  · rintro ⟨inside,greatest⟩
    refine ⟨inside,fun more => ?_⟩
    have longer : length + 1 ∈ {n : Nat | ∀ i : Nat, i < n → last - i ∈ days} := by
      intro i below
      rcases Nat.lt_succ_iff_lt_or_eq.mp below with before | rfl
      · exact inside i before
      · exact more
    exact absurd (greatest longer) (by omega)
  · rintro ⟨inside,ends⟩
    refine ⟨inside,fun n all => ?_⟩
    by_contra longer
    exact ends (all length (by omega))

theorem IsBlock.next (block : IsBlock days last length) :
    IsBlock (insert (last + 1) days) (last + 1) (length + 1) := by
  obtain ⟨inside,ends⟩ := isBlock_iff.mp block
  refine isBlock_iff.mpr ⟨?_,?_⟩
  · intro i below
    cases i with
    | zero => simp
    | succ i =>
      have before := inside i (by omega)
      rw [show last + 1 - ((i + 1 : Nat) : Int) = last - i by omega]
      exact Set.mem_insert_of_mem _ before
  · have place : last + 1 - ((length + 1 : Nat) : Int) = last - length := by omega
    rw [place]
    rintro (same | before)
    · omega
    · exact ends before

theorem isBlock_first {day : Int} (gap : day - 1 ∉ days) : IsBlock (insert day days) day 1 := by
  refine isBlock_iff.mpr ⟨?_,?_⟩
  · intro i below
    obtain rfl : i = 0 := by omega
    simp
  · rintro (same | before)
    · omega
    · exact gap before

theorem IsBlock.le_last (block : IsBlock days last length) (nonneg : 0 ≤ last) (positive : ∀ day ∈ days, 1 ≤ day)
    : (length : Int) ≤ last := by
  cases length with
  | zero => exact nonneg
  | succ n =>
    have first := positive _ ((isBlock_iff.mp block).1 n (by omega))
    push_cast
    omega

def dayOf (blockTime : Int64) : Int := blockTime.toInt.tdiv 86400

def updateStreak (height : Int) (addr : String) (blockTime : Int64) (scores : OrdMap String ReputationScore) :
    OrdMap String ReputationScore :=
  let scores := ensureMiner height addr scores
  let score := (scores.get? addr).getD {}
  let currentDay := dayOf blockTime
  if score.lastActiveDay = 0 then
    setScore height { score with consecutiveDays := 1, lastActiveDay := currentDay } scores
  else if currentDay = score.lastActiveDay then scores
  else if currentDay = score.lastActiveDay + 1 then
    setScore height { score with consecutiveDays := score.consecutiveDays + 1, lastActiveDay := currentDay } scores
  else setScore height { score with consecutiveDays := 1, lastActiveDay := currentDay } scores

inductive ScoreCall where
  | updateStreak (height : Int) (addr : String) (blockTime : Int64)
  | updateScore (height : Int) (addr : String) (delta : Int32)
  deriving DecidableEq

def ScoreCall.run (scores : OrdMap String ReputationScore) : ScoreCall → OrdMap String ReputationScore
  | .updateStreak height addr blockTime => Reputation.updateStreak height addr blockTime scores
  | .updateScore height addr delta => Reputation.updateScore height addr delta scores

def runScores (calls : List ScoreCall) (scores : OrdMap String ReputationScore) : OrdMap String ReputationScore :=
  calls.foldl ScoreCall.run scores

def ScoreCall.activeAt (addr : String) : ScoreCall → Option Int64
  | .updateStreak _ other blockTime => if other = addr then some blockTime else none
  | .updateScore .. => none

def activeTimes (addr : String) (calls : List ScoreCall) : List Int64 := calls.filterMap (·.activeAt addr)

def activeDays (addr : String) (calls : List ScoreCall) : Set Int := {day | day ∈ (activeTimes addr calls).map dayOf}

def streakOf (scores : OrdMap String ReputationScore) (addr : String) : Nat :=
  ((scores.get? addr).map fun score => score.consecutiveDays.toNat).getD 0

/-! One miner's record under the calls of all miners. -/

theorem setScore_own {score : ReputationScore} (own : score.minerAddress = addr)
    : (setScore height score scores).get? addr =
      some { score with level := getLevel score.score, updatedAt := height } := by
  simp [setScore,own]

theorem setScore_other {score : ReputationScore} (differ : other ≠ score.minerAddress)
    : (setScore height score scores).get? other = scores.get? other := by
  simp [setScore,OrdMap.get?_insert,differ]

theorem get?_ensureMiner_ne (differ : other ≠ addr) : (ensureMiner height addr scores).get? other = scores.get? other := by
  unfold ensureMiner
  cases scores.get? addr with
  | some score => rfl
  | none =>
    exact setScore_other differ

theorem ensureMiner_record (keyed : Keyed scores) (height : Int) (addr : String) :
    ∃ score, (ensureMiner height addr scores).get? addr = some score ∧ score.minerAddress = addr ∧
      (scores.get? addr = some score ∨
        scores.get? addr = none ∧ score.consecutiveDays = 0 ∧ score.lastActiveDay = 0) := by
  unfold ensureMiner
  cases found : scores.get? addr with
  | some score => exact ⟨score,found,keyed addr score found,.inl rfl⟩
  | none => exact ⟨_,OrdMap.get?_insert_self _ _ _,rfl,.inr ⟨rfl,rfl,rfl⟩⟩

theorem keyed_updateStreak (keyed : Keyed scores) (height : Int) (addr : String) (blockTime : Int64)
    : Keyed (updateStreak height addr blockTime scores) := by
  have ensured := keyed_ensureMiner keyed height addr
  unfold updateStreak
  dsimp only
  split_ifs
  · exact keyed_setScore ensured height _
  · exact ensured
  · exact keyed_setScore ensured height _
  · exact keyed_setScore ensured height _

theorem keyed_run (keyed : Keyed scores) (call : ScoreCall) : Keyed (call.run scores) := by
  cases call with
  | updateStreak height addr blockTime => exact keyed_updateStreak keyed height addr blockTime
  | updateScore height addr delta => exact keyed_updateScore keyed height addr delta

def marked (currentDay : Int) (days : UInt64) (last : Int) : UInt64 × Int :=
  if last = 0 then (1,currentDay)
  else if currentDay = last then (days,last)
  else if currentDay = last + 1 then (days + 1,currentDay)
  else (1,currentDay)

theorem updateStreak_record {scores : OrdMap String ReputationScore} {height : Int} {addr : String} {blockTime : Int64}
    {score : ReputationScore} (held : (ensureMiner height addr scores).get? addr = some score)
    (own : score.minerAddress = addr) : ∃ after, (updateStreak height addr blockTime scores).get? addr = some after ∧
      (after.consecutiveDays,after.lastActiveDay) = marked (dayOf blockTime) score.consecutiveDays score.lastActiveDay := by
  unfold updateStreak marked
  simp only [held,Option.getD_some]
  split_ifs with first same next
  · refine ⟨_,setScore_own own,?_⟩
    rfl
  · exact ⟨score,held,rfl⟩
  · refine ⟨_,setScore_own own,?_⟩
    rfl
  · refine ⟨_,setScore_own own,?_⟩
    rfl

theorem updateStreak_other {scores : OrdMap String ReputationScore} (keyed : Keyed scores) {height : Int} {addr other : String}
    {blockTime : Int64} (differ : other ≠ addr) :
    (updateStreak height addr blockTime scores).get? other = scores.get? other := by
  obtain ⟨score,held,own,-⟩ := ensureMiner_record keyed height addr
  have elsewhere : other ≠ score.minerAddress := own ▸ differ
  unfold updateStreak
  simp only [held,Option.getD_some]
  split_ifs
  · refine (setScore_other ?_).trans (get?_ensureMiner_ne differ)
    exact elsewhere
  · exact get?_ensureMiner_ne differ
  · refine (setScore_other ?_).trans (get?_ensureMiner_ne differ)
    exact elsewhere
  · refine (setScore_other ?_).trans (get?_ensureMiner_ne differ)
    exact elsewhere

theorem updateScore_record {scores : OrdMap String ReputationScore} {height : Int} {addr : String} {delta : Int32}
    {score : ReputationScore} (held : (ensureMiner height addr scores).get? addr = some score)
    (own : score.minerAddress = addr) : ∃ after, (updateScore height addr delta scores).get? addr = some after ∧
      after.consecutiveDays = score.consecutiveDays ∧ after.lastActiveDay = score.lastActiveDay := by
  unfold updateScore
  simp only [held,Option.getD_some]
  refine ⟨_,setScore_own own,?_⟩
  exact ⟨rfl,rfl⟩

theorem updateScore_other (keyed : Keyed scores) {delta : Int32} (differ : other ≠ addr)
    : (updateScore height addr delta scores).get? other = scores.get? other := by
  obtain ⟨score,held,own,-⟩ := ensureMiner_record keyed height addr
  unfold updateScore
  simp only [held,Option.getD_some]
  refine (setScore_other ?_).trans (get?_ensureMiner_ne differ)
  exact own ▸ differ

def Counted (addr : String) (days : Set Int) (scores : OrdMap String ReputationScore) : Prop :=
  (days = ∅ ∧ ∀ score, scores.get? addr = some score → score.consecutiveDays = 0 ∧ score.lastActiveDay = 0) ∨
    ∃ score, scores.get? addr = some score ∧ IsGreatest days score.lastActiveDay ∧
      IsBlock days score.lastActiveDay score.consecutiveDays.toNat

theorem Counted.congr {after : OrdMap String ReputationScore} (same : after.get? addr = scores.get? addr)
    (counted : Counted addr days scores) : Counted addr days after := by
  unfold Counted
  rw [same]
  exact counted

theorem Counted.score (keyed : Keyed scores) (counted : Counted addr days scores) (height : Int) (other : String)
    (delta : Int32) :
    Counted addr days (updateScore height other delta scores) := by
  by_cases own : addr = other
  · subst own
    obtain ⟨score,held,named,origin⟩ := ensureMiner_record keyed height addr
    obtain ⟨after,found,consecutive,active⟩ := @updateScore_record _ _ _ delta _ held named
    rcases counted with ⟨none_,idle⟩ | ⟨before,found',last,block⟩
    · have unmarked : score.consecutiveDays = 0 ∧ score.lastActiveDay = 0 := by
        rcases origin with old | ⟨-,noDays,noDay⟩
        · exact idle score old
        · exact ⟨noDays,noDay⟩
      refine .inl ⟨none_,?_⟩
      intro score' found''
      rw [found] at found''
      cases found''
      rw [consecutive,active]
      exact unmarked
    · have same : score = before := by
        rcases origin with old | ⟨absent,-⟩
        · exact Option.some.inj (old.symm.trans found')
        · rw [absent] at found'
          cases found'
      subst same
      refine .inr ⟨after,found,?_⟩
      rw [consecutive,active]
      exact ⟨last,block⟩
  · exact counted.congr (updateScore_other keyed own)

theorem toNat_succ_day {days : UInt64} (small : days.toNat < 106751991167301) : (days + 1).toNat = days.toNat + 1 := by
  rw [UInt64.toNat_add]
  change (days.toNat + 1) % 2 ^ 64 = _
  omega

theorem dayOf_eq (late : 86400 ≤ blockTime.toInt) : dayOf blockTime = blockTime.toInt / 86400 :=
  Int.tdiv_eq_ediv_of_nonneg (by omega)

theorem dayOf_le (late : 86400 ≤ blockTime.toInt) : dayOf blockTime ≤ 106751991167300 := by
  have most := Int64.toInt_lt blockTime
  rw [dayOf_eq late]
  omega

theorem Counted.streak (keyed : Keyed scores) (positive : ∀ day ∈ days, 1 ≤ day) (counted : Counted addr days scores)
    (height : Int) (late : 86400 ≤ blockTime.toInt) (later : ∀ day ∈ days, day ≤ dayOf blockTime) :
    Counted addr (insert (dayOf blockTime) days) (updateStreak height addr blockTime scores) := by
  obtain ⟨score,held,own,origin⟩ := ensureMiner_record keyed height addr
  obtain ⟨after,found,fields⟩ := @updateStreak_record _ _ _ blockTime _ held own
  have top : IsGreatest (insert (dayOf blockTime) days) (dayOf blockTime) := by
    refine ⟨Set.mem_insert _ _,?_⟩
    rintro day (rfl | before)
    · exact le_rfl
    · exact later day before
  refine .inr ⟨after,found,?_⟩
  rcases counted with ⟨rfl,idle⟩ | ⟨before,found',last,block⟩
  · -- The first active day.
    have fresh : score.lastActiveDay = 0 := by
      rcases origin with old | ⟨-,-,noDay⟩
      · exact (idle score old).2
      · exact noDay
    rw [marked,if_pos fresh,Prod.mk.injEq] at fields
    rw [fields.1,fields.2]
    exact ⟨top,isBlock_first (Set.notMem_empty _)⟩
  · have same : score = before := by
      rcases origin with old | ⟨absent,-⟩
      · exact Option.some.inj (old.symm.trans found')
      · rw [absent] at found'
        cases found'
    subst same
    have some_ : 1 ≤ score.lastActiveDay := positive _ last.1
    have order := later _ last.1
    rw [marked,if_neg (by omega)] at fields
    by_cases today : dayOf blockTime = score.lastActiveDay
    · rw [if_pos today,Prod.mk.injEq] at fields
      rw [fields.1,fields.2,today,Set.insert_eq_of_mem last.1]
      exact ⟨last,block⟩
    · rw [if_neg today] at fields
      by_cases next : dayOf blockTime = score.lastActiveDay + 1
      · rw [if_pos next,Prod.mk.injEq] at fields
        have length := block.le_last (by omega) positive
        have bound := dayOf_le late
        rw [fields.1,fields.2,toNat_succ_day (by omega)]
        refine ⟨top,?_⟩
        rw [next]
        exact block.next
      · rw [if_neg next,Prod.mk.injEq] at fields
        rw [fields.1,fields.2]
        refine ⟨top,isBlock_first ?_⟩
        intro yesterday
        have below := last.2 yesterday
        omega

theorem runScores_snoc (calls : List ScoreCall) (call : ScoreCall) (scores : OrdMap String ReputationScore) :
    runScores (calls ++ [call]) scores = call.run (runScores calls scores) := by
  simp [runScores]

theorem activeTimes_snoc (addr : String) (calls : List ScoreCall) (call : ScoreCall) :
    activeTimes addr (calls ++ [call]) = activeTimes addr calls ++ (call.activeAt addr).toList := by
  cases marks : call.activeAt addr <;> simp [activeTimes,marks]

theorem keyed_runScores (keyed : Keyed scores) (calls : List ScoreCall) :
    Keyed (runScores calls scores) := by
  induction calls generalizing scores with
  | nil => exact keyed
  | cons call rest ih => exact ih (keyed_run keyed call)

theorem dayOf_pos (late : 86400 ≤ blockTime.toInt) : 1 ≤ dayOf blockTime := by
  rw [dayOf_eq late]
  omega

theorem dayOf_mono {earlier later : Int64} (late : 86400 ≤ earlier.toInt) (order : earlier.toInt ≤ later.toInt) :
    dayOf earlier ≤ dayOf later := by
  rw [dayOf_eq late,dayOf_eq (late.trans order)]
  exact Int.ediv_le_ediv (by decide) order

theorem counted_runScores {start : OrdMap String ReputationScore} (keyed : Keyed start)
    (fresh : ∀ score, start.get? addr = some score → score.consecutiveDays = 0 ∧ score.lastActiveDay = 0)
    (calls : List ScoreCall) (late : ∀ time ∈ activeTimes addr calls, 86400 ≤ time.toInt)
    (ordered : (activeTimes addr calls).Pairwise fun a b => a.toInt ≤ b.toInt) :
    Counted addr (activeDays addr calls) (runScores calls start) := by
  induction calls using List.reverseRecOn with
  | nil => exact .inl ⟨by simp [activeDays,activeTimes],fresh⟩
  | append_singleton calls call ih =>
    rw [activeTimes_snoc] at late ordered
    have before := ih (fun time inside => late time (List.mem_append_left _ inside)) (List.pairwise_append.mp ordered).1
    have keyedNow := keyed_runScores keyed calls
    rw [runScores_snoc]
    cases call with
    | updateScore height other delta =>
      have same : activeDays addr (calls ++ [.updateScore height other delta]) = activeDays addr calls := by
        simp [activeDays,activeTimes_snoc,ScoreCall.activeAt]
      rw [same]
      exact before.score keyedNow height other delta
    | updateStreak height other blockTime =>
      by_cases own : other = addr
      · subst own
        have marks : (ScoreCall.updateStreak height other blockTime).activeAt other = some blockTime := by
          simp [ScoreCall.activeAt]
        rw [marks] at late ordered
        have days : activeDays other (calls ++ [.updateStreak height other blockTime]) =
            insert (dayOf blockTime) (activeDays other calls) := by
          ext day
          simp [activeDays,activeTimes_snoc,marks,or_comm,eq_comm]
        have earlier : ∀ time ∈ activeTimes other calls, 86400 ≤ time.toInt ∧ time.toInt ≤ blockTime.toInt := by
          intro time inside
          exact ⟨late time (List.mem_append_left _ inside),
            (List.pairwise_append.mp ordered).2.2 time inside blockTime (by simp)⟩
        rw [days]
        refine before.streak keyedNow ?_ height (late blockTime (by simp)) ?_
        · intro day inside
          obtain ⟨time,active,rfl⟩ := List.mem_map.mp inside
          exact dayOf_pos (earlier time active).1
        · intro day inside
          obtain ⟨time,active,rfl⟩ := List.mem_map.mp inside
          exact dayOf_mono (earlier time active).1 (earlier time active).2
      · have same : activeDays addr (calls ++ [.updateStreak height other blockTime]) = activeDays addr calls := by
          simp [activeDays,activeTimes_snoc,ScoreCall.activeAt,own]
        have untouched := @updateStreak_other _ keyedNow height _ _ blockTime (Ne.symm own)
        rw [same]
        exact before.congr untouched

/-- After every run of calls the counter is the length of the longest block of consecutive days that ends at the miner's
latest active day, and 0 before the first one. -/
theorem streak_is_longest_block (start : OrdMap String ReputationScore) (keyed : Keyed start) (addr : String)
    (fresh : ∀ score, start.get? addr = some score → score.consecutiveDays = 0 ∧ score.lastActiveDay = 0)
    (calls : List ScoreCall) (late : ∀ time ∈ activeTimes addr calls, 86400 ≤ time.toInt)
    (ordered : (activeTimes addr calls).Pairwise fun a b => a.toInt ≤ b.toInt) :
    (activeDays addr calls = ∅ → streakOf (runScores calls start) addr = 0) ∧
      ∀ last, IsGreatest (activeDays addr calls) last →
        IsBlock (activeDays addr calls) last (streakOf (runScores calls start) addr) := by
  rcases counted_runScores keyed fresh calls late ordered with ⟨none_,idle⟩ | ⟨score,found,latest,block⟩
  · refine ⟨fun _ => ?_,?_⟩
    · unfold streakOf
      cases found : (runScores calls start).get? addr with
      | none => rfl
      | some score => simp [(idle score found).1]
    · intro last greatest
      rw [none_] at greatest
      exact absurd greatest.1 (Set.notMem_empty _)
  · have counter : streakOf (runScores calls start) addr = score.consecutiveDays.toNat := by
      simp [streakOf,found]
    rw [counter]
    refine ⟨fun none_ => ?_,?_⟩
    · rw [none_] at latest
      exact absurd latest.1 (Set.notMem_empty _)
    · intro last greatest
      rw [greatest.unique latest]
      exact block

def sampleDays : List ScoreCall :=
  [.updateStreak 1 "claw1miner" 86400,.updateStreak 2 "claw1miner" 172800,.updateScore 3 "claw1miner" 10,
    .updateStreak 4 "claw1miner" 345600,.updateStreak 5 "claw1other" 345700,.updateStreak 6 "claw1miner" 432000,
    .updateStreak 7 "claw1miner" 432001,.updateScore 8 "claw1miner" (-30)]

theorem streak_is_longest_block_sampleDays :
    IsBlock (activeDays "claw1miner" sampleDays) 5 2 ∧ streakOf (runScores sampleDays OrdMap.empty) "claw1miner" = 2 := by
  have two : streakOf (runScores sampleDays OrdMap.empty) "claw1miner" = 2 := by decide +kernel
  have days : activeDays "claw1miner" sampleDays = {day | day ∈ ([1,2,4,5,5] : List Int)} := by
    have list : (activeTimes "claw1miner" sampleDays).map dayOf = [1,2,4,5,5] := by decide +kernel
    rw [activeDays,list]
  have last : IsGreatest (activeDays "claw1miner" sampleDays) 5 := by
    rw [days]
    refine ⟨by simp,?_⟩
    intro day inside
    simp only [Set.mem_ofPred_eq,List.mem_cons,List.not_mem_nil,or_false] at inside
    omega
  have times : (activeTimes "claw1miner" sampleDays).map Int64.toInt = [86400,172800,345600,432000,432001] := by
    decide +kernel
  have late : ∀ time ∈ (activeTimes "claw1miner" sampleDays).map Int64.toInt, 86400 ≤ time := by
    rw [times]
    decide
  have ordered : ((activeTimes "claw1miner" sampleDays).map Int64.toInt).Pairwise (· ≤ ·) := by
    rw [times]
    decide
  have block := (streak_is_longest_block OrdMap.empty (fun _ _ found => by cases found) "claw1miner"
    (fun _ found => by cases found) sampleDays (List.forall_mem_map.mp late) (List.pairwise_map.mp ordered)).2 5 last
  rw [two] at block
  exact ⟨block,two⟩

end Clawchain.Chain.Reputation
