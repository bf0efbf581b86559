import Clawchain.Lib.PyTime
import Clawchain.Lib.Sorting
import Clawchain.Poker.Selection
import Mathlib.Data.Int.LeastGreatest

/-! The windows that results are paid in. The scheduler puts a result into the day or the week of the moment at which it was
locked; the query for a window compares texts. A time that is stored as a text is found in the window of the last midnight that
does not sort after it. -/
namespace Clawchain.Poker
open Clawchain.Lib Clawchain.Lib.Calendar Clawchain.Lib.PyTime

/-- A time as it is stored: a `datetime`, by its second in universal time and the rest of it, or a text. -/
inductive LockedAt where
  | datetime (moment : Moment) (microsecond : Nat)
  | text (value : String)
  deriving DecidableEq

def LockedAt.truth : LockedAt → Bool
  | .datetime _ _ => true
  | .text value => value ≠ ""

/-- A result with its time as it is stored; the result's own time in seconds is not looked at. -/
structure TimedResult where
  result : Result
  lockedAt : Option LockedAt
  deriving DecidableEq

def utcIso : LockedAt → String
  | .datetime moment _ => moment.isoformatZ
  | .text value => value

/-- `parseTime` reads a text as the version of the language does, and `offsetAt` is how far the place is ahead of universal
time. -/
def asUtcDatetime (parseTime : String → Option Stamp) (offsetAt : Int → Int) : LockedAt → Option Int
  | .datetime moment _ => some moment.seconds
  | .text value => (parseTime value).map fun stamp => stamp.instant offsetAt / 1000000

inductive BucketLane where
  | daily
  | weekly
  deriving DecidableEq, Repr

namespace BucketLane

def bucketStart : BucketLane → Int → Int
  | daily => dayBucketStart
  | weekly => weekBucketStart

def windowSize : BucketLane → Int
  | daily => 86400
  | weekly => 604800

end BucketLane

def Result.selectable (includeProvisional : Bool) (policyBundleVersion : String) (result : Result) : Bool :=
  result.rewardReady &&
    (result.evaluationState = "final" || (includeProvisional && result.evaluationState = "provisional")) &&
    resultPolicyMatchesRewardWindow result.evaluationVersion policyBundleVersion && result.rankState = some "ranked"

def TimedResult.lockedIn (windowStart windowEnd : String) (row : TimedResult) : Bool :=
  row.lockedAt.any fun lockedAt => lockedAt.truth && windowStart ≤ utcIso lockedAt && utcIso lockedAt < windowEnd

def listPokerMttResultsForRewardWindow (windowStartAt windowEndAt : Moment) (includeProvisional : Bool)
    (policyBundleVersion : String) (results : OrdMap String TimedResult) : List TimedResult :=
  let order (row : TimedResult) := toLex ((row.lockedAt.map utcIso).getD "None",row.result.id)
  Sorting.sortBy (fun a b => order a < order b) ((results.entries.map Prod.snd).filter fun row =>
    row.lockedIn windowStartAt.isoformatZ windowEndAt.isoformatZ && row.result.selectable includeProvisional policyBundleVersion)

structure ClosedBucket (lane : BucketLane) (current : Int) where
  (start stop : Moment)
  aligned : lane.bucketStart start.seconds = start.seconds
  size : stop.seconds = start.seconds + lane.windowSize
  closed : stop.seconds ≤ current

/-- The last midnight whose text does not sort after a text. -/
structure LastMidnight (text : String) (midnight : Moment) : Prop where
  whole : 86400 ∣ midnight.seconds
  before : midnight.isoformatZ ≤ text
  last : ∀ other : Moment, 86400 ∣ other.seconds → other.isoformatZ ≤ text → other.seconds ≤ midnight.seconds

theorem bucketStart_eq_iff {lane : BucketLane} {start seconds : Int} (aligned : lane.bucketStart start = start) :
    lane.bucketStart seconds = start ↔ start ≤ seconds ∧ seconds < start + lane.windowSize := by
  cases lane <;> simp only [BucketLane.bucketStart,BucketLane.windowSize,weekBucketStart,dayBucketStart] at aligned ⊢ <;> omega

section Buckets
variable {lane : BucketLane} {current : Int}
variable {text : String} {row : TimedResult}

theorem ClosedBucket.midnight (bucket : ClosedBucket lane current) : 86400 ∣ bucket.start.seconds ∧ 86400 ∣ bucket.stop.seconds := by
  have aligned := bucket.aligned
  have size := bucket.size
  cases lane <;> simp only [BucketLane.bucketStart,BucketLane.windowSize,weekBucketStart,dayBucketStart] at aligned size <;> omega

theorem isoformatZ_le {first second : Moment} : first.isoformatZ ≤ second.isoformatZ ↔ first.seconds ≤ second.seconds := by
  rw [← not_lt,Moment.isoformatZ_lt,not_lt]

theorem LastMidnight.le_iff {midnight other : Moment} (last : LastMidnight text midnight)
    (whole : 86400 ∣ other.seconds) : other.isoformatZ ≤ text ↔ other.seconds ≤ midnight.seconds :=
  ⟨last.last other whole,fun early => (isoformatZ_le.mpr early).trans last.before⟩

theorem LastMidnight.inside_iff {midnight : Moment} (last : LastMidnight text midnight)
    (bucket : ClosedBucket lane current) :
    (bucket.start.isoformatZ ≤ text ∧ text < bucket.stop.isoformatZ) ↔ lane.bucketStart midnight.seconds = bucket.start.seconds := by
  obtain ⟨first,second⟩ := bucket.midnight
  rw [bucketStart_eq_iff bucket.aligned,← bucket.size,last.le_iff first,← not_le,last.le_iff second,not_le]

theorem exists_lastMidnight {early : Moment} (whole : 86400 ∣ early.seconds) (before : early.isoformatZ ≤ text) :
    ∃ midnight, LastMidnight text midnight := by
  obtain ⟨_,⟨midnight,rfl,own,inside⟩,last⟩ := Int.exists_greatest_of_bdd
    (P := fun seconds => ∃ moment : Moment, moment.seconds = seconds ∧ 86400 ∣ moment.seconds ∧ moment.isoformatZ ≤ text)
    ⟨latest,by rintro _ ⟨moment,rfl,-,-⟩; exact moment.lt_latest.le⟩ ⟨_,early,rfl,whole,before⟩
  exact ⟨midnight,own,inside,fun other day earlier => last _ ⟨other,rfl,day,earlier⟩⟩

theorem timed_lockedIn_iff {lockedAt : LockedAt} (locked : row.lockedAt = some lockedAt) (start stop : String) :
    row.lockedIn start stop = true ↔ lockedAt.truth = true ∧ start ≤ utcIso lockedAt ∧ utcIso lockedAt < stop := by
  simp only [TimedResult.lockedIn,locked,Option.any_some,Bool.and_eq_true,decide_eq_true_eq,and_assoc]

theorem lockedIn_text (locked : row.lockedAt = some (.text text)) (start stop : Moment) :
    row.lockedIn start.isoformatZ stop.isoformatZ = true ↔ start.isoformatZ ≤ text ∧ text < stop.isoformatZ := by
  refine (timed_lockedIn_iff locked ..).trans (and_iff_right_of_imp fun inside => ?_)
  have least : "" < start.isoformatZ := by
    rw [String.lt_iff_toList_lt]
    cases whole : start.isoformatZ.toList with
    | nil => simp [Moment.isoformatZ,Moment.chars] at whole
    | cons c chars => exact List.nil_lt_cons c chars
  have later : "" < text := least.trans_le inside.1
  simpa [LockedAt.truth] using later.ne'

theorem mem_query {start stop : Moment} {includeProvisional : Bool} {policyBundleVersion : String}
    {results : OrdMap String TimedResult} (stored : row ∈ results.entries.map Prod.snd)
    (eligible : row.result.selectable false policyBundleVersion = true) :
    row ∈ listPokerMttResultsForRewardWindow start stop includeProvisional policyBundleVersion results ↔
      row.lockedIn start.isoformatZ stop.isoformatZ = true := by
  have selectable : row.result.selectable includeProvisional policyBundleVersion = true := by
    simp only [Result.selectable,Bool.false_and,Bool.or_false,Bool.and_eq_true] at eligible ⊢
    simp [eligible]
  simp [listPokerMttResultsForRewardWindow,selectable,List.mem_filter,stored]

/-- The query finds a result for the bucket of its moment and for no other one if and only if its time is stored as a `datetime`,
or as a text whose last midnight is in that bucket. -/
theorem query_agrees_iff {parseTime : String → Option Stamp} {offsetAt : Int → Int} {includeProvisional : Bool}
    {policyBundleVersion : String} {results : OrdMap String TimedResult} {row : TimedResult} {lockedAt : LockedAt} {instant : Int}
    (stored : row ∈ results.entries.map Prod.snd) (eligible : row.result.selectable false policyBundleVersion = true)
    (locked : row.lockedAt = some lockedAt) (read : asUtcDatetime parseTime offsetAt lockedAt = some instant)
    (own : ClosedBucket lane current) (assigned : own.start.seconds = lane.bucketStart instant) :
    (∀ bucket : ClosedBucket lane current,
      row ∈ listPokerMttResultsForRewardWindow bucket.start bucket.stop includeProvisional policyBundleVersion results ↔
        bucket.start.seconds = lane.bucketStart instant) ↔
    ∀ text, lockedAt = .text text → ∃ midnight, LastMidnight text midnight ∧
      lane.bucketStart midnight.seconds = lane.bucketStart instant := by
  simp only [mem_query stored eligible]
  cases lockedAt with
  | datetime moment microsecond =>
    obtain rfl := Option.some.inj read
    refine iff_of_true (fun bucket => ?_) (fun text other => by cases other)
    rw [timed_lockedIn_iff locked,@eq_comm Int,bucketStart_eq_iff bucket.aligned,← bucket.size]
    refine (and_iff_right rfl).trans (and_congr isoformatZ_le Moment.isoformatZ_lt)
  | text text =>
    simp only [lockedIn_text locked,LockedAt.text.injEq,forall_eq']
    constructor
    · intro agrees
      obtain ⟨above,below⟩ := (agrees own).mpr assigned
      obtain ⟨midnight,last⟩ := exists_lastMidnight own.midnight.1 above
      exact ⟨midnight,last,((last.inside_iff own).mp ⟨above,below⟩).trans assigned⟩
    · rintro ⟨midnight,last,same⟩ bucket
      rw [last.inside_iff bucket,same,eq_comm]

end Buckets

/-! A result that was locked at the first moment of a day. -/

def lockedResult (text : String) : TimedResult where
  result := {
    id := "result-1"
    tournamentID := "mtt-1"
    minerAddress := "claw1alice"
    finalRank := some 1
    totalScore := 1
    evaluationVersion := "poker_mtt_v1"
    finalRankingID := some "ranking-1"
    standingSnapshotID := some "snapshot-1"
    evidenceRoot := some "sha256:e"
    lockedAt := none }
  lockedAt := some (.text text)

def lockedResults (text : String) : OrdMap String TimedResult := OrdMap.ofList [("result-1",lockedResult text)]

def march (day : Fin 3) : Moment :=
  ⟨1772323200 + day.val * 86400,by unfold earliest; omega,by unfold Calendar.latest; omega⟩

def sunday : ClosedBucket .daily 1772496000 := ⟨march 0,march 1,by decide,by decide,by decide⟩

def noon : Moment := ⟨1772366400,by decide,by decide⟩

theorem query_agrees_iff_noon : sunday.start.seconds = BucketLane.daily.bucketStart noon.seconds ∧
    ∀ bucket : ClosedBucket .daily 1772496000, lockedResult "2026-03-01T12:00:00Z" ∈
        listPokerMttResultsForRewardWindow bucket.start bucket.stop false "poker_mtt_v1" (lockedResults "2026-03-01T12:00:00Z") ↔
      bucket.start.seconds = BucketLane.daily.bucketStart noon.seconds := by
  have text : "2026-03-01T12:00:00Z" = noon.isoformatZ := by decide +kernel
  refine ⟨by decide,(@query_agrees_iff _ _ parse 0 _ _ _ _ _ _ (by decide +kernel) (by decide +kernel) rfl
    (by decide +kernel) sunday (by decide)).mpr fun known same => ?_⟩
  obtain rfl := LockedAt.text.inj same
  refine ⟨march 0,⟨by decide,?_,fun other whole early => ?_⟩,by decide⟩
  · rw [text,isoformatZ_le]
    decide
  · rw [text,isoformatZ_le] at early
    change other.seconds ≤ 1772366400 at early
    change other.seconds ≤ 1772323200
    omega

/-- Half a second after Monday began: the result is found on Sunday, and not on Monday. -/
theorem query_disagrees :
    asUtcDatetime parse 0 (.text "2026-03-02T00:00:00.500Z") = some 1772409600 ∧
    BucketLane.daily.bucketStart 1772409600 = (march 1).seconds ∧
    listPokerMttResultsForRewardWindow (march 0) (march 1) false "poker_mtt_v1" (lockedResults "2026-03-02T00:00:00.500Z") =
      [lockedResult "2026-03-02T00:00:00.500Z"] ∧
    listPokerMttResultsForRewardWindow (march 1) (march 2) false "poker_mtt_v1" (lockedResults "2026-03-02T00:00:00.500Z") = [] := by
  decide +kernel

end Clawchain.Poker
