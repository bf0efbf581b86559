import Clawchain.Lib.Format
import Clawchain.Mining.Model
import Mathlib.Data.List.Perm.Subperm

/-! The names of tasks, windows, batches and jobs: each has the time it belongs to in it. -/
namespace Clawchain.Mining
open Clawchain.Lib

/-- Year, month and day of a number of days since 1970. -/
def civil (days : Int) : Int × Int × Int :=
  let z := days + 719468
  let era := z / 146097
  let doe := z % 146097
  let yoe := (doe - doe / 1460 + doe / 36524 - doe / 146096) / 365
  let doy := doe - (365 * yoe + yoe / 4 - yoe / 100)
  let mp := (5 * doy + 2) / 153
  let month := if mp < 10 then mp + 3 else mp - 9
  (yoe + era * 400 + if month ≤ 2 then 1 else 0,month,doy - (153 * mp + 2) / 5 + 1)

example : civil 20513 = (2026,3,1) := by decide

/-- `%Y%m%d` -/
def dayStamp (seconds : Int) : String :=
  let (year,month,day) := civil (seconds / 86400)
  Format.padInt 4 year ++ Format.padInt 2 month ++ Format.padInt 2 day

/-- `%Y%m%d%H` -/
def hourStamp (seconds : Int) : String := dayStamp seconds ++ Format.padInt 2 (seconds % 86400 / 3600)

/-- `%Y%m%d%H%M` -/
def minuteStamp (seconds : Int) : String := hourStamp seconds ++ Format.padInt 2 (seconds % 3600 / 60)

/-- `%Y%m%d%H%M%S` -/
def secondStamp (seconds : Int) : String := minuteStamp seconds ++ Format.padInt 2 (seconds % 60)

def isoText (seconds : Int) : String :=
  let (year,month,day) := civil (seconds / 86400)
  Format.padInt 4 year ++ "-" ++ Format.padInt 2 month ++ "-" ++ Format.padInt 2 day ++ "T" ++
    Format.padInt 2 (seconds % 86400 / 3600) ++ ":" ++ Format.padInt 2 (seconds % 3600 / 60) ++ ":" ++
    Format.padInt 2 (seconds % 60) ++ "Z"

example : isoText 1772323200 = "2026-03-01T00:00:00Z" := by decide +kernel

def hourBucketStart (seconds : Int) : Int := seconds / 3600 * 3600

inductive Asset where
  | btc
  | eth
  deriving DecidableEq, Repr

def fastTaskID (publishAt : Int) : Asset → String
  | .btc => "tr_fast_" ++ minuteStamp publishAt ++ "_btcusdt"
  | .eth => "tr_fast_" ++ minuteStamp publishAt ++ "_ethusdt"

def dailyTaskID (publishAt : Int) : Asset → String
  | .btc => "tr_daily_" ++ dayStamp publishAt ++ "_btc"
  | .eth => "tr_daily_" ++ dayStamp publishAt ++ "_eth"

def submissionID (taskRunID minerAddress : String) : String := "sub:" ++ taskRunID ++ ":" ++ minerAddress

theorem colon_notMem_dayStamp (seconds : Int) : ':' ∉ (dayStamp seconds).toList := by
  simp [dayStamp,Format.colon_notMem_padInt]

theorem colon_notMem_minuteStamp (seconds : Int) : ':' ∉ (minuteStamp seconds).toList := by
  simp [minuteStamp,hourStamp,colon_notMem_dayStamp,Format.colon_notMem_padInt]

theorem colon_notMem_fastTaskID (publishAt : Int) (asset : Asset) : ':' ∉ (fastTaskID publishAt asset).toList := by
  cases asset <;> simp [fastTaskID,colon_notMem_minuteStamp]

theorem colon_notMem_dailyTaskID (publishAt : Int) (asset : Asset) : ':' ∉ (dailyTaskID publishAt asset).toList := by
  cases asset <;> simp [dailyTaskID,colon_notMem_dayStamp]

theorem submissionID_injective {taskRunID taskRunID' minerAddress minerAddress' : String} (plain : ':' ∉ taskRunID.toList)
    (plain' : ':' ∉ taskRunID'.toList) (same : submissionID taskRunID minerAddress = submissionID taskRunID' minerAddress') :
    taskRunID = taskRunID' ∧ minerAddress = minerAddress' := by
  apply Format.fields_injective plain plain'
  apply String.toList_injective
  simpa [submissionID] using congrArg String.toList same

def forecastRewardWindowID (resolveAt : Int) : String := "rw_" ++ hourStamp (hourBucketStart resolveAt)

def pokerMttRewardWindowID (lane : Lane) (windowStart windowEnd : Int) : String :=
  "rw_" ++ lane.name ++ "_" ++ secondStamp windowStart ++ "_" ++ secondStamp windowEnd

def removePrefix (head : String) (text : String) : String :=
  if head.toList.isPrefixOf text.toList then String.ofList (text.toList.drop head.length) else text

def settlementBatchIDOf (rewardWindowID : String) : String := "sb_" ++ removePrefix "rw_" rewardWindowID

theorem settlementBatchIDOf_eq (rest : String) : settlementBatchIDOf ("rw_" ++ rest) = "sb_" ++ rest := by
  unfold settlementBatchIDOf removePrefix
  rw [if_pos (by simp)]
  congr 1
  apply String.toList_injective
  have three : "rw_".length = 3 := rfl
  simp [three]

theorem forecastRewardWindowID_ne_poker (resolveAt : Int) {lane : Lane} (poker : lane.isPoker = true)
    (windowStart windowEnd : Int) :
    forecastRewardWindowID resolveAt ≠ pokerMttRewardWindowID lane windowStart windowEnd := by
  have letterless (seconds : Int) : 'p' ∉ (dayStamp seconds).toList := by
    simp [dayStamp,Format.notMem_padInt (c := 'p') (by decide) (by decide)]
  intro same
  have inside : 'p' ∈ (pokerMttRewardWindowID lane windowStart windowEnd).toList := by
    cases lane with
    | forecast15m | dailyAnchor => cases poker
    | pokerMttDaily | pokerMttWeekly => simp [pokerMttRewardWindowID,Lane.name]
  rw [← same] at inside
  simp [forecastRewardWindowID,hourStamp,letterless,Format.notMem_padInt (c := 'p') (by decide) (by decide)] at inside

def anchorJobIDs (batchID : String) (now : Time) : Nat → String
  | 0 => "aj_" ++ batchID ++ "_" ++ secondStamp (isoformatZ now)
  | suffix + 1 => "aj_" ++ batchID ++ "_" ++ secondStamp (isoformatZ now) ++ "_" ++ toString (suffix + 1)

/-- The first name that is not taken; the loop ends within as many names as there are jobs. -/
def freshAnchorJobID (jobs : OrdMap String AnchorJob) (names : Nat → String) : String :=
  (((List.range (jobs.size + 1)).map names).find? fun id => (jobs.get? id).isNone).getD (names (jobs.size + 1))

theorem anchorJobIDs_injective (batchID : String) (now : Time) : Function.Injective (anchorJobIDs batchID now) := by
  have numbered (k : Nat) : (anchorJobIDs batchID now (k + 1)).toList =
      (anchorJobIDs batchID now 0).toList ++ '_' :: Nat.toDigits 10 (k + 1) := by
    simp [anchorJobIDs]
  intro j k same
  have lists := congrArg String.toList same
  cases j with
  | zero =>
    cases k with
    | zero => rfl
    | succ k => simp [numbered] at lists
  | succ j =>
    cases k with
    | zero => simp [numbered] at lists
    | succ k =>
      rw [numbered,numbered,List.append_cancel_left_eq,List.cons.injEq] at lists
      have values := congrArg (fun digits => Nat.ofDigitChars 10 digits 0) lists.2
      simpa [Nat.ofDigitChars_toDigits] using values

theorem freshAnchorJobID_fresh (jobs : OrdMap String AnchorJob) {names : Nat → String}
    (distinct : Function.Injective names) : jobs.get? (freshAnchorJobID jobs names) = none := by
  unfold freshAnchorJobID
  cases picked : ((List.range (jobs.size + 1)).map names).find? fun id => (jobs.get? id).isNone with
  | some id => simpa using List.find?_some picked
  | none =>
    exfalso
    have taken : ∀ id ∈ (List.range (jobs.size + 1)).map names, id ∈ jobs.keys := by
      intro id member
      have held := List.find?_eq_none.mp picked id member
      by_contra absent
      exact held (by simpa using OrdMap.get?_eq_none_iff.mpr absent)
    have nodup : ((List.range (jobs.size + 1)).map names).Nodup := List.nodup_range.map distinct
    have bound := (List.subperm_of_subset nodup taken).length_le
    simp at bound

end Clawchain.Mining
