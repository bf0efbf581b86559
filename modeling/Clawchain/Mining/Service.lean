import Clawchain.Mining.Names
import Clawchain.Mining.Rows

/-! What the service's operations share: their failures, the settings, the repository's reads and writes, and the
tasks of a moment. -/
namespace Clawchain.Mining
open Clawchain.Lib

inductive ServiceError where
  | value (message : String)
  | type
  deriving DecidableEq, Repr

abbrev Service := Faulty Repository ServiceError

def refuse {α : Type} (message : String) : Service α := .fail (.value message)

def require {α : Type} (look : Repository → Option α) (message : String) : Service α := .read fun repo =>
  match look repo with
  | none => refuse message
  | some row => pure row

variable {α : Type}

theorem require_bind {β : Type} (look : Repository → Option α) (message : String) (rest : α → Service β)
    (repo : Repository) : (require look message >>= rest) repo =
      match look repo with
      | none => (.error (.value message),repo)
      | some row => rest row repo := by
  cases held : look repo with
  | none =>
    have failed : require look message repo = (.error (.value message),repo) := by
      simp only [require,Faulty.read_run,held]
      rfl
    rw [Faulty.bind_of_error rest failed]
  | some row =>
    have done : require look message repo = (.ok row,repo) := by
      simp only [require,Faulty.read_run,held]
      rfl
    rw [Faulty.bind_of_ok rest done]

theorem require_moves {β : Type} {R : Repository → Repository → Prop} (refl : ∀ repo, R repo repo)
    {look : Repository → Option α} {message : String} {rest : α → Service β}
    (found : ∀ repo row, look repo = some row → R repo (rest row repo).2)
    : Faulty.Moves R (require look message >>= rest) := by
  intro repo
  rw [require_bind]
  cases held : look repo with
  | none => exact refl repo
  | some row => exact found repo row held

theorem require_ok {look : Repository → Option α} {message : String} {row : α} {before after : Repository}
    (done : require look message before = (.ok row,after)) : look before = some row ∧ after = before := by
  unfold require at done
  rw [Faulty.read_run] at done
  cases held : look before with
  | none =>
    rw [held] at done
    cases done
  | some other =>
    rw [held] at done
    cases done
    exact ⟨rfl,rfl⟩

structure IpAddress where
  isLoopback : Bool
  compressed : String

structure Text where
  (strip lower : String → String)
  split : String → List String
  ipAddress : String → Option IpAddress
  sha256 : String → String

structure Settings where
  fastTaskSeconds : Int := 900
  fastTaskSeconds_pos : 0 < fastTaskSeconds := by decide
  fastTaskPrewarmSeconds : Int := 10
  commitWindowSeconds : Int := 3
  revealWindowSeconds : Int := 13
  minPYesBps : Int := 1500
  maxPYesBps : Int := 8500
  /-- The part of a reward that is released at once in probation, `admission_release_bps` of it rounded. -/
  released : Nat → Nat
  released_le : ∀ reward, released reward ≤ reward
  admissionMatureFastReveals : Nat := 500
  admissionMatureAgeHours : Nat := 168
  minMinerVersion : String := "0.4.0"
  pokerMttSettlementAnchoringEnabled : Bool := false
  pokerMttProjectionArtifactPageSize : Nat := 5000
  text : Text
  hash : Hashing

def Submission.key (submission : Submission) : Lex (String × String) :=
  toLex (submission.taskRunID,submission.minerAddress)

def Submission.requestIDs (submission : Submission) : List String :=
  [submission.commitRequestID,submission.revealRequestID].filterMap fun id => id.filter (· ≠ "")

namespace Repository

/-- A request id that stands for another submission keeps the row from being stored. -/
def saveSubmission (submission : Submission) (repo : Repository) : Repository :=
  if (submission.requestIDs.filterMap repo.requestIndex.get?).any fun existing => existing.key ≠ submission.key then repo
  else
    { repo with
      submissions := repo.submissions.insert submission.key submission
      requestIndex := submission.requestIDs.foldl (fun index id => index.insert id submission) repo.requestIndex }

def updateMiner (address : String) (update : Miner → Miner) (repo : Repository) : Repository :=
  { repo with miners := repo.miners.modifyAt address update }

def upsertTask (task : Task) (repo : Repository) : Repository :=
  { repo with tasks := repo.tasks.insert task.taskRunID task }

def saveHoldEntry (hold : HoldEntry) (repo : Repository) : Repository :=
  { repo with holdEntries := repo.holdEntries.insert hold.id hold }

def listTasks (repo : Repository) : List Task := repo.tasks.entries.map Prod.snd

def listMiners (repo : Repository) : List Miner := repo.miners.entries.map Prod.snd

def listSubmissionsForTask (repo : Repository) (taskRunID : String) : List Submission :=
  (repo.submissions.entries.map Prod.snd).filter fun submission => submission.taskRunID = taskRunID

def listDueUnsettledFastTasks (repo : Repository) (now : Int) : List Task :=
  repo.listTasks.filter fun task => task.lane = .forecast15m ∧ task.state ≠ .resolved ∧ task.resolveAt ≤ now

def listDueHoldEntries (repo : Repository) (now : Int) : List HoldEntry :=
  (repo.holdEntries.entries.map Prod.snd).filter fun hold => hold.state = .held ∧ hold.releaseAfter ≤ now

end Repository

section Tasks
variable (settings : Settings)

def bucketStart (now : Time) : Int := isoformatZ now - isoformatZ now % settings.fastTaskSeconds

def fastTaskPublishSlots (current : Time) : List Int :=
  let publishAt := bucketStart settings current
  let next := publishAt + settings.fastTaskSeconds
  if 0 < parseTime next - current ∧ parseTime next - current ≤ max 0 (parseTime settings.fastTaskPrewarmSeconds) then
    [publishAt,next]
  else [publishAt]

def buildFastTask (publishAt : Int) (asset : Asset) : Task where
  taskRunID := fastTaskID publishAt asset
  lane := .forecast15m
  publishAt := publishAt
  commitDeadline := publishAt + settings.commitWindowSeconds
  revealDeadline := publishAt + settings.revealWindowSeconds
  resolveAt := publishAt + settings.fastTaskSeconds

def buildDailyAnchorTask (now : Time) (asset : Asset) : Task :=
  let publishAt := isoformatZ now / 86400 * 86400
  { taskRunID := dailyTaskID publishAt asset
    lane := .dailyAnchor
    publishAt := publishAt
    commitDeadline := publishAt + 86400
    revealDeadline := publishAt + 86400
    resolveAt := publishAt + 86400 }

def newTasks (now : Time) : List Task :=
  (fastTaskPublishSlots settings now).flatMap (fun publishAt => [Asset.btc,.eth].map (buildFastTask settings publishAt)) ++
    [Asset.btc,.eth].map (buildDailyAnchorTask now)

def createTask (repo : Repository) (task : Task) : Repository :=
  if (repo.tasks.get? task.taskRunID).isSome then repo else repo.upsertTask task

end Tasks
end Clawchain.Mining
