import Clawchain.Lib.Interleaving
import Clawchain.Mining.Openings

/-! Commits and reveals that take turns: a call gives way whenever it asks the repository for something, and between two of
its requests every other call may run. The repository is the one in memory or the one in the database. What is written of
risk cases is left out. -/
namespace Clawchain.Mining.Interleaved
open Clawchain.Lib

inductive Backend where
  | memory
  | database
  deriving DecidableEq, Repr

def clashes (id other : Option String) : Bool := id.isSome && id = other

/-- In memory a request id that stands for another submission gives that one back, as if it had been saved. -/
def Backend.saveSubmission (submission : Submission) (repo : Repository) : Backend → Except String (Repository × Submission)
  | .memory =>
    match (submission.requestIDs.filterMap repo.requestIndex.get?).find? fun existing => existing.key ≠ submission.key with
    | some existing => .ok (repo,existing)
    | none => .ok (repo.saveSubmission submission,submission)
  | .database =>
    if (repo.submissions.entries.map Prod.snd).any fun other => other.key ≠ submission.key &&
        (clashes submission.commitRequestID other.commitRequestID || clashes submission.revealRequestID other.revealRequestID) then
      .error "duplicate key value violates unique constraint"
    else .ok ({ repo with submissions := repo.submissions.insert submission.key submission },submission)

inductive Asked where
  | commit (commitHash : String)
  | reveal (pYesBps : Int) (revealNonce : String)
  deriving DecidableEq, Repr

structure Request where
  (taskRunID minerAddress requestID : String)
  asked : Asked
  acceptedAt : Time
  ipAddress : Option String := none
  userAgent : Option String := none
  deriving DecidableEq, Repr

def Request.key (request : Request) : Lex (String × String) := toLex (request.taskRunID,request.minerAddress)

/-- What a refresh writes in the row of a miner. -/
structure IdentityUpdate where
  address : String
  (economicUnitID ipAddress userAgentHash : Option String)
  deriving DecidableEq, Repr

def IdentityUpdate.apply (update : IdentityUpdate) (miner : Miner) : Miner :=
  { miner with
    economicUnitID := update.economicUnitID.getD miner.economicUnitID
    ipAddress := update.ipAddress <|> miner.ipAddress
    userAgentHash := update.userAgentHash <|> miner.userAgentHash }

/-- What a call is about to ask the repository, with what it knows already. -/
inductive Stage where
  | task
  | miner
  | signals
  | cluster (current : Miner)
  | identities (updates : List IdentityUpdate) (current : Miner)
  | submission (miner : Miner)
  | others (miner : Miner) (submission : Submission) (pYesBps : Int)
  | save (miner : Miner) (read : Option Submission) (row : Submission)
  | count (miner : Miner) (saved : Submission)
  | returned (saved : Submission)
  | failed (message : String)
  deriving DecidableEq

section Advance
variable (settings : Settings) (request : Request)

def Request.deadline (task : Task) : Int :=
  match request.asked with
  | .commit _ => task.commitDeadline
  | .reveal .. => task.revealDeadline

def Request.closed : String :=
  match request.asked with
  | .commit _ => "commit window closed"
  | .reveal .. => "reveal window closed"

def Request.afterTask : Option Task → Stage
  | none => .failed "task not found"
  | some task =>
    if request.acceptedAt < parseTime task.publishAt then .failed "task not yet published"
    else if parseTime (request.deadline task) < request.acceptedAt then .failed request.closed
    else .miner

def Request.signalHash (current : Miner) : Option String := hashUserAgent settings.text request.userAgent <|> current.userAgentHash

def Request.signalIp (current : Miner) : Option String :=
  normalizeIpSignal settings.text (request.ipAddress <|> current.ipAddress)

def Request.afterSignals : Option Miner → Stage
  | none => .failed "miner not registered"
  | some current =>
    if request.signalIp settings current = current.ipAddress ∧ request.signalHash settings current = current.userAgentHash ∧
        current.economicUnitID ≠ "" then .submission current
    else .cluster current

def Request.identityUpdates (current : Miner) (miners : List Miner) : List IdentityUpdate :=
  let candidates := miners.map fun miner =>
    if miner.address = request.minerAddress then
      { miner with ipAddress := request.signalIp settings current, userAgentHash := request.signalHash settings current }
    else miner
  candidates.filterMap fun miner =>
    let own (new old : Option String) : Option (Option String) :=
      if miner.address = request.minerAddress ∧ new ≠ old then some new else none
    let ip := own (request.signalIp settings current) current.ipAddress
    let signal := own (request.signalHash settings current) current.userAgentHash
    let unit := ((computeEconomicUnitComponents settings.text candidates miner.address).getD miner.economicUnitID)
    if ip = none ∧ signal = none ∧ unit = miner.economicUnitID then none
    else some
      { address := miner.address
        economicUnitID := if unit = miner.economicUnitID then none else some unit
        ipAddress := ip.join
        userAgentHash := signal.join }

def Request.rowToCommit (commitHash unit : String) (existing : Option Submission) : Submission :=
  { existing.getD
      { id := submissionID request.taskRunID request.minerAddress, taskRunID := request.taskRunID
        minerAddress := request.minerAddress, economicUnitID := unit } with
    economicUnitID := unit
    commitRequestID := some request.requestID
    commitHash := commitHash }

def Request.rowToReveal (pYesBps : Int) (unit : String) (others : List Submission) (submission : Submission) : Submission :=
  { submission with
    economicUnitID := unit
    revealRequestID := some request.requestID
    pYesBps := some (clampBps settings pYesBps)
    eligibilityStatus := if others.any (duplicates request.minerAddress unit) then .auditOnly else .eligible
    state := .revealed }

def Request.afterSubmission (miner : Miner) (existing : Option Submission) : Stage :=
  match request.asked with
  | .commit commitHash =>
    if existing.any (·.commitHash ≠ "") then .failed "already committed"
    else .save miner existing (request.rowToCommit commitHash miner.economicUnitID existing)
  | .reveal pYesBps revealNonce =>
    match existing with
    | none => .failed "commit required before reveal"
    | some submission =>
      if submission.commitHash = "" then .failed "commit required before reveal"
      else if submission.pYesBps.isSome then .failed "already revealed"
      else if computeCommitHash settings request.taskRunID request.minerAddress (clampBps settings pYesBps) revealNonce ≠
          submission.commitHash then .failed "reveal does not match commit hash"
      else .others miner submission pYesBps

def Request.afterOthers (miner : Miner) (submission : Submission) (pYesBps : Int) (others : List Submission) : Stage :=
  .save miner (some submission) (request.rowToReveal settings pYesBps miner.economicUnitID others submission)

/-- The counter is written as it was when the miner was read, and one more. -/
def Request.countIn (miner row : Miner) : Miner :=
  match request.asked with
  | .commit _ => { row with forecastCommits := miner.forecastCommits + 1 }
  | .reveal .. => { row with forecastReveals := miner.forecastReveals + 1 }

def advance (backend : Backend) : Stage → Repository → Repository × Stage
  | .task,repo => (repo,request.afterTask (repo.tasks.get? request.taskRunID))
  | .miner,repo => (repo,if (repo.miners.get? request.minerAddress).isNone then .failed "miner not registered" else .signals)
  | .signals,repo => (repo,request.afterSignals settings (repo.miners.get? request.minerAddress))
  | .cluster current,repo => (repo,.identities (request.identityUpdates settings current repo.listMiners) current)
  | .identities [] current,repo => (repo,.submission ((repo.miners.get? request.minerAddress).getD current))
  | .identities (update :: rest) current,repo =>
    if (repo.miners.get? update.address).isNone then (repo,.failed "miner not found")
    else (repo.updateMiner update.address update.apply,.identities rest current)
  | .submission miner,repo =>
    (repo,request.afterSubmission settings miner (getSubmission request.taskRunID request.minerAddress repo))
  | .others miner submission pYesBps,repo =>
    (repo,request.afterOthers settings miner submission pYesBps (repo.listSubmissionsForTask request.taskRunID))
  | .save miner _ row,repo =>
    match backend.saveSubmission row repo with
    | .error message => (repo,.failed message)
    | .ok (saved,stored) => (saved,.count miner stored)
  | .count miner saved,repo =>
    if (repo.miners.get? request.minerAddress).isNone then (repo,.failed "miner not found")
    else (repo.updateMiner request.minerAddress (request.countIn miner),.returned saved)
  | .returned saved,repo => (repo,.returned saved)
  | .failed message,repo => (repo,.failed message)

end Advance

abbrev Calls := Pool Repository Request Stage

def Calls.opening (repo : Repository) (requests : List Request) : Calls := Pool.opening repo .task requests

def Calls.step (settings : Settings) (backend : Backend) (calls : Calls) (place : Nat) : Calls :=
  Pool.step (fun request stage repo => advance settings request backend stage repo) calls place

end Clawchain.Mining.Interleaved
