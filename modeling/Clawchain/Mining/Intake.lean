import Clawchain.Lib.Unions
import Clawchain.Mining.Service

/-! What miners ask for: they register, commit to a forecast and reveal it. Miners that share a signal are one
economic unit. -/
namespace Clawchain.Mining
open Clawchain.Lib

section Signals
variable (text : Text)

def normalizeIpSignal (ipAddress : Option String) : Option String := do
  let ip ← ipAddress
  let normalized := text.lower (text.strip ip)
  if ip = "" ∨ normalized = "" ∨ normalized = "localhost" then none
  else
    let bare := removePrefix "::ffff:" normalized
    match text.ipAddress bare with
    | none => some bare
    | some parsed => if parsed.isLoopback then none else some (text.lower parsed.compressed)

def genericPrefixes : List String :=
  ["python-requests/","python-urllib/","python-httpx/","curl/","go-http-client/","aiohttp/","wget/"]

def normalizeUserAgentSignal (userAgent : Option String) : Option String := do
  let agent ← userAgent
  let normalized := " ".intercalate (text.split (text.lower (text.strip agent)))
  if agent = "" ∨ normalized = "" then none
  else if genericPrefixes.any fun generic => generic.toList.isPrefixOf normalized.toList then none
  else some normalized

def digest (seed : String) : String := String.ofList ((text.sha256 seed).toList.take 20)

def hashUserAgent (userAgent : Option String) : Option String :=
  (normalizeUserAgentSignal text userAgent).map fun normalized => "ua:" ++ digest text normalized

def Miner.evidences (miner : Miner) : List String :=
  ((miner.ipAddress.filter (· ≠ "")).map fun ip => "ip:" ++ text.lower (text.strip ip)).toList ++
    (miner.userAgentHash.filter (· ≠ "")).toList

def evidencePairs (miners : List Miner) : List (String × String) :=
  (miners.flatMap (Miner.evidences text)).dedup.flatMap fun evidence =>
    match (miners.filter fun miner => evidence ∈ miner.evidences text).map (·.address) with
    | [] => []
    | first :: rest => rest.map fun other => (first,other)

def componentOf (miners : List Miner) (address : String) : List String :=
  let root := Unions.rootOf (evidencePairs text miners)
  (miners.map (·.address)).filter fun other => root other = root address

def computeEconomicUnitComponents (miners : List Miner) (address : String) : Option String :=
  if address ∈ miners.map (·.address) then
    some ("eu:" ++ digest text ("|".intercalate ((componentOf text miners address).mergeSort)))
  else none

def renameUnits (units : String → Option String) (miners : OrdMap String Miner) : OrdMap String Miner :=
  miners.mapVals fun _ miner => { miner with economicUnitID := (units miner.address).getD miner.economicUnitID }

end Signals

section Calls
variable (settings : Settings)

def parseVersion (version : String) : List Nat :=
  let parts := (version.toList.map fun c => if c = '-' then '.' else c).splitOn '.'
  let digits := parts.filterMap fun part =>
    if part.head?.any Char.isDigit then some (Nat.ofDigitChars 10 (part.filter Char.isDigit) 0) else none
  if digits = [] then [0] else digits

def registerMiner (now : Time) (address minerVersion : String) (ipAddress userAgent : Option String) : Service Unit :=
  if "claw1".toList.isPrefixOf address.toList = false then refuse "invalid address format"
  else if parseVersion minerVersion < parseVersion settings.minMinerVersion then refuse "miner version below minimum"
  else .read fun repo =>
    let miner : Miner :=
      { address := address
        economicUnitID := s!"eu:{address}"
        ipAddress := normalizeIpSignal settings.text ipAddress
        userAgentHash := hashUserAgent settings.text userAgent
        createdAt := now }
    let units := computeEconomicUnitComponents settings.text (repo.listMiners ++ [miner])
    if (repo.miners.get? address).isSome then refuse "miner already registered"
    else .modify fun repo => { repo with
      miners := (renameUnits units repo.miners).insert address
        { miner with economicUnitID := (units address).getD miner.economicUnitID } }

/-- The signals of a request are the miner's, and the units follow; a signal that is gone is kept in the row. -/
def refreshMinerCluster (minerAddress : String) (ipAddress userAgent : Option String) : Service Miner := .read fun repo =>
  match repo.miners.get? minerAddress with
  | none => refuse "miner not registered"
  | some current =>
    let updatedSignalHash := hashUserAgent settings.text userAgent <|> current.userAgentHash
    let updatedIp := normalizeIpSignal settings.text (ipAddress <|> current.ipAddress)
    if updatedIp = current.ipAddress ∧ updatedSignalHash = current.userAgentHash ∧ current.economicUnitID ≠ "" then
      pure current
    else do
      let candidates := repo.listMiners.map fun miner =>
        if miner.address = minerAddress then { miner with ipAddress := updatedIp, userAgentHash := updatedSignalHash }
        else miner
      .modify fun repo => { repo with
        miners := (renameUnits (computeEconomicUnitComponents settings.text candidates) repo.miners).modifyAt minerAddress
          fun miner => { miner with
            ipAddress := updatedIp <|> miner.ipAddress
            userAgentHash := updatedSignalHash <|> miner.userAgentHash } }
      .read fun repo => pure ((repo.miners.get? minerAddress).getD current)

def getTask (now : Time) (deadline : Task → Int) (closed : String) (taskRunID : String) : Service Task := .read fun repo =>
  match repo.tasks.get? taskRunID with
  | none => refuse "task not found"
  | some task =>
    if now < parseTime task.publishAt then refuse "task not yet published"
    else if parseTime (deadline task) < now then refuse closed
    else pure task

def getSubmission (taskRunID minerAddress : String) (repo : Repository) : Option Submission :=
  repo.submissions.get? (toLex (taskRunID,minerAddress))

def requireMiner (address : String) : Service Unit := .read fun repo =>
  if (repo.miners.get? address).isNone then refuse "miner not registered" else pure ()

def commitSubmission (now : Time) (taskRunID minerAddress requestID commitHash : String)
    (ipAddress userAgent : Option String) : Service Unit := do
  let _ ← getTask now (·.commitDeadline) "commit window closed" taskRunID
  requireMiner minerAddress
  let miner ← refreshMinerCluster settings minerAddress ipAddress userAgent
  .read fun repo =>
    let existing := getSubmission taskRunID minerAddress repo
    if existing.any (·.commitHash ≠ "") then refuse "already committed"
    else do
      let earlier := existing.getD
        { id := submissionID taskRunID minerAddress, taskRunID := taskRunID, minerAddress := minerAddress
          economicUnitID := miner.economicUnitID }
      .modify (·.saveSubmission { earlier with
        economicUnitID := miner.economicUnitID
        commitRequestID := some requestID
        commitHash := commitHash })
      .modify (·.updateMiner minerAddress fun row => { row with forecastCommits := miner.forecastCommits + 1 })

def clampBps (value : Int) : Int := max settings.minPYesBps (min settings.maxPYesBps value)

def computeCommitHash (taskRunID minerAddress : String) (pYesBps : Int) (revealNonce : String) : String :=
  settings.text.sha256 (taskRunID ++ "|" ++ minerAddress ++ "|" ++ toString pYesBps ++ "|" ++ revealNonce)

def duplicates (minerAddress economicUnitID : String) (other : Submission) : Bool :=
  other.minerAddress ≠ minerAddress && other.economicUnitID = economicUnitID && other.pYesBps.isSome

def revealSubmission (now : Time) (taskRunID minerAddress requestID : String) (pYesBps : Int) (revealNonce : String)
    (ipAddress userAgent : Option String) : Service Unit := do
  let _ ← getTask now (·.revealDeadline) "reveal window closed" taskRunID
  let bps := clampBps settings pYesBps
  requireMiner minerAddress
  let miner ← refreshMinerCluster settings minerAddress ipAddress userAgent
  .read fun repo =>
    match getSubmission taskRunID minerAddress repo with
    | none => refuse "commit required before reveal"
    | some submission =>
      if submission.commitHash = "" then refuse "commit required before reveal"
      else if submission.pYesBps.isSome then refuse "already revealed"
      else if computeCommitHash settings taskRunID minerAddress bps revealNonce ≠ submission.commitHash then
        refuse "reveal does not match commit hash"
      else do
        let taken := (repo.listSubmissionsForTask taskRunID).any (duplicates minerAddress miner.economicUnitID)
        .modify (·.saveSubmission { submission with
          economicUnitID := miner.economicUnitID
          revealRequestID := some requestID
          pYesBps := some bps
          eligibilityStatus := if taken then .auditOnly else .eligible
          state := .revealed })
        .modify (·.updateMiner minerAddress fun row => { row with forecastReveals := miner.forecastReveals + 1 })

end Calls
end Clawchain.Mining
