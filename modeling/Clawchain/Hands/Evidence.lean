import Clawchain.Lib.Json
import Clawchain.Lib.OrdMap

/-! The evidence of a tournament: one manifest for each kind of rows that there are, a stub for each kind that may be missing, and
the hash of the list of them. -/
namespace Clawchain.Hands
open Clawchain.Lib Clawchain.Lib.Calendar

inductive EvidenceKind where
  | finalRanking
  | handHistory
  | shortTermHud
  | longTermHud
  | hiddenEval
  | consumerCheckpoint
  deriving DecidableEq, Repr

namespace EvidenceKind

def name : EvidenceKind → String
  | finalRanking => "final_ranking"
  | handHistory => "hand_history"
  | shortTermHud => "short_term_hud"
  | longTermHud => "long_term_hud"
  | hiddenEval => "hidden_eval"
  | consumerCheckpoint => "consumer_checkpoint"

def text (kind : EvidenceKind) : String := "poker_mtt_" ++ kind.name ++ "_manifest"

end EvidenceKind

/-! Sets of kinds are lists in the order of the kinds' texts. -/

def pokerMttEvidenceRequiredKinds : List EvidenceKind :=
  [.consumerCheckpoint,.finalRanking,.handHistory,.hiddenEval,.longTermHud,.shortTermHud]

def pokerMttEvidenceDegradedAllowlist : List EvidenceKind := [.hiddenEval,.longTermHud,.shortTermHud]

def stubManifestKinds : List EvidenceKind := [.consumerCheckpoint,.handHistory,.hiddenEval,.longTermHud,.shortTermHud]

def evidenceManifestSchemaVersion : String := "poker_mtt.evidence_manifest.v1"

def hudManifestSchemaVersion : String := "poker_mtt.hud_manifest.v1"

def finalRankingFixedDecimalFields : List String := ["chip","chip_delta","bounty","start_chip","zset_score"]

def finalRankingRowSortKeys : List String := ["tournament_id","member_id"]

def handHistoryRowSortKeys : List String := ["tournament_id","table_id","hand_no","hand_id"]

def hiddenEvalRowSortKeys : List String := ["tournament_id","miner_address","final_ranking_id"]

def checkpointRowSortKeys : List String := ["topic","consumer_group","queue"]

def hudRowSortKeys : List String := ["tournament_id","miner_address"]

def picked (row : Json) (keys : List String) : List (String × Json) := keys.map fun key => (key,row.field key)

def normalizeFinalRankingRow (row : Json) : Except String Json := do
  let normalized ← row.canonicalize
  finalRankingFixedDecimalFields.foldlM (fun normalized field =>
    match row.field field with
    | .null => .ok normalized
    | value => (Json.fixedDecimal value).map fun fixed => normalized.set field (.text fixed)) normalized

def normalizeHandHistoryRow (row : Json) : Except String Json := do
  let normalized ← Json.canonicalize (.object
    (picked row ["tournament_id","table_id","hand_no","hand_id","version","checksum","ingest_state"]))
  return normalized.setSome "conflict_reason" (row.field "conflict_reason")

def normalizeHiddenEvalRow (row : Json) : Except String Json := do
  let score ← Json.fixedDecimal ((row.field "hidden_eval_score").or (.float ⟨false,0,0⟩))
  Json.canonicalize (.object (picked row ["tournament_id","miner_address","final_ranking_id","seed_assignment_id","baseline_sample_id"] ++
    [("hidden_eval_score",.text score),("score_components_json",(row.field "score_components_json").or (.object [])),
     ("evidence_root",row.field "evidence_root"),("policy_bundle_version",row.field "policy_bundle_version"),
     ("visibility_state",(row.field "visibility_state").or (.text "service_internal"))]))

def lagMessages (row : Json) : Except String Int := Json.toInt ((row.field "lag_messages").or (.int 0))

def normalizeCheckpointRow (row : Json) : Except String Json := do
  let lag ← lagMessages row
  Json.canonicalize (.object (picked row ["tournament_id","topic","queue","consumer_group","last_offset","last_message_id",
    "last_biz_id","last_hand_id","last_ingest_state","replay_root"] ++ [("lag_messages",.int lag)]))

inductive EvidenceState where
  | complete
  | acceptedDegraded
  | blocked
  deriving DecidableEq, Repr

def EvidenceState.text : EvidenceState → String
  | .complete => "complete"
  | .acceptedDegraded => "accepted_degraded"
  | .blocked => "blocked"

/-- A manifest without its root. Only the manifests of the HUD say when they were made, and only the others say a state. -/
structure ManifestBody where
  schemaVersion : String
  kind : EvidenceKind
  (tournamentID policyBundleVersion : String)
  generatedAt : Option Moment := none
  evidenceState : Option EvidenceState := none
  rowCount : Nat
  rowSortKeys : List String
  rowsRoot : String
  degradedReason : Option String := none
  deriving DecidableEq

def ManifestBody.document (body : ManifestBody) : Json := .object (
  [("schema_version",.text body.schemaVersion),("kind",.text body.kind.text),("tournament_id",.text body.tournamentID),
   ("policy_bundle_version",.text body.policyBundleVersion),("row_count",.int body.rowCount),
   ("row_sort_keys",.array (body.rowSortKeys.map .text)),("rows_root",.text body.rowsRoot)] ++
  (body.generatedAt.map fun time => ("generated_at",.text time.isoformatZ)).toList ++
  (body.evidenceState.map fun state => ("evidence_state",.text state.text)).toList ++
  (body.degradedReason.map fun reason => ("degraded_reason",.text reason)).toList)

structure Manifest extends ManifestBody where
  manifestRoot : String
  deriving DecidableEq

structure Artifact where
  id : String
  kind : EvidenceKind
  (entityType entityID : String)
  payload : Manifest
  payloadHash : String
  (createdAt updatedAt : Moment)
  deriving DecidableEq

@[ext]
structure ArtifactRef where
  kind : EvidenceKind
  (artifactID payloadHash : String)
  deriving DecidableEq, Repr

def ArtifactRef.document (ref : ArtifactRef) : Json :=
  .object [("kind",.text ref.kind.text),("artifact_id",.text ref.artifactID),("payload_hash",.text ref.payloadHash)]

/-- What the repository lists for a tournament: the conflicts are those for manual review, and the dead letters the open ones. -/
structure EvidenceRows (κ δ : Type) where
  (finalRankings handEvents shortTermHud longTermHud hiddenEvals checkpoints : List Json)
  conflicts : List κ
  deadLetters : List δ

structure EvidenceResult where
  (tournamentID policyBundleVersion : String)
  evidenceState : EvidenceState
  evidenceRoot : String
  artifactRefs : List ArtifactRef
  blockedReasons : List String
  policyDegradedKinds : List EvidenceKind
  generatedAt : Moment
  deriving DecidableEq

section Building
variable {κ δ : Type} (digest : Json → String) (tournamentID policyBundleVersion : String)

def canonicalHash (payload : Json) : Except String String := Json.canonicalHash (fun document => "sha256:" ++ digest document) payload

def rowsRoot (rows : List Json) (sortKeys : List String) : Except String String :=
  Json.rowsRoot (fun document => "sha256:" ++ digest document) rows sortKeys

def ManifestBody.rooted (body : ManifestBody) : Except String Manifest :=
  (canonicalHash digest body.document).map fun root => { body with manifestRoot := root }

def buildManifest (kind : EvidenceKind) (rows : List Json) (rowSortKeys : List String) (evidenceState : EvidenceState)
    (degradedReason : Option String) : Except String Manifest := do
  let normalizedRows ← rows.mapM Json.canonicalize
  let root ← rowsRoot digest normalizedRows rowSortKeys
  ManifestBody.rooted digest {
    schemaVersion := evidenceManifestSchemaVersion
    kind := kind
    tournamentID := tournamentID
    policyBundleVersion := policyBundleVersion
    evidenceState := some evidenceState
    rowCount := normalizedRows.length
    rowSortKeys := rowSortKeys
    rowsRoot := root
    degradedReason := degradedReason }

def buildRowsManifest (kind : EvidenceKind) (normalize : Json → Except String Json) (rowSortKeys : List String) (rows : List Json) :
    Except String Manifest := do
  let normalized ← rows.mapM normalize
  buildManifest digest tournamentID policyBundleVersion kind normalized rowSortKeys .complete none

def buildFinalRankingManifest (rows : List Json) : Except String Manifest :=
  buildRowsManifest digest tournamentID policyBundleVersion .finalRanking normalizeFinalRankingRow finalRankingRowSortKeys rows

def buildHandHistoryManifest (rows : List Json) : Except String Manifest :=
  buildRowsManifest digest tournamentID policyBundleVersion .handHistory normalizeHandHistoryRow handHistoryRowSortKeys rows

def buildHiddenEvalManifest (rows : List Json) : Except String Manifest :=
  buildRowsManifest digest tournamentID policyBundleVersion .hiddenEval normalizeHiddenEvalRow hiddenEvalRowSortKeys rows

def buildConsumerCheckpointManifest (rows : List Json) : Except String Manifest :=
  buildRowsManifest digest tournamentID policyBundleVersion .consumerCheckpoint normalizeCheckpointRow checkpointRowSortKeys rows

def buildHudManifest (generatedAt : Moment) (kind : EvidenceKind) (rows : List Json) : Except String Manifest := do
  let normalizedRows ← rows.mapM Json.canonicalize
  let root ← rowsRoot digest normalizedRows hudRowSortKeys
  ManifestBody.rooted digest {
    schemaVersion := hudManifestSchemaVersion
    kind := kind
    tournamentID := tournamentID
    policyBundleVersion := policyBundleVersion
    generatedAt := some generatedAt
    rowCount := normalizedRows.length
    rowSortKeys := hudRowSortKeys
    rowsRoot := root }

def buildStubManifest (kind : EvidenceKind) (evidenceState : EvidenceState) (degradedReason : String) : Except String Manifest :=
  if kind ∉ stubManifestKinds then .error ("unsupported stub manifest kind: " ++ kind.text)
  else if evidenceState ≠ .acceptedDegraded then .error "stub manifest must be accepted_degraded"
  else buildManifest digest tournamentID policyBundleVersion kind [] [] evidenceState (some degradedReason)

def whenListed (rows : List Json) (build : List Json → Except String Manifest) : Except String (List Manifest) :=
  if rows = [] then .ok [] else (build rows).map fun manifest => [manifest]

def listedManifests (current : Moment) (rows : EvidenceRows κ δ) : Except String (List Manifest) := do
  let finalRanking ← buildFinalRankingManifest digest tournamentID policyBundleVersion rows.finalRankings
  let handHistory ← whenListed rows.handEvents (buildHandHistoryManifest digest tournamentID policyBundleVersion)
  let shortTerm ← whenListed rows.shortTermHud (buildHudManifest digest tournamentID policyBundleVersion current .shortTermHud)
  let longTerm ← whenListed rows.longTermHud (buildHudManifest digest tournamentID policyBundleVersion current .longTermHud)
  let hiddenEval ← whenListed rows.hiddenEvals (buildHiddenEvalManifest digest tournamentID policyBundleVersion)
  let checkpoint ← whenListed rows.checkpoints (buildConsumerCheckpointManifest digest tournamentID policyBundleVersion)
  return finalRanking :: (handHistory ++ shortTerm ++ longTerm ++ hiddenEval ++ checkpoint)

def blockedReasons (rows : EvidenceRows κ δ) (completeKinds : List EvidenceKind) : Except String (List String) := do
  let lags ← rows.checkpoints.mapM lagMessages
  return ((pokerMttEvidenceRequiredKinds.filter fun kind =>
      kind ∉ completeKinds && kind ∉ pokerMttEvidenceDegradedAllowlist).map fun kind => "missing_required:" ++ kind.text) ++
    (if rows.conflicts.isEmpty then [] else ["mq_conflict_manual_review"]) ++
    (if rows.deadLetters.isEmpty then [] else ["mq_dlq_open"]) ++
    (if lags.any (0 < ·) then ["mq_checkpoint_lag"] else [])

def degradedKinds (completeKinds : List EvidenceKind) : List EvidenceKind :=
  pokerMttEvidenceDegradedAllowlist.filter (· ∉ completeKinds)

def stubManifests (completeKinds : List EvidenceKind) : Except String (List Manifest) :=
  (degradedKinds completeKinds).mapM fun kind =>
    buildStubManifest digest tournamentID policyBundleVersion kind .acceptedDegraded ("phase1_" ++ kind.name ++ "_deferred")

def artifactOf (current : Moment) (manifest : Manifest) : Artifact where
  id := "art:poker_mtt_tournament:" ++ tournamentID ++ ":" ++ manifest.kind.text ++ ":" ++ manifest.manifestRoot
  kind := manifest.kind
  entityType := "poker_mtt_tournament"
  entityID := tournamentID
  payload := manifest
  payloadHash := manifest.manifestRoot
  createdAt := current
  updatedAt := current

def Artifact.ref (artifact : Artifact) : ArtifactRef := ⟨artifact.kind,artifact.id,artifact.payloadHash⟩

def artifactRefs (artifacts : List Artifact) : List ArtifactRef :=
  Sorting.sortBy (fun a b => a.kind.text < b.kind.text) (artifacts.map Artifact.ref)

def refsDocument (refs : List ArtifactRef) : Json := .object [("items",.array (refs.map ArtifactRef.document))]

def evidenceStateOf (blocked : List String) (manifests : List Manifest) : EvidenceState :=
  if blocked ≠ [] then .blocked
  else if manifests.any fun manifest => manifest.evidenceState = some .acceptedDegraded then .acceptedDegraded
  else .complete

def buildPokerMttEvidenceManifests (current : Moment) (rows : EvidenceRows κ δ) (artifacts : OrdMap String Artifact) :
    Except String (EvidenceResult × OrdMap String Artifact) :=
  if policyBundleVersion = "" then .error "policy_bundle_version is required"
  else if rows.finalRankings = [] then .error "no poker mtt final rankings found"
  else do
    let listed ← listedManifests digest tournamentID policyBundleVersion current rows
    let completeKinds := listed.map (·.kind)
    let blocked ← blockedReasons rows completeKinds
    let stubs ← stubManifests digest tournamentID policyBundleVersion completeKinds
    let manifests := listed ++ stubs
    let saved := manifests.map (artifactOf tournamentID current)
    let refs := artifactRefs saved
    let root ← canonicalHash digest (refsDocument refs)
    return ({
      tournamentID := tournamentID
      policyBundleVersion := policyBundleVersion
      evidenceState := evidenceStateOf blocked manifests
      evidenceRoot := root
      artifactRefs := refs
      blockedReasons := blocked
      policyDegradedKinds := degradedKinds completeKinds
      generatedAt := current },
      saved.foldl (fun artifacts artifact => artifacts.insert artifact.id artifact) artifacts)

end Building
end Clawchain.Hands
