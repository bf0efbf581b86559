import Clawchain.Lib.Lifting
import Clawchain.Mining.Building
import Clawchain.Mining.Operations

/-! The root that a reward window is stored with, against the artifacts that are written beside it. A history tells which
windows were built and which were linked to a batch, the newest first. -/
namespace Clawchain.Mining.Roots
open Clawchain.Lib Clawchain.Lib.Faulty

structure MembershipPayload where
  rewardWindowID : String
  lane : Lane
  policyBundleVersion : String
  (taskRunIDs minerAddresses : List String)
  (taskCount submissionCount minerCount totalRewardAmount : Nat)
  settlementBatchID : Option String
  minerRewardRows : List RewardRow
  minerRewardRowsRoot : Option String
  minerRewardRowsCount : Option Nat
  deriving DecidableEq

structure MembershipArtifact (Digest : Type) where
  payload : MembershipPayload
  payloadHash : Digest

structure ReplayPayload (Digest : Type) where
  rewardWindowID : String
  lane : Lane
  policyBundleVersion : String
  (windowStartAt windowEndAt : Int)
  totalRewardAmount : Nat
  (taskRunIDs minerAddresses : List String)
  settlementBatchID : Option String
  (taskCount submissionCount minerCount : Nat)
  rewardWindowMembershipPayloadHash : Digest
  rewardComponentRowsRoot : String
  rewardComponentRowsCount : Nat

/-- What is written of a window: it is built in the forecast lane or in a poker lane, or it is linked to a batch. -/
inductive WindowWrite where
  | forecast (id : String)
  | poker (id : String)
  | link (id : String)
  deriving DecidableEq

structure AuditedRepository (Digest : Type) extends Repository where
  canonicalRoots : OrdMap String Digest := OrdMap.empty
  membershipArtifacts : OrdMap String (MembershipArtifact Digest) := OrdMap.empty
  replayArtifacts : OrdMap String (ReplayPayload Digest) := OrdMap.empty
  history : List WindowWrite := []

abbrev AuditedService (Digest α : Type) := Faulty (AuditedRepository Digest) ServiceError α

section Writes
variable {Digest : Type} (settings : Settings) (digest : MembershipPayload → Digest)

def rewardWindowPayload (window : RewardWindow) : MembershipPayload where
  rewardWindowID := window.id
  lane := window.lane
  policyBundleVersion := if window.policyBundleVersion = "" then policyBundleVersion else window.policyBundleVersion
  taskRunIDs := window.taskRunIDs.mergeSort
  minerAddresses := window.minerAddresses.mergeSort
  taskCount := window.taskCount
  submissionCount := window.submissionCount
  minerCount := window.minerCount
  totalRewardAmount := window.totalRewardAmount
  settlementBatchID := window.settlementBatchID
  minerRewardRows := window.minerRewardRows
  minerRewardRowsRoot := if window.minerRewardRows = [] then none else some (settings.hash.rows window.minerRewardRows)
  minerRewardRowsCount := if window.minerRewardRows = [] then none else some window.minerRewardRows.length

def rootOf (window : RewardWindow) : Digest := digest (rewardWindowPayload settings window)

def forecastRewardWindowReplayPayload (window : RewardWindow) : ReplayPayload Digest where
  rewardWindowID := window.id
  lane := window.lane
  policyBundleVersion := if window.policyBundleVersion = "" then policyBundleVersion else window.policyBundleVersion
  windowStartAt := window.windowStartAt
  windowEndAt := window.windowEndAt
  totalRewardAmount := window.totalRewardAmount
  taskRunIDs := window.taskRunIDs.mergeSort
  minerAddresses := window.minerAddresses.mergeSort
  settlementBatchID := window.settlementBatchID
  taskCount := window.taskCount
  submissionCount := window.submissionCount
  minerCount := window.minerCount
  rewardWindowMembershipPayloadHash := rootOf settings digest window
  rewardComponentRowsRoot := settings.hash.rows window.minerRewardRows
  rewardComponentRowsCount := window.minerRewardRows.length

variable (window : RewardWindow) (repo : AuditedRepository Digest)

def upsertRewardWindowArtifact : AuditedRepository Digest :=
  { repo with
    membershipArtifacts := repo.membershipArtifacts.insert window.id
      ⟨rewardWindowPayload settings window,rootOf settings digest window⟩ }

def storeMaterialized : AuditedRepository Digest :=
  upsertRewardWindowArtifact settings digest window
    { repo with
      toRepository := repo.toRepository.storeRewardWindow settings window
      canonicalRoots := repo.canonicalRoots.insert window.id (rootOf settings digest window) }

def storePoker : AuditedRepository Digest :=
  { storeMaterialized settings digest window repo with history := .poker window.id :: repo.history }

def storeForecast : AuditedRepository Digest :=
  { storeMaterialized settings digest window repo with
    replayArtifacts := repo.replayArtifacts.insert window.id (forecastRewardWindowReplayPayload settings digest window)
    history := .forecast window.id :: repo.history }

def storeLinked : AuditedRepository Digest :=
  { upsertRewardWindowArtifact settings digest window
      { repo with toRepository := repo.toRepository.storeRewardWindow settings window } with
    history := .link window.id :: repo.history }

end Writes

section Operations
variable {Digest : Type} (settings : Settings) (digest : MembershipPayload → Digest)

def onRepository (operation : Service Unit) : AuditedService Digest Unit := fun repo =>
  ((operation repo.toRepository).1,{ repo with toRepository := (operation repo.toRepository).2 })

def buildRewardWindow (id : String) (tasks : List Task) (repo : AuditedRepository Digest) : AuditedRepository Digest :=
  storeForecast settings digest (builtWindow id tasks repo.toRepository)
    { repo with
      toRepository := moveTasks id (windowListed id tasks repo.toRepository)
        (moveSubmissions id (windowSubmissions id tasks repo.toRepository) repo.toRepository) }

def buildRewardWindows (repo : AuditedRepository Digest) : AuditedRepository Digest :=
  let waiting := repo.listTasks.filter Task.unwindowed
  let windowOf (task : Task) := forecastRewardWindowID task.resolveAt
  (addresses windowOf waiting).foldl
    (fun repo id => buildRewardWindow settings digest id (Groups.group windowOf waiting id) repo) repo

/-- The batch is synced as for a window that names it already; then the window is linked where it does not. -/
def syncSettlementBatch (window : RewardWindow) (repo : AuditedRepository Digest) : AuditedRepository Digest :=
  let id := window.settlementBatchID.getD (settlementBatchIDOf window.id)
  let named := { window with settlementBatchID := some id }
  let synced := { repo with toRepository := Mining.syncSettlementBatch settings named repo.toRepository }
  if window.settlementBatchID = some id then synced
  else
    match synced.rewardWindows.get? window.id with
    | none => synced
    | some stored => storeLinked settings digest { stored with settlementBatchID := some id } synced

def buildSettlementBatches (repo : AuditedRepository Digest) : AuditedRepository Digest :=
  (repo.rewardWindows.entries.map Prod.snd).foldl (fun repo window =>
    if window.state = .noPositiveWeight then repo else syncSettlementBatch settings digest window repo) repo

def storePokerMttRewardWindow (build : PokerBuild) (existing : Option RewardWindow) (projection : Option Projection) :
    AuditedService Digest Unit :=
  match build.budget,buildPagedPayload settings.hash settings.pokerMttProjectionArtifactPageSize build.minerRewardRows with
  | .error message,_ => .fail (.value message)
  | .ok _,.error message => do
    .modify (storePoker settings digest (build.window existing))
    .fail (.value message)
  | .ok _,.ok (rows,pages) => do
    .modify (storePoker settings digest (build.window existing))
    .modify fun repo => { repo with projections := repo.projections.insert build.id (build.projection projection rows pages) }
    .given (build.hasPositiveWeight = true ∧ (existing ≠ some (build.window existing) ∨
        projection.map (·.roots.projectionRoot) ≠ some build.roots.projectionRoot ∨
        (existing.bind (·.settlementBatchID)).isNone)) <|
      .modify (syncSettlementBatch settings digest (build.window existing))

def buildPokerMttRewardWindow (build : PokerBuild) : AuditedService Digest Unit := .read fun repo =>
  let existing := repo.rewardWindows.get? build.id
  let projection := existing.bind fun _ => repo.projections.get? build.id
  if existing.any (batchClosed repo.toRepository) then pure ()
  else if (existing.bind fun window => projection.map (build.unchanged window)).getD false then pure ()
  else do
    onRepository (cancelUnpaidBatch build existing)
    storePokerMttRewardWindow settings digest build existing projection

def tryPokerMttRewardWindow : Except String PokerBuild → AuditedService Digest Unit
  | .error message => .fail (.value message)
  | .ok build => buildPokerMttRewardWindow settings digest build

def reconcile (outside : Outside) (now : Time) : AuditedService Digest Unit := do
  onRepository (.modify fun repo => (newTasks settings now).foldl createTask repo)
  onRepository (settleDueTasks settings now outside.resolveFastTask outside.assess)
  onRepository (settleDueDailyTasks settings now outside.resolveDailyTask)
  onRepository (.modify (releaseMaturedHolds settings now))
  .modify (buildRewardWindows settings digest)
  .each (fun build => tryPokerMttRewardWindow settings digest (build.map ({ · with rewardWindowID := none }))) outside.pokerBuilds
  .modify (buildSettlementBatches settings digest)

def rebuildRewardWindow (outside : Outside) (now : Time) (id : String) : AuditedService Digest Unit := do
  reconcile settings digest outside now
  .read fun repo =>
    match repo.rewardWindows.get? id with
    | none => .fail (.value "reward window not found")
    | some window =>
      let recounted := recountRewardWindow window repo.toRepository
      if recounted.lane = .forecast15m then .modify (storeForecast settings digest recounted)
      else .modify (storePoker settings digest recounted)

def SameWindows (before after : Repository) : Prop := after.rewardWindows = before.rewardWindows

theorem SameWindows.refl (repo : Repository) : SameWindows repo repo := rfl

/-- What the service is asked to do: what writes windows, and what leaves them as they are. -/
inductive Step where
  | reconcile (outside : Outside)
  | buildPokerMttRewardWindow (build : Except String PokerBuild)
  | rebuildRewardWindow (outside : Outside) (id : String)
  | other (operation : Service Unit) (still : Moves SameWindows operation)

def Step.run (now : Time) : Step → AuditedService Digest Unit
  | .reconcile outside => Roots.reconcile settings digest outside now
  | .buildPokerMttRewardWindow build => tryPokerMttRewardWindow settings digest build
  | .rebuildRewardWindow outside id => Roots.rebuildRewardWindow settings digest outside now id
  | .other operation _ => onRepository operation

def finish (calls : List (Time × Step)) (repo : AuditedRepository Digest) : AuditedRepository Digest :=
  calls.foldl (fun repo call => (call.2.run settings digest call.1 repo).2) repo

end Operations

/-! The rows below are those of the settlement model. -/
section Below
variable {Digest : Type} (settings : Settings) (digest : MembershipPayload → Digest)

theorem sync_named_windows (window : RewardWindow) (repo : Repository) :
    (Mining.syncSettlementBatch settings
      { window with settlementBatchID := some (window.settlementBatchID.getD (settlementBatchIDOf window.id)) }
      repo).rewardWindows = repo.rewardWindows := by
  unfold Mining.syncSettlementBatch
  simp only [Option.getD_some,if_true]
  cases repo.settlementBatches.get? (window.settlementBatchID.getD (settlementBatchIDOf window.id)) with
  | none => rfl
  | some batch =>
    dsimp only
    split_ifs <;> rfl

end Below

/-! A root is current when its window was built last, and not linked since. -/

/-- The last write of a window is that it was built; as a poker window it was never one of the forecast lane. -/
def Current (id : String) : List WindowWrite → Prop
  | [] => True
  | .forecast other :: earlier => other = id ∨ Current id earlier
  | .poker other :: earlier => if other = id then .forecast id ∉ earlier else Current id earlier
  | .link other :: earlier => other ≠ id ∧ Current id earlier

section Current
variable {Digest : Type} {settings : Settings} {digest : MembershipPayload → Digest}

def Rooted (digest : MembershipPayload → Digest) (repo : AuditedRepository Digest) (id : String) : Prop :=
  ∃ root artifact, repo.canonicalRoots.get? id = some root ∧ repo.membershipArtifacts.get? id = some artifact ∧
    root = artifact.payloadHash ∧ artifact.payloadHash = digest artifact.payload ∧
    ∀ replay, repo.replayArtifacts.get? id = some replay → replay.rewardWindowMembershipPayloadHash = root

structure Audited (digest : MembershipPayload → Digest) (repo : AuditedRepository Digest) : Prop where
  rooted : ∀ id window, repo.rewardWindows.get? id = some window → Current id repo.history → Rooted digest repo id
  replayed : ∀ id replay, repo.replayArtifacts.get? id = some replay → .forecast id ∈ repo.history

theorem audited_empty : Audited digest {} where
  rooted _ _ found := by cases found
  replayed _ _ found := by cases found

section Writes
variable {repo : AuditedRepository Digest}

theorem rooted_elsewhere {id : String} {after : AuditedRepository Digest} (rooted : Rooted digest repo id)
    (roots : after.canonicalRoots.get? id = repo.canonicalRoots.get? id)
    (memberships : after.membershipArtifacts.get? id = repo.membershipArtifacts.get? id)
    (replays : after.replayArtifacts.get? id = repo.replayArtifacts.get? id) : Rooted digest after id := by
  unfold Rooted
  rw [roots,memberships,replays]
  exact rooted

variable (audited : Audited digest repo) (window : RewardWindow)
include audited

theorem Audited.still {rows : Repository} (same : rows.rewardWindows = repo.rewardWindows) :
    Audited digest { repo with toRepository := rows } where
  rooted id window found := audited.rooted id window (same ▸ found)
  replayed := audited.replayed

theorem storeForecast_audited : Audited digest (storeForecast settings digest window repo) where
  rooted id stored found current := by
    by_cases own : id = window.id
    · subst own
      refine ⟨rootOf settings digest window,_,OrdMap.get?_insert_self _ _ _,OrdMap.get?_insert_self _ _ _,rfl,rfl,?_⟩
      intro replay held
      cases (OrdMap.get?_insert_self _ _ _).symm.trans held
      rfl
    · have before := (OrdMap.get?_insert_of_ne _ _ own).symm.trans found
      have still : Current id repo.history := current.resolve_left (Ne.symm own)
      exact rooted_elsewhere (audited.rooted id stored before still) (OrdMap.get?_insert_of_ne _ _ own)
        (OrdMap.get?_insert_of_ne _ _ own) (OrdMap.get?_insert_of_ne _ _ own)
  replayed id replay found := by
    by_cases own : id = window.id
    · exact List.mem_cons.mpr (.inl (own ▸ rfl))
    · exact List.mem_cons_of_mem _ (audited.replayed id replay ((OrdMap.get?_insert_of_ne _ _ own).symm.trans found))

theorem storePoker_audited : Audited digest (storePoker settings digest window repo) where
  rooted id stored found current := by
    by_cases own : id = window.id
    · subst own
      refine ⟨rootOf settings digest window,_,OrdMap.get?_insert_self _ _ _,OrdMap.get?_insert_self _ _ _,rfl,rfl,?_⟩
      intro replay held
      have never : .forecast window.id ∉ repo.history := by simpa [storePoker,Current] using current
      exact absurd (audited.replayed _ replay held) never
    · have before := (OrdMap.get?_insert_of_ne _ _ own).symm.trans found
      have still : Current id repo.history := by simpa [storePoker,Current,Ne.symm own] using current
      exact rooted_elsewhere (audited.rooted id stored before still) (OrdMap.get?_insert_of_ne _ _ own)
        (OrdMap.get?_insert_of_ne _ _ own) rfl
  replayed id replay found := List.mem_cons_of_mem _ (audited.replayed id replay found)

theorem storeLinked_audited : Audited digest (storeLinked settings digest window repo) where
  rooted id stored found current := by
    have other : id ≠ window.id := fun same => current.1 same.symm
    have before := (OrdMap.get?_insert_of_ne _ _ other).symm.trans found
    exact rooted_elsewhere (audited.rooted id stored before current.2) rfl (OrdMap.get?_insert_of_ne _ _ other) rfl
  replayed id replay found := List.mem_cons_of_mem _ (audited.replayed id replay found)

end Writes

def Audits (digest : MembershipPayload → Digest) (before after : AuditedRepository Digest) : Prop :=
  Audited digest before → Audited digest after

theorem Audits.refl (repo : AuditedRepository Digest) : Audits digest repo repo := id

theorem Audits.trans (a b c : AuditedRepository Digest) (first : Audits digest a b) (next : Audits digest b c) :
    Audits digest a c := next ∘ first

theorem onRepository_audits {operation : Service Unit} (still : Moves SameWindows operation) :
    Moves (Audits digest) (onRepository operation) := fun repo audited => audited.still (still repo.toRepository)

theorem sameSettlement_still {operation : Service Unit} (same : Moves SameSettlement operation) :
    Moves SameWindows operation :=
  fun repo => congrArg Prod.fst (same repo)

theorem foldl_audits {α : Type} {step : AuditedRepository Digest → α → AuditedRepository Digest}
    (one : ∀ repo a, Audits digest repo (step repo a)) (list : List α) (repo : AuditedRepository Digest) :
    Audits digest repo (list.foldl step repo) := by
  induction list generalizing repo with
  | nil => exact .refl repo
  | cons a rest ih => exact .trans _ _ _ (one repo a) (ih _)

theorem buildRewardWindows_audits (repo : AuditedRepository Digest) :
    Audits digest repo (buildRewardWindows settings digest repo) := by
  apply foldl_audits
  intro repo id audited
  apply storeForecast_audited
  exact audited.still (congrArg Prod.fst (stampedRows_sameSettlement id _ repo.toRepository))

theorem syncSettlementBatch_audits (window : RewardWindow) (repo : AuditedRepository Digest) :
    Audits digest repo (syncSettlementBatch settings digest window repo) := by
  intro audited
  have synced : Audited digest { repo with
      toRepository := Mining.syncSettlementBatch settings
        { window with settlementBatchID := some (window.settlementBatchID.getD (settlementBatchIDOf window.id)) }
        repo.toRepository } := audited.still (sync_named_windows settings window repo.toRepository)
  unfold syncSettlementBatch
  dsimp only
  split_ifs
  · exact synced
  · split
    · exact synced
    · exact storeLinked_audited synced _

theorem buildSettlementBatches_audits (repo : AuditedRepository Digest) :
    Audits digest repo (buildSettlementBatches settings digest repo) := by
  apply foldl_audits
  intro repo window
  split_ifs
  · exact .refl repo
  · exact syncSettlementBatch_audits window repo

theorem cancelUnpaidBatch_still (build : PokerBuild) (existing : Option RewardWindow) :
    Moves SameWindows (cancelUnpaidBatch build existing) := by
  unfold cancelUnpaidBatch
  cases existing.bind (·.settlementBatchID) with
  | none => exact Moves.pure SameWindows.refl ()
  | some id =>
    apply Moves.given SameWindows.refl
    apply Moves.modify
    intro repo
    unfold cancelSettlementBatch
    split_ifs <;> rfl

theorem storePokerMttRewardWindow_audits (build : PokerBuild) (existing : Option RewardWindow) (projection : Option Projection) :
    Moves (Audits digest) (storePokerMttRewardWindow settings digest build existing projection) := by
  have stored : Moves (Audits digest)
      (Faulty.modify (storePoker settings digest (build.window existing)) : AuditedService Digest Unit) :=
    Moves.modify fun _ audited => storePoker_audited audited _
  unfold storePokerMttRewardWindow
  cases build.budget with
  | error message => exact Moves.fail Audits.refl _
  | ok _ =>
    cases buildPagedPayload settings.hash settings.pokerMttProjectionArtifactPageSize build.minerRewardRows with
    | error message => exact Moves.bind Audits.trans stored fun _ => Moves.fail Audits.refl _
    | ok parts =>
      apply Moves.bind Audits.trans stored
      intro _
      apply Moves.bind Audits.trans
      · apply Moves.modify
        exact fun _ audited => audited.still rfl
      · exact fun _ => Moves.given Audits.refl (Moves.modify (syncSettlementBatch_audits _))

theorem tryPokerMttRewardWindow_audits (build : Except String PokerBuild) :
    Moves (Audits digest) (tryPokerMttRewardWindow settings digest build) := by
  cases build with
  | error message => exact Moves.fail Audits.refl _
  | ok build =>
    change Moves (Audits digest) (buildPokerMttRewardWindow settings digest build)
    apply Moves.read
    intro repo
    dsimp only
    split_ifs
    · exact Moves.pure Audits.refl ()
    · exact Moves.pure Audits.refl ()
    · apply Moves.bind Audits.trans (onRepository_audits (cancelUnpaidBatch_still build _))
      exact fun _ => storePokerMttRewardWindow_audits build _ _

theorem reconcile_audits (outside : Outside) (now : Time) : Moves (Audits digest) (reconcile settings digest outside now) := by
  apply Moves.bind Audits.trans
  · apply onRepository_audits (sameSettlement_still _)
    exact Moves.modify fun repo => foldl_sameSettlement createTask_sameSettlement _ repo
  intro _
  apply Moves.bind Audits.trans (onRepository_audits (sameSettlement_still (settleDueTasks_sameSettlement _ _)))
  intro _
  apply Moves.bind Audits.trans (onRepository_audits (sameSettlement_still (settleDueDailyTasks_sameSettlement _)))
  intro _
  apply Moves.bind Audits.trans
  · apply onRepository_audits (sameSettlement_still _)
    exact Moves.modify releaseMaturedHolds_sameSettlement
  intro _
  apply Moves.bind Audits.trans (Moves.modify buildRewardWindows_audits)
  intro _
  apply Moves.bind Audits.trans
  · exact Moves.each Audits.refl Audits.trans fun build _ => tryPokerMttRewardWindow_audits _
  · exact fun _ => Moves.modify buildSettlementBatches_audits

theorem rebuildRewardWindow_audits (outside : Outside) (now : Time) (id : String) :
    Moves (Audits digest) (rebuildRewardWindow settings digest outside now id) := by
  apply Moves.bind Audits.trans (reconcile_audits outside now)
  intro _
  apply Moves.read
  intro repo
  cases repo.rewardWindows.get? id with
  | none => exact Moves.fail Audits.refl _
  | some window =>
    dsimp only
    split_ifs
    · exact Moves.modify fun _ audited => storeForecast_audited audited _
    · exact Moves.modify fun _ audited => storePoker_audited audited _

theorem Step.run_audits (now : Time) (step : Step) : Moves (Audits digest) (step.run settings digest now) := by
  cases step with
  | reconcile outside => exact reconcile_audits outside now
  | buildPokerMttRewardWindow build => exact tryPokerMttRewardWindow_audits build
  | rebuildRewardWindow outside id => exact rebuildRewardWindow_audits outside now id
  | other operation still => exact onRepository_audits still

theorem finish_audited (calls : List (Time × Step)) : Audited digest (finish settings digest calls {}) :=
  foldl_audits (fun repo call => call.2.run_audits call.1 repo) calls {} audited_empty

end Current

/-- In every run a window's root is the hash of its membership artifact, and the one its replay artifact names, as long as the
window was built after it was linked. -/
theorem roots_are_current {Digest : Type} (settings : Settings) (digest : MembershipPayload → Digest)
    (calls : List (Time × Step)) {id : String} {window : RewardWindow} (found : (finish settings digest calls {}).rewardWindows.get? id = some window)
    (current : Current id (finish settings digest calls {}).history) : Rooted digest (finish settings digest calls {}) id :=
  (finish_audited calls).rooted id window found current

/-! A window that is linked to its batch, and then rebuilt. -/

def linkedCalls : List (Time × Step) := [(plainNow,.buildPokerMttRewardWindow (.ok plainBuild))]

def rebuiltCalls : List (Time × Step) :=
  linkedCalls ++ [(plainNow,.rebuildRewardWindow plainOutside plainBuild.id)]

theorem roots_are_current_rebuilt : Rooted id (finish plainSettings id rebuiltCalls {}) plainBuild.id := by
  have stored : ((finish plainSettings id rebuiltCalls {}).rewardWindows.get? plainBuild.id).isSome := by decide +kernel
  obtain ⟨window,found⟩ := Option.isSome_iff_exists.mp stored
  have history : (finish plainSettings id rebuiltCalls {}).history =
      [.poker plainBuild.id,.link plainBuild.id,.poker plainBuild.id] := by decide +kernel
  apply roots_are_current plainSettings id rebuiltCalls found
  rw [history]
  simp [Current]

theorem linked_root_is_stale : ¬∀ (calls : List (Time × Step)) (windowID : String) (window : RewardWindow),
    (finish plainSettings id calls {}).rewardWindows.get? windowID = some window →
      Rooted id (finish plainSettings id calls {}) windowID := by
  intro all
  have stored : ((finish plainSettings id linkedCalls {}).rewardWindows.get? plainBuild.id).isSome := by decide +kernel
  obtain ⟨window,found⟩ := Option.isSome_iff_exists.mp stored
  obtain ⟨root,artifact,rooted,held,same,-⟩ := all linkedCalls plainBuild.id window found
  have differs : ((finish plainSettings id linkedCalls {}).canonicalRoots.get? plainBuild.id).map (·.settlementBatchID) ≠
      ((finish plainSettings id linkedCalls {}).membershipArtifacts.get? plainBuild.id).map
        (·.payloadHash.settlementBatchID) := by decide +kernel
  rw [rooted,held,same] at differs
  exact differs rfl

end Clawchain.Mining.Roots
