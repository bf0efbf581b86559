import Clawchain.Poker.Lifted

/-! What a build of a poker window can do: it is refused, it finds the window as it is, or it computes and writes it. -/
namespace Clawchain.Poker
open Clawchain.Lib Clawchain.Mining

structure Computation (settings : PokerSettings) (request : Request) (now : Time) (repo : PokerRepository) where
  poker : request.lane.isPoker = true
  inputs : WindowInputs
  weights : Weights
  selects : windowInputs settings request (isoformatZ now) (repo.rewardWindows.get? request.id) repo = .ok inputs
  weighs : weigh settings inputs repo.miners.get? = .ok weights

namespace Computation
variable {settings : PokerSettings} {request : Request} {now : Time} {repo : PokerRepository}
variable (c : Computation settings request now repo)

def budget : Except String (BudgetDisposition × Option BudgetLedger) :=
  prepareBudgetLedger settings request (budgetDisposition request (c.weights.positive settings)) c.inputs.policyBundleVersion
    repo.budgetLedgers

def build : PokerBuild :=
  pokerBuild settings request c.poker c.inputs c.weights c.budget (repo.rewardWindows.get? request.id) repo

def window : RewardWindow := c.build.window (repo.rewardWindows.get? request.id)

/-! The states that a build goes through. -/

def cancelled : PokerRepository :=
  { repo with toRepository := (cancelUnpaidBatch c.build (repo.rewardWindows.get? request.id) repo.toRepository).2 }

def touched : PokerRepository :=
  let stored := { c.cancelled with toRepository := c.cancelled.storeRewardWindow settings.toSettings c.window }
  if repo.rewardWindows.get? request.id ≠ some c.window then stored.touchRewardWindow request.id now else stored

def stored (ledger : Option BudgetLedger) : PokerRepository :=
  match ledger with
  | none => c.touched
  | some ledger => c.touched.saveBudgetLedger ledger

def projected (ledger : Option BudgetLedger) (rows : PagedRows) (pages : List Page) : PokerRepository :=
  { c.stored ledger with
    projections := (c.stored ledger).projections.insert request.id (c.build.projection (projectionOf request repo) rows pages) }

def Changed : Prop :=
  c.weights.positive settings = true ∧ (repo.rewardWindows.get? request.id ≠ some c.window ∨
    (projectionOf request repo).map (·.roots.projectionRoot) ≠ some c.build.roots.projectionRoot ∨
    ((repo.rewardWindows.get? request.id).bind (·.settlementBatchID)).isNone)

instance : Decidable c.Changed := inferInstanceAs (Decidable (_ ∧ _))

def synced (ledger : Option BudgetLedger) (rows : PagedRows) (pages : List Page) : PokerRepository :=
  if c.Changed then syncRewardWindow settings now c.window (c.projected ledger rows pages) else c.projected ledger rows pages

def returned (ledger : Option BudgetLedger) (rows : PagedRows) (pages : List Page) : RewardWindow :=
  ((c.synced ledger rows pages).rewardWindows.get? request.id).getD c.window

def written (ledger : Option BudgetLedger) (rows : PagedRows) (pages : List Page) : PokerRepository :=
  match (ledger.filter (·.settlementBatchID ≠ (c.returned ledger rows pages).settlementBatchID)).map
      ({ · with settlementBatchID := (c.returned ledger rows pages).settlementBatchID }) with
  | none => c.synced ledger rows pages
  | some relinked => (c.synced ledger rows pages).saveBudgetLedger relinked

end Computation

section Build
variable (settings : PokerSettings) (request : Request) (now : Time)

inductive Built (repo : PokerRepository) : Except ServiceError RewardWindow → PokerRepository → Prop
  | refused (failure : ServiceError) : Built repo (.error failure) repo
  | closed {existing : RewardWindow} (found : repo.rewardWindows.get? request.id = some existing)
    (closed : batchClosed repo.toRepository existing = true) : Built repo (.ok existing) repo
  | standing {inputs : WindowInputs} {existing : RewardWindow}
    (opened : (repo.rewardWindows.get? request.id).any (batchClosed repo.toRepository) = false)
    (selects : windowInputs settings request (isoformatZ now) (repo.rewardWindows.get? request.id) repo = .ok inputs)
    (stands : standingWindow settings request inputs repo = some existing) : Built repo (.ok existing) repo
  | unaffordable (c : Computation settings request now repo) (message : String)
    (opened : (repo.rewardWindows.get? request.id).any (batchClosed repo.toRepository) = false)
    (fresh : standingWindow settings request c.inputs repo = none) (refused : c.budget = .error message) : Built repo (.error (.value message)) c.cancelled
  | unpaged (c : Computation settings request now repo) (message : String) {disposition : BudgetDisposition}
    {ledger : Option BudgetLedger}
    (opened : (repo.rewardWindows.get? request.id).any (batchClosed repo.toRepository) = false)
    (fresh : standingWindow settings request c.inputs repo = none) (affordable : c.budget = .ok (disposition,ledger))
    (unpaged : settings.pokerMttProjectionArtifactPageSize = 0) :
    Built repo (.error (.value message)) (c.stored ledger)
  | written (c : Computation settings request now repo) {disposition : BudgetDisposition} {ledger : Option BudgetLedger}
    {rows : PagedRows} {pages : List Page}
    (opened : (repo.rewardWindows.get? request.id).any (batchClosed repo.toRepository) = false)
    (fresh : standingWindow settings request c.inputs repo = none) (affordable : c.budget = .ok (disposition,ledger))
    (paged : buildPagedPayload settings.hash settings.pokerMttProjectionArtifactPageSize c.build.minerRewardRows = .ok (rows,pages)) :
    Built repo (.ok (c.returned ledger rows pages)) (c.written ledger rows pages)

theorem given_run {σ ε : Type} (p : Prop) [Decidable p] (f : σ → σ) (s : σ) :
    (Faulty.given p (.modify f) : Faulty σ ε Unit) s = (.ok (),if p then f s else s) := by
  unfold Faulty.given
  split <;> rfl

theorem saveLedger_run (ledger : Option BudgetLedger) (repo : PokerRepository) : saveLedger ledger repo =
    (.ok (),match ledger with | none => repo | some ledger => repo.saveBudgetLedger ledger) := by
  cases ledger <;> rfl

theorem cancelUnpaidBatch_run (build : PokerBuild) (existing : Option RewardWindow) (repo : Repository) :
    (cancelUnpaidBatch build existing repo).1 = .ok () := by
  unfold cancelUnpaidBatch
  cases existing.bind (·.settlementBatchID) with
  | none => rfl
  | some id => exact congrArg Prod.fst (given_run _ _ _)

variable {settings request now} {repo : PokerRepository} (c : Computation settings request now repo)

theorem Computation.store_run (ledger : Option BudgetLedger) {α : Type} (rest : PokerService α) : (do
      onRepository (.modify (·.storeRewardWindow settings.toSettings c.window))
      .given (repo.rewardWindows.get? request.id ≠ some c.window) <| .modify (·.touchRewardWindow request.id now)
      saveLedger ledger
      rest : PokerService α) c.cancelled = rest (c.stored ledger) := by
  have touched : (Faulty.given (repo.rewardWindows.get? request.id ≠ some c.window)
      (.modify (·.touchRewardWindow request.id now)) : PokerService Unit)
        { c.cancelled with toRepository := c.cancelled.storeRewardWindow settings.toSettings c.window } = (.ok (),c.touched) :=
    given_run _ _ _
  have saved : saveLedger ledger c.touched = (.ok (),c.stored ledger) := saveLedger_run ledger c.touched
  calc _ = (do
      .given (repo.rewardWindows.get? request.id ≠ some c.window) <| .modify (·.touchRewardWindow request.id now)
      saveLedger ledger
      rest : PokerService α)
        { c.cancelled with toRepository := c.cancelled.storeRewardWindow settings.toSettings c.window } := rfl
    _ = (saveLedger ledger >>= fun _ => rest) c.touched := Faulty.bind_of_ok _ touched
    _ = rest (c.stored ledger) := Faulty.bind_of_ok _ saved

theorem Computation.write_run (ledger : Option BudgetLedger) {rows : PagedRows} {pages : List Page}
    (paged : buildPagedPayload settings.hash settings.pokerMttProjectionArtifactPageSize c.build.minerRewardRows = .ok (rows,pages)) :
    writeRewardWindow settings now c.build ledger (repo.rewardWindows.get? request.id) (projectionOf request repo) c.cancelled =
      (.ok (c.returned ledger rows pages),c.written ledger rows pages) := by
  have followed : (Faulty.given c.Changed (.modify (syncRewardWindow settings now c.window)) : PokerService Unit)
      (c.projected ledger rows pages) = (.ok (),c.synced ledger rows pages) := given_run _ _ _
  have relinked := saveLedger_run ((ledger.filter (·.settlementBatchID ≠ (c.returned ledger rows pages).settlementBatchID)).map
      ({ · with settlementBatchID := (c.returned ledger rows pages).settlementBatchID })) (c.synced ledger rows pages)
  unfold writeRewardWindow
  refine (c.store_run ledger _).trans ?_
  rw [paged]
  calc _ = (Faulty.given c.Changed (.modify (syncRewardWindow settings now c.window)) >>= fun _ =>
        returnedWindow c.build (repo.rewardWindows.get? request.id) ledger) (c.projected ledger rows pages) := rfl
    _ = returnedWindow c.build (repo.rewardWindows.get? request.id) ledger (c.synced ledger rows pages) :=
      Faulty.bind_of_ok _ followed
    _ = _ := by
      refine (Faulty.bind_of_ok _ relinked).trans ?_
      rfl

def Computation.afterBudget : PokerService RewardWindow :=
  match c.budget with
  | .error message => .fail (.value message)
  | .ok (_,ledger) =>
    writeRewardWindow settings now c.build ledger (repo.rewardWindows.get? request.id) (projectionOf request repo)

theorem Computation.compute_built (opened : (repo.rewardWindows.get? request.id).any (batchClosed repo.toRepository) = false)
    (fresh : standingWindow settings request c.inputs repo = none) :
    Built settings request now repo (computeRewardWindow settings request now c.poker c.inputs repo).1
      (computeRewardWindow settings request now c.poker c.inputs repo).2 := by
  unfold computeRewardWindow
  rw [Faulty.read_run,c.weighs]
  have cancelled : onRepository (cancelUnpaidBatch c.build (repo.rewardWindows.get? request.id)) repo = (.ok (),c.cancelled) :=
    Prod.ext (cancelUnpaidBatch_run _ _ _) rfl
  have run := Faulty.bind_of_ok (fun _ => c.afterBudget) cancelled
  refine (congrArg (fun end_ => Built settings request now repo end_.1 end_.2) run).mpr ?_
  unfold Computation.afterBudget
  cases budget : c.budget with
  | error message => exact .unaffordable c message opened fresh budget
  | ok prepared =>
    obtain ⟨disposition,ledger⟩ := prepared
    cases paged : buildPagedPayload settings.hash settings.pokerMttProjectionArtifactPageSize c.build.minerRewardRows with
    | ok payload =>
      obtain ⟨rows,pages⟩ := payload
      change Built settings request now repo (writeRewardWindow _ _ _ _ _ _ _).1 (writeRewardWindow _ _ _ _ _ _ _).2
      rw [c.write_run ledger paged]
      exact .written c opened fresh budget paged
    | error message =>
      have zero : settings.pokerMttProjectionArtifactPageSize = 0 := by
        by_contra positive
        simp only [buildPagedPayload,positive,if_false] at paged
        split at paged <;> cases paged
      have failed : writeRewardWindow settings now c.build ledger (repo.rewardWindows.get? request.id)
          (projectionOf request repo) c.cancelled = (.error (.value message),c.stored ledger) := by
        unfold writeRewardWindow
        refine (c.store_run ledger _).trans ?_
        rw [paged]
        rfl
      change Built settings request now repo (writeRewardWindow _ _ _ _ _ _ _).1 (writeRewardWindow _ _ _ _ _ _ _).2
      rw [failed]
      exact .unpaged c message opened fresh budget zero

theorem buildPokerMttRewardWindow_built (repo : PokerRepository) :
    Built settings request now repo (buildPokerMttRewardWindow settings request now repo).1
      (buildPokerMttRewardWindow settings request now repo).2 := by
  unfold buildPokerMttRewardWindow
  rw [Faulty.read_run]
  by_cases poker : request.lane.isPoker = true
  swap
  · rw [dif_neg poker]
    exact .refused _
  rw [dif_pos poker]
  split
  · exact .refused _
  cases closed : (repo.rewardWindows.get? request.id).filter (batchClosed repo.toRepository) with
  | some existing =>
    obtain ⟨found,left⟩ := Option.filter_eq_some_iff.mp closed
    exact .closed found left
  | none =>
    have opened : (repo.rewardWindows.get? request.id).any (batchClosed repo.toRepository) = false := by
      cases found : repo.rewardWindows.get? request.id with
      | none => rfl
      | some window =>
        rw [found] at closed
        simpa [Option.filter] using closed
    cases selects : windowInputs settings request (isoformatZ now) (repo.rewardWindows.get? request.id) repo with
    | error message => exact .refused _
    | ok inputs =>
      cases stands : standingWindow settings request inputs repo with
      | some existing => 
        dsimp only
        rw [stands]
        exact .standing opened selects stands
      | none =>
        dsimp only
        rw [stands]
        cases weighs : weigh settings inputs repo.miners.get? with
        | ok weights => exact (Computation.mk poker inputs weights selects weighs).compute_built opened stands
        | error message =>
          dsimp only
          unfold computeRewardWindow
          rw [Faulty.read_run,weighs]
          exact .refused _

theorem syncRewardWindow_lower (window : RewardWindow) (repo : PokerRepository) :
    (syncRewardWindow settings now window repo).toRepository =
      syncSettlementBatch settings.toSettings window repo.toRepository := by
  unfold syncRewardWindow
  dsimp only
  split <;> rfl

theorem Computation.stored_lower (ledger : Option BudgetLedger) :
    (c.stored ledger).toRepository = c.cancelled.storeRewardWindow settings.toSettings c.window := by
  have touched : c.touched.toRepository = c.cancelled.storeRewardWindow settings.toSettings c.window := by
    unfold Computation.touched
    dsimp only
    split <;> rfl
  cases ledger <;> exact touched

theorem Computation.written_lower (ledger : Option BudgetLedger) (rows : PagedRows) (pages : List Page) :
    (c.written ledger rows pages).toRepository = (c.synced ledger rows pages).toRepository := by
  unfold Computation.written
  split <;> rfl

theorem Computation.synced_lower (ledger : Option BudgetLedger) (rows : PagedRows) (pages : List Page) :
    (c.synced ledger rows pages).toRepository =
      if c.Changed then syncSettlementBatch settings.toSettings c.window (c.projected ledger rows pages).toRepository
      else (c.projected ledger rows pages).toRepository := by
  unfold Computation.synced
  split
  · exact syncRewardWindow_lower _ _
  · rfl

end Build
end Clawchain.Poker
