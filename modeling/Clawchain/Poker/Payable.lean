import Clawchain.Mining.Batching
import Clawchain.Poker.Computed

/-! A finalized window is payable: its batch is not cancelled, and has the window's total. -/
namespace Clawchain.Poker
open Clawchain.Lib Clawchain.Lib.Faulty Clawchain.Mining

/-! Windows and the batches of their ids. -/

structure Linked (settings : PokerSettings) (repo : Repository) : Prop where
  named : ∀ id window, repo.rewardWindows.get? id = some window → window.id = id
  links : ∀ id window batchID, repo.rewardWindows.get? id = some window → window.settlementBatchID = some batchID →
    batchID = settlementBatchIDOf id ∧ (repo.settlementBatches.get? batchID).isSome
  states : ∀ id batch, repo.settlementBatches.get? id = some batch → batch.state = .opened ∨ batch.state = .cancelled
  unpaged : settings.pokerMttProjectionArtifactPageSize = 0 → ∀ id, repo.projections.get? id = none

def Follows (repo : Repository) (id : String) : Prop := ∀ window batch, repo.rewardWindows.get? id = some window →
  window.lane.isPoker = true → window.settlementBatchID.isSome →
  repo.settlementBatches.get? (settlementBatchIDOf id) = some batch → batch.state = .opened →
  batch.rewardWindowIDs = [id] → batch.totalRewardAmount = window.totalRewardAmount

structure Matched (settings : PokerSettings) (repo : Repository) : Prop extends Linked settings repo where
  follows : settings.pokerMttProjectionArtifactPageSize ≠ 0 → ∀ id, Follows repo id

section Matched
variable {settings : PokerSettings} {repo : Repository}

theorem matched_empty : Matched settings {} where
  named id window found := by cases found
  links id window batchID found := by cases found
  states id batch found := by cases found
  unpaged _ _ := rfl
  follows _ id window batch found := by cases found

theorem Matched.same {after : Repository} (matched : Matched settings repo) (same : SameSettlement repo after) :
    Matched settings after := by
  unfold SameSettlement Repository.settlementSide at same
  simp only [Prod.mk.injEq] at same
  obtain ⟨windows,batches,-,-,projections,-⟩ := same
  refine ⟨⟨?_,?_,?_,?_⟩,?_⟩
  · exact windows ▸ matched.named
  · exact windows ▸ batches ▸ matched.links
  · exact batches ▸ matched.states
  · exact projections ▸ matched.unpaged
  · intro paged id
    unfold Follows
    rw [windows,batches]
    exact matched.follows paged id

variable {stored : Settings} {window : RewardWindow}
theorem Linked.store (linked : Linked settings repo) (links : ∀ batchID, window.settlementBatchID = some batchID →
      batchID = settlementBatchIDOf window.id ∧ (repo.settlementBatches.get? batchID).isSome) :
    Linked settings (repo.storeRewardWindow stored window) := by
  have windows (id : String) : (repo.storeRewardWindow stored window).rewardWindows.get? id =
      if id = window.id then some window else repo.rewardWindows.get? id := OrdMap.get?_insert ..
  refine ⟨fun id other found => ?_,fun id other batchID found named => ?_,linked.states,linked.unpaged⟩
  · rw [windows] at found
    split_ifs at found with own
    · cases found
      exact own.symm
    · exact linked.named id other found
  · rw [windows] at found
    split_ifs at found with own
    · cases found
      exact own ▸ links batchID named
    · exact linked.links id other batchID found named

theorem store_follows {id : String} (follows : Follows repo id) (other : id ≠ window.id)
    : Follows (repo.storeRewardWindow stored window) id := by
  have windows : (repo.storeRewardWindow stored window).rewardWindows.get? id = repo.rewardWindows.get? id :=
    OrdMap.get?_insert_of_ne _ _ other
  unfold Follows
  rw [windows]
  exact follows

theorem store_unlinked (follows : ∀ id, Follows repo id)
    (unlinked : window.settlementBatchID = none ∨ window.lane.isPoker = false) (id : String) :
    Follows (repo.storeRewardWindow stored window) id := by
  by_cases own : id = window.id
  · intro other batch found poker linked
    have windows : (repo.storeRewardWindow stored window).rewardWindows.get? id = some window := by
      rw [own]
      exact OrdMap.get?_insert_self ..
    cases windows.symm.trans found
    rcases unlinked with none_ | forecast
    · simp [none_] at linked
    · simp [forecast] at poker
  · exact store_follows (follows id) own

theorem cancelSettlementBatch_get? {cancelled id : String} {batch : SettlementBatch}
    (found : (cancelSettlementBatch cancelled repo).settlementBatches.get? id = some batch) :
    repo.settlementBatches.get? id = some batch ∨
      batch.state = .cancelled ∧ (repo.settlementBatches.get? id).isSome := by
  unfold cancelSettlementBatch at found
  split_ifs at found
  · exact .inl found
  · change (repo.settlementBatches.modifyAt cancelled _).get? id = some batch at found
    rw [OrdMap.get?_modifyAt] at found
    split_ifs at found
    · obtain ⟨old,held,rfl⟩ := Option.map_eq_some_iff.mp found
      exact .inr ⟨rfl,by simp [held]⟩
    · exact .inl found

theorem cancelSettlementBatch_isSome (cancelled id : String) :
    ((cancelSettlementBatch cancelled repo).settlementBatches.get? id).isSome = (repo.settlementBatches.get? id).isSome := by
  unfold cancelSettlementBatch
  split_ifs
  · rfl
  · change ((repo.settlementBatches.modifyAt cancelled _).get? id).isSome = _
    rw [OrdMap.get?_modifyAt]
    split_ifs <;> simp

theorem cancelSettlementBatch_windows (cancelled : String) :
    (cancelSettlementBatch cancelled repo).rewardWindows = repo.rewardWindows ∧
      (cancelSettlementBatch cancelled repo).projections = repo.projections := by
  unfold cancelSettlementBatch
  split_ifs <;> exact ⟨rfl,rfl⟩

theorem Matched.cancel (matched : Matched settings repo) (cancelled : String) :
    Matched settings (cancelSettlementBatch cancelled repo) := by
  obtain ⟨windows,projections⟩ := @cancelSettlementBatch_windows repo cancelled
  refine ⟨⟨?_,fun id window batchID found named => ?_,fun id batch found => ?_,?_⟩,
    fun paged id window batch found poker linked held opened listed => ?_⟩
  · exact windows ▸ matched.named
  · rw [windows] at found
    rw [cancelSettlementBatch_isSome]
    exact matched.links id window batchID found named
  · rcases cancelSettlementBatch_get? found with old | ⟨gone,-⟩
    · exact matched.states id batch old
    · exact .inr gone
  · exact projections ▸ matched.unpaged
  · rw [windows] at found
    rcases cancelSettlementBatch_get? held with old | ⟨gone,-⟩
    · exact matched.follows paged id window batch found poker linked old opened listed
    · cases gone.symm.trans opened

/-- A row of a window, and the row that a batch follows. -/
structure RowOf (window row : RewardWindow) : Prop where
  total : row.totalRewardAmount = window.totalRewardAmount
  link : window.settlementBatchID.isSome → row.settlementBatchID = window.settlementBatchID

section Sync
variable {stored : Settings} {window row : RewardWindow} (linked : Linked settings repo)
  (found : repo.rewardWindows.get? window.id = some row) (rowOf : RowOf window row)
include linked found rowOf

theorem syncSettlementBatch_spec :
    (∀ id, (syncSettlementBatch stored window repo).rewardWindows.get? id = if id = window.id then
      some { row with settlementBatchID := some (settlementBatchIDOf window.id) } else repo.rewardWindows.get? id) ∧
    (syncSettlementBatch stored window repo).settlementBatches = (followWindow window repo).settlementBatches ∧
    (syncSettlementBatch stored window repo).projections = repo.projections := by
  have links : ∀ id, window.settlementBatchID = some id → id = settlementBatchIDOf window.id := by
    intro id named
    exact (linked.links _ row id found ((rowOf.link (by simp [named])).trans named)).1
  have own : row.id = window.id := linked.named _ row found
  have held : (followWindow window repo).rewardWindows.get? window.id = some row := found
  rw [syncSettlementBatch_eq links]
  refine ⟨fun id => ?_,linkWindow_batches,?_⟩
  · unfold linkWindow
    split_ifs with already same same
    · have same' : { row with settlementBatchID := some (settlementBatchIDOf window.id) } = row := by
        rw [← already,← rowOf.link (by simp [already])]
      rw [same,same']
      exact found
    · rfl
    · rw [held,same]
      change (repo.rewardWindows.insert row.id _).get? window.id = _
      rw [own]
      exact OrdMap.get?_insert_self ..
    · rw [held]
      change (repo.rewardWindows.insert row.id _).get? id = _
      rw [own]
      exact OrdMap.get?_insert_of_ne _ _ same
  · unfold linkWindow
    split_ifs
    · rfl
    · cases (followWindow window repo).rewardWindows.get? window.id <;> rfl

theorem syncSettlementBatch_get? (id : String) : (syncSettlementBatch stored window repo).settlementBatches.get? id =
    if id = settlementBatchIDOf window.id then some (syncedBatch window (repo.settlementBatches.get? id))
    else repo.settlementBatches.get? id := by
  rw [(syncSettlementBatch_spec linked found rowOf).2.1]
  change (repo.settlementBatches.insert _ _).get? id = _
  rw [OrdMap.get?_insert]
  split_ifs with same
  · rw [same]
  · rfl

theorem syncSettlementBatch_linked : Linked settings (syncSettlementBatch stored window repo) := by
  obtain ⟨windows,-,projections⟩ := @syncSettlementBatch_spec _ _ stored _ _ linked found rowOf
  have batches := @syncSettlementBatch_get? _ _ stored _ _ linked found rowOf
  refine ⟨fun id other held => ?_,fun id other batchID held named => ?_,fun id batch held => ?_,projections ▸ linked.unpaged⟩
  · rw [windows] at held
    split_ifs at held with same
    · cases held
      exact (linked.named _ row found).trans same.symm
    · exact linked.named id other held
  · rw [windows] at held
    rw [batches]
    split_ifs at held with same
    · cases held
      cases named
      simp [same]
    · obtain ⟨own,exists_⟩ := linked.links id other batchID held named
      refine ⟨own,?_⟩
      split_ifs
      · rfl
      · exact exists_
  · rw [batches] at held
    split_ifs at held
    · cases held
      unfold syncedBatch
      cases old : repo.settlementBatches.get? id with
      | none => exact .inl rfl
      | some batch =>
        dsimp only
        split_ifs with opened
        · exact .inl opened
        · exact linked.states id batch old
    · exact linked.states id batch held

theorem syncSettlementBatch_follows (others : ∀ id, id ≠ window.id → Follows repo id) (id : String) :
    Follows (syncSettlementBatch stored window repo) id := by
  obtain ⟨windows,-,-⟩ := @syncSettlementBatch_spec _ _ stored _ _ linked found rowOf
  intro other batch held poker named batched opened listed
  rw [windows] at held
  rw [syncSettlementBatch_get? linked found rowOf] at batched
  have own : syncedBatch window (repo.settlementBatches.get? (settlementBatchIDOf id)) = batch →
      batch.rewardWindowIDs = [window.id] ∧ batch.totalRewardAmount = window.totalRewardAmount := by
    rintro rfl
    revert opened
    unfold syncedBatch
    cases repo.settlementBatches.get? (settlementBatchIDOf id) with
    | none => exact fun _ => ⟨rfl,rfl⟩
    | some old =>
      dsimp only
      split_ifs with still
      · exact fun _ => ⟨rfl,rfl⟩
      · exact fun opened => absurd opened still
  split_ifs at held with same
  · subst same
    cases held
    rw [if_pos rfl] at batched
    exact (own (Option.some.inj batched)).2.trans rowOf.total.symm
  · split_ifs at batched with shared
    · have mine := (own (Option.some.inj batched)).1.symm.trans listed
      exact absurd (by simpa using mine.symm) same
    · exact others id same other batch held poker named batched opened listed

theorem Matched.sync (follows : settings.pokerMttProjectionArtifactPageSize ≠ 0 → ∀ id, id ≠ window.id → Follows repo id) :
    Matched settings (syncSettlementBatch stored window repo) :=
  ⟨syncSettlementBatch_linked linked found rowOf,fun paged =>
    syncSettlementBatch_follows linked found rowOf (follows paged)⟩

end Sync
theorem buildRewardWindow_matched (stored : Settings) (id : String) (tasks : List Task) (matched : Matched settings repo) :
    Matched settings (buildRewardWindow stored id tasks repo) := by
  rw [buildRewardWindow_eq]
  have rows := matched.same (stampedRows_sameSettlement id tasks repo)
  have windows : ∀ id' : String, (moveTasks id (windowListed id tasks repo) (moveSubmissions id (windowSubmissions id tasks repo)
      repo)).rewardWindows.get? id' = repo.rewardWindows.get? id' := by
    intro id'
    have same := stampedRows_sameSettlement id tasks repo
    exact congrArg (fun side => side.1.get? id') same
  refine ⟨rows.toLinked.store fun batchID named => ?_,fun paged => store_unlinked (rows.follows paged) (.inr rfl)⟩
  obtain ⟨existing,found,named⟩ := Option.bind_eq_some_iff.mp named
  exact rows.links _ existing batchID ((windows _).trans found) named

theorem buildRewardWindows_matched (stored : Settings) (matched : Matched settings repo) :
    Matched settings (buildRewardWindows stored repo) := by
  have loop (ids : List String) (tasksOf : String → List Task) (repo : Repository) (matched : Matched settings repo) :
      Matched settings (ids.foldl (fun repo id => buildRewardWindow stored id (tasksOf id) repo) repo) := by
    induction ids generalizing repo with
    | nil => exact matched
    | cons id rest ih => exact ih _ (buildRewardWindow_matched stored id (tasksOf id) matched)
  exact loop _ _ repo matched

variable {now : Time}

abbrev Keeps (settings : PokerSettings) (before after : PokerRepository) : Prop :=
  Matched settings before.toRepository → Matched settings after.toRepository

theorem Keeps.refl (repo : PokerRepository) : Keeps settings repo repo := fun matched => matched

theorem Keeps.trans (a b c : PokerRepository) (first : Keeps settings a b) (next : Keeps settings b c) : Keeps settings a c :=
  fun matched => next (first matched)

theorem settleAndGather_keepsMatched (outside : ScoredOutside) :
    Moves (Keeps settings) (settleAndGather settings now outside) := by
  have below : Moves (fun before after => Matched settings before → Matched settings after)
      (settleBelow settings now outside.toOutside) := by
    have trans : ∀ a b c : Repository, (Matched settings a → Matched settings b) → (Matched settings b → Matched settings c) →
        Matched settings a → Matched settings c := fun _ _ _ first next matched => next (first matched)
    have quiet {x : Service Unit} (same : Moves SameSettlement x) :
        Moves (fun before after => Matched settings before → Matched settings after) x :=
      fun repo matched => matched.same (same repo)
    apply Moves.bind trans
    · exact quiet (Moves.modify fun repo => foldl_sameSettlement createTask_sameSettlement _ repo)
    intro _
    apply Moves.bind trans (quiet (settleDueTasks_sameSettlement _ _))
    intro _
    apply Moves.bind trans (quiet (settleDueDailyTasks_sameSettlement _))
    intro _
    apply Moves.bind trans (quiet (Moves.modify fun repo => releaseMaturedHolds_sameSettlement repo))
    exact fun _ => Moves.modify fun repo => buildRewardWindows_matched settings.toSettings
  intro repo matched
  have kept := below repo.toRepository matched
  rwa [← (settleAndGather_lifts settings now outside).below] at kept

theorem batchAndRank_keepsMatched (repo : PokerRepository) : Keeps settings repo (batchAndRank settings now repo) := by
  intro matched
  -- the windows are listed once; what is stored of them differs in its link only
  have loop (windows : List RewardWindow) (repo : PokerRepository) (matched : Matched settings repo.toRepository)
      (rows : ∀ window ∈ windows, ∃ row, repo.rewardWindows.get? window.id = some row ∧ RowOf window row)
      (distinct : (windows.map (·.id)).Nodup) :
      Matched settings (windows.foldl (fun repo window => if window.state = .noPositiveWeight then repo
        else syncRewardWindow settings now window repo) repo).toRepository := by
    induction windows generalizing repo with
    | nil => exact matched
    | cons window rest ih =>
      obtain ⟨fresh,distinct⟩ := List.nodup_cons.mp distinct
      obtain ⟨row,found,rowOf⟩ := rows window List.mem_cons_self
      have later : ∀ other ∈ rest, ∃ row, repo.rewardWindows.get? other.id = some row ∧ RowOf other row :=
        fun other member => rows other (List.mem_cons_of_mem _ member)
      rw [List.foldl_cons]
      split_ifs
      · exact ih repo matched later distinct
      · refine ih _ ?_ (fun other member => ?_) distinct
        · rw [syncRewardWindow_lower]
          exact Matched.sync matched.toLinked found rowOf fun paged id _ => matched.follows paged id
        · rw [syncRewardWindow_lower,(syncSettlementBatch_spec matched.toLinked found rowOf).1,if_neg]
          · exact later other member
          · exact fun same => fresh (List.mem_map.mpr ⟨other,member,same⟩)
  unfold batchAndRank
  rw [refreshPublicRanks_lower]
  have listed := List.perm_insertionSort (fun a b : RewardWindow =>
    toLex (b.windowEndAt,toLex ((repo.windowUpdatedAt.get? b.id).getD 0,b.id)) ≤
      toLex (a.windowEndAt,toLex ((repo.windowUpdatedAt.get? a.id).getD 0,a.id))) (repo.rewardWindows.entries.map Prod.snd)
  have named : ∀ id window, repo.rewardWindows.get? id = some window → window.id = id := matched.named
  refine loop _ repo matched (fun window member => ?_) ?_
  · have stored := (OrdMap.mem_values named).mp (listed.mem_iff.mp member)
    exact ⟨window,stored,rfl,fun _ => rfl⟩
  · refine (listed.map _).nodup_iff.mpr ?_
    rw [OrdMap.map_values named]
    exact OrdMap.keys_nodup _

end Matched

section Build
variable {settings : PokerSettings} {request : Request} {now : Time} {repo : PokerRepository}
variable (c : Computation settings request now repo)

theorem Computation.window_link {batchID : String} (linked : c.window.settlementBatchID = some batchID) :
    ∃ existing, repo.rewardWindows.get? request.id = some existing ∧ existing.settlementBatchID = some batchID := by
  change (if c.weights.positive settings = true then _ else none) = some batchID at linked
  split_ifs at linked
  exact Option.bind_eq_some_iff.mp linked

theorem Computation.cancelled_lower : c.cancelled.toRepository = repo.toRepository ∨
    c.weights.positive settings = false ∧ ∃ id, c.cancelled.toRepository = cancelSettlementBatch id repo.toRepository := by
  change (cancelUnpaidBatch c.build (repo.rewardWindows.get? request.id) repo.toRepository).2 = _ ∨ _ ∧ ∃ id,
    (cancelUnpaidBatch c.build (repo.rewardWindows.get? request.id) repo.toRepository).2 = _
  unfold cancelUnpaidBatch
  cases (repo.rewardWindows.get? request.id).bind (·.settlementBatchID) with
  | none => exact .inl rfl
  | some id =>
    have run : (Faulty.given (c.build.hasPositiveWeight = false) (.modify (cancelSettlementBatch id)) : Service Unit)
        repo.toRepository = _ := given_run _ _ _
    dsimp only
    rw [run]
    split_ifs with zero
    · exact .inr ⟨zero,id,rfl⟩
    · exact .inl rfl

theorem Computation.cancelled_windows : c.cancelled.rewardWindows = repo.rewardWindows := by
  rcases c.cancelled_lower with same | ⟨-,id,same⟩
  · exact congrArg Repository.rewardWindows same
  · exact (congrArg Repository.rewardWindows same).trans (cancelSettlementBatch_windows id).1

theorem Computation.cancelled_matched (matched : Matched settings repo.toRepository) :
    Matched settings c.cancelled.toRepository := by
  rcases c.cancelled_lower with same | ⟨-,id,same⟩
  · exact same ▸ matched
  · exact same ▸ matched.cancel id

variable (matched : Matched settings repo.toRepository) (ledger : Option BudgetLedger)
include matched

theorem Computation.stored_linked : Linked settings (c.stored ledger).toRepository := by
  rw [c.stored_lower]
  apply (c.cancelled_matched matched).toLinked.store
  intro batchID linked
  obtain ⟨existing,found,named⟩ := c.window_link linked
  rw [← c.cancelled_windows] at found
  exact (c.cancelled_matched matched).links _ existing batchID found named

theorem Computation.stored_others (paged : settings.pokerMttProjectionArtifactPageSize ≠ 0) {id : String}
    (other : id ≠ request.id) : Follows (c.stored ledger).toRepository id := by
  rw [c.stored_lower]
  exact store_follows ((c.cancelled_matched matched).follows paged id) other

theorem Computation.stored_follows (paged : settings.pokerMttProjectionArtifactPageSize ≠ 0)
    (same : c.weights.positive settings = true → repo.rewardWindows.get? request.id = some c.window) (id : String) :
    Follows (c.stored ledger).toRepository id := by
  by_cases other : id = request.id
  swap
  · exact c.stored_others matched ledger paged other
  subst other
  rw [c.stored_lower]
  cases positive : c.weights.positive settings with
  | false =>
    apply store_unlinked ((c.cancelled_matched matched).follows paged)
    apply Or.inl
    change (if c.weights.positive settings = true then _ else none) = none
    rw [if_neg (by simp [positive])]
  | true =>
    have found := same positive
    rw [← c.cancelled_windows] at found
    have still : (c.cancelled.storeRewardWindow settings.toSettings c.window).rewardWindows =
        c.cancelled.rewardWindows := OrdMap.insert_of_get? found
    unfold Follows
    rw [still]
    exact (c.cancelled_matched matched).follows paged request.id

theorem Computation.projected_linked (paged : settings.pokerMttProjectionArtifactPageSize ≠ 0) (rows : PagedRows)
    (pages : List Page) : Linked settings (c.projected ledger rows pages).toRepository where
  named := (c.stored_linked matched ledger).named
  links := (c.stored_linked matched ledger).links
  states := (c.stored_linked matched ledger).states
  unpaged none_ := absurd none_ paged

omit matched in
theorem Computation.stored_window : (c.stored ledger).rewardWindows.get? request.id = some c.window := by
  rw [c.stored_lower]
  exact OrdMap.get?_insert_self ..

theorem Computation.written_matched (paged : settings.pokerMttProjectionArtifactPageSize ≠ 0) (rows : PagedRows)
    (pages : List Page) : Matched settings (c.written ledger rows pages).toRepository := by
  have linked := c.projected_linked matched ledger paged rows pages
  rw [c.written_lower,c.synced_lower]
  split_ifs with changed
  · exact Matched.sync linked (c.stored_window ledger) ⟨rfl,fun _ => rfl⟩ fun _ id => c.stored_others matched ledger paged
  · refine ⟨linked,fun _ => c.stored_follows matched ledger paged fun positive => ?_⟩
    by_contra differs
    exact changed ⟨positive,.inl differs⟩

end Build

section Build
variable {settings : PokerSettings} {request : Request} {now : Time} {repo : PokerRepository}

theorem buildPagedPayload_paged {hash : Hashing} {pageSize : Nat} {rows : List RewardRow} {payload : PagedRows × List Page}
    (paged : buildPagedPayload hash pageSize rows = .ok payload) : pageSize ≠ 0 := by
  rintro rfl
  cases paged

theorem Built.matched {outcome : Except ServiceError RewardWindow} {after : PokerRepository}
    (built : Built settings request now repo outcome after) : Keeps settings repo after := by
  intro matched
  cases built with
  | refused failure => exact matched
  | closed found closed => exact matched
  | standing opened selects stands => exact matched
  | unaffordable c message opened fresh refused => exact c.cancelled_matched matched
  | unpaged c message opened fresh affordable unpaged =>
    exact ⟨c.stored_linked matched _,fun paged => absurd unpaged paged⟩
  | written c opened fresh affordable paged => exact c.written_matched matched _ (buildPagedPayload_paged paged) _ _

theorem buildPokerMttRewardWindow_keepsMatched :
    Moves (Keeps settings) (buildPokerMttRewardWindow settings request now) :=
  fun repo => (buildPokerMttRewardWindow_built repo).matched

variable (settings request now repo)

/-- What a build returns as finalized and worth something has a batch that is worth the same. -/
def Payable : Prop := ∀ window after, buildPokerMttRewardWindow settings request now repo = (.ok window,after) →
  window.state = .finalized → 0 < window.totalRewardAmount → ∃ batchID batch, window.settlementBatchID = some batchID ∧
    after.settlementBatches.get? batchID = some batch ∧ batch.state ≠ .cancelled ∧
    batch.totalRewardAmount = window.totalRewardAmount

/-- A window is built for a batch that is its own, or that it does not have yet, and nothing is paid into a cancelled one. -/
structure Clear : Prop where
  own : ∀ existing batch, repo.rewardWindows.get? request.id = some existing →
    (repo.projections.get? request.id).isSome → existing.settlementBatchID.isSome →
    repo.settlementBatches.get? (settlementBatchIDOf request.id) = some batch → batch.state = .opened →
      existing.lane.isPoker = true ∧ batch.rewardWindowIDs = [request.id]
  unpaid : ∀ existing batch, repo.rewardWindows.get? request.id = some existing → existing.settlementBatchID.isSome →
    repo.settlementBatches.get? (settlementBatchIDOf request.id) = some batch → batch.state = .cancelled →
      existing.totalRewardAmount = 0
  anew : ∀ batch, repo.settlementBatches.get? (settlementBatchIDOf request.id) = some batch → batch.state = .cancelled →
    ∀ c : Computation settings request now repo, standingWindow settings request c.inputs repo = none →
      c.weights.positive settings = true → request.rewardPoolAmount = 0

variable {settings request now repo}

theorem standingWindow_some {inputs : WindowInputs} {existing : RewardWindow}
    (stands : standingWindow settings request inputs repo = some existing) :
    repo.rewardWindows.get? request.id = some existing ∧ (repo.projections.get? request.id).isSome ∧
      (existing.settlementBatchID.isSome ∨ existing.state = .noPositiveWeight) := by
  obtain ⟨found,same⟩ := Option.filter_eq_some_iff.mp stands
  unfold projectionOf at same
  rw [found] at same
  cases projected : repo.projections.get? request.id with
  | none =>
    rw [projected] at same
    cases same
  | some projection =>
    rw [projected] at same
    refine ⟨found,rfl,?_⟩
    simp only [Option.bind_some,Option.any_some,unchanged,Bool.and_eq_true,Bool.or_eq_true,decide_eq_true_eq] at same
    exact same.2

theorem Matched.batch_opened (matched : Matched settings repo.toRepository) {existing : RewardWindow}
    (found : repo.rewardWindows.get? request.id = some existing) (linked : existing.settlementBatchID.isSome)
    (opened : (repo.rewardWindows.get? request.id).any (batchClosed repo.toRepository) = false) :
    ∃ batch, existing.settlementBatchID = some (settlementBatchIDOf request.id) ∧
      repo.settlementBatches.get? (settlementBatchIDOf request.id) = some batch ∧ batch.state = .opened := by
  obtain ⟨batchID,named⟩ := Option.isSome_iff_exists.mp linked
  obtain ⟨rfl,exists_⟩ := matched.links _ existing batchID found named
  obtain ⟨batch,held⟩ := Option.isSome_iff_exists.mp exists_
  refine ⟨batch,named,held,?_⟩
  simpa [found,batchClosed,named,held] using opened

theorem Computation.synced_windows (c : Computation settings request now repo) (ledger : Option BudgetLedger)
    (rows : PagedRows) (pages : List Page) : (c.synced ledger rows pages).rewardWindows =
      (if c.Changed then syncSettlementBatch settings.toSettings c.window (c.projected ledger rows pages).toRepository
        else (c.projected ledger rows pages).toRepository).rewardWindows :=
  congrArg Repository.rewardWindows (c.synced_lower ledger rows pages)

theorem Matched.returned_row (matched : Matched settings repo.toRepository) (c : Computation settings request now repo)
    (paged : settings.pokerMttProjectionArtifactPageSize ≠ 0) (ledger : Option BudgetLedger) (rows : PagedRows)
    (pages : List Page) : (c.returned ledger rows pages).state = c.window.state ∧
      (c.returned ledger rows pages).totalRewardAmount = c.window.totalRewardAmount := by
  have found : (c.projected ledger rows pages).rewardWindows.get? c.window.id = some c.window := c.stored_window ledger
  unfold Computation.returned
  rw [c.synced_windows]
  split_ifs
  · have own := (@syncSettlementBatch_spec _ _ settings.toSettings _ _
      (c.projected_linked matched ledger paged rows pages) found ⟨rfl,fun _ => rfl⟩).1 request.id
    rw [own,if_pos (show request.id = c.window.id from rfl)]
    exact ⟨rfl,rfl⟩
  · rw [show (c.projected ledger rows pages).rewardWindows.get? request.id = some c.window from found]
    exact ⟨rfl,rfl⟩

section Paid
variable (matched : Matched settings repo.toRepository) (clear : Clear settings request now repo)
include matched clear

theorem standing_payable {existing : RewardWindow} (found : repo.rewardWindows.get? request.id = some existing)
    (projected : (repo.projections.get? request.id).isSome) (linked : existing.settlementBatchID.isSome)
    (opened : (repo.rewardWindows.get? request.id).any (batchClosed repo.toRepository) = false) :
    ∃ batchID batch, existing.settlementBatchID = some batchID ∧ repo.settlementBatches.get? batchID = some batch ∧
      batch.state ≠ .cancelled ∧ batch.totalRewardAmount = existing.totalRewardAmount := by
  obtain ⟨batch,named,held,isOpen⟩ := matched.batch_opened found linked opened
  obtain ⟨poker,listed⟩ := clear.own existing batch found projected linked held isOpen
  have paged : settings.pokerMttProjectionArtifactPageSize ≠ 0 := by
    intro none_
    simp [matched.unpaged none_] at projected
  refine ⟨_,batch,named,held,by simp [isOpen],?_⟩
  exact matched.follows paged request.id existing batch found poker linked held isOpen listed

theorem closed_unpaid {existing : RewardWindow} (found : repo.rewardWindows.get? request.id = some existing)
    (closed : batchClosed repo.toRepository existing = true) : existing.totalRewardAmount = 0 := by
  obtain ⟨batch,held,left⟩ := (Option.any_eq_true _ _).mp closed
  obtain ⟨batchID,named,held⟩ := Option.bind_eq_some_iff.mp held
  obtain ⟨rfl,-⟩ := matched.links _ existing batchID found named
  have gone : batch.state = .cancelled := (matched.states _ batch held).resolve_left (by simpa using left)
  exact clear.unpaid existing batch found (by simp [named]) held gone

variable (c : Computation settings request now repo)
  (opened : (repo.rewardWindows.get? request.id).any (batchClosed repo.toRepository) = false)
  (fresh : standingWindow settings request c.inputs repo = none) (positive : c.weights.positive settings = true)
  (paged : settings.pokerMttProjectionArtifactPageSize ≠ 0) (worth : 0 < request.rewardPoolAmount)
include c opened fresh positive paged worth

omit matched clear opened fresh paged worth in
theorem Computation.projected_batches (ledger : Option BudgetLedger) (rows : PagedRows) (pages : List Page) :
    (c.projected ledger rows pages).settlementBatches = repo.settlementBatches := by
  have stored : (c.stored ledger).settlementBatches =
      (c.cancelled.storeRewardWindow settings.toSettings c.window).settlementBatches :=
    congrArg Repository.settlementBatches (c.stored_lower ledger)
  rcases c.cancelled_lower with same | ⟨zero,-⟩
  · have kept : (c.cancelled).settlementBatches = repo.settlementBatches := congrArg Repository.settlementBatches same
    exact stored.trans kept
  · simp [positive] at zero

theorem written_payable (ledger : Option BudgetLedger) (rows : PagedRows) (pages : List Page) :
    ∃ batchID batch, (c.returned ledger rows pages).settlementBatchID = some batchID ∧
      (c.written ledger rows pages).settlementBatches.get? batchID = some batch ∧ batch.state ≠ .cancelled ∧
      batch.totalRewardAmount = (c.returned ledger rows pages).totalRewardAmount := by
  have linked := c.projected_linked matched ledger paged rows pages
  have found : (c.projected ledger rows pages).rewardWindows.get? c.window.id = some c.window := c.stored_window ledger
  have batches := c.projected_batches positive ledger rows pages
  have lower : (c.written ledger rows pages).settlementBatches = (c.synced ledger rows pages).settlementBatches :=
    congrArg Repository.settlementBatches (c.written_lower ledger rows pages)
  have rowOf : RowOf c.window c.window := ⟨rfl,fun _ => rfl⟩
  rw [lower,c.synced_lower]
  unfold Computation.returned
  rw [c.synced_windows]
  split_ifs with changed
  · have own := (@syncSettlementBatch_spec _ _ settings.toSettings _ _ linked found rowOf).1 request.id
    have held := @syncSettlementBatch_get? _ _ settings.toSettings _ _ linked found rowOf (settlementBatchIDOf request.id)
    rw [if_pos (show request.id = c.window.id from rfl)] at own
    rw [if_pos (show settlementBatchIDOf request.id = settlementBatchIDOf c.window.id from rfl),batches] at held
    rw [own,Option.getD_some]
    refine ⟨_,_,rfl,held,?_⟩
    cases old : repo.settlementBatches.get? (settlementBatchIDOf request.id) with
    | none => exact ⟨by simp [syncedBatch],rfl⟩
    | some batch =>
      have isOpen : batch.state = .opened := by
        refine (matched.states _ batch old).resolve_right fun gone => ?_
        exact worth.ne' (clear.anew batch old gone c fresh positive)
      simp [syncedBatch,isOpen]
  · simp only [Computation.Changed,positive,true_and,not_or,not_not] at changed
    obtain ⟨same,root,linked'⟩ := changed
    have projected : (repo.projections.get? request.id).isSome := by
      obtain ⟨projection,held,-⟩ := Option.map_eq_some_iff.mp root
      obtain ⟨-,-,held⟩ := Option.bind_eq_some_iff.mp held
      simp [held]
    rw [show (c.projected ledger rows pages).rewardWindows.get? request.id = some c.window from found,Option.getD_some,batches]
    refine standing_payable matched clear same projected ?_ opened
    simpa [same,Option.isSome_iff_ne_none] using linked'

end Paid

theorem Matched.payable (matched : Matched settings repo.toRepository) (clear : Clear settings request now repo) :
    Payable settings request now repo := by
  intro window after run finalized worth
  have built := @buildPokerMttRewardWindow_built settings request now repo
  rw [run] at built
  cases built with
  | closed found closed =>
    rw [closed_unpaid matched clear found closed] at worth
    cases worth
  | standing opened selects stands =>
    obtain ⟨found,projected,linked⟩ := standingWindow_some stands
    refine standing_payable matched clear found projected (linked.resolve_right ?_) opened
    simp [finalized]
  | @written c disposition ledger rows pages opened fresh affordable payload =>
    have paged := buildPagedPayload_paged payload
    obtain ⟨state,total⟩ := matched.returned_row c paged ledger rows pages
    have positive : c.weights.positive settings = true := by
      by_contra zero
      have none_ : c.window.state = .noPositiveWeight := if_neg zero
      cases (finalized.symm.trans state).trans none_
    have pool : c.window.totalRewardAmount = request.rewardPoolAmount := if_pos positive
    exact written_payable matched clear c opened fresh positive paged (by omega) ledger rows pages

end Build
def PokerOperation.unanchored : PokerOperation → Bool
  | .changeInputs _ => true
  | .registerMiner .. => true
  | .commitSubmission .. => true
  | .revealSubmission .. => true
  | .reconcile _ => true
  | .buildPokerMttRewardWindow _ => true
  | _ => false

section Runs
variable (settings : PokerSettings)

/-- What holds of every build that a call comes to, with the state that it finds. -/
def PokerCall.EachBuild (condition : Request → Time → PokerRepository → Prop) (call : PokerCall) (repo : PokerRepository) : Prop :=
  match call with
  | (now,.buildPokerMttRewardWindow request) => condition request now repo
  | (now,.reconcile outside) => ∀ middle, settleAndGather settings now outside repo = (.ok (),middle) →
      AsFar (visitWindow settings now) (fun visit repo => visit.passed settings now repo = false →
        condition (visit.request settings) now repo) (visits settings now middle.inputs) middle
  | _ => True

/-- What holds of every call of a run, with the state that it finds. -/
def ThroughoutPoker (condition : PokerCall → PokerRepository → Prop) : List PokerCall → PokerRepository → Prop
  | [],_ => True
  | call :: rest,repo => condition call repo ∧ ThroughoutPoker condition rest (call.after settings repo)

variable {settings}

theorem visitWindow_keepsMatched {now : Time} (visit : Visit) : Moves (Keeps settings) (visitWindow settings now visit) := by
  apply Moves.read
  intro repo
  split_ifs
  · exact Moves.pure Keeps.refl ()
  · exact Moves.bind Keeps.trans buildPokerMttRewardWindow_keepsMatched fun _ => Moves.pure Keeps.refl ()

theorem PokerCall.keepsMatched {call : PokerCall} (unanchored : call.2.unanchored = true) (repo : PokerRepository) :
    Keeps settings repo (call.after settings repo) := by
  obtain ⟨now,operation⟩ := call
  change operation.unanchored = true at unanchored
  change Keeps settings repo (operation.run settings now repo).2
  cases operation with
  | changeInputs inputs => exact fun matched => matched
  | registerMiner address version ip agent =>
    exact fun matched => matched.same (registerMiner_sameSettlement _ _ _ _ _ repo.toRepository)
  | commitSubmission task miner request commit ip agent =>
    exact fun matched => matched.same (commitSubmission_sameSettlement _ _ _ _ _ _ _ repo.toRepository)
  | revealSubmission task miner request bps nonce ip agent =>
    exact fun matched => matched.same (revealSubmission_sameSettlement _ _ _ _ _ _ _ _ repo.toRepository)
  | reconcile outside =>
    refine Moves.bind (R := Keeps settings) Keeps.trans (settleAndGather_keepsMatched outside) (fun _ => ?_) repo
    apply Moves.bind Keeps.trans
    · exact Moves.read fun _ => Moves.each Keeps.refl Keeps.trans fun visit _ => visitWindow_keepsMatched visit
    · exact fun _ => Moves.modify batchAndRank_keepsMatched
  | buildPokerMttRewardWindow request =>
    exact Moves.bind (R := Keeps settings) Keeps.trans buildPokerMttRewardWindow_keepsMatched (fun _ => Moves.pure Keeps.refl ()) repo
  | _ => cases unanchored

theorem PokerCall.EachBuild.payable {call : PokerCall} {repo : PokerRepository} (matched : Matched settings repo.toRepository)
    (clear : call.EachBuild settings (Clear settings) repo) : call.EachBuild settings (Payable settings) repo := by
  obtain ⟨now,operation⟩ := call
  cases operation with
  | buildPokerMttRewardWindow request => exact matched.payable clear
  | reconcile outside =>
    intro middle settled
    have along := @settleAndGather_keepsMatched settings now outside repo matched
    rw [settled] at along
    exact (clear middle settled).mono (I := fun repo => Matched settings repo.toRepository) visitWindow_keepsMatched
      (fun visit repo matched clear open_ => matched.payable (clear open_)) along
  | _ => trivial

/-- In every run whose builds are clear, what is finalized has a batch that is not cancelled and is worth the same. -/
theorem finalizedWindows_payable {calls : List PokerCall} (unanchored : ∀ call ∈ calls, call.2.unanchored = true)
    (clear : ThroughoutPoker settings (PokerCall.EachBuild settings (Clear settings)) calls {}) :
    ThroughoutPoker settings (PokerCall.EachBuild settings (Payable settings)) calls {} := by
  have run (calls : List PokerCall) (repo : PokerRepository) (matched : Matched settings repo.toRepository)
      (unanchored : ∀ call ∈ calls, call.2.unanchored = true)
      (clear : ThroughoutPoker settings (PokerCall.EachBuild settings (Clear settings)) calls repo) :
      ThroughoutPoker settings (PokerCall.EachBuild settings (Payable settings)) calls repo := by
    induction calls generalizing repo with
    | nil => trivial
    | cons call rest ih =>
      refine ⟨clear.1.payable matched,ih _ ?_ (fun other member => unanchored other (List.mem_cons_of_mem _ member)) clear.2⟩
      exact call.keepsMatched (unanchored call List.mem_cons_self) repo matched
  exact run calls {} matched_empty unanchored clear

end Runs
/-! One day, whose only result loses its score and gets it back. -/

def dayRequest : Request where
  lane := .pokerMttDaily
  windowStartAt := 1772323200
  windowEndAt := 1772409600
  rewardPoolAmount := 100
  includeProvisional := false

def scoreFirst (totalScore : ℚ) : PokerOperation :=
  .changeInputs (plainTable [("claw1a",none)] [plainResult "first" "claw1a" 3600 totalScore]).inputs

def scoredDay : List PokerCall :=
  [(opening,.registerMiner "claw1a" "0.4.0" none none),(later 90000,scoreFirst 10),
    (later 90000,.buildPokerMttRewardWindow dayRequest)]

def flippedDay : List PokerCall :=
  scoredDay ++ [(later 93600,scoreFirst 0),(later 93600,.buildPokerMttRewardWindow dayRequest),
    (later 97200,scoreFirst 10),(later 97200,.buildPokerMttRewardWindow dayRequest)]

theorem clear_fresh {settings : PokerSettings} {request : Request} {now : Time} {repo : PokerRepository}
    (unbuilt : repo.rewardWindows.get? request.id = none)
    (unbatched : repo.settlementBatches.get? (settlementBatchIDOf request.id) = none) : Clear settings request now repo where
  own existing batch found := by
    rw [unbuilt] at found
    cases found
  unpaid existing batch found := by
    rw [unbuilt] at found
    cases found
  anew batch found := by
    rw [unbatched] at found
    cases found

theorem scoredDay_payable : ThroughoutPoker plainPokerSettings (PokerCall.EachBuild plainPokerSettings
    (Payable plainPokerSettings)) scoredDay {} := by
  apply finalizedWindows_payable
  · decide
  · refine ⟨trivial,trivial,clear_fresh ?_ ?_,trivial⟩ <;> decide +kernel

/-- The window is finalized again, and its batch stays cancelled. -/
theorem flippedDay_unpayable : (∀ call ∈ flippedDay, call.2.unanchored = true) ∧
    ¬ThroughoutPoker plainPokerSettings (PokerCall.EachBuild plainPokerSettings (Payable plainPokerSettings)) flippedDay {} := by
  refine ⟨by decide,fun throughout => ?_⟩
  obtain ⟨-,-,-,-,-,-,payable,-⟩ := throughout
  let before := finishPoker plainPokerSettings (flippedDay.dropLast) {}
  let batchID := settlementBatchIDOf dayRequest.id
  let built := buildPokerMttRewardWindow plainPokerSettings dayRequest (later 97200) before
  change Payable plainPokerSettings dayRequest (later 97200) before at payable
  have returned : (built.1.toOption.map fun window => (window.state,window.totalRewardAmount,window.settlementBatchID)) =
      some (.finalized,100,some batchID) := by decide +kernel
  have cancelled : (built.2.settlementBatches.get? batchID).map (·.state) = some .cancelled := by decide +kernel
  cases run : built with
  | mk outcome after =>
    cases outcome with
    | error failure =>
      rw [run] at returned
      cases returned
    | ok window =>
      rw [run] at returned cancelled
      simp only [Except.toOption,Option.map_some,Option.some.injEq,Prod.mk.injEq] at returned
      obtain ⟨finalized,total,linked⟩ := returned
      obtain ⟨id,batch,named,held,open_,-⟩ := payable window after run finalized (by omega)
      cases linked.symm.trans named
      obtain ⟨other,held',gone⟩ := Option.map_eq_some_iff.mp cancelled
      cases held.symm.trans held'
      exact open_ gone

end Clawchain.Poker
