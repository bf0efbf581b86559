import Clawchain.Lib.Runs
import Clawchain.Poker.Feedback
import Clawchain.Projection.Snapshots

/-! The multiplier of a day and the results of the next one. A result is weighed with the newest snapshot that takes effect on
its day, and a snapshot is written only where a multiplier changes. -/
namespace Clawchain.Projection
open Clawchain.Lib Clawchain.Mining Clawchain.Poker

def rewardIdentityDefaults (address : String) (now : Time) : RewardIdentity :=
  let synthetic := isPokerMttSyntheticAddress address
  { pokerMttUserID := some (if synthetic then String.ofList (address.toList.drop "claw1local-".length) else address)
    pokerMttAuthSource := some (if synthetic then "local_harness" else "miner_registration")
    pokerMttRewardBound := !synthetic
    pokerMttRewardBoundAt := if synthetic then none else some now
    pokerMttIsSynthetic := synthetic }

/-- What happens to a store. A registration may give other miners new economic units. -/
inductive Update where
  | registerMiner (miner : Miner) (units : OrdMap String String)
  | saveFinalRanking (row : RankingRow)
  | saveHiddenEvals (entries : List HiddenEval)
  | applyResults (request : ApplyRequest)
  | projectFinalRankings (request : Request)

/-- An update with its time: results are applied now, and projected at the time they are locked at. -/
abbrev Entry := Time × Update

def Store.registerMiner (store : Store) (now : Time) (miner : Miner) (units : OrdMap String String) : Store :=
  if startsWith "claw1" miner.address = false ∨ (store.miners.get? miner.address).isSome then store
  else
    { store with
      miners := (store.miners.insert miner.address miner).mapVals fun address miner =>
        { miner with economicUnitID := (units.get? address).getD miner.economicUnitID }
      identities := store.identities.insert miner.address (rewardIdentityDefaults miner.address now) }

def Entry.after (store : Store) (entry : Entry) : Store :=
  match entry.2 with
  | .registerMiner miner units => store.registerMiner entry.1 miner units
  | .saveFinalRanking row => store.saveFinalRankings [row]
  | .saveHiddenEvals entries => { store with hiddenEvals := entries }
  | .applyResults request => (applyPokerMttResults binary64 { request with completedAt := entry.1 } store).2
  | .projectFinalRankings request => (projectPokerMttFinalRankings binary64 { request with lockedAt := entry.1 } store).2

def replay (entries : List Entry) (store : Store) : Store := entries.foldl Entry.after store

def Update.tournamentID : Update → String
  | .applyResults request => request.tournamentID
  | .projectFinalRankings request => request.tournamentID
  | _ => ""

def MultiplierRow.snapshot (row : MultiplierRow) : MultiplierSnapshot where
  id := row.id
  minerAddress := row.minerAddress
  sourceResultID := row.sourceResultID
  multiplierAfter := row.multiplierAfter
  effectiveWindowStartAt := some row.effectiveWindowStartAt
  effectiveWindowEndAt := some row.effectiveWindowEndAt
  updatedAt := some row.updatedAt

def StoredResult.result (result : StoredResult) : Result where
  id := result.id
  tournamentID := result.tournamentID
  minerAddress := result.minerAddress
  economicUnitID := some result.economicUnitID
  ratedOrPractice := if result.ratedOrPractice = "rated" then .rated else .practice
  humanOnly := result.humanOnly
  finalRank := some result.finalRank
  rankState := some result.rankState
  totalScore := result.totalScore
  eligibleForMultiplier := result.eligibleForMultiplier
  evaluationState := result.evaluationState
  evaluationVersion := result.evaluationVersion
  finalRankingID := result.finalRankingID
  standingSnapshotID := result.standingSnapshotID
  standingSnapshotHash := result.standingSnapshotHash
  evidenceRoot := result.evidenceRoot
  evidenceState := result.evidenceState
  lockedAt := result.lockedAt
  anchorableAt := result.anchorableAt
  noMultiplierReason := result.noMultiplierReason

/-- The repository that windows are built from holds what the store does. -/
structure Holds (store : Store) (repo : PokerRepository) : Prop where
  results : repo.inputs.results = store.results.mapVals fun _ result => result.result
  finalRankings : repo.inputs.finalRankings = store.finalRankings.mapVals fun _ row => row.ranking
  identities : repo.inputs.identities = store.identities
  miners : repo.miners = store.miners
  multiplierSnapshots : repo.inputs.multiplierSnapshots = store.multiplierSnapshots.mapVals fun _ row => row.snapshot

/-- In every window, every result of a miner that is locked on a day is weighed with a multiplier. -/
def Weighs (store : Store) (minerAddress : String) (day : Int) (multiplier : ℚ) : Prop :=
  ∀ settings request current existing repo inputs, Holds store repo →
    windowInputs settings request current existing repo = .ok inputs → ∀ (i : Nat) result, inputs.selected[i]? = some result →
      result.minerAddress = minerAddress → result.lockedAt.map dayBucketStart = some day →
        inputs.weighted[i]? = some (weightedResult settings.floats result multiplier)

section Windows
variable {now : Time} {s : Store} {repo : PokerRepository} {minerAddress : String} {windowStartAt windowEndAt target : Int}

def effectKey (row : MultiplierSnapshot) : Int ×ₗ Int ×ₗ String :=
  toLex (row.effectiveWindowStartAt.getD 0,toLex ((row.updatedAt <|> row.effectiveWindowStartAt).getD 0,row.id))

theorem effective_rows (dated : Dated now s) (holds : Holds s repo) (inside : windowStartAt ≤ target ∧ target < windowEndAt) :
    (repo.multiplierSnapshots windowStartAt windowEndAt minerAddress).filter (·.effectiveAt target) =
      (s.effective minerAddress (dayBucketStart target)).map MultiplierRow.snapshot := by
  have values : repo.inputs.multiplierSnapshots.entries.map Prod.snd =
      (s.multiplierSnapshots.entries.map Prod.snd).map MultiplierRow.snapshot := by
    rw [holds.multiplierSnapshots]
    unfold OrdMap.mapVals
    rw [List.map_map,List.map_map]
    rfl
  unfold PokerRepository.multiplierSnapshots Store.effective
  rw [values,List.filter_filter,List.filter_map]
  congr 1
  apply List.filter_congr
  intro row member
  have dates := dated.rows row.id row ((OrdMap.mem_values dated.keyed).mp member)
  have start := dates.start
  have stop := dates.stop
  unfold dayBucketStart at start ⊢
  rw [Bool.eq_iff_iff]
  simp only [Function.comp,MultiplierSnapshot.effectiveAt,MultiplierRow.snapshot,Option.any_some,Bool.and_eq_true,decide_eq_true_eq]
  constructor
  · rintro ⟨within,⟨owner,-⟩,-⟩
    exact ⟨of_decide_eq_true owner,by omega⟩
  · rintro ⟨owner,today⟩
    exact ⟨by omega,⟨decide_eq_true owner,by omega⟩,by omega⟩

theorem effective_resolved (dated : Dated now s) (holds : Holds s repo) (inside : windowStartAt ≤ target ∧ target < windowEndAt) :
    (resolveEffectiveRewardMultiplier (repo.multiplierSnapshots windowStartAt windowEndAt minerAddress) (some target)).1 =
      ((s.newest minerAddress (dayBucketStart target)).map (·.multiplierAfter)).getD 1 := by
  have chosen : (((repo.multiplierSnapshots windowStartAt windowEndAt minerAddress).filter (·.effectiveAt target)).insertionSort
      byEffect).getLast? = (s.newest minerAddress (dayBucketStart target)).map MultiplierRow.snapshot := by
    rw [effective_rows dated holds inside]
    have distinct : (((s.effective minerAddress (dayBucketStart target)).map MultiplierRow.snapshot).map effectKey).Nodup := by
      apply List.Nodup.of_map fun key => (ofLex (ofLex key).2).2
      rw [List.map_map,List.map_map]
      exact dated.distinct
    refine (@getLast?_insertionSort _ _ _ effectKey _ distinct).trans ?_
    cases found : s.newest minerAddress (dayBucketStart target) with
    | none => rw [newest_none found]; rfl
    | some row =>
      obtain ⟨member,last⟩ := dated.newest.mp found
      refine (head?_latest distinct).mpr ⟨List.mem_map_of_mem member,fun snapshot listed => ?_⟩
      obtain ⟨other,inside,rfl⟩ := List.mem_map.mp listed
      have same : row.effectiveWindowStartAt = other.effectiveWindowStartAt :=
        (dated.mem_effective.mp member).2.2.trans (dated.mem_effective.mp inside).2.2.symm
      exact Prod.Lex.toLex_mono ⟨same.ge,last other inside⟩
  unfold resolveEffectiveRewardMultiplier
  rw [Option.bind_some,chosen]
  cases found : s.newest minerAddress (dayBucketStart target) with
  | none => rfl
  | some row => exact if_neg (dated.dates (dated.newest.mp found).1).nonzero

theorem newest_weighs (dated : Dated now s) (day : Int) :
    Weighs s minerAddress day (((s.newest minerAddress day).map (·.multiplierAfter)).getD 1) := by
  intro settings request current existing repo inputs holds built i result found owner locked
  obtain ⟨selected,weighted⟩ := windowInputs_ok built
  obtain ⟨target,at_,rfl⟩ := Option.map_eq_some_iff.mp locked
  have inside := lockedIn_of_selected (selected ▸ List.mem_of_getElem? found)
  unfold Result.lockedIn at inside
  rw [at_,Option.any_some,Bool.and_eq_true,decide_eq_true_eq,decide_eq_true_eq] at inside
  have multiplier : (effectiveMultiplier (repo.multiplierSnapshots request.windowStartAt request.windowEndAt) result).1 =
      ((s.newest minerAddress (dayBucketStart target)).map (·.multiplierAfter)).getD 1 := by
    unfold effectiveMultiplier
    rw [at_,owner]
    exact effective_resolved dated holds inside
  rw [weighted,← multiplier]
  exact (List.getElem?_map ..).trans (congrArg (Option.map _) found)

end Windows

section Histories
variable {now : Time} {s t : Store} {minerAddress id : String} {effect : Int}
variable {entries : List Entry} {entry : Entry} {row : MultiplierRow}

/-- The newest snapshot says what the multiplier is. -/
def Tracks (minerAddress : String) (effect : Int) (store : Store) : Prop :=
  ∀ row, store.newest minerAddress effect = some row → row.multiplierAfter = store.multiplierOf minerAddress

/-- A snapshot that an update writes is newer than those of the same second that take effect with it. -/
def Entry.Tops (minerAddress : String) (effect : Int) (store : Store) (entry : Entry) : Prop :=
  (entry.after store).multiplierOf minerAddress ≠ store.multiplierOf minerAddress →
    ∀ row ∈ store.effective minerAddress effect, row.updatedAt = isoformatZ entry.1 →
      row.id ≤ snapshotID (resultID entry.2.tournamentID minerAddress)

def Entry.Spares (minerAddress : String) (effect : Int) (store : Store) (entry : Entry) : Prop :=
  ∀ row ∈ store.newest minerAddress effect, row.id ∈ ((entry.after store).effective minerAddress effect).map (·.id)

structure Entry.Keeps (minerAddress : String) (effect : Int) (store : Store) (entry : Entry) : Prop where
  tops : entry.Tops minerAddress effect store
  spares : entry.Spares minerAddress effect store

theorem entry_wrote (dated : Dated entry.1 s) (minerAddress : String) (effect : Int) :
    Dated entry.1 (entry.after s) ∧ Wrote entry.1 (snapshotID (resultID entry.2.tournamentID minerAddress)) minerAddress effect s
      (entry.after s) := by
  obtain ⟨now,update⟩ := entry
  cases update with
  | registerMiner miner units =>
    unfold Entry.after Store.registerMiner
    dsimp only
    split
    · exact ⟨dated,Wrote.refl⟩
    · rename_i fresh
      refine ⟨⟨dated.rows,?_⟩,Wrote.refl.keep rfl rfl⟩
      have named : miner.address ≠ "" := by
        intro empty
        rw [empty] at fresh
        exact fresh (.inl (by decide))
      rw [OrdMap.get?_mapVals,OrdMap.get?_insert_of_ne _ _ named.symm,dated.unnamed]
      rfl
  | saveFinalRanking row => exact ⟨⟨dated.rows,dated.unnamed⟩,Wrote.refl.keep rfl rfl⟩
  | saveHiddenEvals entries => exact ⟨⟨dated.rows,dated.unnamed⟩,Wrote.refl.keep rfl rfl⟩
  | applyResults request => exact apply_wrote { request with completedAt := now } dated minerAddress effect
  | projectFinalRankings request => exact project_wrote { request with lockedAt := now } dated minerAddress effect

theorem newest_some (member : row ∈ s.effective minerAddress effect) :
    ∃ newest, s.newest minerAddress effect = some newest := by
  cases found : s.newest minerAddress effect with
  | none =>
    rw [newest_none found] at member
    cases member
  | some newest => exact ⟨newest,rfl⟩

theorem effective_early (dated : Dated now s) (early : dayBucketStart (isoformatZ now) + 86400 < effect) :
    s.effective minerAddress effect = [] := by
  apply List.eq_nil_iff_forall_not_mem.mpr
  intro row member
  have dates := dated.dates member
  have starts := (dated.mem_effective.mp member).2.2
  have past := dates.past
  rw [dates.start] at starts
  unfold dayBucketStart at starts early
  omega

theorem snapshotKey_le {other : MultiplierRow} (older : row.updatedAt ≤ other.updatedAt)
    (tie : row.updatedAt = other.updatedAt → row.id ≤ other.id) : snapshotKey row ≤ snapshotKey other := by
  apply Prod.Lex.toLex_le_toLex.mpr
  rcases older.lt_or_eq with before | same
  · exact .inl before
  · exact .inr ⟨same,tie same⟩

theorem Dated.antisymm (dated : Dated now s) {other : MultiplierRow} (first : row ∈ s.effective minerAddress effect)
    (second : other ∈ s.effective minerAddress effect) (below : snapshotKey row ≤ snapshotKey other)
    (above : snapshotKey other ≤ snapshotKey row) : row = other :=
  dated.same first second (congrArg (fun key => (ofLex key).2) (le_antisymm below above))

theorem entry_tracks (dated : Dated entry.1 s) (today : dayBucketStart (isoformatZ entry.1) + 86400 = effect)
    (keeps : entry.Keeps minerAddress effect s) (tracks : Tracks minerAddress effect s) :
    Tracks minerAddress effect (entry.after s) := by
  obtain ⟨after,wrote⟩ := entry_wrote dated minerAddress effect
  intro row found
  obtain ⟨member,last⟩ := after.newest.mp found
  rcases wrote.fresh row member with old | fresh
  · obtain ⟨newest,before⟩ := newest_some old
    obtain ⟨inside,latest⟩ := dated.newest.mp before
    obtain ⟨kept,held,named⟩ := List.mem_map.mp (keeps.spares newest before)
    rcases wrote.fresh kept held with same | fresh
    · -- the newest one is still there, and still the newest
      obtain rfl := dated.same same inside named
      obtain rfl := dated.antisymm old same (latest row old) (last kept held)
      rw [tracks row before]
      rcases wrote.moved with unmoved | written
      · exact unmoved.symm
      · obtain ⟨other,here,fresh⟩ := written today
        by_contra differ
        have older : snapshotKey row ≤ snapshotKey other := snapshotKey_le (fresh.updated ▸ (dated.dates old).past)
          fun tie => fresh.named ▸ keeps.tops (Ne.symm differ) row old (tie.trans fresh.updated)
        obtain rfl := after.antisymm member here older (last other here)
        exact differ ((tracks row before).symm.trans fresh.after)
    · -- the newest one is written again
      have older : snapshotKey newest ≤ snapshotKey kept := snapshotKey_le (fresh.updated ▸ (dated.dates inside).past)
        fun _ => named.ge
      obtain rfl := after.antisymm member held ((latest row old).trans older) (last kept held)
      exact fresh.after
  · exact fresh.after

theorem entry_newest (dated : Dated entry.1 s) (later : dayBucketStart (isoformatZ entry.1) + 86400 ≠ effect)
    (spares : entry.Spares minerAddress effect s) :
    (entry.after s).newest minerAddress effect = s.newest minerAddress effect := by
  obtain ⟨after,wrote⟩ := entry_wrote dated minerAddress effect
  have fewer : ∀ row ∈ (entry.after s).effective minerAddress effect, row ∈ s.effective minerAddress effect := by
    intro row member
    refine (wrote.fresh row member).resolve_right fun fresh => later ?_
    rw [← fresh.updated,← fresh.start]
    exact (after.mem_effective.mp member).2.2
  cases before : s.newest minerAddress effect with
  | none =>
    cases found : (entry.after s).newest minerAddress effect with
    | none => rfl
    | some row =>
      have member := fewer row (after.newest.mp found).1
      rw [newest_none before] at member
      cases member
  | some newest =>
    obtain ⟨inside,latest⟩ := dated.newest.mp before
    obtain ⟨kept,held,named⟩ := List.mem_map.mp (spares newest before)
    obtain rfl := dated.same (fewer kept held) inside named
    exact after.newest.mpr ⟨held,fun row member => latest row (fewer row member)⟩

theorem Dated.mono {later : Time} (dated : Dated now s) (order : now ≤ later) : Dated later s where
  rows id row found :=
    have dates := dated.rows id row found
    { dates with past := dates.past.trans (Int.ediv_le_ediv (by decide) order) }
  unnamed := dated.unnamed

theorem dated_empty : Dated now {} where
  rows _ _ found := by cases found
  unnamed := rfl

structure InOrder (store : Store) (entries : List Entry) : Prop where
  dated : ∀ entry ∈ entries.head?, Dated entry.1 store
  ordered : (entries.map Prod.fst).Pairwise (· ≤ ·)

theorem InOrder.tail {entry : Entry} {rest : List Entry} (inOrder : InOrder s (entry :: rest)) : InOrder (entry.after s) rest where
  dated other first := by
    have next := (entry_wrote (inOrder.dated entry rfl) "" 0).1
    exact next.mono ((List.pairwise_cons.mp inOrder.ordered).1 _ (List.mem_map_of_mem (List.mem_of_head? first)))
  ordered := (List.pairwise_cons.mp inOrder.ordered).2

theorem bounded (ordered : (entries.map Prod.fst).Pairwise (· ≤ ·)) : ∃ last, ∀ entry ∈ entries, entry.1 ≤ last := by
  rcases List.eq_nil_or_concat entries with rfl | ⟨rest,last,rfl⟩
  · exact ⟨0,fun entry member => by cases member⟩
  · refine ⟨last.1,fun entry member => ?_⟩
    rw [List.concat_eq_append] at ordered member
    rw [List.map_append] at ordered
    rcases List.mem_append.mp member with earlier | own
    · exact (List.pairwise_append.mp ordered).2.2 _ (List.mem_map_of_mem earlier) _ List.mem_cons_self
    · exact (List.mem_singleton.mp own ▸ le_rfl)

theorem replay_dated {last : Time} (inOrder : InOrder s entries) (upTo : ∀ entry ∈ entries, entry.1 ≤ last)
    (start : Dated last s) : Dated last (replay entries s) := by
  induction entries generalizing s with
  | nil => exact start
  | cons entry rest ih =>
    have next := (entry_wrote (inOrder.dated entry rfl) "" 0).1
    exact ih inOrder.tail (fun other member => upTo other (List.mem_cons_of_mem _ member)) (next.mono (upTo entry List.mem_cons_self))

theorem replay_tracks {day : Int} (inOrder : InOrder s entries)
    (upTo : ∀ entry ∈ entries, dayBucketStart (isoformatZ entry.1) ≤ day)
    (keeps : Along Entry.after (Entry.Keeps minerAddress (day + 86400)) entries s)
    (tracks : Tracks minerAddress (day + 86400) s) : Tracks minerAddress (day + 86400) (replay entries s) := by
  induction entries generalizing s with
  | nil => exact tracks
  | cons entry rest ih =>
    have dated := inOrder.dated entry rfl
    have next := (entry_wrote dated minerAddress (day + 86400)).1
    refine ih inOrder.tail (fun other member => upTo other (List.mem_cons_of_mem _ member)) keeps.2 ?_
    rcases (upTo entry List.mem_cons_self).lt_or_eq with early | today
    · intro row found
      have member := (next.newest.mp found).1
      rw [effective_early next (by omega)] at member
      cases member
    · exact entry_tracks dated (by omega) keeps.1 tracks

theorem replay_newest {day : Int} (inOrder : InOrder s entries)
    (later : ∀ entry ∈ entries, day < dayBucketStart (isoformatZ entry.1))
    (keeps : Along Entry.after (Entry.Keeps minerAddress (day + 86400)) entries s) :
    (replay entries s).newest minerAddress (day + 86400) = s.newest minerAddress (day + 86400) := by
  induction entries generalizing s with
  | nil => rfl
  | cons entry rest ih =>
    have early := later entry List.mem_cons_self
    exact (ih inOrder.tail (fun other member => later other (List.mem_cons_of_mem _ member)) keeps.2).trans
      (entry_newest (inOrder.dated entry rfl) (by omega) keeps.1.spares)

end Histories

structure Divided (before later : List Entry) (day : Int) : Prop where
  ordered : ((before ++ later).map Prod.fst).Pairwise (· ≤ ·)
  upTo : ∀ entry ∈ before, dayBucketStart (isoformatZ entry.1) ≤ day
  after : ∀ entry ∈ later, day < dayBucketStart (isoformatZ entry.1)

def Store.HasResult (store : Store) (minerAddress : String) (day : Int) : Prop :=
  ∃ result ∈ store.listCounted minerAddress, dayBucketStart result.updatedAt = day

/-- No snapshot that takes effect on the next day is lost, and a day with a result that counts has written one, unless the
multiplier is one anyway. -/
structure Carried (before later : List Entry) (minerAddress : String) (day : Int) : Prop where
  keeps : Along Entry.after (Entry.Keeps minerAddress (day + 86400)) (before ++ later) {}
  changed : (replay before {}).HasResult minerAddress day →
    (replay before {}).effective minerAddress (day + 86400) ≠ [] ∨ (replay before {}).multiplierOf minerAddress = 1

/-- A day's multiplier weighs the next day, as long as it is carried over. -/
theorem multiplier_weighsNextDay (before later : List Entry) (minerAddress : String) (day : Int) (divided : Divided before later day)
    (counts : (replay before {}).HasResult minerAddress day) (carried : Carried before later minerAddress day) :
    Weighs (replay (before ++ later) {}) minerAddress (day + 86400) ((replay before {}).multiplierOf minerAddress) := by
  obtain ⟨keptBefore,keptLater⟩ := carried.keeps.append
  have times := divided.ordered
  rw [List.map_append] at times
  obtain ⟨orderedBefore,orderedLater,across⟩ := List.pairwise_append.mp times
  have first : InOrder {} before := ⟨fun _ _ => dated_empty,orderedBefore⟩
  have second : InOrder (replay before {}) later := by
    refine ⟨fun entry head => replay_dated first (fun other member => ?_) dated_empty,orderedLater⟩
    exact across _ (List.mem_map_of_mem member) _ (List.mem_map_of_mem (List.mem_of_head? head))
  obtain ⟨last,upTo⟩ := bounded divided.ordered
  have dated := replay_dated ⟨fun _ _ => dated_empty,divided.ordered⟩ upTo dated_empty
  have tracks := replay_tracks first divided.upTo keptBefore (fun row found => by cases found)
  have newest : (replay (before ++ later) {}).newest minerAddress (day + 86400) =
      (replay before {}).newest minerAddress (day + 86400) := by
    unfold replay
    rw [List.foldl_append]
    exact replay_newest second divided.after keptLater
  have weighs := @newest_weighs last _ minerAddress dated (day + 86400)
  rw [newest] at weighs
  cases found : (replay before {}).newest minerAddress (day + 86400) with
  | none =>
    have one := (carried.changed counts).resolve_left (not_not.mpr (newest_none found))
    rw [found] at weighs
    rw [one]
    exact weighs
  | some row =>
    rw [found] at weighs
    rw [← tracks row found]
    exact weighs

/-! A miner who wins sixteen tournaments on the first day and one on each of the next. -/

def winRanking (i : Nat) : RankingRow where
  id := "ranking-" ++ toString i
  tournamentID := "mtt-" ++ toString i
  memberID := "7:1"
  minerAddress := "claw1a"
  rank := some 1
  evidenceRoot := "sha256:e"
  evidenceState := "complete"

def winResults (i : Nat) (now : Time) : ApplyRequest where
  tournamentID := "mtt-" ++ toString i
  fieldSize := 2
  results := [{ firstResult with
    finalRankingID := "ranking-" ++ toString i
    evaluationState := "final"
    lockedAt := some now }]
  completedAt := now

def winsOpening (size : Nat) : List Entry :=
  (0,.registerMiner { address := "claw1a", economicUnitID := "eu-a", createdAt := 0 } OrdMap.empty) ::
    (0,.saveHiddenEvals ((List.range size).map fun i => ⟨"mtt-" ++ toString i,"claw1a","ranking-" ++ toString i,0⟩)) ::
      (List.range size).map fun i => (0,.saveFinalRanking (winRanking i))

def win (day : Int) (i : Nat) : Entry :=
  let now := day * 86400000000 + (i + 1) * 1000000
  (now,.applyResults (winResults i now))

def firstDay (size : Nat) : List Entry := winsOpening size ++ (List.range 16).map (win 0)

instance {store : Store} {minerAddress : String} {day : Int} : Decidable (store.HasResult minerAddress day) :=
  inferInstanceAs (Decidable (∃ result ∈ store.listCounted minerAddress, dayBucketStart result.updatedAt = day))

instance {minerAddress : String} {effect : Int} {store : Store} {entry : Entry} : Decidable (entry.Keeps minerAddress effect store) :=
  decidable_of_iff (((entry.after store).multiplierOf minerAddress ≠ store.multiplierOf minerAddress →
      ∀ row ∈ store.effective minerAddress effect, row.updatedAt = isoformatZ entry.1 →
        row.id ≤ snapshotID (resultID entry.2.tournamentID minerAddress)) ∧
    ∀ row ∈ store.newest minerAddress effect, row.id ∈ ((entry.after store).effective minerAddress effect).map MultiplierRow.id)
    ⟨fun ⟨tops,spares⟩ => ⟨tops,spares⟩,fun ⟨tops,spares⟩ => ⟨tops,spares⟩⟩

instance {before later : List Entry} {day : Int} : Decidable (Divided before later day) :=
  decidable_of_iff (((before ++ later).map Prod.fst).Pairwise (· ≤ ·) ∧
      (∀ entry ∈ before, dayBucketStart (isoformatZ entry.1) ≤ day) ∧ ∀ entry ∈ later, day < dayBucketStart (isoformatZ entry.1))
    ⟨fun ⟨ordered,upTo,after⟩ => ⟨ordered,upTo,after⟩,fun ⟨ordered,upTo,after⟩ => ⟨ordered,upTo,after⟩⟩

/-- The sixteenth win changes the multiplier. -/
theorem multiplier_weighsNextDay_sixteen :
    Weighs (replay (firstDay 17 ++ [win 1 16]) {}) "claw1a" 86400 ((replay (firstDay 17) {}).multiplierOf "claw1a") ∧
      (replay (firstDay 17) {}).multiplierOf "claw1a" ≠ 1 := by
  refine ⟨multiplier_weighsNextDay (firstDay 17) [win 1 16] "claw1a" 0 (by decide +kernel) (by decide +kernel) ⟨?_,fun _ => .inl ?_⟩,?_⟩
  · decide +kernel
  · decide +kernel
  · decide +kernel

def Store.repository (store : Store) : PokerRepository where
  inputs :=
    { results := store.results.mapVals fun _ result => result.result
      finalRankings := store.finalRankings.mapVals fun _ row => row.ranking
      identities := store.identities
      multiplierSnapshots := store.multiplierSnapshots.mapVals fun _ row => row.snapshot }
  miners := store.miners

theorem holds_repository (store : Store) : Holds store store.repository := ⟨rfl,rfl,rfl,rfl,rfl⟩

def thirdDay : Poker.Request where
  lane := .pokerMttDaily
  windowStartAt := 172800
  windowEndAt := 259200
  rewardPoolAmount := 100
  includeProvisional := false

/-- Another win leaves the multiplier as it is and writes no snapshot: the win of the third day is weighed with one. -/
theorem multiplier_unweighed : ¬∀ before later minerAddress day, Divided before later day →
    (replay before {}).HasResult minerAddress day →
      Weighs (replay (before ++ later) {}) minerAddress (day + 86400) ((replay before {}).multiplierOf minerAddress) := by
  intro all
  have weighs := all (firstDay 18 ++ [win 1 16]) [win 2 17] "claw1a" 86400 (by decide +kernel) (by decide +kernel)
  have facts : (windowInputs plainPokerSettings thirdDay 300000 none
      (replay (firstDay 18 ++ [win 1 16] ++ [win 2 17]) {}).repository).toOption.any fun inputs =>
        inputs.selected[0]?.any fun result => result.minerAddress = "claw1a" && result.lockedAt.map dayBucketStart = some 172800 &&
          inputs.weighted[0]? ≠ some (weightedResult binary64 result
            ((replay (firstDay 18 ++ [win 1 16]) {}).multiplierOf "claw1a")) := by decide +kernel
  obtain ⟨inputs,built,wrong⟩ := (Option.any_eq_true _ _).mp facts
  obtain ⟨result,selected,wrong⟩ := (Option.any_eq_true _ _).mp wrong
  simp only [Bool.and_eq_true,decide_eq_true_eq] at wrong
  exact wrong.2 (weighs _ _ _ _ _ _ (holds_repository _) (Fallible.ok_of_toOption built) 0 result selected wrong.1.1 wrong.1.2)

end Clawchain.Projection
