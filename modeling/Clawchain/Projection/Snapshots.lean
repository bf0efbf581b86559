import Clawchain.Lib.Latest
import Clawchain.Projection.Alone
import Clawchain.Projection.Interrupted

/-! The snapshots of multipliers that results write, through either endpoint: a result that changes its miner's multiplier writes
one under its own id, for the day after. -/
namespace Clawchain.Projection
open Clawchain.Lib Clawchain.Mining Clawchain.Poker

def snapshotID (resultID : String) : String := "poker_mtt_multiplier:" ++ resultID

/-- A snapshot is stored under its own id and takes effect on the day after it was written. -/
structure Dates (now : Time) (id : String) (row : MultiplierRow) : Prop where
  named : row.id = id
  start : row.effectiveWindowStartAt = dayBucketStart row.updatedAt + 86400
  stop : row.effectiveWindowEndAt = row.effectiveWindowStartAt + 86400
  past : row.updatedAt ≤ isoformatZ now
  nonzero : row.multiplierAfter ≠ 0

structure Fresh (now : Time) (id minerAddress : String) (multiplier : ℚ) (row : MultiplierRow) : Prop extends Dates now id row where
  owner : row.minerAddress = minerAddress
  updated : row.updatedAt = isoformatZ now
  after : row.multiplierAfter = multiplier

structure Moved (now : Time) (resultID minerAddress : String) (s t : Store) : Prop where
  others : ∀ other, other ≠ minerAddress → t.multiplierOf other = s.multiplierOf other
  own : (t.multiplierOf minerAddress = s.multiplierOf minerAddress ∧ t.multiplierSnapshots = s.multiplierSnapshots) ∨
    ∃ row, Fresh now (snapshotID resultID) minerAddress (t.multiplierOf minerAddress) row ∧
      t.multiplierSnapshots = s.multiplierSnapshots.insert (snapshotID resultID) row

section Rows
variable {now : Time} {s t : Store} {entry draft : StoredResult}

theorem rounded_pos {x : ℚ} (large : 1 / 2 ≤ x) : 0 < rounded binary64 x := by
  apply Binary64.round_pos
  have whole : (1 : ℚ) ≤ (roundHalfEven (x * 1000000) : ℚ) := by exact_mod_cast one_le_roundHalfEven (by linarith)
  unfold round6
  positivity

theorem rolling_pos (scores : List ℚ) : 0 < (rolling binary64 scores).2 := by
  unfold rolling
  split
  · exact one_pos
  · have lower : (1 / 2 : ℚ) ≤ Binary64.round (96 / 100) := by decide +kernel
    exact rounded_pos (lower.trans (le_max_left _ _))

theorem counted_before : (counted binary64 now s draft).multiplierBefore = draft.multiplierBefore := by
  unfold counted
  split <;> rfl

theorem counted_nonzero (counts : (counted binary64 now s draft).eligibleForMultiplier = true) :
    (counted binary64 now s draft).multiplierAfter ≠ 0 := by
  rw [(counted_names binary64 now draft).2.2] at counts
  unfold counted
  rw [if_pos counts]
  exact (rolling_pos _).ne'

theorem moveMultiplier_moved (policyBundleVersion : String) (before : entry.multiplierBefore = s.multiplierOf entry.minerAddress)
    (nonzero : entry.eligibleForMultiplier = true → entry.multiplierAfter ≠ 0) :
    Moved now entry.id entry.minerAddress s (moveMultiplier policyBundleVersion now entry s) := by
  unfold moveMultiplier
  by_cases counts : entry.eligibleForMultiplier = true
  · rw [if_pos counts]
    dsimp only
    have own : ((s.saveResult entry).updateMultiplier entry.minerAddress
        ⟨entry.multiplierAfter,some (isoformatZ now)⟩).multiplierOf entry.minerAddress = entry.multiplierAfter :=
      Store.multiplierOf_updateMultiplier.trans (if_pos rfl)
    have others (other : String) (differ : other ≠ entry.minerAddress) : ((s.saveResult entry).updateMultiplier entry.minerAddress
        ⟨entry.multiplierAfter,some (isoformatZ now)⟩).multiplierOf other = s.multiplierOf other :=
      Store.multiplierOf_updateMultiplier.trans (if_neg differ)
    by_cases same : entry.multiplierBefore = entry.multiplierAfter
    · rw [if_pos same]
      exact ⟨others,.inl ⟨by rw [own,← same,before],rfl⟩⟩
    · rw [if_neg same]
      have after : (multiplierRow policyBundleVersion now entry (entry.rollingScore.getD 0) entry.multiplierAfter).multiplierAfter =
          entry.multiplierAfter := if_neg (nonzero counts)
      exact ⟨others,.inr ⟨_,⟨⟨rfl,rfl,rfl,le_rfl,by rw [after]; exact nonzero counts⟩,rfl,rfl,after.trans own.symm⟩,rfl⟩⟩
  · rw [if_neg counts]
    exact ⟨fun _ _ => rfl,.inl ⟨rfl,rfl⟩⟩

theorem Moved.refl (id minerAddress : String) : Moved now id minerAddress s s := ⟨fun _ _ => rfl,.inl ⟨rfl,rfl⟩⟩

theorem counted_moved (policyBundleVersion : String) (before : draft.multiplierBefore = s.multiplierOf draft.minerAddress) :
    Moved now draft.id draft.minerAddress s
      (moveMultiplier policyBundleVersion now (counted binary64 now (s.saveResult draft) draft) (s.saveResult draft)) := by
  obtain ⟨id,minerAddress,-⟩ := counted_names (s := s.saveResult draft) binary64 now draft
  have moved := @moveMultiplier_moved now (s.saveResult draft) (counted binary64 now (s.saveResult draft) draft) policyBundleVersion
    (by rw [counted_before,minerAddress]; exact before) counted_nonzero
  rw [id,minerAddress] at moved
  exact ⟨moved.others,moved.own⟩

theorem applyRow_moved {request : ApplyRequest} (checked : request.checked = .ok ()) (unnamed : s.miners.get? "" = none)
    (row : ResultRow) : Moved request.completedAt (resultID request.tournamentID row.minerID) row.minerID s
      (applyRow binary64 request row s).2 := by
  rcases @applyDraft_cases binary64 request s row checked with ⟨error,-,drafted⟩ | ⟨-,miner,registered,drafted⟩
  · unfold applyRow
    rw [Faulty.read_run,drafted]
    exact Moved.refl _ _
  · have named : row.minerID ≠ "" := by
      intro empty
      rw [empty,unnamed] at registered
      cases registered
    unfold applyRow
    rw [Faulty.read_run,drafted]
    simp only [Faulty.modify_bind,Faulty.read_run]
    unfold savePokerMttMultiplier
    rw [if_neg (by rw [(counted_names binary64 _ _).2.1]; exact fun stops => named stops.2.2)]
    exact @counted_moved request.completedAt s (appliedEntry binary64 request s miner row (row.resultScore binary64 request))
      request.policyBundleVersion (rfl)

theorem draft_before {request : Request} {row : RankingRow} (done : Projection.draft binary64 request s row = .ok draft) :
    draft.multiplierBefore = s.multiplierOf draft.minerAddress := by
  have named := (draft_names binary64 request done).2
  unfold Projection.draft at done
  split at done
  · cases done
  · dsimp only at done
    split at done
    · cases done
    · obtain ⟨projected,-,rest⟩ := Fallible.bind_ok done
      rw [named]
      cases rest
      exact rfl

theorem projectRow_moved {request : Request} {row : RankingRow} (about : row.tournamentID = request.tournamentID) :
    ∃ minerAddress, Moved request.lockedAt (resultID request.tournamentID minerAddress) minerAddress s
      (projectRow binary64 request row s).2 := by
  unfold projectRow
  rw [Faulty.read_run]
  cases drafted : Projection.draft binary64 request s row with
  | error error => exact ⟨"",Moved.refl _ _⟩
  | ok draft =>
    obtain ⟨id,-⟩ := draft_names binary64 request drafted
    rw [about] at id
    exact ⟨draft.minerAddress,id ▸ counted_moved request.policyBundleVersion (draft_before drafted)⟩

end Rows

/-! The snapshots that take effect at a time. -/

def snapshotKey (row : MultiplierRow) : Int ×ₗ String := toLex (row.updatedAt,row.id)

namespace Store
variable (store : Store) (minerAddress : String) (effect : Int)

def effective : List MultiplierRow := (store.multiplierSnapshots.entries.map Prod.snd).filter fun row =>
  row.minerAddress = minerAddress && row.effectiveWindowStartAt = effect

def newest : Option MultiplierRow := (latest snapshotKey (store.effective minerAddress effect)).head?

end Store

/-- Every snapshot that is stored is dated, and no miner has an empty address. -/
structure Dated (now : Time) (store : Store) : Prop where
  rows : store.multiplierSnapshots.All (Dates now)
  unnamed : store.miners.get? "" = none

section Effective
variable {now : Time} {s t u : Store} {minerAddress : String} {effect : Int} {row other : MultiplierRow}

theorem Dated.keyed (dated : Dated now s) (id : String) (row : MultiplierRow) (found : s.multiplierSnapshots.get? id = some row) :
    row.id = id := (dated.rows id row found).named

theorem Dated.mem_effective (dated : Dated now s) : row ∈ s.effective minerAddress effect ↔
    s.multiplierSnapshots.get? row.id = some row ∧ row.minerAddress = minerAddress ∧ row.effectiveWindowStartAt = effect := by
  unfold Store.effective
  rw [List.mem_filter,OrdMap.mem_values dated.keyed,Bool.and_eq_true,decide_eq_true_eq,decide_eq_true_eq]

theorem Dated.dates (dated : Dated now s) (member : row ∈ s.effective minerAddress effect) : Dates now row.id row :=
  dated.rows row.id row (dated.mem_effective.mp member).1

theorem Dated.same (dated : Dated now s) (first : row ∈ s.effective minerAddress effect)
    (second : other ∈ s.effective minerAddress effect) (named : row.id = other.id) : row = other := by
  have left := (dated.mem_effective.mp first).1
  rw [named,(dated.mem_effective.mp second).1] at left
  exact (Option.some.inj left).symm

theorem Dated.distinct (dated : Dated now s) : ((s.effective minerAddress effect).map (·.id)).Nodup := by
  have names := s.multiplierSnapshots.keys_nodup
  rw [← OrdMap.map_values dated.keyed] at names
  exact names.sublist (List.filter_sublist.map _)

theorem Dated.newest (dated : Dated now s) : s.newest minerAddress effect = some row ↔
    row ∈ s.effective minerAddress effect ∧ ∀ other ∈ s.effective minerAddress effect, snapshotKey other ≤ snapshotKey row := by
  apply head?_latest
  apply List.Nodup.of_map fun key => (ofLex key).2
  rw [List.map_map]
  exact dated.distinct

theorem newest_none (absent : s.newest minerAddress effect = none) : s.effective minerAddress effect = [] := by
  have empty := List.length_eq_zero_iff.mpr (List.head?_eq_none_iff.mp absent)
  rw [length_latest] at empty
  exact List.length_eq_zero_iff.mp empty

end Effective

/-- What the results of a call, all of one tournament, do to the snapshots of a miner. -/
structure Wrote (now : Time) (id minerAddress : String) (effect : Int) (s t : Store) : Prop where
  fresh : ∀ row ∈ t.effective minerAddress effect, row ∈ s.effective minerAddress effect ∨
    Fresh now id minerAddress (t.multiplierOf minerAddress) row
  moved : t.multiplierOf minerAddress = s.multiplierOf minerAddress ∨ (dayBucketStart (isoformatZ now) + 86400 = effect →
    ∃ row ∈ t.effective minerAddress effect, Fresh now id minerAddress (t.multiplierOf minerAddress) row)

section Calls
variable {now : Time} {s t u : Store} {minerAddress member tournamentID id : String} {effect : Int} {row : MultiplierRow}

theorem Wrote.refl : Wrote now id minerAddress effect s s := ⟨fun _ member => .inl member,.inl rfl⟩

theorem Wrote.keep (wrote : Wrote now id minerAddress effect s t) (snapshots : u.multiplierSnapshots = t.multiplierSnapshots)
    (multiplier : u.multiplierOf minerAddress = t.multiplierOf minerAddress) : Wrote now id minerAddress effect s u := by
  have rows : u.effective minerAddress effect = t.effective minerAddress effect := by
    unfold Store.effective
    rw [snapshots]
  constructor
  · rw [rows,multiplier]
    exact wrote.fresh
  · rw [rows,multiplier]
    exact wrote.moved

theorem snapshotID_injective {first second : String} (same : snapshotID first = snapshotID second) : first = second :=
  (String.append_right_inj _).mp same

theorem Moved.dated (moved : Moved now id member t u) (miners : u.miners = t.miners) (dated : Dated now t) : Dated now u where
  rows := by
    rcases moved.own with ⟨-,same⟩ | ⟨row,fresh,inserted⟩
    · exact same ▸ dated.rows
    · exact inserted ▸ dated.rows.insert fresh.toDates
  unnamed := miners ▸ dated.unnamed

theorem Moved.wrote (moved : Moved now (resultID tournamentID member) member t u) (miners : u.miners = t.miners)
    (dated : Dated now t) (wrote : Wrote now (snapshotID (resultID tournamentID minerAddress)) minerAddress effect s t) :
    Wrote now (snapshotID (resultID tournamentID minerAddress)) minerAddress effect s u := by
  have after := moved.dated miners dated
  by_cases own : member = minerAddress
  · subst own
    rcases moved.own with ⟨unmoved,same⟩ | ⟨row,fresh,inserted⟩
    · exact wrote.keep same unmoved
    · refine ⟨fun other inside => ?_,.inr fun today => ⟨row,after.mem_effective.mpr ⟨?_,fresh.owner,?_⟩,fresh⟩⟩
      · obtain ⟨found,owner,starts⟩ := after.mem_effective.mp inside
        rw [inserted,OrdMap.get?_insert] at found
        split_ifs at found with named
        · exact .inr (Option.some.inj found ▸ fresh)
        · rcases wrote.fresh other (dated.mem_effective.mpr ⟨found,owner,starts⟩) with old | written
          · exact .inl old
          · exact absurd written.named named
      · rw [inserted,fresh.named]
        exact OrdMap.get?_insert_self _ _ _
      · rw [fresh.start,fresh.updated]
        exact today
  · have multiplier := moved.others minerAddress (Ne.symm own)
    rcases moved.own with ⟨-,same⟩ | ⟨row,fresh,inserted⟩
    · exact wrote.keep same multiplier
    · refine ⟨fun other inside => ?_,?_⟩
      · obtain ⟨found,owner,starts⟩ := after.mem_effective.mp inside
        rw [inserted,OrdMap.get?_insert] at found
        split_ifs at found with named
        · cases found
          exact absurd (fresh.owner.symm.trans owner) own
        · rw [multiplier]
          exact wrote.fresh other (dated.mem_effective.mpr ⟨found,owner,starts⟩)
      · rw [multiplier]
        refine wrote.moved.imp id fun written today => ?_
        obtain ⟨other,inside,written⟩ := written today
        obtain ⟨found,owner,starts⟩ := dated.mem_effective.mp inside
        refine ⟨other,after.mem_effective.mpr ⟨?_,owner,starts⟩,written⟩
        rw [inserted,OrdMap.get?_insert_of_ne _ _ fun named => ?_]
        · exact found
        · rw [written.named] at named
          exact own (resultID_injective (snapshotID_injective named)).symm

/-- What a row of a call keeps of what is known since the call began. -/
def Onward (now : Time) (tournamentID minerAddress : String) (effect : Int) (s t u : Store) : Prop :=
  Dated now t ∧ Wrote now (snapshotID (resultID tournamentID minerAddress)) minerAddress effect s t →
    Dated now u ∧ Wrote now (snapshotID (resultID tournamentID minerAddress)) minerAddress effect s u

theorem Onward.trans (a b c : Store) (first : Onward now tournamentID minerAddress effect s a b)
    (next : Onward now tournamentID minerAddress effect s b c) : Onward now tournamentID minerAddress effect s a c :=
  fun both => next (first both)

theorem apply_wrote (request : ApplyRequest) (dated : Dated request.completedAt s) (minerAddress : String) (effect : Int) :
    Dated request.completedAt (applyPokerMttResults binary64 request s).2 ∧
      Wrote request.completedAt (snapshotID (resultID request.tournamentID minerAddress)) minerAddress effect s
        (applyPokerMttResults binary64 request s).2 := by
  cases checked : request.checked with
  | error error =>
    rw [apply_unchecked binary64 checked]
    exact ⟨dated,Wrote.refl⟩
  | ok =>
    rw [apply_checked binary64 checked]
    have rows : Faulty.Moves (Onward request.completedAt request.tournamentID minerAddress effect s)
        (Faulty.collect (applyRow binary64 request) request.results) := by
      apply Faulty.Moves.collect (fun _ both => both) Onward.trans
      intro row _ t both
      have miners := (@applyRow_steady binary64 request row t).miners
      have moved := applyRow_moved checked both.1.unnamed row
      exact ⟨moved.dated miners both.1,moved.wrote miners both.1 both.2⟩
    have loop := Faulty.Moves.bind Onward.trans rows fun items => Faulty.Moves.pure (fun _ both => both) (request.response items)
    exact loop (s.saveTournament request.tournament) ⟨⟨dated.rows,dated.unnamed⟩,Wrote.refl.keep rfl rfl⟩

theorem projectRows_onward {request : Request} {rows : List RankingRow}
    (about : ∀ row ∈ rows, row.tournamentID = request.tournamentID) :
    Faulty.Moves (Onward request.lockedAt request.tournamentID minerAddress effect s) (projectRows binary64 request rows) := by
  induction rows with
  | nil => exact Faulty.Moves.pure (fun _ both => both) _
  | cons row rows ih =>
    apply Faulty.Moves.bind Onward.trans
    · intro t both
      have miners := (projectRow_steady binary64 request row t).miners
      obtain ⟨member,moved⟩ := @projectRow_moved t request row (about row List.mem_cons_self)
      exact ⟨moved.dated miners both.1,moved.wrote miners both.1 both.2⟩
    · intro item
      exact Faulty.Moves.bind Onward.trans (ih fun other member => about other (List.mem_cons_of_mem _ member))
        fun items => Faulty.Moves.pure (fun _ both => both) _

theorem projectStored_onward (request : Request) :
    Faulty.Moves (Onward request.lockedAt request.tournamentID minerAddress effect s) (projectStored binary64 request) := by
  apply Faulty.Moves.read
  intro store
  split
  · exact Faulty.Moves.fail (fun _ both => both) _
  · rename_i rows checked
    apply Faulty.Moves.bind Onward.trans
    · exact Faulty.Moves.modify fun _ both => ⟨⟨both.1.rows,both.1.unnamed⟩,both.2.keep rfl rfl⟩
    · exact fun _ => projectRows_onward (checkedRows_tournament checked)

theorem project_wrote (request : Request) (dated : Dated request.lockedAt s) (minerAddress : String) (effect : Int) :
    Dated request.lockedAt (projectPokerMttFinalRankings binary64 request s).2 ∧
      Wrote request.lockedAt (snapshotID (resultID request.tournamentID minerAddress)) minerAddress effect s
        (projectPokerMttFinalRankings binary64 request s).2 := by
  have same (t : Store) : Onward request.lockedAt request.tournamentID minerAddress effect s t t := fun both => both
  have anew : Faulty.Moves (Onward request.lockedAt request.tournamentID minerAddress effect s) (projectAnew binary64 request) := by
    apply Faulty.Moves.bind Onward.trans
    · exact Faulty.Moves.modify fun _ both => ⟨⟨both.1.rows,both.1.unnamed⟩,both.2.keep rfl rfl⟩
    · intro _
      apply Faulty.Moves.bind Onward.trans (projectStored_onward request)
      intro items
      apply Faulty.Moves.bind Onward.trans
      · exact Faulty.Moves.modify fun _ both => ⟨⟨both.1.rows,both.1.unnamed⟩,both.2.keep rfl rfl⟩
      · exact fun _ => Faulty.Moves.pure same _
  have all : Faulty.Moves (Onward request.lockedAt request.tournamentID minerAddress effect s)
      (projectPokerMttFinalRankings binary64 request) := by
    unfold projectPokerMttFinalRankings
    split
    · exact Faulty.Moves.fail same _
    · split
      · exact Faulty.Moves.fail same _
      · apply Faulty.Moves.read
        intro store
        split
        · split
          · exact Faulty.Moves.fail same _
          · exact Faulty.Moves.pure same _
        · exact anew
  exact all s ⟨dated,Wrote.refl⟩

end Calls
end Clawchain.Projection
