import Clawchain.Projection.Applied
import Clawchain.Projection.Loop

/-! A call that applies results and fails: at its arguments it changes nothing, and at a result it leaves what the results before
that one make of the store. -/
namespace Clawchain.Projection
open Clawchain.Lib Clawchain.Mining Clawchain.Poker

def ResultRow.refusal (request : ApplyRequest) (store : Store) (row : ResultRow) : Option ValueError :=
  if (store.miners.get? row.minerID).isNone then some (.minerNotFound row.minerID)
  else if row.finalRank < 1 ∨ request.fieldSize < row.finalRank then some .finalRankOutOfRange
  else none

def ResultRow.resultScore (floats : Floats) (request : ApplyRequest) (row : ResultRow) : ℚ :=
  (Projection.tournamentResultScore floats row.finalRank request.fieldSize).toOption.getD 0

/-- The first result that is refused ends a call, in the state that the call with the results before it leaves. -/
def Interrupted (floats : Floats) (request : ApplyRequest) (store after : Store) (error : ValueError) : Prop :=
  ∃ before row rest response, request.results = before ++ row :: rest ∧
    (∀ earlier ∈ before, earlier.refusal request store = none) ∧ row.refusal request store = some error ∧
      applyPokerMttResults floats { request with results := before } store = (.ok response,after)

section Rows
variable (floats : Floats) {request : ApplyRequest} {s t store : Store} {row : ResultRow}

theorem checked_ok (checked : request.checked = .ok ()) : 2 ≤ request.fieldSize := by
  unfold ApplyRequest.checked at checked
  split at checked
  · cases checked
  · split at checked
    · cases checked
    · rename_i size
      exact not_lt.mp size

theorem applyDraft_cases (checked : request.checked = .ok ()) :
    (∃ error, row.refusal request s = some error ∧ applyDraft floats request s row = .error error) ∨
      row.refusal request s = none ∧ ∃ miner, s.miners.get? row.minerID = some miner ∧
        applyDraft floats request s row = .ok (appliedEntry floats request s miner row (row.resultScore floats request)) := by
  have size := checked_ok checked
  unfold applyDraft ResultRow.refusal
  cases found : s.miners.get? row.minerID with
  | none => exact .inl ⟨_,rfl,rfl⟩
  | some miner =>
    by_cases outside : row.finalRank < 1 ∨ request.fieldSize < row.finalRank
    · have failed : tournamentResultScore floats row.finalRank request.fieldSize = .error .finalRankOutOfRange := by
        unfold tournamentResultScore
        rw [if_neg (by omega),if_pos outside]
      refine .inl ⟨_,if_pos outside,?_⟩
      dsimp only
      rw [failed]
      rfl
    · have ranked : ∃ score, tournamentResultScore floats row.finalRank request.fieldSize = .ok score := by
        unfold tournamentResultScore
        rw [if_neg (by omega),if_neg outside]
        exact ⟨_,rfl⟩
      obtain ⟨score,ranked⟩ := ranked
      refine .inr ⟨if_neg outside,miner,rfl,?_⟩
      unfold ResultRow.resultScore
      dsimp only
      rw [ranked]
      rfl

theorem refusal_none : row.refusal request s = none ↔
    (s.miners.get? row.minerID).isSome ∧ 1 ≤ row.finalRank ∧ row.finalRank ≤ request.fieldSize := by
  unfold ResultRow.refusal
  cases s.miners.get? row.minerID with
  | none => simp
  | some miner => simp

theorem refusal_steady (steady : Steady s t) : row.refusal request t = row.refusal request s := by
  unfold ResultRow.refusal
  rw [steady.miners]

theorem saveTournament_steady (tournament : Tournament) : Steady s (s.saveTournament tournament) := ⟨rfl,rfl,rfl,rfl,rfl⟩

theorem savePokerMttMultiplier_steady (entry : StoredResult) : Faulty.Moves Steady (savePokerMttMultiplier request entry) := by
  unfold savePokerMttMultiplier
  split
  · exact Faulty.Moves.bind Steady.trans (Faulty.Moves.modify fun s => ⟨rfl,rfl,rfl,rfl,rfl⟩)
      fun _ => Faulty.Moves.fail Steady.refl _
  · exact Faulty.Moves.modify (moveMultiplier_steady request.policyBundleVersion request.completedAt entry)

theorem applyRow_steady (row : ResultRow) : Faulty.Moves Steady (applyRow floats request row) := by
  apply Faulty.Moves.read
  intro store
  split
  · exact Faulty.Moves.fail Steady.refl _
  · rename_i entry _
    have saved (s : Store) : Steady s (s.saveResult entry) := ⟨rfl,rfl,rfl,rfl,rfl⟩
    apply Faulty.Moves.bind Steady.trans (Faulty.Moves.modify saved)
    intro _
    apply Faulty.Moves.read
    intro store
    apply Faulty.Moves.bind Steady.trans (savePokerMttMultiplier_steady _)
    exact fun _ => Faulty.Moves.pure Steady.refl _

theorem applyRow_cases (checked : request.checked = .ok ()) (unnamed : s.miners.get? "" = none) :
    (∃ error, row.refusal request s = some error ∧ applyRow floats request row s = (.error (.raised error),s)) ∨
      row.refusal request s = none ∧ ∃ item t, applyRow floats request row s = (.ok item,t) := by
  rcases @applyDraft_cases floats request s row checked with ⟨error,refused,drafted⟩ | ⟨fine,miner,registered,drafted⟩
  · refine .inl ⟨error,refused,?_⟩
    unfold applyRow
    rw [Faulty.read_run,drafted]
    rfl
  · refine .inr ⟨fine,?_⟩
    unfold applyRow
    rw [Faulty.read_run,drafted]
    have named : row.minerID ≠ "" := by
      intro empty
      rw [empty,unnamed] at registered
      cases registered
    simp only [Faulty.modify_bind,Faulty.read_run]
    unfold savePokerMttMultiplier
    rw [if_neg (by rw [(counted_names floats _ _).2.1]; exact fun stops => named stops.2.2)]
    exact ⟨_,_,rfl⟩

theorem apply_checked (checked : request.checked = .ok ()) : applyPokerMttResults floats request store =
    (Faulty.collect (applyRow floats request) request.results >>= fun items => pure (request.response items) :
      Projecting AppliedResponse) (store.saveTournament request.tournament) := by
  unfold applyPokerMttResults
  rw [checked]
  rfl

theorem apply_unchecked {error : ValueError} (refused : request.checked = .error error) :
    applyPokerMttResults floats request store = (.error (.raised error),store) := by
  unfold applyPokerMttResults
  rw [refused]
  rfl

theorem apply_accepted (accepted : (applyPokerMttResults floats request store).1.isOk) : request.checked = .ok () ∧
    ∃ items, Faulty.collect (applyRow floats request) request.results (store.saveTournament request.tournament) =
      (.ok items,(applyPokerMttResults floats request store).2) := by
  cases checked : request.checked with
  | error error =>
    rw [apply_unchecked floats checked] at accepted
    cases accepted
  | ok =>
    rw [apply_checked floats checked] at accepted ⊢
    cases ran : Faulty.collect (applyRow floats request) request.results (store.saveTournament request.tournament) with
    | mk outcome after =>
      cases outcome with
      | error refusal =>
        rw [Faulty.bind_of_error _ ran] at accepted
        cases accepted
      | ok items =>
        rw [Faulty.bind_of_ok _ ran]
        exact ⟨rfl,items,rfl⟩

theorem applyRows_ok {rows : List ResultRow} {items : List AppliedItem} (checked : request.checked = .ok ())
    (unnamed : s.miners.get? "" = none) (done : Faulty.collect (applyRow floats request) rows s = (.ok items,t)) :
    ∀ row ∈ rows, row.refusal request s = none := by
  induction rows generalizing s t items with
  | nil => exact fun _ member => by cases member
  | cons row rest ih =>
    obtain ⟨item,middle,first,later⟩ := Faulty.bind_ok done
    obtain ⟨others,last,run,ended⟩ := Faulty.bind_ok later
    have steady : Steady s middle := by
      have moved := @applyRow_steady floats request row s
      rwa [first] at moved
    rcases @applyRow_cases floats request _ row checked unnamed with ⟨error,-,failed⟩ | ⟨fine,-⟩
    · cases first.symm.trans failed
    · intro other member
      rcases List.mem_cons.mp member with rfl | member
      · exact fine
      · rw [← refusal_steady steady]
        exact ih (steady.miners ▸ unnamed) run other member

theorem applyRows_ends {rows : List ResultRow} (checked : request.checked = .ok ()) (unnamed : s.miners.get? "" = none)
    (fine : ∀ row ∈ rows, row.refusal request s = none) : (Faulty.collect (applyRow floats request) rows).Ends s := by
  induction rows generalizing s with
  | nil => exact Faulty.ends_pure [] s
  | cons row rest ih =>
    rcases @applyRow_cases floats request s row checked unnamed with ⟨error,refused,-⟩ | ⟨-,item,middle,run⟩
    · rw [fine row List.mem_cons_self] at refused
      cases refused
    · have steady := @applyRow_steady floats request row s
      rw [run] at steady
      have later := ih (steady.miners ▸ unnamed) fun other member =>
        (refusal_steady steady).trans (fine other (List.mem_cons_of_mem _ member))
      refine Faulty.ends_bind.mpr ⟨item,middle,run,Faulty.ends_bind.mpr ?_⟩
      obtain ⟨items,done⟩ := later
      exact ⟨items,_,Prod.ext done rfl,Faulty.ends_pure _ _⟩

end Rows

/-- A call that fails changes nothing when its arguments are refused, and otherwise ends at its first result that is refused. -/
theorem results_appliedUpTo (floats : Floats) (request : ApplyRequest) (store after : Store) (refusal : Refusal)
    (unnamed : store.miners.get? "" = none) (failed : applyPokerMttResults floats request store = (.error refusal,after)) :
    (∃ error, request.checked = .error error ∧ refusal = .raised error ∧ after = store) ∨
      ∃ error, request.checked = .ok () ∧ refusal = .raised error ∧ Interrupted floats request store after error := by
  cases checked : request.checked with
  | error error =>
    cases failed.symm.trans (apply_unchecked floats checked)
    exact .inl ⟨error,rfl,rfl,rfl⟩
  | ok =>
    have saved := @saveTournament_steady store request.tournament
    rcases Faulty.bind_error ((apply_checked floats checked).symm.trans failed) with looped | ⟨_,_,-,ended⟩
    · obtain ⟨before,row,rest,items,middle,split,done,failed⟩ := Faulty.collect_error looped
      have steady : Steady store middle := by
        have loop : Faulty.Moves Steady (Faulty.collect (applyRow floats request) before) :=
          Faulty.Moves.collect Steady.refl Steady.trans fun row _ => applyRow_steady floats row
        have moved := loop (store.saveTournament request.tournament)
        rw [done] at moved
        exact Steady.trans _ _ _ saved moved
      rcases @applyRow_cases floats request _ row checked (steady.miners ▸ unnamed) with ⟨error,refused,ends⟩ | ⟨-,_,_,ends⟩
      · cases failed.symm.trans ends
        refine .inr ⟨error,rfl,rfl,before,row,rest,request.response items,split,fun earlier member => ?_,?_,?_⟩
        · rw [← refusal_steady saved]
          exact applyRows_ok floats checked (saved.miners ▸ unnamed) done earlier member
        · rw [← refusal_steady steady]
          exact refused
        · have prefixed : ({ request with results := before } : ApplyRequest).checked = .ok () := checked
          exact (apply_checked floats prefixed).trans (Faulty.bind_of_ok _ done)
      · cases failed.symm.trans ends
    · cases ended

/-! One result that counts, and one of a miner that is not registered. -/

def firstRanking : RankingRow where
  id := "ranking-1"
  tournamentID := "mtt-1"
  memberID := "7:1"
  minerAddress := "claw1a"
  rank := some 1
  evidenceRoot := "sha256:e"
  evidenceState := "complete"

def oneRanked : Store where
  miners := OrdMap.ofList [("claw1a",{ address := "claw1a", economicUnitID := "eu-a", createdAt := 0 })]
  finalRankings := OrdMap.ofList [("ranking-1",firstRanking)]
  hiddenEvals := [⟨"mtt-1","claw1a","ranking-1",1 / 2⟩]

def firstResult : ResultRow where
  minerID := "claw1a"
  finalRank := 1
  finalRankingID := "ranking-1"
  standingSnapshotID := "snapshot-1"
  evidenceRoot := "sha256:e"
  evidenceState := "complete"
  lockedAt := some 1772323200000000

def halfKnown : ApplyRequest where
  tournamentID := "mtt-1"
  fieldSize := 2
  results := [firstResult,{ minerID := "claw1b", finalRank := 2 }]
  completedAt := 1772323200000000

theorem halfKnown_fails : (applyPokerMttResults binary64 halfKnown oneRanked).1 = .error (.raised (.minerNotFound "claw1b")) := by
  decide +kernel

theorem results_appliedUpTo_first : Interrupted binary64 halfKnown oneRanked
    (applyPokerMttResults binary64 halfKnown oneRanked).2 (.minerNotFound "claw1b") := by
  have failed : applyPokerMttResults binary64 halfKnown oneRanked = (.error (.raised (.minerNotFound "claw1b")),_) :=
    Prod.ext halfKnown_fails rfl
  rcases results_appliedUpTo _ _ _ _ _ (by decide) failed with ⟨error,refused,-⟩ | ⟨error,-,same,interrupted⟩
  · cases (show Except.ok () = .error error from refused)
  · cases same
    exact interrupted

theorem results_appliedPartly : ¬∀ floats request store refusal, (applyPokerMttResults floats request store).1 = .error refusal →
    (applyPokerMttResults floats request store).2 = store := by
  intro all
  have kept := all binary64 halfKnown oneRanked _ halfKnown_fails
  have written : (applyPokerMttResults binary64 halfKnown oneRanked).2.results.keys = ["poker_mtt:mtt-1:claw1a"] := by
    decide +kernel
  rw [kept] at written
  cases written

end Clawchain.Projection
