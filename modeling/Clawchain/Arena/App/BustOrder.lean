import Clawchain.Arena.App.TimeCap
import Clawchain.Lib.Sorting
import Mathlib.Data.Prod.Lex

/-! Entrants that leave at one barrier are ranked by the readings of the clock, in the order the field is walked through. -/
namespace Clawchain.Arena.App
open Clawchain.Lib Clawchain.Arena.Table Clawchain.Arena.Hub

/-! The barrier along a walk through the field. -/

structure Reading where
  (occurredAt createdAt : Int)
  deriving DecidableEq, Repr

def fieldExit (tournamentID : String) (entrant : Entrant) (stageReached : String) (reading : Reading) : EliminationEvent where
  id := "field_exit:" ++ entrant.id
  tournamentID := tournamentID
  tableID := entrant.tableID
  seatID := entrant.seatID
  entrantID := entrant.id
  stageReached := stageReached
  occurredAt := reading.occurredAt
  createdAt := reading.createdAt

def appendFieldExitEventAt (tournamentID : String) (entrant : Entrant) (stageReached : String) (reading : Reading) : RuntimeM Unit :=
  if entrant.id = "" ∨ entrant.tableID = "" ∨ entrant.seatID = "" then pure ()
  else appendElimination (fieldExit tournamentID entrant stageReached reading)

def recordExitAt (tournamentID minerID : String) (disqualified : Bool) (entrant : Entrant) (reading : Reading) : RuntimeM Unit :=
  if entrant.registrationState = (leftField disqualified entrant).registrationState then pure ()
  else do
    appendFieldExitEventAt tournamentID entrant (leftField disqualified entrant).stageReached reading
    if disqualified then do
      upsertRow
      updateTournament tournamentID fun tournament =>
        { tournament with pendingDisqualifications := tournament.pendingDisqualifications.erase minerID }

def syncEntrantAt (waveID tournamentID : String) (active : OrdMap String SeatAssignment) (visit : String × Reading) :
    RuntimeM Unit :=
  Faulty.read fun runtime => match entrantOf runtime waveID visit.1 with
    | none => pure ()
    | some entrant =>
      if entrant.tournamentID ≠ tournamentID then pure ()
      else match active.get? visit.1 with
        | some assignment => putEntrant waveID visit.1 entrant (playingAt assignment)
        | none =>
          let disqualified := pendingAt runtime tournamentID visit.1
          do
            recordExitAt tournamentID visit.1 disqualified entrant visit.2
            putEntrant waveID visit.1 entrant (leftField disqualified)

def syncActiveEntrantsAlong (walk : List (String × Reading)) (waveID tournamentID : String)
    (assignments : List SeatAssignment) : RuntimeM Unit := do
  updateTournament tournamentID fun tournament =>
    { tournament with seatAssignments := syncedSeats assignments tournament.seatAssignments }
  Faulty.each (syncEntrantAt waveID tournamentID (activeByMiner assignments)) walk

structure Leaves (runtime : RuntimeService) (waveID tournamentID : String) (active : OrdMap String SeatAssignment)
    (minerID : String) (entrant : Entrant) : Prop extends Leaver runtime waveID tournamentID active minerID entrant where
  playing : entrant.registrationState ≠ (leftField (pendingAt runtime tournamentID minerID) entrant).registrationState

def leavingEntrant (runtime : RuntimeService) (waveID tournamentID : String) (active : OrdMap String SeatAssignment)
    (minerID : String) : Option Entrant :=
  (entrantOf runtime waveID minerID).filter fun entrant => entrant.tournamentID = tournamentID ∧ active.get? minerID = none ∧
    entrant.id ≠ "" ∧ entrant.tableID ≠ "" ∧ entrant.seatID ≠ "" ∧
    entrant.registrationState ≠ (leftField (pendingAt runtime tournamentID minerID) entrant).registrationState

def exitOfVisit (runtime : RuntimeService) (waveID tournamentID : String) (active : OrdMap String SeatAssignment)
    (visit : String × Reading) : Option EliminationEvent :=
  (leavingEntrant runtime waveID tournamentID active visit.1).map fun entrant => fieldExit tournamentID entrant
    (leftField (pendingAt runtime tournamentID visit.1) entrant).stageReached visit.2

def filedExits (events : List EliminationEvent) : List (String × EliminationEvent) := events.map fun event => (event.id,event)

section Record
variable {waveID tournamentID minerID : String} {runtime before after : RuntimeService} {assignments : List SeatAssignment}
  {active : OrdMap String SeatAssignment} {visit : String × Reading}
variable {entrant : Entrant}

theorem leavingEntrant_iff : leavingEntrant runtime waveID tournamentID active minerID = some entrant ↔
    Leaves runtime waveID tournamentID active minerID entrant := by
  unfold leavingEntrant
  rw [Option.filter_eq_some_iff,decide_eq_true_eq]
  constructor
  · rintro ⟨found,own,away,named,table,seat,playing⟩
    exact ⟨⟨found,own,away,named,table,seat⟩,playing⟩
  · rintro ⟨⟨found,own,away,named,table,seat⟩,playing⟩
    exact ⟨found,own,away,named,table,seat,playing⟩

theorem exitOfVisit_congr (same : Untouched waveID tournamentID visit.1 before after) :
    exitOfVisit after waveID tournamentID active visit = exitOfVisit before waveID tournamentID active visit := by
  unfold exitOfVisit leavingEntrant
  rw [same.1,same.2]

theorem upsertRow_eliminations (done : upsertRow before = (.ok (),after)) : after.eliminations = before.eliminations := by
  have same : SameRows "" before (upsertRow before).2 := rows_upsertRow before
  rw [done] at same
  exact same.eliminations

theorem recordExitAt_ok {disqualified : Bool} {reading : Reading}
    (done : recordExitAt tournamentID minerID disqualified entrant reading before = (.ok (),after)) :
    after.eliminations = if entrant.id ≠ "" ∧ entrant.tableID ≠ "" ∧ entrant.seatID ≠ "" ∧
        entrant.registrationState ≠ (leftField disqualified entrant).registrationState then
      before.eliminations.insert ("field_exit:" ++ entrant.id)
        (fieldExit tournamentID entrant (leftField disqualified entrant).stageReached reading)
      else before.eliminations := by
  unfold recordExitAt at done
  by_cases out : entrant.registrationState = (leftField disqualified entrant).registrationState
  · rw [if_pos out] at done
    cases done
    rw [if_neg fun leaves => leaves.2.2.2 out]
  · rw [if_neg out] at done
    obtain ⟨_,middle,appended,done⟩ := Faulty.bind_ok done
    have last : after.eliminations = middle.eliminations := by
      cases disqualified with
      | false =>
        cases done
        rfl
      | true =>
        rw [if_pos rfl] at done
        obtain ⟨_,row,written,done⟩ := Faulty.bind_ok done
        have kept := upsertRow_eliminations written
        cases done
        exact kept
    rw [last]
    unfold appendFieldExitEventAt at appended
    by_cases nameless : entrant.id = "" ∨ entrant.tableID = "" ∨ entrant.seatID = ""
    · rw [if_pos nameless] at appended
      cases appended
      rw [if_neg]
      rintro ⟨named,table,seat,-⟩
      rcases nameless with absent | absent | absent
      · exact named absent
      · exact table absent
      · exact seat absent
    · rw [if_neg nameless] at appended
      rw [not_or,not_or] at nameless
      rw [if_pos ⟨nameless.1,nameless.2.1,nameless.2.2,out⟩]
      obtain ⟨_,row,written,appended⟩ := Faulty.bind_ok appended
      cases appended
      rw [← upsertRow_eliminations written]
      rfl

theorem putEntrant_eliminations {change : Entrant → Entrant}
    (done : putEntrant waveID minerID entrant change before = (.ok (),after))
    : after.eliminations = before.eliminations := by
  unfold putEntrant at done
  split_ifs at done
  · cases done
    rfl
  · obtain ⟨_,middle,written,updated⟩ := Faulty.bind_ok done
    have kept := upsertRow_eliminations written
    cases updated
    exact kept

theorem syncEntrantAt_ok (done : syncEntrantAt waveID tournamentID active visit before = (.ok (),after)) :
    after.eliminations = before.eliminations.insertAll
      (filedExits (exitOfVisit before waveID tournamentID active visit).toList) := by
  rw [syncEntrantAt,Faulty.read_run] at done
  unfold exitOfVisit leavingEntrant
  cases found : entrantOf before waveID visit.1 with
  | none =>
    rw [found] at done
    cases done
    rfl
  | some entrant =>
    rw [found] at done
    dsimp only at done
    by_cases foreign : entrant.tournamentID ≠ tournamentID
    · rw [if_pos foreign] at done
      cases done
      rw [Option.filter_some,if_neg]
      · rfl
      · simp [foreign]
    · rw [if_neg foreign] at done
      have own := not_not.mp foreign
      cases seat : active.get? visit.1 with
      | some assignment =>
        rw [seat] at done
        rw [putEntrant_eliminations done,Option.filter_some,if_neg]
        · rfl
        · simp
      | none =>
        rw [seat] at done
        obtain ⟨_,middle,recorded,put⟩ := Faulty.bind_ok done
        rw [putEntrant_eliminations put,recordExitAt_ok recorded,Option.filter_some]
        by_cases leaves : entrant.id ≠ "" ∧ entrant.tableID ≠ "" ∧ entrant.seatID ≠ "" ∧
            entrant.registrationState ≠ (leftField (pendingAt before tournamentID visit.1) entrant).registrationState
        · rw [if_pos leaves,if_pos (by simpa [own] using leaves)]
          rfl
        · rw [if_neg leaves,if_neg (by simpa [own] using leaves)]
          rfl

theorem untouched_syncEntrantAt (differ : visit.1 ≠ minerID) :
    Faulty.Moves (Untouched waveID tournamentID minerID) (syncEntrantAt waveID tournamentID active visit) := by
  have record (disqualified : Bool) (entrant : Entrant) : Faulty.Moves (Untouched waveID tournamentID minerID)
      (recordExitAt tournamentID visit.1 disqualified entrant visit.2) := by
    unfold recordExitAt appendFieldExitEventAt
    split
    · exact fun _ => .refl _
    · refine Faulty.Moves.bind Untouched.trans ?_ fun _ => ?_
      · split
        · exact fun _ => .refl _
        · exact Faulty.Moves.bind Untouched.trans untouched_row fun _ _ => ⟨rfl,rfl⟩
      · split
        · refine Faulty.Moves.bind Untouched.trans untouched_row fun _ runtime => ⟨rfl,?_⟩
          change ((runtime.tournaments.modifyAt tournamentID _).get? tournamentID).any _ = pendingAt runtime tournamentID minerID
          unfold pendingAt
          rw [OrdMap.get?_modifyAt,if_pos rfl]
          cases runtime.tournaments.get? tournamentID with
          | none => rfl
          | some entry => simp [OrdMap.get?_erase,differ.symm]
        · exact fun _ => .refl _
  refine Faulty.Moves.read fun _ => ?_
  split
  · exact fun _ => .refl _
  · split
    · exact fun _ => .refl _
    · split
      · exact untouched_putEntrant differ _ _
      · exact Faulty.Moves.bind Untouched.trans (record _ _) fun _ => untouched_putEntrant differ _ _

theorem steady_syncEntrantAt : Steady (syncEntrantAt waveID tournamentID active visit) := by
  have record (disqualified : Bool) (entrant : Entrant) :
      Steady (recordExitAt tournamentID visit.1 disqualified entrant visit.2) := by
    unfold recordExitAt appendFieldExitEventAt
    split
    · exact steady_pure ()
    · refine steady_bind ?_ fun _ => ?_
      · split
        · exact steady_pure ()
        · exact steady_bind steady_upsertRow fun _ => steady_modify fun _ => rfl
      · split
        · exact steady_bind steady_upsertRow fun _ => steady_updateTournament _ _
        · exact steady_pure ()
  refine steady_read fun _ => ?_
  split
  · exact steady_pure ()
  · split
    · exact steady_pure ()
    · split
      · exact steady_putEntrant _ _ _ _
      · exact steady_bind (record _ _) fun _ => steady_putEntrant _ _ _ _

theorem walk_records {walk : List (String × Reading)} {start : RuntimeService} (distinct : (walk.map Prod.fst).Nodup)
    (same : ∀ visit ∈ walk, Untouched waveID tournamentID visit.1 before start)
    (done : Faulty.each (syncEntrantAt waveID tournamentID active) walk start = (.ok (),after)) :
    after.eliminations = start.eliminations.insertAll
      (filedExits (walk.filterMap (exitOfVisit before waveID tournamentID active))) := by
  induction walk generalizing start with
  | nil =>
    cases done
    rfl
  | cons visit rest ih =>
    obtain ⟨absent,tail⟩ := List.nodup_cons.mp distinct
    obtain ⟨_,middle,step,done⟩ := Faulty.bind_ok done
    have kept : ∀ other ∈ rest, Untouched waveID tournamentID other.1 before middle := by
      intro other inside
      have differ : visit.1 ≠ other.1 := fun own => absent (own ▸ List.mem_map_of_mem inside)
      have moved : Untouched waveID tournamentID other.1 start (syncEntrantAt waveID tournamentID active visit start).2 :=
        untouched_syncEntrantAt differ start
      rw [step] at moved
      exact Untouched.trans _ _ _ (same other (List.mem_cons_of_mem _ inside)) moved
    rw [ih tail kept done,syncEntrantAt_ok step,exitOfVisit_congr (same visit List.mem_cons_self),← OrdMap.insertAll_append]
    unfold filedExits
    rw [← List.map_append]
    cases exit : exitOfVisit before waveID tournamentID active visit with
    | none =>
      rw [List.filterMap_cons_none exit]
      rfl
    | some event =>
      rw [List.filterMap_cons_some exit]
      rfl

theorem syncActiveEntrantsAlong_ok {walk : List (String × Reading)} (distinct : (walk.map Prod.fst).Nodup)
    (done : syncActiveEntrantsAlong walk waveID tournamentID assignments before = (.ok (),after)) :
    after.eliminations = before.eliminations.insertAll
      (filedExits (walk.filterMap (exitOfVisit before waveID tournamentID (activeByMiner assignments)))) := by
  obtain ⟨_,start,updated,walked⟩ := Faulty.bind_ok done
  have same (visit : String × Reading) : Untouched waveID tournamentID visit.1 before start := by
    cases updated
    refine ⟨rfl,?_⟩
    unfold pendingAt
    dsimp only
    rw [OrdMap.get?_modifyAt,if_pos rfl]
    cases before.tournaments.get? tournamentID <;> rfl
  have waits : start.eliminations = before.eliminations := by
    cases updated
    rfl
  rw [walk_records distinct (fun visit _ => same visit) walked,waits]

theorem steady_syncActiveEntrantsAlong (walk : List (String × Reading)) :
    Steady (syncActiveEntrantsAlong walk waveID tournamentID assignments) :=
  steady_bind (steady_updateTournament _ _) fun _ => steady_each fun _ _ => steady_syncEntrantAt

end Record

/-! The exits in the order they are ranked. -/

def exitsIn (eliminations : OrdMap String EliminationEvent) (tournamentID : String) : List EliminationEvent :=
  (eliminations.entries.map Prod.snd).filter (·.tournamentID = tournamentID)

def exitKey (event : EliminationEvent) : Int ×ₗ Int ×ₗ String ×ₗ String :=
  toLex (event.occurredAt,toLex (event.createdAt,toLex (event.tableID,event.entrantID)))

def exitOrder (events : List EliminationEvent) : List String := (events.insertionSort exitsBefore).map EliminationEvent.entrantID

section Order
variable {entrants : List Entrant} {survivors : List RankedSurvivor} {events events' new : List EliminationEvent}
  {tournamentID : String}

theorem exitsBefore_iff (a b : EliminationEvent) : exitsBefore a b ↔ exitKey a ≤ exitKey b := by
  unfold exitsBefore exitKey
  simp only [Prod.Lex.toLex_le_toLex]

theorem exitKey_of_lt {a b : EliminationEvent} (less : a.occurredAt < b.occurredAt) : exitKey a ≤ exitKey b :=
  (exitsBefore_iff a b).mp (.inl less)

theorem filedExits_ids : (filedExits events).map Prod.fst = events.map EliminationEvent.id := by
  unfold filedExits
  rw [List.map_map]
  rfl

theorem exitsIn_insertAll (eliminations : OrdMap String EliminationEvent) (distinct : (new.map EliminationEvent.id).Nodup)
    (own : ∀ event ∈ new, event.tournamentID = tournamentID) :
    (exitsIn (eliminations.insertAll (filedExits new)) tournamentID).Perm
      (exitsIn (eliminations.filter fun id _ => id ∉ new.map EliminationEvent.id) tournamentID ++ new) := by
  have entries := eliminations.entries_insertAll (filedExits_ids.symm ▸ distinct : ((filedExits new).map Prod.fst).Nodup)
  have inserted : ((filedExits new).map Prod.snd).filter (·.tournamentID = tournamentID) = new := by
    unfold filedExits
    rw [List.map_map]
    change (new.map fun event => event).filter _ = new
    rw [List.map_id',List.filter_eq_self]
    exact fun event inside => decide_eq_true (own event inside)
  have exits := (entries.map Prod.snd).filter (·.tournamentID = tournamentID)
  rw [List.map_append,List.filter_append,inserted,filedExits_ids] at exits
  exact exits

theorem exitOrder_insertAll (eliminations : OrdMap String EliminationEvent) (distinct : (new.map EliminationEvent.id).Nodup)
    (own : ∀ event ∈ new, event.tournamentID = tournamentID)
    (ordered : new.Pairwise fun a b => a.occurredAt < b.occurredAt)
    (behind : ∀ stored ∈ exitsIn eliminations tournamentID, ∀ event ∈ new, stored.occurredAt < event.occurredAt) :
    exitOrder (exitsIn (eliminations.insertAll (filedExits new)) tournamentID) =
      exitOrder (exitsIn (eliminations.filter fun id _ => id ∉ new.map EliminationEvent.id) tournamentID) ++
        new.map EliminationEvent.entrantID := by
  set kept := exitsIn (eliminations.filter fun id _ => id ∉ new.map EliminationEvent.id) tournamentID with keeps
  have stored : ∀ event ∈ kept, event ∈ exitsIn eliminations tournamentID := by
    intro event inside
    obtain ⟨listed,own⟩ := List.mem_filter.mp inside
    obtain ⟨⟨id,_⟩,entry,rfl⟩ := List.mem_map.mp listed
    have found := OrdMap.get?_eq_some_iff.mpr entry
    rw [OrdMap.get?_filter,Option.filter_eq_some_iff] at found
    exact List.mem_filter.mpr ⟨List.mem_map.mpr ⟨_,OrdMap.get?_eq_some_iff.mp found.1,rfl⟩,own⟩
  have total : Std.Total exitsBefore := ⟨fun a b => by rw [exitsBefore_iff,exitsBefore_iff]; exact le_total _ _⟩
  have trans : IsTrans EliminationEvent exitsBefore :=
    ⟨fun a b c below above => by rw [exitsBefore_iff] at below above ⊢; exact below.trans above⟩
  have sorted : (kept.insertionSort exitsBefore ++ new).Pairwise fun a b => exitKey a ≤ exitKey b := by
    refine List.pairwise_append.mpr ⟨?_,ordered.imp exitKey_of_lt,?_⟩
    · exact (List.pairwise_insertionSort exitsBefore kept).imp fun below => (exitsBefore_iff _ _).mp below
    · intro event inside later added
      exact exitKey_of_lt (behind event (stored event ((List.perm_insertionSort _ _).mem_iff.mp inside)) later added)
  have keys := Sorting.insertionSort_keys exitsBefore_iff
    ((exitsIn_insertAll eliminations distinct own).trans ((List.perm_insertionSort exitsBefore kept).symm.append_right new)) sorted
  have entrants (l : List EliminationEvent) : l.map EliminationEvent.entrantID =
      (l.map exitKey).map fun key => (ofLex (ofLex (ofLex key).2).2).2 := by
    rw [List.map_map]
    rfl
  unfold exitOrder
  rw [entrants,keys,← entrants,List.map_append]

theorem exitRanks_congr (same : events.map EliminationEvent.entrantID = events'.map EliminationEvent.entrantID) :
    exitRanks entrants events = exitRanks entrants events' := by
  have ranks (events : List EliminationEvent) : exitRanks entrants events =
      (events.map EliminationEvent.entrantID).zipIdx.filterMap fun placed =>
        ((OrdMap.ofList (entrants.map fun entrant => (entrant.id,entrant))).get? placed.1).bind fun entrant =>
          if entrant.minerID = "" then none else some (entrant.minerID,(entrants.length : Int) - placed.2) := by
    rw [List.zipIdx_map,List.filterMap_map]
    rfl
  rw [ranks,ranks,same]

theorem finishRanks_congr (same : events.map EliminationEvent.entrantID = events'.map EliminationEvent.entrantID) :
    finishRanks entrants survivors events = finishRanks entrants survivors events' := by
  unfold finishRanks
  rw [exitRanks_congr same]

end Order

/-! From the barrier to the completion. -/

def stampedAt (later : List EliminationEvent) (readings : List Reading) : List EliminationEvent :=
  List.zipWith (fun event reading => { event with occurredAt := reading.occurredAt, createdAt := reading.createdAt }) later readings

def finalRanks (entrants : List Entrant) (survivors : List RankedSurvivor) (tournamentID : String)
    (eliminations : OrdMap String EliminationEvent) (later : List EliminationEvent) : OrdMap String Int :=
  finishRanks entrants survivors ((exitsIn (eliminations.insertAll (filedExits later)) tournamentID).insertionSort exitsBefore)

def activeAt (runtime : RuntimeService) (waveID tournamentID : String) : OrdMap String SeatAssignment :=
  activeByMiner (currentAssignmentsForTournament runtime waveID tournamentID)

/-- A barrier goes through: the walk takes every miner of the field once, and the clock goes on from the stored exits over
the walk to the later exits. -/
structure BarrierRun (before : RuntimeService) (waveID tournamentID : String) (later : List EliminationEvent)
    (walk : List (String × Reading)) (readings : List Reading) (synced : RuntimeService) : Prop where
  miners : (walk.map Prod.fst).Perm (fieldMiners before waveID)
  stamps : readings.length = later.length
  increasing : ((walk.map Prod.snd ++ readings).flatMap fun reading => [reading.occurredAt,reading.createdAt]).Pairwise (· < ·)
  behind : ∀ event ∈ exitsOf before tournamentID, ∀ reading ∈ walk.map Prod.snd ++ readings, event.occurredAt < reading.occurredAt
  synced : syncActiveEntrantsAlong walk waveID tournamentID (currentAssignmentsForTournament before waveID tournamentID) before =
    (.ok (),synced)

def SameFinish (before : RuntimeService) (waveID tournamentID : String) (entrants : List Entrant)
    (survivors : List RankedSurvivor) (later : List EliminationEvent) : Prop :=
  ∀ walk readings synced walk' readings' synced', BarrierRun before waveID tournamentID later walk readings synced →
    BarrierRun before waveID tournamentID later walk' readings' synced' →
    ∀ minerID entrant, Leaves before waveID tournamentID (activeAt before waveID tournamentID) minerID entrant →
      (finalRanks entrants survivors tournamentID synced.eliminations (stampedAt later readings)).get? entrant.minerID =
        (finalRanks entrants survivors tournamentID synced'.eliminations (stampedAt later readings')).get? entrant.minerID

def OneLeaves (before : RuntimeService) (waveID tournamentID : String) : Prop :=
  ∀ minerID entrant other entrant', Leaves before waveID tournamentID (activeAt before waveID tournamentID) minerID entrant →
    Leaves before waveID tournamentID (activeAt before waveID tournamentID) other entrant' → minerID = other

/-- Exits that later barriers record: of the tournament, of others than who leaves now, and no entrant twice. -/
structure LaterExits (before : RuntimeService) (waveID tournamentID : String) (later : List EliminationEvent) : Prop where
  own : ∀ event ∈ later, event.tournamentID = tournamentID ∧ event.id = "field_exit:" ++ event.entrantID
  once : (later.map EliminationEvent.id).Nodup
  fresh : ∀ minerID entrant, Leaves before waveID tournamentID (activeAt before waveID tournamentID) minerID entrant →
    "field_exit:" ++ entrant.id ∉ later.map EliminationEvent.id

section Finish
variable {waveID tournamentID : String} {before runtime synced synced' : RuntimeService} {later : List EliminationEvent}
  {walk walk' : List (String × Reading)} {readings readings' : List Reading} {entrants : List Entrant}
  {survivors : List RankedSurvivor} {assignments : List SeatAssignment}

theorem stampedAt_map {α : Type} (f : EliminationEvent → α) (kept : ∀ event occurredAt createdAt,
    f { event with occurredAt := occurredAt, createdAt := createdAt } = f event) (stamps : readings.length = later.length) :
    (stampedAt later readings).map f = later.map f := by
  unfold stampedAt
  rw [List.map_zipWith]
  induction later generalizing readings with
  | nil => rfl
  | cons event rest ih =>
    cases readings with
    | nil => cases stamps
    | cons reading readings =>
      rw [List.zipWith_cons_cons,List.map_cons,kept,ih (Nat.succ.inj stamps)]

theorem stampedAt_occurred (stamps : readings.length = later.length) :
    (stampedAt later readings).map EliminationEvent.occurredAt = readings.map Reading.occurredAt := by
  unfold stampedAt
  rw [List.map_zipWith]
  induction later generalizing readings with
  | nil =>
    rw [List.length_eq_zero_iff.mp stamps]
    rfl
  | cons event rest ih =>
    cases readings with
    | nil => cases stamps
    | cons reading readings =>
      rw [List.zipWith_cons_cons,List.map_cons,ih (Nat.succ.inj stamps)]

def leavingID (before : RuntimeService) (waveID tournamentID : String) (minerID : String) : Option String :=
  (leavingEntrant before waveID tournamentID (activeAt before waveID tournamentID) minerID).map Entrant.id

def recordedExits (before : RuntimeService) (waveID tournamentID : String) (walk : List (String × Reading)) : List EliminationEvent :=
  walk.filterMap (exitOfVisit before waveID tournamentID (activeAt before waveID tournamentID))

theorem recordedExits_entrants : (recordedExits before waveID tournamentID walk).map EliminationEvent.entrantID =
    (walk.map Prod.fst).filterMap (leavingID before waveID tournamentID) := by
  unfold recordedExits
  rw [List.map_filterMap,List.filterMap_map]
  refine List.filterMap_congr fun visit _ => ?_
  unfold exitOfVisit leavingID
  rw [Option.map_map]
  rfl

theorem recordedExits_named {event : EliminationEvent} (inside : event ∈ recordedExits before waveID tournamentID walk) :
    event.tournamentID = tournamentID ∧ event.id = "field_exit:" ++ event.entrantID := by
  obtain ⟨visit,-,exit⟩ := List.mem_filterMap.mp inside
  obtain ⟨entrant,-,rfl⟩ := Option.map_eq_some_iff.mp exit
  exact ⟨rfl,rfl⟩

theorem recordedExits_occurred : ((recordedExits before waveID tournamentID walk).map EliminationEvent.occurredAt).Sublist
    ((walk.map Prod.snd).map Reading.occurredAt) := by
  unfold recordedExits
  induction walk with
  | nil => exact List.Sublist.refl _
  | cons visit rest ih =>
    cases exit : exitOfVisit before waveID tournamentID (activeAt before waveID tournamentID) visit with
    | none =>
      rw [List.filterMap_cons_none exit]
      exact ih.cons _
    | some event =>
      rw [List.filterMap_cons_some exit]
      obtain ⟨entrant,-,rfl⟩ := Option.map_eq_some_iff.mp exit
      exact ih.cons_cons _

theorem leavingID_iff {minerID id : String} : leavingID before waveID tournamentID minerID = some id ↔ ∃ entrant,
    Leaves before waveID tournamentID (activeAt before waveID tournamentID) minerID entrant ∧ entrant.id = id := by
  unfold leavingID
  rw [Option.map_eq_some_iff]
  simp only [leavingEntrant_iff]

def LeaveApart (before : RuntimeService) (waveID tournamentID : String) : Prop :=
  ∀ minerID other id, leavingID before waveID tournamentID minerID = some id → leavingID before waveID tournamentID other = some id →
    minerID = other

theorem BarrierRun.order (run : BarrierRun before waveID tournamentID later walk readings synced)
    (fine : LaterExits before waveID tournamentID later) (apart : LeaveApart before waveID tournamentID) :
    exitOrder (exitsIn (synced.eliminations.insertAll (filedExits (stampedAt later readings))) tournamentID) =
      exitOrder (exitsIn (before.eliminations.filter fun id _ => id ∉ ((walk.map Prod.fst).filterMap
        (leavingID before waveID tournamentID)).map ("field_exit:" ++ ·) ++ later.map EliminationEvent.id) tournamentID) ++
        ((walk.map Prod.fst).filterMap (leavingID before waveID tournamentID) ++ later.map EliminationEvent.entrantID) := by
  have distinct : (walk.map Prod.fst).Nodup := run.miners.nodup_iff.mpr (fieldMiners_nodup before waveID)
  have records : synced.eliminations = before.eliminations.insertAll (filedExits (recordedExits before waveID tournamentID walk)) :=
    syncActiveEntrantsAlong_ok distinct run.synced
  have filed (first second : List EliminationEvent) : filedExits (first ++ second) = filedExits first ++ filedExits second :=
    List.map_append
  have ids : (recordedExits before waveID tournamentID walk ++ stampedAt later readings).map EliminationEvent.id =
      ((walk.map Prod.fst).filterMap (leavingID before waveID tournamentID)).map ("field_exit:" ++ ·) ++
        later.map EliminationEvent.id := by
    rw [List.map_append,stampedAt_map _ (fun _ _ _ => rfl) run.stamps,← recordedExits_entrants,List.map_map]
    congr 1
    exact List.map_congr_left fun event inside => (recordedExits_named inside).2
  have names : (recordedExits before waveID tournamentID walk ++ stampedAt later readings).map EliminationEvent.entrantID =
      (walk.map Prod.fst).filterMap (leavingID before waveID tournamentID) ++ later.map EliminationEvent.entrantID := by
    rw [List.map_append,stampedAt_map _ (fun _ _ _ => rfl) run.stamps,recordedExits_entrants]
  have occurred : ((recordedExits before waveID tournamentID walk ++ stampedAt later readings).map
      EliminationEvent.occurredAt).Sublist ((walk.map Prod.snd ++ readings).map Reading.occurredAt) := by
    rw [List.map_append,List.map_append,stampedAt_occurred run.stamps]
    exact recordedExits_occurred.append_right _
  have ordered : ((walk.map Prod.snd ++ readings).map Reading.occurredAt).Pairwise (· < ·) := by
    rw [List.pairwise_map]
    have ticks := (List.pairwise_flatMap.mp run.increasing).2
    exact ticks.imp fun below => below _ List.mem_cons_self _ List.mem_cons_self
  have once : ((recordedExits before waveID tournamentID walk ++ stampedAt later readings).map EliminationEvent.id).Nodup := by
    rw [ids]
    refine List.nodup_append.mpr ⟨?_,fine.once,?_⟩
    · refine List.Nodup.map (fun first second same => ?_) (distinct.filterMap fun first second id held held' => apart _ _ id held held')
      exact (String.append_right_inj _).mp same
    · rintro _ leaving _ listed rfl
      obtain ⟨id,gone,rfl⟩ := List.mem_map.mp leaving
      obtain ⟨minerID,-,held⟩ := List.mem_filterMap.mp gone
      obtain ⟨entrant,leaves,rfl⟩ := leavingID_iff.mp held
      exact fine.fresh minerID entrant leaves listed
  have own : ∀ event ∈ recordedExits before waveID tournamentID walk ++ stampedAt later readings,
      event.tournamentID = tournamentID := by
    intro event inside
    rcases List.mem_append.mp inside with recorded | stamped
    · exact (recordedExits_named recorded).1
    · have named : event.tournamentID ∈ (stampedAt later readings).map EliminationEvent.tournamentID := List.mem_map_of_mem stamped
      rw [stampedAt_map _ (fun _ _ _ => rfl) run.stamps] at named
      obtain ⟨other,listed,same⟩ := List.mem_map.mp named
      exact same ▸ (fine.own other listed).1
  have behind : ∀ stored ∈ exitsIn before.eliminations tournamentID,
      ∀ event ∈ recordedExits before waveID tournamentID walk ++ stampedAt later readings, stored.occurredAt < event.occurredAt := by
    intro stored earlier event inside
    obtain ⟨reading,listed,same⟩ := List.mem_map.mp (occurred.subset (List.mem_map_of_mem inside))
    rw [← same]
    exact run.behind stored earlier reading listed
  rw [records,← OrdMap.insertAll_append,← filed,exitOrder_insertAll before.eliminations once own
    (List.pairwise_map.mp (ordered.sublist occurred)) behind,ids,names]

theorem OneLeaves.leaving (one : OneLeaves before waveID tournamentID) {first second : List String}
    (walked : first.Perm (fieldMiners before waveID)) (walked' : second.Perm (fieldMiners before waveID)) :
    first.filterMap (leavingID before waveID tournamentID) = second.filterMap (leavingID before waveID tournamentID) := by
  have alone : ((fieldMiners before waveID).filterMap (leavingID before waveID tournamentID)).Pairwise fun _ _ => False := by
    refine List.pairwise_filterMap.mpr ((fieldMiners_nodup before waveID).imp ?_)
    intro minerID other differ id held id' held'
    obtain ⟨entrant,leaves,-⟩ := leavingID_iff.mp held
    obtain ⟨entrant',leaves',-⟩ := leavingID_iff.mp held'
    exact differ (one minerID entrant other entrant' leaves leaves')
  have perm := walked.filterMap (leavingID before waveID tournamentID)
  have perm' := walked'.filterMap (leavingID before waveID tournamentID)
  cases listed : (fieldMiners before waveID).filterMap (leavingID before waveID tournamentID) with
  | nil =>
    rw [listed] at perm perm'
    rw [perm.eq_nil,perm'.eq_nil]
  | cons id rest =>
    rw [listed] at alone perm perm'
    cases rest with
    | nil => rw [List.perm_singleton.mp perm,List.perm_singleton.mp perm']
    | cons other rest => exact ((List.pairwise_cons.mp alone).1 other List.mem_cons_self).elim

theorem OneLeaves.sameFinish (one : OneLeaves before waveID tournamentID) (fine : LaterExits before waveID tournamentID later) :
    SameFinish before waveID tournamentID entrants survivors later := by
  have apart : LeaveApart before waveID tournamentID := by
    intro minerID other id held held'
    obtain ⟨entrant,leaves,-⟩ := leavingID_iff.mp held
    obtain ⟨entrant',leaves',-⟩ := leavingID_iff.mp held'
    exact one minerID entrant other entrant' leaves leaves'
  intro walk readings synced walk' readings' synced' run run' minerID entrant _
  have order := run.order fine apart
  rw [one.leaving run.miners run'.miners,← run'.order fine apart] at order
  unfold finalRanks
  rw [finishRanks_congr order]

end Finish

section Given
variable {entrants : List Entrant} {survivors : List RankedSurvivor} {events front back : List EliminationEvent} {minerID : String}
  {event : EliminationEvent} {rank : Int}

theorem finishRanks_kept (given : (OrdMap.ofList (survivorRanks survivors ++ exitRanks entrants events)).get? minerID = some rank)
    (nonzero : rank ≠ 0) : (finishRanks entrants survivors events).get? minerID = some rank := by
  unfold finishRanks
  dsimp only
  rw [OrdMap.get?_ofList_append,OrdMap.get?_ofList_eq_none,Option.none_or,given]
  intro late
  obtain ⟨e,zipped,own⟩ := List.mem_map.mp late
  have zero := (List.mem_filter.mp ((List.perm_insertionSort _ _).mem_iff.mp (List.of_mem_zip zipped).1)).2
  rw [own,decide_eq_true_eq,given,Option.getD_some] at zero
  exact nonzero zero

theorem finishRanks_zero (given : (OrdMap.ofList (survivorRanks survivors ++ exitRanks entrants events)).get? minerID = some 0)
    (final : (finishRanks entrants survivors events).get? minerID = some rank) :
    rank = 0 ∨ 1 ≤ rank ∧ rank ∉ (survivorRanks survivors ++ exitRanks entrants events).map Prod.snd := by
  unfold finishRanks at final
  dsimp only at final
  rw [OrdMap.get?_ofList_append,given] at final
  rcases Option.or_eq_some_iff.mp final with late | ⟨-,same⟩
  · have remaining := (List.of_mem_zip (OrdMap.mem_of_get?_ofList late)).2
    obtain ⟨place,unused⟩ := List.mem_filter.mp remaining
    have place : rank ∈ places entrants.length := by
      simpa [places,← List.map_eq_flatMap,Function.comp_def] using place
    exact .inr ⟨(mem_places.mp place).1,of_decide_eq_true unused⟩
  · exact .inl (Option.some.inj same).symm

theorem given_last (exit : exitOf entrants event = some minerID) (gone : ∀ other ∈ back, exitOf entrants other ≠ some minerID) :
    (OrdMap.ofList (survivorRanks survivors ++ exitRanks entrants (front ++ event :: back))).get? minerID =
      some ((entrants.length : Int) - front.length) := by
  have late : minerID ∉ ((back.zipIdx (front.length + 1)).filterMap fun e =>
      (exitOf entrants e.1).map fun minerID => (minerID,(entrants.length : Int) - e.2)).map Prod.fst := by
    intro listed
    obtain ⟨_,inside,rfl⟩ := List.mem_map.mp listed
    obtain ⟨⟨other,i⟩,member,same⟩ := List.mem_filterMap.mp inside
    obtain ⟨miner,exits,rfl⟩ := Option.map_eq_some_iff.mp same
    exact gone other (List.fst_mem_of_mem_zipIdx member) exits
  have last (ranks : List (String × Int)) (absent : minerID ∉ ranks.map Prod.fst) :
      (OrdMap.ofList ((minerID,(entrants.length : Int) - front.length) :: ranks)).get? minerID =
        some ((entrants.length : Int) - front.length) := by
    change (OrdMap.ofList ([_] ++ ranks)).get? minerID = _
    rw [OrdMap.get?_ofList_append,OrdMap.get?_ofList_eq_none absent,Option.none_or]
    exact OrdMap.get?_insert_self _ _ _
  rw [exitRanks_eq,List.zipIdx_append,List.filterMap_append,List.zipIdx_cons,List.filterMap_cons,exit,Option.map_some]
  dsimp only
  rw [Nat.zero_add,← List.append_assoc,OrdMap.get?_ofList_append,last _ late]
  rfl

end Given

structure ListsLeaving (before : RuntimeService) (waveID tournamentID : String) (entrants : List Entrant) : Prop where
  miners : (entrants.map Entrant.minerID).Nodup
  ids : (entrants.map Entrant.id).Nodup
  leaving : ∀ minerID entrant, Leaves before waveID tournamentID (activeAt before waveID tournamentID) minerID entrant →
    entrant.minerID ≠ "" ∧ ∃ listed ∈ entrants, listed.id = entrant.id ∧ listed.minerID = entrant.minerID

def readingAfter (base : Int) (tick : Nat) : Reading := ⟨base + 2 * tick + 1,base + 2 * tick + 2⟩

section Swap
variable {waveID tournamentID : String} {before : RuntimeService} {later : List EliminationEvent} {entrants : List Entrant}
  {survivors : List RankedSurvivor}

theorem exists_barrierRun (calm : before.world.outcomes = []) {miners : List String}
    (walked : miners.Perm (fieldMiners before waveID)) (later : List EliminationEvent) : ∃ walk readings synced,
      walk.map Prod.fst = miners ∧ BarrierRun before waveID tournamentID later walk readings synced := by
  have bounded (events : List EliminationEvent) : ∃ base : Int, ∀ event ∈ events, event.occurredAt ≤ base := by
    induction events with
    | nil => exact ⟨0,fun _ inside => by cases inside⟩
    | cons event rest ih =>
      obtain ⟨base,bound⟩ := ih
      refine ⟨max event.occurredAt base,fun other inside => ?_⟩
      rcases List.mem_cons.mp inside with rfl | inside
      · exact le_max_left _ _
      · exact (bound other inside).trans (le_max_right _ _)
  obtain ⟨base,bound⟩ := bounded (exitsOf before tournamentID)
  obtain ⟨_,synced,done,-⟩ := steady_syncActiveEntrantsAlong (miners.zipIdx.map fun e => (e.1,readingAfter base e.2)) before calm
  have clock : (miners.zipIdx.map fun e => (e.1,readingAfter base e.2)).map Prod.snd ++
      (List.range' miners.length later.length).map (readingAfter base) =
        (List.range (miners.length + later.length)).map (readingAfter base) := by
    rw [List.range_eq_range',← List.range'_append_1,List.map_append,Nat.zero_add,← List.zipIdx_map_snd 0 miners,List.map_map,
      List.map_map]
    rfl
  have visits : (miners.zipIdx.map fun e => (e.1,readingAfter base e.2)).map Prod.fst = miners := by
    rw [List.map_map]
    exact List.zipIdx_map_fst 0 miners
  refine ⟨_,(List.range' miners.length later.length).map (readingAfter base),synced,visits,?_⟩
  refine ⟨visits.symm ▸ walked,by simp,?_,?_,done⟩
  · rw [clock,List.pairwise_flatMap]
    refine ⟨fun reading inside => ?_,List.pairwise_map.mpr (List.pairwise_lt_range.imp fun less => ?_)⟩
    · obtain ⟨tick,-,rfl⟩ := List.mem_map.mp inside
      simp [readingAfter]
    · simp only [readingAfter,List.mem_cons,List.not_mem_nil,or_false]
      omega
  · intro event stored reading inside
    rw [clock] at inside
    obtain ⟨tick,-,rfl⟩ := List.mem_map.mp inside
    have below := bound event stored
    unfold readingAfter
    dsimp only
    omega

theorem ListsLeaving.given (lists : ListsLeaving before waveID tournamentID entrants) {minerID : String} {entrant : Entrant}
    (leaves : Leaves before waveID tournamentID (activeAt before waveID tournamentID) minerID entrant)
    {events : List EliminationEvent} {front back : List String}
    (order : events.map EliminationEvent.entrantID = front ++ entrant.id :: back) (last : entrant.id ∉ back) :
    (OrdMap.ofList (survivorRanks survivors ++ exitRanks entrants events)).get? entrant.minerID =
      some ((entrants.length : Int) - front.length) := by
  obtain ⟨named,listed,inside,id,miner⟩ := lists.leaving minerID entrant leaves
  obtain ⟨early,rest,rfl,fronts,tail⟩ := List.map_eq_append_iff.mp order
  obtain ⟨event,behind,rfl,own,backs⟩ := List.map_eq_cons_iff.mp tail
  rw [← fronts,List.length_map]
  refine given_last ((exitOf_iff lists.ids).mpr ⟨listed,inside,id.trans own.symm,miner,named⟩) fun other after exits => ?_
  obtain ⟨twin,inside',own',miner',-⟩ := (exitOf_iff lists.ids).mp exits
  have same := List.inj_on_of_nodup_map lists.miners inside' inside (miner'.trans miner.symm)
  refine last (backs ▸ List.mem_map.mpr ⟨other,after,?_⟩)
  rw [← own',same,id]

theorem SameFinish.oneLeaves (same : SameFinish before waveID tournamentID entrants survivors later)
    (calm : before.world.outcomes = []) (keyed : Keyed before waveID tournamentID)
    (fine : LaterExits before waveID tournamentID later) (lists : ListsLeaving before waveID tournamentID entrants) :
    OneLeaves before waveID tournamentID := by
  intro minerID entrant other entrant' leaves leaves'
  by_contra differ
  have apart : LeaveApart before waveID tournamentID := by
    intro first second id held held'
    obtain ⟨e,gone,rfl⟩ := leavingID_iff.mp held
    obtain ⟨e',gone',equal⟩ := leavingID_iff.mp held'
    exact keyed.id first e second e' gone.found gone.own gone'.found gone'.own equal.symm
  have held := leavingID_iff.mpr ⟨entrant,leaves,rfl⟩
  have held' := leavingID_iff.mpr ⟨entrant',leaves',rfl⟩
  have listed := mem_fieldMiners.mpr ⟨entrant,leaves.found⟩
  have listed' := mem_fieldMiners.mpr ⟨entrant',leaves'.found⟩
  set rest := ((fieldMiners before waveID).erase minerID).erase other with others
  have walked : (minerID :: other :: rest).Perm (fieldMiners before waveID) :=
    ((List.perm_cons_erase listed).trans ((List.perm_cons_erase ((List.mem_erase_of_ne (Ne.symm differ)).mpr listed')).cons
      minerID)).symm
  have walked' : (other :: minerID :: rest).Perm (fieldMiners before waveID) := (List.Perm.swap _ _ _).trans walked
  have distinct := walked.nodup_iff.mpr (fieldMiners_nodup before waveID)
  obtain ⟨walk,readings,synced,visits,run⟩ := @exists_barrierRun waveID tournamentID before calm _ walked later
  obtain ⟨walk',readings',synced',visits',run'⟩ := @exists_barrierRun waveID tournamentID before calm _ walked' later
  have order := run.order fine apart
  have order' := run'.order fine apart
  set gone := rest.filterMap (leavingID before waveID tournamentID) ++ later.map EliminationEvent.entrantID with goes
  rw [visits,List.filterMap_cons_some held,List.filterMap_cons_some held',List.cons_append,List.cons_append,← goes] at order
  rw [visits',List.filterMap_cons_some held',List.filterMap_cons_some held,List.cons_append,List.cons_append,← goes] at order'
  -- Neither entrant is behind the two places.
  have absent {name : String} {e : Entrant} (out : Leaves before waveID tournamentID (activeAt before waveID tournamentID) name e)
      (outside : name ∉ rest) : e.id ∉ gone := by
    intro inside
    rcases List.mem_append.mp inside with walking | after
    · obtain ⟨twin,member,held⟩ := List.mem_filterMap.mp walking
      exact outside (apart name twin e.id (leavingID_iff.mpr ⟨e,out,rfl⟩) held ▸ member)
    · obtain ⟨event,member,own⟩ := List.mem_map.mp after
      refine fine.fresh name e out (List.mem_map.mpr ⟨event,member,?_⟩)
      rw [(fine.own event member).2,own]
  have unlike : entrant.id ≠ entrant'.id := fun equal =>
    differ (keyed.id minerID entrant other entrant' leaves.found leaves.own leaves'.found leaves'.own equal)
  have kept : (before.eliminations.filter fun id _ => id ∉ (entrant'.id :: entrant.id ::
      rest.filterMap (leavingID before waveID tournamentID)).map ("field_exit:" ++ ·) ++ later.map EliminationEvent.id) =
      before.eliminations.filter fun id _ => id ∉ (entrant.id :: entrant'.id ::
        rest.filterMap (leavingID before waveID tournamentID)).map ("field_exit:" ++ ·) ++ later.map EliminationEvent.id := by
    congr 1
    funext id _
    rw [decide_eq_decide]
    simp only [List.map_cons,List.cons_append,List.mem_cons,or_left_comm]
  rw [kept] at order'
  set stored := exitOrder (exitsIn (before.eliminations.filter fun id _ => id ∉ (entrant.id :: entrant'.id ::
    rest.filterMap (leavingID before waveID tournamentID)).map ("field_exit:" ++ ·) ++ later.map EliminationEvent.id) tournamentID)
  obtain ⟨out,tail⟩ := List.nodup_cons.mp distinct
  have behind : entrant.id ∉ entrant'.id :: gone := fun inside =>
    (List.mem_cons.mp inside).elim unlike (absent leaves fun member => out (List.mem_cons_of_mem _ member))
  have behind' : entrant'.id ∉ entrant.id :: gone := fun inside =>
    (List.mem_cons.mp inside).elim (Ne.symm unlike) (absent leaves' (List.nodup_cons.mp tail).1)
  have first := @ListsLeaving.given _ _ _ _ survivors lists _ _ leaves _ _ _ order behind
  have second := @ListsLeaving.given _ _ _ _ survivors lists _ _ leaves _ _ _ (order'.trans (List.append_cons _ _ _))
    (absent leaves fun member => out (List.mem_cons_of_mem _ member))
  have twin := @ListsLeaving.given _ _ _ _ survivors lists _ _ leaves' _ _ _ order' behind'
  have equal := same walk readings synced walk' readings' synced' run run' minerID entrant leaves
  unfold finalRanks at equal
  rw [List.length_append,List.length_singleton,Nat.cast_add,Nat.cast_one] at second
  by_cases none : (entrants.length : Int) - stored.length = 0
  · rw [finishRanks_kept second (by omega)] at equal
    rw [none] at first
    rcases finishRanks_zero first equal with zero | ⟨least,-⟩
    · omega
    · omega
  · rw [finishRanks_kept first none] at equal
    by_cases none' : (entrants.length : Int) - (stored.length + 1) = 0
    · rw [none'] at second
      rcases finishRanks_zero second equal.symm with zero | ⟨-,unused⟩
      · exact none zero
      · exact unused (List.mem_map.mpr ⟨_,OrdMap.mem_of_get?_ofList twin,rfl⟩)
    · rw [finishRanks_kept second none'] at equal
      have ranks := Option.some.inj equal
      omega

/-- Who leaves at a barrier gets the same rank on every walk and every clock exactly when at most one leaves. -/
theorem bust_order (fine : LaterExits before waveID tournamentID later) :
    (OneLeaves before waveID tournamentID → SameFinish before waveID tournamentID entrants survivors later) ∧
    (before.world.outcomes = [] → Keyed before waveID tournamentID → ListsLeaving before waveID tournamentID entrants →
      SameFinish before waveID tournamentID entrants survivors later → OneLeaves before waveID tournamentID) :=
  ⟨fun one => one.sameFinish fine,fun calm keyed lists same => same.oneLeaves calm keyed fine lists⟩

end Swap

def struckHand (minerIDs : List String) : RuntimeService :=
  playOut (timeOuts (fun _ => 0) "tour:w:01" (List.replicate 7 "tbl:tour:w:01:01") (performAll (fun _ => 0)
    ([.createWave "w" "rated",.registerMiner "w" "a",.registerMiner "w" "b",.registerMiner "w" "c",.lockWave "w",
      .publishSeats "w"] ++ minerIDs.map fun minerID => .disqualify "tour:w:01" minerID "collusion") {})) "tbl:tour:w:01:01"

theorem struckHand_reachable (minerIDs : List String) : Reachable (fun _ => 0) (struckHand minerIDs) :=
  playOut_run (fun _ _ _ => trivial)
    (timeOuts_run _ _ (fun _ _ _ => trivial) (fun _ _ _ => trivial) _ (performAll_run _ _ _)) _

def struckBarrier (minerIDs : List String) : RuntimeService := (struckHand minerIDs).at {}

theorem struckBarrier_one : ∀ minerID ∈ fieldMiners (struckBarrier ["b"]) "w",
    (leavingEntrant (struckBarrier ["b"]) "w" "tour:w:01" (activeAt (struckBarrier ["b"]) "w" "tour:w:01") minerID).isSome →
      minerID = "b" := by
  decide +kernel

theorem bust_order_struckBarrier : SameFinish (struckBarrier ["b"]) "w" "tour:w:01"
    (tournamentEntrantsForCompletion (struckBarrier ["b"]) "w" "tour:w:01")
    (survivorsOf (struckBarrier ["b"]) "tour:w:01" (currentAssignmentsForTournament (struckBarrier ["b"]) "w" "tour:w:01")) [] := by
  have fine : LaterExits (struckBarrier ["b"]) "w" "tour:w:01" [] :=
    ⟨fun _ inside => (by cases inside),List.nodup_nil,fun _ _ _ inside => by cases inside⟩
  refine (bust_order fine).1 ?_
  have only {minerID : String} {entrant : Entrant} (leaves : Leaves (struckBarrier ["b"]) "w" "tour:w:01"
      (activeAt (struckBarrier ["b"]) "w" "tour:w:01") minerID entrant) : minerID = "b" := by
    refine struckBarrier_one minerID (mem_fieldMiners.mpr ⟨entrant,leaves.found⟩) ?_
    rw [leavingEntrant_iff.mpr leaves]
    rfl
  intro minerID entrant other entrant' leaves leaves'
  rw [only leaves,only leaves']

def walkInOrder : List (String × Reading) := [("a",⟨1,2⟩),("b",⟨3,4⟩),("c",⟨5,6⟩)]

def walkTurned : List (String × Reading) := [("a",⟨1,2⟩),("c",⟨3,4⟩),("b",⟨5,6⟩)]

def afterWalk (walk : List (String × Reading)) : RuntimeService :=
  (syncActiveEntrantsAlong walk "w" "tour:w:01"
    (currentAssignmentsForTournament (struckBarrier ["b","c"]) "w" "tour:w:01") (struckBarrier ["b","c"])).2

theorem struckBarrier_run : ∀ walk ∈ [walkInOrder,walkTurned],
    BarrierRun (struckBarrier ["b","c"]) "w" "tour:w:01" [] walk [] (afterWalk walk) := by
  intro walk listed
  refine ⟨?_,rfl,?_,?_,ok_of_toOption ?_⟩ <;> revert walk <;> decide +kernel

theorem struckBarrier_leaver : (leavingEntrant (struckBarrier ["b","c"]) "w" "tour:w:01"
    (activeAt (struckBarrier ["b","c"]) "w" "tour:w:01") "b").any (fun entrant => entrant.minerID = "b") = true := by
  decide +kernel

theorem struckBarrier_ranks : [walkInOrder,walkTurned].map (fun walk =>
    (finalRanks (tournamentEntrantsForCompletion (struckBarrier ["b","c"]) "w" "tour:w:01")
      (survivorsOf (struckBarrier ["b","c"]) "tour:w:01" (currentAssignmentsForTournament (struckBarrier ["b","c"]) "w" "tour:w:01"))
      "tour:w:01" (afterWalk walk).eliminations []).get? "b") = [some 3,some 2] := by
  decide +kernel

/-- Two miners leave together, and the walk decides which of them finishes second. -/
theorem walk_decides_rank : Reachable (fun _ => 0) (struckHand ["b","c"]) ∧ ¬SameFinish (struckBarrier ["b","c"]) "w" "tour:w:01"
    (tournamentEntrantsForCompletion (struckBarrier ["b","c"]) "w" "tour:w:01")
    (survivorsOf (struckBarrier ["b","c"]) "tour:w:01" (currentAssignmentsForTournament (struckBarrier ["b","c"]) "w" "tour:w:01")) [] := by
  refine ⟨struckHand_reachable _,fun same => ?_⟩
  obtain ⟨entrant,leaves,named⟩ := (Option.any_eq_true _ _).mp struckBarrier_leaver
  have equal := same _ _ _ _ _ _ (struckBarrier_run walkInOrder List.mem_cons_self)
    (struckBarrier_run walkTurned (List.mem_cons_of_mem _ List.mem_cons_self)) "b" entrant (leavingEntrant_iff.mp leaves)
  rw [of_decide_eq_true named] at equal
  obtain ⟨first,second⟩ := List.cons.inj struckBarrier_ranks
  exact absurd (first.symm.trans (equal.trans (List.cons.inj second).1)) (by decide)

end Clawchain.Arena.App
