import Clawchain.Arena.App.Completion

/-! Survivors of a time cap are ranked by their stored seat rows, which no round of play writes. -/
namespace Clawchain.Arena.App
open Clawchain.Lib Clawchain.Arena.Table Clawchain.Arena.Hub

theorem survivors_sorted (runtime : RuntimeService) (tournamentID : String) (assignments : List SeatAssignment) :
    (survivorsOf runtime tournamentID assignments).Pairwise ranksBefore := by
  have total : Std.Total ranksBefore := ⟨fun a b => by
    rcases lt_trichotomy a.stack b.stack with less | same | more
    · exact .inr (.inl less)
    · exact (le_total a.minerID b.minerID).imp (fun below => .inr ⟨same,below⟩) fun above => .inr ⟨same.symm,above⟩
    · exact .inl (.inl more)⟩
  have trans : IsTrans RankedSurvivor ranksBefore := ⟨fun a b c first next => by
    rcases first with more | ⟨same,below⟩ <;> rcases next with more' | ⟨same',below'⟩
    · exact .inl (more'.trans more)
    · exact .inl (same' ▸ more)
    · exact .inl (same ▸ more')
    · exact .inr ⟨same.trans same',below.trans below'⟩⟩
  exact List.pairwise_insertionSort ranksBefore _

theorem finishRanks_survivor {entrants : List Entrant} {survivors : List RankedSurvivor} {events : List EliminationEvent}
    (distinct : (survivors.map RankedSurvivor.minerID).Nodup) {i : Nat} {survivor : RankedSurvivor}
    (found : survivors[i]? = some survivor) (clear : ∀ event ∈ events, exitOf entrants event ≠ some survivor.minerID) :
    (finishRanks entrants survivors events).get? survivor.minerID = some ((i : Int) + 1) := by
  have held : (OrdMap.ofList (survivorRanks survivors)).get? survivor.minerID = some ((i : Int) + 1) :=
    (OrdMap.get?_ofList (by rwa [survivorRanks_miners])).mpr (mem_survivorRanks.mpr ⟨i,survivor,found,rfl,rfl⟩)
  have given : (OrdMap.ofList (survivorRanks survivors ++ exitRanks entrants events)).get? survivor.minerID = some ((i : Int) + 1) := by
    rw [OrdMap.get?_ofList_append,OrdMap.get?_ofList_eq_none,Option.none_or,held]
    intro exits
    rw [exitRanks_miners] at exits
    obtain ⟨event,listed,exit⟩ := List.mem_filterMap.mp exits
    exact clear event listed exit
  unfold finishRanks
  dsimp only
  rw [OrdMap.get?_ofList_append,OrdMap.get?_ofList_eq_none,Option.none_or,given]
  intro late
  obtain ⟨e,zipped,own⟩ := List.mem_map.mp late
  have zero := (List.mem_filter.mp ((List.perm_insertionSort _ _).mem_iff.mp (List.of_mem_zip zipped).1)).2
  rw [own,decide_eq_true_eq,given,Option.getD_some] at zero
  omega

/-! Stacks at the tables and in the rows. -/

def stackAt (runtime : RuntimeService) (assignment : SeatAssignment) : Int :=
  (((runtime.actors.get? assignment.tableID).bind fun actor => actor.state.table.seats.get? assignment.seatNo).map
    Seat.stack).getD 0

def rowStackAt (runtime : RuntimeService) (tournamentID : String) (assignment : SeatAssignment) : Int :=
  (((runtime.seats.filter fun _ row => row.tournamentID = tournamentID).get?
    (seatID assignment.tableID assignment.seatNo)).map SeatRow.stack).getD 0

def Outranks (stack : SeatAssignment → Int) (first second : SeatAssignment) : Prop :=
  stack second < stack first ∨ stack first = stack second ∧ first.minerID < second.minerID

instance (stack : SeatAssignment → Int) : DecidableRel (Outranks stack) := fun first second =>
  inferInstanceAs (Decidable (stack second < stack first ∨ stack first = stack second ∧ first.minerID < second.minerID))

section TimeCap
variable {waveID tournamentID : String} {before synced after : RuntimeService}

def RankedByStacks (waveID tournamentID : String) (before after : RuntimeService) : Prop :=
  ∀ first ∈ currentAssignmentsForTournament before waveID tournamentID,
    ∀ second ∈ currentAssignmentsForTournament before waveID tournamentID, Outranks (stackAt before) first second →
      finishRankOf after waveID first.minerID < finishRankOf after waveID second.minerID

def RowsFollow (runtime : RuntimeService) (waveID tournamentID : String) : Prop :=
  ∀ first ∈ currentAssignmentsForTournament runtime waveID tournamentID,
    ∀ second ∈ currentAssignmentsForTournament runtime waveID tournamentID, Outranks (stackAt runtime) first second →
      Outranks (rowStackAt runtime tournamentID) first second

def NoSurvivorExits (runtime : RuntimeService) (waveID tournamentID : String) : Prop :=
  ∀ assignment ∈ currentAssignmentsForTournament runtime waveID tournamentID, ∀ event ∈ exitsOf runtime tournamentID,
    event.entrantID ≠ assignment.entrantID

theorem exits_clear (finish : Finish waveID tournamentID before synced after) (keyed : Keyed before waveID tournamentID)
    (none : NoSurvivorExits before waveID tournamentID) {assignment : SeatAssignment}
    (survives : assignment ∈ currentAssignmentsForTournament before waveID tournamentID) {event : EliminationEvent}
    (stored : event ∈ exitsOf synced tournamentID) :
    exitOf (tournamentEntrantsForCompletion synced waveID tournamentID) event ≠ some assignment.minerID := by
  intro exits
  obtain ⟨entrant,inside,own,miner,-⟩ := (exitOf_iff (finish.keyed keyed).entrants_apart.2).mp exits
  obtain ⟨⟨minerID,found⟩,tournament⟩ := mem_tournamentEntrants.mp inside
  obtain ⟨old,held,tournament',miner',id⟩ := finish.entrant_before found
  have filed := keyed.miner minerID old held (tournament' ▸ tournament)
  obtain ⟨name,holder,listed,current⟩ := mem_currentAssignments.mp survives
  obtain ⟨seated,-,-,named,identified,-⟩ := currentAssignment_some current
  have same : name = minerID := by
    rw [← keyed.miner name holder listed seated,← named,← miner,miner',filed]
  subst same
  rw [listed] at held
  cases held
  have stored := List.mem_filter.mp stored
  obtain ⟨⟨key,_⟩,kept,rfl⟩ := List.mem_map.mp stored.1
  rcases finish.exits.2 key _ (OrdMap.get?_eq_some_iff.mpr kept) with earlier | ⟨gone,leaver,leaves,identity⟩
  · refine none assignment survives _ (List.mem_filter.mpr ⟨List.mem_map.mpr ⟨_,OrdMap.get?_eq_some_iff.mp earlier,rfl⟩,stored.2⟩) ?_
    rw [← own,id,identified]
  · have other : gone = name := keyed.id gone leaver name old leaves.found leaves.own listed seated
      (by rw [← identity,← own,id])
    subst other
    have active := keyed.active_iff.mpr ⟨survives,named.trans filed⟩
    rw [leaves.away] at active
    cases active

theorem survivors_apart (keyed : Keyed before waveID tournamentID) (runtime : RuntimeService) :
    ((survivorsOf runtime tournamentID (currentAssignmentsForTournament before waveID tournamentID)).map
      RankedSurvivor.minerID).Nodup := by
  unfold survivorsOf rankedSurvivors
  refine ((List.perm_insertionSort _ _).map _).nodup_iff.mpr ?_
  rw [List.map_map]
  exact keyed.assignments_apart

theorem survivor_rank (finish : Finish waveID tournamentID before synced after) (keyed : Keyed before waveID tournamentID)
    (none : NoSurvivorExits before waveID tournamentID) {assignment : SeatAssignment}
    (survives : assignment ∈ currentAssignmentsForTournament before waveID tournamentID) :
    ∃ i : Nat, (survivorsOf before tournamentID (currentAssignmentsForTournament before waveID tournamentID))[i]? =
      some ⟨assignment.minerID,rowStackAt before tournamentID assignment⟩ ∧
      finishRankOf after waveID assignment.minerID = (i : Int) + 1 := by
  have rows : survivorsOf synced tournamentID (currentAssignmentsForTournament before waveID tournamentID) =
      survivorsOf before tournamentID (currentAssignmentsForTournament before waveID tournamentID) := by
    unfold survivorsOf
    rw [finish.exits.1]
  have listed : (⟨assignment.minerID,rowStackAt before tournamentID assignment⟩ : RankedSurvivor) ∈
      survivorsOf before tournamentID (currentAssignmentsForTournament before waveID tournamentID) := by
    unfold survivorsOf rankedSurvivors
    exact (List.perm_insertionSort _ _).mem_iff.mpr (List.mem_map_of_mem survives)
  obtain ⟨i,found⟩ := List.mem_iff_getElem?.mp listed
  obtain ⟨minerID,entrant,held,current⟩ := mem_currentAssignments.mp survives
  obtain ⟨own,-,-,named,-⟩ := currentAssignment_some current
  have filed := named.trans (keyed.miner minerID entrant held own)
  refine ⟨i,found,?_⟩
  rw [filed]
  refine finish.rank held own ?_ (by omega)
  rw [← filed]
  unfold ranksAt
  rw [rows]
  refine finishRanks_survivor (survivors_apart keyed before) found fun event stored => ?_
  exact exits_clear finish keyed none survives ((List.perm_insertionSort _ _).mem_iff.mp stored)

theorem survivor_ranks (finish : Finish waveID tournamentID before synced after) (keyed : Keyed before waveID tournamentID)
    (none : NoSurvivorExits before waveID tournamentID) {first second : SeatAssignment}
    (survives : first ∈ currentAssignmentsForTournament before waveID tournamentID)
    (survives' : second ∈ currentAssignmentsForTournament before waveID tournamentID) :
    finishRankOf after waveID first.minerID < finishRankOf after waveID second.minerID ↔
      Outranks (rowStackAt before tournamentID) first second := by
  obtain ⟨i,found,rank⟩ := survivor_rank finish keyed none survives
  obtain ⟨j,found',rank'⟩ := survivor_rank finish keyed none survives'
  have sorted := List.pairwise_iff_getElem.mp (survivors_sorted before tournamentID
    (currentAssignmentsForTournament before waveID tournamentID))
  have apart := List.pairwise_iff_getElem.mp (List.pairwise_map.mp (survivors_apart keyed before))
  obtain ⟨bound,at_⟩ := List.getElem?_eq_some_iff.mp found
  obtain ⟨bound',at_'⟩ := List.getElem?_eq_some_iff.mp found'
  rw [rank,rank']
  constructor
  · intro less
    have before_ := sorted i j bound bound' (by omega)
    have differ := apart i j bound bound' (by omega)
    rw [at_,at_'] at before_ differ
    rcases before_ with more | ⟨same,below⟩
    · exact .inl more
    · exact .inr ⟨same,lt_of_le_of_ne below differ⟩
  · intro outranks
    by_contra least
    rcases eq_or_lt_of_le (show j ≤ i by omega) with rfl | less
    · rw [at_] at at_'
      obtain ⟨miner,stack⟩ := RankedSurvivor.mk.inj at_'
      rcases outranks with more | ⟨-,below⟩
      · omega
      · exact absurd miner (ne_of_lt below)
    · have before_ := sorted j i bound' bound less
      rw [at_,at_'] at before_
      rcases before_ with more | ⟨same,below⟩
      · rcases outranks with more' | ⟨same',-⟩
        · dsimp only at more
          omega
        · dsimp only at more
          omega
      · rcases outranks with more' | ⟨-,below'⟩
        · dsimp only at same
          omega
        · exact absurd below (not_le.mpr below')

/-- Where entrants are filed under their miners and no exit of a survivor is stored, a completion ranks its survivors by
their stacks exactly when the stored rows order them so. -/
theorem timeCap_ranks {sum256 : String → Nat} {tableID : String} {state : ActorState} {entry : TournamentRuntime}
    (found : before.tournaments.get? tournamentID = some entry)
    (completes : perform sum256 (.observe tournamentID tableID state) before = (.ok .completed,after)) :
    (Keyed before entry.waveID tournamentID ∧ NoSurvivorExits before entry.waveID tournamentID ∧
      RowsFollow before entry.waveID tournamentID → RankedByStacks entry.waveID tournamentID before after) ∧
    (Keyed before entry.waveID tournamentID ∧ NoSurvivorExits before entry.waveID tournamentID ∧
      RankedByStacks entry.waveID tournamentID before after → RowsFollow before entry.waveID tournamentID) := by
  obtain ⟨other,same,synced,finish⟩ := observe_completed completes
  rw [found] at same
  cases same
  constructor
  · rintro ⟨keyed,none,follow⟩ first survives second survives' outranks
    exact (survivor_ranks finish keyed none survives survives').mpr (follow first survives second survives' outranks)
  · rintro ⟨keyed,none,ranked⟩ first survives second survives' outranks
    exact (survivor_ranks finish keyed none survives survives').mp (ranked first survives second survives' outranks)

end TimeCap

def cappedTable : RuntimeService :=
  performAll (fun _ => 0) [.createWave "w" "rated",.registerMiner "w" "a",.registerMiner "w" "b",.registerMiner "w" "c",
    .lockWave "w",.publishSeats "w",.armTimeCap "tour:w:01"] {}

def playOut (runtime : RuntimeService) (tableID : String) : RuntimeService :=
  match runtime.actors.get? tableID with
  | none => runtime
  | some actor => (perform (fun _ => 0) (.handle tableID ⟨"timeout:" ++ actor.state.phaseID,actor.state.stateSeq,
      .applyPhaseTimeout ⟨actor.state.table.actingSeatNo⟩⟩) (runtime.at {})).2

theorem playOut_run {admits : RuntimeService → Call → Prop} {start runtime : RuntimeService}
    (handles : ∀ runtime tableID envelope, admits runtime (.handle tableID envelope)) (run : Run (fun _ => 0) admits start runtime)
    (tableID : String) : Run (fun _ => 0) admits start (playOut runtime tableID) := by
  unfold playOut
  split
  · exact run
  · exact run.call {} _ (handles _ _ _)

def cappedHand : RuntimeService :=
  playOut (timeOuts (fun _ => 0) "tour:w:01" (List.replicate 7 "tbl:tour:w:01:01") cappedTable) "tbl:tour:w:01:01"

theorem cappedHand_reachable : Reachable (fun _ => 0) cappedHand :=
  playOut_run (fun _ _ _ => trivial)
    (timeOuts_run _ _ (fun _ _ _ => trivial) (fun _ _ _ => trivial) _ (performAll_run _ _ _)) _

def seatOfA : SeatAssignment := ⟨"ent:w:a","a","tbl:tour:w:01:01",1,1⟩

def seatOfB : SeatAssignment := ⟨"ent:w:b","b","tbl:tour:w:01:01",1,2⟩

theorem cappedHand_completion : ((cappedHand.actors.get? "tbl:tour:w:01:01").any fun actor =>
    match perform (fun _ => 0) (.observe "tour:w:01" "tbl:tour:w:01:01" actor.state) (cappedHand.at {}) with
    | (.ok .completed,after) => decide (finishRankOf after "w" "a" = 1 ∧ finishRankOf after "w" "b" = 2)
    | _ => false) = true := by
  decide +kernel

theorem cappedHand_found : ((cappedHand.at {}).tournaments.get? "tour:w:01").any (·.waveID = "w") = true := by decide +kernel

theorem cappedHand_keyed : Keyed (cappedHand.at {}) "w" "tour:w:01" ∧
    exitsOf (cappedHand.at {}) "tour:w:01" = [] := by
  decide +kernel

/-- The rows of the only hand are those of the seating, and the ranks follow them. -/
theorem timeCap_ranks_cappedHand : ∃ state after,
    perform (fun _ => 0) (.observe "tour:w:01" "tbl:tour:w:01:01" state) (cappedHand.at {}) = (.ok .completed,after) ∧
      (RankedByStacks "w" "tour:w:01" (cappedHand.at {}) after → RowsFollow (cappedHand.at {}) "w" "tour:w:01") := by
  obtain ⟨actor,-,ends⟩ := (Option.any_eq_true _ _).mp cappedHand_completion
  obtain ⟨entry,found,named⟩ := (Option.any_eq_true _ _).mp cappedHand_found
  have named := of_decide_eq_true named
  split at ends
  · rename_i after completes
    refine ⟨actor.state,after,completes,fun ranked => ?_⟩
    have ranks := timeCap_ranks found completes
    rw [named] at ranks
    refine ranks.2 ⟨cappedHand_keyed.1,?_,ranked⟩
    intro assignment _ event stored
    rw [cappedHand_keyed.2] at stored
    cases stored
  · cases ends

theorem cappedHand_stacks : seatOfA ∈ currentAssignmentsForTournament (cappedHand.at {}) "w" "tour:w:01" ∧
    seatOfB ∈ currentAssignmentsForTournament (cappedHand.at {}) "w" "tour:w:01" ∧
    stackAt (cappedHand.at {}) seatOfA = 975 ∧ stackAt (cappedHand.at {}) seatOfB = 1025 := by
  decide +kernel

/-- The winner of the only hand finishes behind a miner that has lost in it. -/
theorem capped_winner_second : Reachable (fun _ => 0) cappedHand ∧ ∃ state after,
    perform (fun _ => 0) (.observe "tour:w:01" "tbl:tour:w:01:01" state) (cappedHand.at {}) = (.ok .completed,after) ∧
      ¬RankedByStacks "w" "tour:w:01" (cappedHand.at {}) after := by
  refine ⟨cappedHand_reachable,?_⟩
  obtain ⟨actor,-,ends⟩ := (Option.any_eq_true _ _).mp cappedHand_completion
  obtain ⟨survives,survives',stack,stack'⟩ := cappedHand_stacks
  split at ends
  · rename_i after completes
    obtain ⟨rank,rank'⟩ := of_decide_eq_true ends
    refine ⟨actor.state,after,completes,fun ranked => ?_⟩
    have better := ranked seatOfB survives' seatOfA survives (.inl (by rw [stack,stack']; decide))
    change finishRankOf after "w" "b" < finishRankOf after "w" "a" at better
    rw [rank,rank'] at better
    exact absurd better (by decide)
  · cases ends

end Clawchain.Arena.App
