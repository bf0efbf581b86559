import Clawchain.Arena.App.Disqualified
import Clawchain.Arena.App.Ranks

/-! From the barrier to the completion: what a barrier makes of the entrants of its tournament, which exits it records, and
the ranks a completion gives. -/
namespace Clawchain.Arena.App
open Clawchain.Lib Clawchain.Arena.Table Clawchain.Arena.Hub

structure SameRows (waveID : String) (before after : RuntimeService) : Prop where
  entrants : SameEntrants waveID before after
  seats : after.seats = before.seats
  eliminations : after.eliminations = before.eliminations

def ranksAt (runtime : RuntimeService) (waveID tournamentID : String) (assignments : List SeatAssignment) :
    OrdMap String Int :=
  finishRanks (tournamentEntrantsForCompletion runtime waveID tournamentID) (survivorsOf runtime tournamentID assignments)
    ((exitsOf runtime tournamentID).insertionSort exitsBefore)

section Rows
variable {waveID other tournamentID : String} {α β : Type} {before after : RuntimeService}

theorem SameRows.refl (runtime : RuntimeService) : SameRows waveID runtime runtime := ⟨rfl,rfl,rfl⟩

theorem SameRows.trans (a b c : RuntimeService) (first : SameRows waveID a b) (second : SameRows waveID b c) :
    SameRows waveID a c :=
  ⟨second.entrants.trans first.entrants,second.seats.trans first.seats,second.eliminations.trans first.eliminations⟩

theorem SameRows.of_ok {x : RuntimeM α} (moved : Faulty.Moves (SameRows waveID) x) {a : α} (done : x before = (.ok a,after)) :
    SameRows waveID before after := by
  have same := moved before
  rwa [done] at same

theorem rows_upsertRow : Faulty.Moves (SameRows waveID) upsertRow := fun _ => ⟨rfl,rfl,rfl⟩

theorem rows_given {p : Prop} [Decidable p] {x : RuntimeM Unit} (moved : Faulty.Moves (SameRows waveID) x) :
    Faulty.Moves (SameRows waveID) (Faulty.given p x) := Faulty.Moves.given SameRows.refl moved

theorem rows_updateTournament (name : String) (f : TournamentRuntime → TournamentRuntime) :
    Faulty.Moves (SameRows waveID) (updateTournament name f) := fun _ => ⟨rfl,rfl,rfl⟩

theorem rows_updateWave {f : WaveRuntime → WaveRuntime} (kept : ∀ wave, (f wave).entrants = wave.entrants) :
    Faulty.Moves (SameRows waveID) (updateWave other f) := fun runtime => ⟨same_updateWave kept runtime,rfl,rfl⟩

theorem rows_resetLiveHub (players : Nat) (assignments : List SeatAssignment) :
    Faulty.Moves (SameRows waveID) (resetLiveHub other tournamentID players assignments) :=
  Faulty.Moves.read fun _ => rows_updateWave fun _ => rfl

theorem rows_persistRoundBarrier (name : String) : Faulty.Moves (SameRows waveID) (persistRoundBarrier name) := by
  intro runtime
  unfold persistRoundBarrier
  split
  · exact rows_upsertRow runtime
  · exact .refl _

theorem rows_buildTournamentCompletion (assignments : List SeatAssignment) (reason : CompletionReason) :
    Faulty.Moves (SameRows waveID) (buildTournamentCompletion other tournamentID assignments reason) := by
  have read : Faulty.Moves (SameRows waveID) (storeCall (readCall fun _ => ())) := fun _ => ⟨rfl,rfl,rfl⟩
  refine Faulty.Moves.read fun runtime => ?_
  dsimp only
  split
  · exact fun _ => .refl _
  · exact Faulty.Moves.bind SameRows.trans read fun _ => Faulty.Moves.bind SameRows.trans read fun _ =>
      Faulty.Moves.bind SameRows.trans read fun _ _ => .refl _

theorem SameEntrants.fieldEntrants (same : SameEntrants waveID before after) :
    fieldEntrants after waveID = fieldEntrants before waveID := by
  have entrants (runtime : RuntimeService) : App.fieldEntrants runtime waveID =
      (((runtime.waves.get? waveID).map WaveRuntime.entrants).map fun entrants => entrants.entries.map Prod.snd).getD [] := by
    unfold App.fieldEntrants
    rw [Option.map_map]
    rfl
  rw [entrants,entrants,same]

theorem SameRows.ranksAt (same : SameRows waveID before after) (assignments : List SeatAssignment) :
    ranksAt after waveID tournamentID assignments = ranksAt before waveID tournamentID assignments := by
  unfold App.ranksAt tournamentEntrantsForCompletion survivorsOf exitsOf
  rw [same.entrants.fieldEntrants,same.seats,same.eliminations]

theorem mem_fieldMiners {runtime : RuntimeService} {minerID : String} :
    minerID ∈ fieldMiners runtime waveID ↔ ∃ entrant, entrantOf runtime waveID minerID = some entrant := by
  unfold App.fieldMiners entrantOf
  cases runtime.waves.get? waveID with
  | none => simp
  | some wave => exact OrdMap.mem_keys_iff

theorem fieldMiners_nodup (runtime : RuntimeService) (waveID : String) : (fieldMiners runtime waveID).Nodup := by
  unfold App.fieldMiners
  cases runtime.waves.get? waveID with
  | none => exact List.nodup_nil
  | some wave => exact wave.entrants.keys_nodup

theorem mem_tournamentEntrants {runtime : RuntimeService} {entrant : Entrant} :
    entrant ∈ tournamentEntrantsForCompletion runtime waveID tournamentID ↔
      (∃ minerID, entrantOf runtime waveID minerID = some entrant) ∧ entrant.tournamentID = tournamentID := by
  unfold tournamentEntrantsForCompletion
  rw [(List.perm_insertionSort _ _).mem_iff,List.mem_filter,mem_fieldEntrants,decide_eq_true_eq]

theorem entrantOf_updateEntrant (runtime : RuntimeService) (minerID other : String) (f : Entrant → Entrant) {entrant : Entrant}
    (found : entrantOf runtime waveID minerID = some entrant) :
    entrantOf (updateEntrant waveID minerID f runtime).2 waveID other =
      if other = minerID then some (f entrant) else entrantOf runtime waveID other := by
  change entrantOf { runtime with waves := runtime.waves.modifyAt waveID _ } waveID other = _
  rw [entrantOf_modifyAt,if_pos rfl]
  obtain ⟨wave,held,known⟩ := Option.bind_eq_some_iff.mp found
  unfold entrantOf
  rw [held,Option.bind_some,Option.bind_some,OrdMap.get?_insert,known]
  rfl

end Rows

section Complete
variable {waveID tournamentID : String} {before after : RuntimeService} {assignments : List SeatAssignment}
  {reason : CompletionReason}

def finishing (tournamentID : String) (ranks : OrdMap String Int) (stages : OrdMap String String)
    (champion : Option String) (minerID : String) (entrant : Entrant) : Entrant :=
  if entrant.tournamentID = tournamentID then completedEntrant ranks stages champion minerID entrant else entrant

theorem finishEntrant_ok {ranks : OrdMap String Int} {stages : OrdMap String String} {champion : Option String}
    {minerID : String} (done : finishEntrant waveID tournamentID ranks stages champion minerID before = (.ok (),after)) :
    (entrantOf after waveID minerID = (entrantOf before waveID minerID).map
      (finishing tournamentID ranks stages champion minerID)) ∧
    ∀ other, other ≠ minerID → entrantOf after waveID other = entrantOf before waveID other := by
  rw [finishEntrant,Faulty.read_run] at done
  cases found : entrantOf before waveID minerID with
  | none =>
    rw [found] at done
    cases done
    exact ⟨found,fun _ _ => rfl⟩
  | some entrant =>
    rw [found] at done
    dsimp only at done
    by_cases foreign : entrant.tournamentID ≠ tournamentID
    · rw [if_pos foreign] at done
      cases done
      rw [found,Option.map_some,finishing,if_neg foreign]
      exact ⟨rfl,fun _ _ => rfl⟩
    · rw [if_neg foreign] at done
      obtain ⟨_,middle,written,updated⟩ := Faulty.bind_ok done
      have same (name : String) : entrantOf middle waveID name = entrantOf before waveID name :=
        (SameRows.of_ok rows_upsertRow written).entrants.entrantOf_eq
      have put (name : String) := entrantOf_updateEntrant middle minerID name (completedEntrant ranks stages champion minerID)
        ((same minerID).trans found)
      rw [updated] at put
      rw [Option.map_some,finishing,if_pos (not_not.mp foreign)]
      refine ⟨(put minerID).trans (if_pos rfl),fun other differ => ?_⟩
      rw [put other,if_neg differ,same]

theorem completeTournament_ok {roundNo : Nat}
    (done : completeTournament waveID tournamentID assignments roundNo reason before = (.ok (),after)) :
    ∃ stages, ∀ minerID, entrantOf after waveID minerID = (entrantOf before waveID minerID).map
      (finishing tournamentID (ranksAt before waveID tournamentID assignments) stages (championOf assignments) minerID) := by
  unfold completeTournament at done
  obtain ⟨_,s₁,row,done⟩ := Faulty.bind_ok done
  obtain ⟨_,s₂,completed,done⟩ := Faulty.bind_ok done
  obtain ⟨completion,s₃,built,done⟩ := Faulty.bind_ok done
  obtain ⟨_,s₄,row',done⟩ := Faulty.bind_ok done
  obtain ⟨_,s₅,row'',done⟩ := Faulty.bind_ok done
  obtain ⟨_,s₆,updated,done⟩ := Faulty.bind_ok done
  obtain ⟨_,s₇,finished,done⟩ := Faulty.bind_ok done
  obtain ⟨_,s₈,rated,done⟩ := Faulty.bind_ok done
  obtain ⟨_,s₉,removed,done⟩ := Faulty.bind_ok done
  have toBuild : SameRows waveID before s₂ := SameRows.trans _ _ _ (SameRows.of_ok rows_upsertRow row)
    (SameRows.of_ok (Faulty.Moves.read fun _ => rows_updateTournament _ _) completed)
  have toLoop : SameRows waveID s₂ s₆ :=
    SameRows.trans _ _ _ (SameRows.of_ok (rows_buildTournamentCompletion _ _) built)
      (SameRows.trans _ _ _ (SameRows.of_ok rows_upsertRow row')
        (SameRows.trans _ _ _ (SameRows.of_ok (rows_given rows_upsertRow) row'')
          (SameRows.of_ok (rows_updateTournament _ _) updated)))
  have fromLoop : SameEntrants waveID s₇ after := by
    have rest : SameEntrants waveID s₇ s₉ := by
      refine Eq.trans ?_ (SameRows.of_ok (rows_given rows_upsertRow) rated).entrants
      cases removed
      rfl
    refine Eq.trans ?_ rest
    refine (SameRows.of_ok ?_ done).entrants
    exact rows_updateWave fun _ => rfl
  rw [Faulty.read_run] at finished
  have visits (minerID : String) (s t : RuntimeService) (_ : True)
      (same : entrantOf s waveID minerID = entrantOf s₆ waveID minerID)
      (done : finishEntrant waveID tournamentID completion.ranks completion.stages (championOf assignments) minerID s =
        (.ok (),t)) :
      True ∧ entrantOf t waveID minerID = (entrantOf s₆ waveID minerID).map
        (finishing tournamentID completion.ranks completion.stages (championOf assignments) minerID) ∧
      ∀ other, other ≠ minerID → entrantOf t waveID other = entrantOf s waveID other :=
    ⟨trivial,same ▸ (finishEntrant_ok done).1,(finishEntrant_ok done).2⟩
  obtain ⟨-,visited,unvisited⟩ := @Faulty.each_visited _ _ _ _ _ (fun runtime minerID => entrantOf runtime waveID minerID)
    (fun _ => True) (fun minerID entrant => entrant = (entrantOf s₆ waveID minerID).map
      (finishing tournamentID completion.ranks completion.stages (championOf assignments) minerID)) s₆ visits _
    (fieldMiners_nodup s₆ waveID) _ _ trivial (fun _ _ => rfl) finished
  have finishes (minerID : String) : entrantOf after waveID minerID = (entrantOf before waveID minerID).map
      (finishing tournamentID completion.ranks completion.stages (championOf assignments) minerID) := by
    rw [fromLoop.entrantOf_eq,← toBuild.entrants.entrantOf_eq,← toLoop.entrants.entrantOf_eq]
    by_cases listed : minerID ∈ fieldMiners s₆ waveID
    · exact visited minerID listed
    · rw [unvisited minerID listed]
      cases found : entrantOf s₆ waveID minerID with
      | none => rfl
      | some entrant => exact absurd (mem_fieldMiners.mpr ⟨entrant,found⟩) listed
  refine ⟨completion.stages,fun minerID => (finishes minerID).trans ?_⟩
  obtain ⟨empty,-⟩ | ranks := buildTournamentCompletion_ranks built
  · cases found : entrantOf before waveID minerID with
    | none => rfl
    | some entrant =>
      have foreign : entrant.tournamentID ≠ tournamentID := fun own => by
        have inside := mem_tournamentEntrants.mpr ⟨⟨minerID,(toBuild.entrants.entrantOf_eq).trans found⟩,own⟩
        rw [empty] at inside
        cases inside
      rw [Option.map_some,Option.map_some,finishing,finishing,if_neg foreign,if_neg foreign]
  · rw [← toBuild.ranksAt,App.ranksAt,← ranks]

end Complete

def syncing (tournamentID : String) (active : OrdMap String SeatAssignment) (disqualified : Bool) (minerID : String)
    (entrant : Entrant) : Entrant :=
  if entrant.tournamentID = tournamentID then match active.get? minerID with
    | some assignment => playingAt assignment entrant
    | none => leftField disqualified entrant
  else entrant

structure Leaver (runtime : RuntimeService) (waveID tournamentID : String) (active : OrdMap String SeatAssignment)
    (minerID : String) (entrant : Entrant) : Prop where
  found : entrantOf runtime waveID minerID = some entrant
  own : entrant.tournamentID = tournamentID
  away : active.get? minerID = none
  named : entrant.id ≠ ""
  table : entrant.tableID ≠ ""
  seat : entrant.seatID ≠ ""

def Exits (p : EliminationEvent → Prop) (before after : RuntimeService) : Prop :=
  after.seats = before.seats ∧
    ∀ id event, after.eliminations.get? id = some event → before.eliminations.get? id = some event ∨ p event

section Sync
variable {waveID tournamentID minerID : String} {before after : RuntimeService} {assignments : List SeatAssignment}
  {active : OrdMap String SeatAssignment} {p q : EliminationEvent → Prop}

theorem Exits.refl (runtime : RuntimeService) : Exits p runtime runtime := ⟨rfl,fun _ _ held => .inl held⟩

theorem Exits.trans (a b c : RuntimeService) (first : Exits p a b) (second : Exits p b c) : Exits p a c := by
  refine ⟨second.1.trans first.1,fun id event held => ?_⟩
  rcases second.2 id event held with held | recorded
  · exact first.2 id event held
  · exact .inr recorded

theorem Exits.mono (exits : Exits p before after) (weaker : ∀ event, p event → q event) : Exits q before after :=
  ⟨exits.1,fun id event held => (exits.2 id event held).imp_right (weaker event)⟩

theorem exits_upsertRow : Faulty.Moves (Exits p) upsertRow := fun _ => ⟨rfl,fun _ _ held => .inl held⟩

theorem exits_appendFieldExitEvent (entrant : Entrant) (stageReached : String) :
    Faulty.Moves (Exits fun event => event.entrantID = entrant.id ∧ entrant.id ≠ "" ∧ entrant.tableID ≠ "" ∧ entrant.seatID ≠ "")
      (appendFieldExitEvent tournamentID entrant stageReached) := by
  unfold appendFieldExitEvent
  split
  · exact fun _ => .refl _
  · rename_i whole
    rw [not_or,not_or] at whole
    refine Faulty.Moves.read fun _ => Faulty.Moves.bind Exits.trans exits_upsertRow fun _ runtime => ⟨rfl,fun id event held => ?_⟩
    change (runtime.eliminations.insert _ _).get? id = some event at held
    rw [OrdMap.get?_insert] at held
    split_ifs at held
    · cases held
      exact .inr ⟨rfl,whole⟩
    · exact .inl held

theorem exits_recordExit (disqualified : Bool) (entrant : Entrant) :
    Faulty.Moves (Exits fun event => event.entrantID = entrant.id ∧ entrant.id ≠ "" ∧ entrant.tableID ≠ "" ∧ entrant.seatID ≠ "")
      (recordExit tournamentID minerID disqualified entrant) := by
  unfold recordExit
  split
  · exact fun _ => .refl _
  · refine Faulty.Moves.bind Exits.trans (exits_appendFieldExitEvent _ _) fun _ => ?_
    split
    · exact Faulty.Moves.bind Exits.trans exits_upsertRow fun _ _ => ⟨rfl,fun _ _ held => .inl held⟩
    · exact fun _ => .refl _

theorem exits_putEntrant (entrant : Entrant) (change : Entrant → Entrant) :
    Faulty.Moves (Exits p) (putEntrant waveID minerID entrant change) := by
  unfold putEntrant
  split
  · exact fun _ => .refl _
  · exact Faulty.Moves.bind Exits.trans exits_upsertRow fun _ _ => ⟨rfl,fun _ _ held => .inl held⟩

theorem Exits.of_ok {α : Type} {x : RuntimeM α} (moved : Faulty.Moves (Exits p) x) {a : α} (done : x before = (.ok a,after)) :
    Exits p before after := by
  have exits := moved before
  rwa [done] at exits

theorem putEntrant_ok {entrant : Entrant} {change : Entrant → Entrant} (found : entrantOf before waveID minerID = some entrant)
    (done : putEntrant waveID minerID entrant change before = (.ok (),after)) :
    entrantOf after waveID minerID = some (change entrant) := by
  unfold putEntrant at done
  split_ifs at done with same
  · cases done
    rw [same,found]
  · obtain ⟨_,middle,written,updated⟩ := Faulty.bind_ok done
    have kept : entrantOf middle waveID minerID = entrantOf before waveID minerID :=
      (SameRows.of_ok rows_upsertRow written).entrants.entrantOf_eq
    have put := entrantOf_updateEntrant middle minerID minerID change (kept.trans found)
    rw [updated,if_pos rfl] at put
    exact put

theorem syncEntrant_ok (done : syncEntrant waveID tournamentID active minerID before = (.ok (),after)) :
    entrantOf after waveID minerID = (entrantOf before waveID minerID).map
      (syncing tournamentID active (pendingAt before tournamentID minerID) minerID) ∧
    Exits (fun event => ∃ entrant, Leaver before waveID tournamentID active minerID entrant ∧ event.entrantID = entrant.id)
      before after := by
  rw [syncEntrant,Faulty.read_run] at done
  cases found : entrantOf before waveID minerID with
  | none =>
    rw [found] at done
    cases done
    exact ⟨found,.refl _⟩
  | some entrant =>
    rw [found] at done
    dsimp only at done
    rw [Option.map_some,syncing]
    by_cases foreign : entrant.tournamentID ≠ tournamentID
    · rw [if_pos foreign] at done
      cases done
      rw [if_neg foreign]
      exact ⟨found,.refl _⟩
    · rw [if_neg foreign] at done
      rw [if_pos (not_not.mp foreign)]
      cases seat : active.get? minerID with
      | some assignment =>
        rw [seat] at done
        exact ⟨putEntrant_ok found done,Exits.of_ok (exits_putEntrant _ _) done⟩
      | none =>
        rw [seat] at done
        obtain ⟨_,middle,recorded,put⟩ := Faulty.bind_ok done
        have kept : entrantOf middle waveID minerID = some entrant := by
          unfold entrantOf at found ⊢
          rwa [(recordExit_ok recorded).1]
        refine ⟨putEntrant_ok kept put,?_⟩
        refine Exits.trans _ _ _ ((Exits.of_ok (exits_recordExit _ _) recorded).mono ?_) (Exits.of_ok (exits_putEntrant _ _) put)
        rintro event ⟨own,named,table,seated⟩
        exact ⟨entrant,⟨found,not_not.mp foreign,seat,named,table,seated⟩,own⟩

theorem syncActiveEntrants_ok (done : syncActiveEntrants waveID tournamentID assignments before = (.ok (),after)) :
    (∀ minerID, entrantOf after waveID minerID = (entrantOf before waveID minerID).map
      (syncing tournamentID (activeByMiner assignments) (pendingAt before tournamentID minerID) minerID)) ∧
    Exits (fun event => ∃ minerID entrant, Leaver before waveID tournamentID (activeByMiner assignments) minerID entrant ∧
      event.entrantID = entrant.id) before after := by
  obtain ⟨_,start,updated,synced⟩ := Faulty.bind_ok done
  have waves : start.waves = before.waves ∧ start.seats = before.seats ∧ start.eliminations = before.eliminations := by
    cases updated
    exact ⟨rfl,rfl,rfl⟩
  have entrants (minerID : String) : entrantOf start waveID minerID = entrantOf before waveID minerID := by
    unfold entrantOf
    rw [waves.1]
  have pending (minerID : String) : pendingAt start tournamentID minerID = pendingAt before tournamentID minerID := by
    cases updated
    unfold pendingAt
    dsimp only
    rw [OrdMap.get?_modifyAt,if_pos rfl]
    cases before.tournaments.get? tournamentID <;> rfl
  rw [Faulty.read_run] at synced
  set leaves : EliminationEvent → Prop := fun event => ∃ minerID entrant,
    Leaver before waveID tournamentID (activeByMiner assignments) minerID entrant ∧ event.entrantID = entrant.id
  have visits (minerID : String) (s t : RuntimeService) (exits : Exits leaves start s)
      (same : (entrantOf s waveID minerID,pendingAt s tournamentID minerID) =
        (entrantOf start waveID minerID,pendingAt start tournamentID minerID))
      (done : syncEntrant waveID tournamentID (activeByMiner assignments) minerID s = (.ok (),t)) :
      Exits leaves start t ∧ entrantOf t waveID minerID = (entrantOf before waveID minerID).map
        (syncing tournamentID (activeByMiner assignments) (pendingAt before tournamentID minerID) minerID) ∧
      ∀ other, other ≠ minerID → (entrantOf t waveID other,pendingAt t tournamentID other) =
        (entrantOf s waveID other,pendingAt s tournamentID other) := by
    obtain ⟨own,waits⟩ := Prod.mk.inj same
    obtain ⟨made,recorded⟩ := syncEntrant_ok done
    rw [own,waits,entrants,pending] at made
    refine ⟨exits.trans _ _ _ (recorded.mono ?_),made,fun other differ => ?_⟩
    · rintro event ⟨entrant,leaver,named⟩
      exact ⟨minerID,entrant,{ leaver with found := (own.trans (entrants minerID)) ▸ leaver.found },named⟩
    · have kept : Untouched waveID tournamentID other s _ := untouched_syncEntrant differ.symm (activeByMiner assignments) s
      rw [done] at kept
      rw [kept.1,kept.2]
  obtain ⟨exits,visited,unvisited⟩ := @Faulty.each_visited _ _ _ _ _
    (fun runtime minerID => (entrantOf runtime waveID minerID,pendingAt runtime tournamentID minerID)) (Exits leaves start)
    (fun minerID view => view.1 = (entrantOf before waveID minerID).map
      (syncing tournamentID (activeByMiner assignments) (pendingAt before tournamentID minerID) minerID)) start visits _
    (fieldMiners_nodup start waveID) _ _ (.refl _) (fun _ _ => rfl) synced
  constructor
  · intro minerID
    by_cases listed : minerID ∈ fieldMiners start waveID
    · exact visited minerID listed
    · have same := congrArg Prod.fst (unvisited minerID listed)
      dsimp only at same
      rw [same,entrants]
      cases found : entrantOf before waveID minerID with
      | none => rfl
      | some entrant => exact absurd (mem_fieldMiners.mpr ⟨entrant,(entrants minerID).trans found⟩) listed
  · refine ⟨exits.1.trans waves.2.1,fun id event held => ?_⟩
    rw [← waves.2.2]
    exact exits.2 id event held

end Sync

structure SameBarrier (waveID : String) (before after : RuntimeService) : Prop extends SameRows waveID before after where
  actors : after.actors = before.actors
  tournaments : after.tournaments = before.tournaments

structure Finish (waveID tournamentID : String) (before synced after : RuntimeService) : Prop where
  entrants : ∀ minerID, entrantOf synced waveID minerID = (entrantOf before waveID minerID).map (syncing tournamentID
    (activeByMiner (currentAssignmentsForTournament before waveID tournamentID)) (pendingAt before tournamentID minerID) minerID)
  exits : Exits (fun event => ∃ minerID entrant, Leaver before waveID tournamentID
    (activeByMiner (currentAssignmentsForTournament before waveID tournamentID)) minerID entrant ∧ event.entrantID = entrant.id)
    before synced
  finished : ∃ stages, ∀ minerID, entrantOf after waveID minerID = (entrantOf synced waveID minerID).map
    (finishing tournamentID (ranksAt synced waveID tournamentID (currentAssignmentsForTournament before waveID tournamentID))
      stages (championOf (currentAssignmentsForTournament before waveID tournamentID)) minerID)

section Completed
variable {waveID tournamentID tableID : String} {before middle after : RuntimeService}

theorem SameBarrier.assignments (same : SameBarrier waveID before after) :
    currentAssignmentsForTournament after waveID tournamentID = currentAssignmentsForTournament before waveID tournamentID := by
  unfold currentAssignmentsForTournament
  have current (entrant : Entrant) : currentAssignment after tournamentID entrant = currentAssignment before tournamentID entrant := by
    unfold currentAssignment
    rw [same.actors,same.tournaments]
  rw [same.entrants.fieldEntrants,funext current]

theorem SameBarrier.finish (same : SameBarrier waveID before middle) {synced : RuntimeService}
    (finish : Finish waveID tournamentID middle synced after) : Finish waveID tournamentID before synced after := by
  obtain ⟨entrants,exits,finished⟩ := finish
  have pending (minerID : String) : pendingAt middle tournamentID minerID = pendingAt before tournamentID minerID := by
    unfold pendingAt
    rw [same.tournaments]
  rw [same.assignments] at exits finished
  refine ⟨fun minerID => ?_,⟨exits.1.trans same.seats,fun id event held => ?_⟩,finished⟩
  · rw [entrants,pending,same.assignments,same.entrants.entrantOf_eq]
  · rw [← same.eliminations]
    refine (exits.2 id event held).imp_right ?_
    rintro ⟨minerID,entrant,leaver,own⟩
    exact ⟨minerID,entrant,{ leaver with found := same.entrants.entrantOf_eq.symm.trans leaver.found },own⟩

theorem closeRound_completed (done : closeRound waveID tournamentID before = (.ok .completed,after)) :
    ∃ synced, Finish waveID tournamentID before synced after := by
  rw [closeRound,Faulty.read_run] at done
  dsimp only at done
  obtain ⟨_,synced,syncs,done⟩ := Faulty.bind_ok done
  obtain ⟨_,middle,hub,done⟩ := Faulty.bind_ok done
  rw [Faulty.read_run] at done
  generalize completionReason _ _ _ = ends at done
  cases ends with
  | some reason =>
    obtain ⟨_,finished,completes,done⟩ := Faulty.bind_ok done
    cases done
    have same : SameRows waveID synced middle := SameRows.of_ok (rows_resetLiveHub _ _) hub
    obtain ⟨entrants,exits⟩ := syncActiveEntrants_ok syncs
    obtain ⟨stages,ends⟩ := completeTournament_ok completes
    refine ⟨synced,entrants,exits,stages,fun minerID => ?_⟩
    rw [ends,same.ranksAt,same.entrants.entrantOf_eq]
  | none =>
    obtain ⟨_,_,_,done⟩ := Faulty.bind_ok done
    obtain ⟨_,_,_,done⟩ := Faulty.bind_ok done
    obtain ⟨_,_,_,done⟩ := Faulty.bind_ok done
    obtain ⟨_,_,_,done⟩ := Faulty.bind_ok done
    cases done

theorem advanceClosedTable_completed (done : advanceClosedTable waveID tournamentID tableID before = (.ok .completed,after)) :
    ∃ synced, Finish waveID tournamentID before synced after := by
  rw [advanceClosedTable,Faulty.read_run] at done
  cases hub : (before.waves.get? waveID).bind WaveRuntime.liveHub with
  | none =>
    rw [hub] at done
    cases done
  | some liveHub =>
    rw [hub] at done
    obtain ⟨_,marked,marks,done⟩ := Faulty.bind_ok done
    obtain ⟨_,middle,persists,done⟩ := Faulty.bind_ok done
    have same : SameBarrier waveID before middle := by
      have rows : SameRows waveID before middle := by
        refine SameRows.trans _ _ _ ?_ (SameRows.of_ok (rows_persistRoundBarrier _) persists)
        refine SameRows.of_ok ?_ marks
        exact rows_updateWave fun _ => rfl
      have row : middle.actors = marked.actors ∧ middle.tournaments = marked.tournaments := by
        unfold persistRoundBarrier at persists
        split_ifs at persists
        · have kept : Faulty.Moves (fun a b : RuntimeService => b.actors = a.actors ∧ b.tournaments = a.tournaments) upsertRow :=
            fun _ => ⟨rfl,rfl⟩
          have held := kept marked
          rwa [persists] at held
        · cases persists
          exact ⟨rfl,rfl⟩
      cases marks
      exact ⟨rows,row.1,row.2⟩
    split_ifs at done
    · obtain ⟨synced,finish⟩ := closeRound_completed done
      exact ⟨synced,same.finish finish⟩
    · cases done

theorem observe_completed {sum256 : String → Nat} {state : ActorState}
    (done : perform sum256 (.observe tournamentID tableID state) before = (.ok .completed,after)) :
    ∃ entry, before.tournaments.get? tournamentID = some entry ∧
      ∃ synced, Finish entry.waveID tournamentID before synced after := by
  change onSubmitCommitted tournamentID tableID state before = (.ok .completed,after) at done
  rw [onSubmitCommitted,Faulty.read_run] at done
  cases found : before.tournaments.get? tournamentID with
  | none =>
    rw [found] at done
    cases done
  | some entry =>
    rw [found] at done
    dsimp only at done
    rw [postActorMutation,Faulty.read_run] at done
    refine ⟨entry,rfl,?_⟩
    cases actor : before.actors.get? tableID with
    | none =>
      rw [actor] at done
      cases done
    | some _ =>
      rw [actor] at done
      dsimp only at done
      split_ifs at done
      · obtain ⟨advance,closed,advances,done⟩ := Faulty.bind_ok done
        rw [Faulty.read_run] at done
        have ended : advance = .completed ∧ SameRows entry.waveID closed after := by
          split_ifs at done
          · cases done
            exact ⟨rfl,.refl _⟩
          · obtain ⟨_,last,row,done⟩ := Faulty.bind_ok done
            cases done
            exact ⟨rfl,SameRows.of_ok rows_upsertRow row⟩
        obtain ⟨rfl,same⟩ := ended
        obtain ⟨synced,finish⟩ := advanceClosedTable_completed advances
        obtain ⟨stages,ends⟩ := finish.finished
        exact ⟨synced,finish.entrants,finish.exits,stages,fun minerID => same.entrants.entrantOf_eq.trans (ends minerID)⟩
      · obtain ⟨_,_,_,done⟩ := Faulty.bind_ok done
        obtain ⟨_,_,_,done⟩ := Faulty.bind_ok done
        cases done

end Completed

structure Keyed (runtime : RuntimeService) (waveID tournamentID : String) : Prop where
  miner : ∀ minerID entrant, entrantOf runtime waveID minerID = some entrant → entrant.tournamentID = tournamentID →
    entrant.minerID = minerID
  id : ∀ minerID entrant other entrant', entrantOf runtime waveID minerID = some entrant → entrant.tournamentID = tournamentID →
    entrantOf runtime waveID other = some entrant' → entrant'.tournamentID = tournamentID → entrant.id = entrant'.id →
      minerID = other

section Keyed
variable {waveID tournamentID : String} {runtime before synced after : RuntimeService}
variable {minerID : String} {entrant : Entrant}

def filedEntrants (runtime : RuntimeService) (waveID : String) : List (String × Entrant) :=
  ((runtime.waves.get? waveID).map fun wave => wave.entrants.entries).getD []

theorem mem_filedEntrants :
    (minerID,entrant) ∈ filedEntrants runtime waveID ↔ entrantOf runtime waveID minerID = some entrant := by
  unfold filedEntrants entrantOf
  cases runtime.waves.get? waveID with
  | none => simp
  | some wave => exact OrdMap.get?_eq_some_iff.symm

theorem keyed_iff : Keyed runtime waveID tournamentID ↔ ∀ filed ∈ filedEntrants runtime waveID,
    filed.2.tournamentID = tournamentID → filed.2.minerID = filed.1 ∧ ∀ other ∈ filedEntrants runtime waveID,
      other.2.tournamentID = tournamentID → filed.2.id = other.2.id → filed.1 = other.1 := by
  constructor
  · rintro ⟨miner,id⟩ ⟨name,entrant⟩ inside own
    have found := mem_filedEntrants.mp inside
    exact ⟨miner name entrant found own,fun other inside' => id name entrant other.1 other.2 found own (mem_filedEntrants.mp inside')⟩
  · intro filed
    constructor
    · intro name entrant found own
      exact (filed (name,entrant) (mem_filedEntrants.mpr found) own).1
    · intro name entrant other entrant' found own found'
      exact (filed (name,entrant) (mem_filedEntrants.mpr found) own).2 (other,entrant') (mem_filedEntrants.mpr found')

instance : Decidable (Keyed runtime waveID tournamentID) := decidable_of_iff _ keyed_iff.symm

theorem Keyed.apart (keyed : Keyed runtime waveID tournamentID) : (fieldEntrants runtime waveID).Pairwise fun first second =>
    first.tournamentID = tournamentID → second.tournamentID = tournamentID →
      first.minerID ≠ second.minerID ∧ first.id ≠ second.id := by
  obtain ⟨miner,id⟩ := keyed
  unfold entrantOf at miner id
  unfold fieldEntrants
  cases held : runtime.waves.get? waveID with
  | none => exact List.Pairwise.nil
  | some wave =>
    rw [held] at miner id
    refine List.pairwise_map.mpr (wave.entrants.sorted.imp_of_mem ?_)
    rintro ⟨name,first⟩ ⟨name',second⟩ inside inside' below own own'
    have known := OrdMap.get?_eq_some_iff.mpr inside
    have known' := OrdMap.get?_eq_some_iff.mpr inside'
    have differ : name ≠ name' := ne_of_lt below
    refine ⟨fun same => differ ?_,fun same => differ (id name first name' second known own known' own' same)⟩
    rw [← miner name first known own,← miner name' second known' own',same]

theorem Keyed.entrants_apart (keyed : Keyed runtime waveID tournamentID) :
    ((tournamentEntrantsForCompletion runtime waveID tournamentID).map Entrant.minerID).Nodup ∧
      ((tournamentEntrantsForCompletion runtime waveID tournamentID).map Entrant.id).Nodup := by
  have own : ((fieldEntrants runtime waveID).filter (·.tournamentID = tournamentID)).Pairwise fun first second =>
      first.minerID ≠ second.minerID ∧ first.id ≠ second.id := by
    rw [List.pairwise_filter]
    exact keyed.apart.imp fun apart first second => apart (by simpa using first) (by simpa using second)
  have perm := List.perm_insertionSort minerBefore ((fieldEntrants runtime waveID).filter (·.tournamentID = tournamentID))
  exact ⟨(perm.map _).nodup_iff.mpr (List.pairwise_map.mpr (own.imp And.left)),
    (perm.map _).nodup_iff.mpr (List.pairwise_map.mpr (own.imp And.right))⟩

theorem mem_currentAssignments {assignment : SeatAssignment} :
    assignment ∈ currentAssignmentsForTournament runtime waveID tournamentID ↔ ∃ minerID entrant,
      entrantOf runtime waveID minerID = some entrant ∧ currentAssignment runtime tournamentID entrant = some assignment := by
  unfold currentAssignmentsForTournament
  rw [(List.perm_insertionSort _ _).mem_iff,List.mem_filterMap]
  constructor
  · rintro ⟨entrant,inside,current⟩
    obtain ⟨minerID,found⟩ := mem_fieldEntrants.mp inside
    exact ⟨minerID,entrant,found,current⟩
  · rintro ⟨minerID,entrant,found,current⟩
    exact ⟨entrant,mem_fieldEntrants.mpr ⟨minerID,found⟩,current⟩

theorem Keyed.assignments_apart (keyed : Keyed runtime waveID tournamentID) :
    ((currentAssignmentsForTournament runtime waveID tournamentID).map SeatAssignment.minerID).Nodup := by
  unfold currentAssignmentsForTournament
  refine ((List.perm_insertionSort _ _).map _).nodup_iff.mpr (List.pairwise_map.mpr ?_)
  rw [List.pairwise_filterMap]
  refine keyed.apart.imp ?_
  intro first second apart assignment current other current'
  obtain ⟨own,-,-,miner,-⟩ := currentAssignment_some current
  obtain ⟨own',-,-,miner',-⟩ := currentAssignment_some current'
  rw [miner,miner']
  exact (apart own own').1

theorem Keyed.active_iff (keyed : Keyed runtime waveID tournamentID) {assignment : SeatAssignment} :
    (activeByMiner (currentAssignmentsForTournament runtime waveID tournamentID)).get? minerID = some assignment ↔
      assignment ∈ currentAssignmentsForTournament runtime waveID tournamentID ∧ assignment.minerID = minerID := by
  unfold activeByMiner
  rw [OrdMap.get?_ofList (by rw [List.map_map]; exact keyed.assignments_apart),List.mem_map]
  constructor
  · rintro ⟨other,inside,same⟩
    obtain ⟨own,rfl⟩ := Prod.mk.inj same
    exact ⟨inside,own⟩
  · rintro ⟨inside,rfl⟩
    exact ⟨assignment,inside,rfl⟩

theorem syncing_kept (active : OrdMap String SeatAssignment) (disqualified : Bool) (minerID : String) (entrant : Entrant) :
    (syncing tournamentID active disqualified minerID entrant).tournamentID = entrant.tournamentID ∧
      (syncing tournamentID active disqualified minerID entrant).minerID = entrant.minerID ∧
      (syncing tournamentID active disqualified minerID entrant).id = entrant.id := by
  unfold syncing
  split
  · split
    · exact ⟨rfl,rfl,rfl⟩
    · exact ⟨rfl,rfl,rfl⟩
  · exact ⟨rfl,rfl,rfl⟩

theorem Finish.entrant_before (finish : Finish waveID tournamentID before synced after)
    (found : entrantOf synced waveID minerID = some entrant) : ∃ old, entrantOf before waveID minerID = some old ∧
      entrant.tournamentID = old.tournamentID ∧ entrant.minerID = old.minerID ∧ entrant.id = old.id := by
  rw [finish.entrants] at found
  obtain ⟨old,held,rfl⟩ := Option.map_eq_some_iff.mp found
  exact ⟨old,held,syncing_kept _ _ _ _⟩

theorem Finish.keyed (finish : Finish waveID tournamentID before synced after) (keyed : Keyed before waveID tournamentID) :
    Keyed synced waveID tournamentID := by
  constructor
  · intro minerID entrant found own
    obtain ⟨old,held,tournament,miner,-⟩ := finish.entrant_before found
    rw [miner]
    exact keyed.miner minerID old held (tournament ▸ own)
  · intro minerID entrant other entrant' found own found' own' same
    obtain ⟨old,held,tournament,-,id⟩ := finish.entrant_before found
    obtain ⟨old',held',tournament',-,id'⟩ := finish.entrant_before found'
    exact keyed.id minerID old other old' held (tournament ▸ own) held' (tournament' ▸ own') (by rw [← id,← id',same])

def finishRankOf (runtime : RuntimeService) (waveID minerID : String) : Int :=
  ((entrantOf runtime waveID minerID).map Entrant.finishRank).getD 0

theorem Finish.rank (finish : Finish waveID tournamentID before synced after)
    (found : entrantOf before waveID minerID = some entrant) (own : entrant.tournamentID = tournamentID) {rank : Int}
    (ranked : (ranksAt synced waveID tournamentID (currentAssignmentsForTournament before waveID tournamentID)).get? minerID =
      some rank) (positive : 0 < rank) : finishRankOf after waveID minerID = rank := by
  obtain ⟨stages,finished⟩ := finish.finished
  unfold finishRankOf
  rw [finished,finish.entrants,found,Option.map_some,Option.map_some,Option.map_some,Option.getD_some,finishing,
    if_pos ((syncing_kept _ _ _ _).1.trans own),completedEntrant]
  dsimp only
  rw [ranked,Option.getD_some,if_pos positive]

end Keyed

end Clawchain.Arena.App
