import Clawchain.Arena.App.TimeCap

/-! Entrants removed before the start get no seat in the play, and are ranked among those that left it. -/
namespace Clawchain.Arena.App
open Clawchain.Lib Clawchain.Arena.Table Clawchain.Arena.Hub

/-- An entrant is filed under its miner, if it has one, and holds no seat when it was removed before the start. -/
def Filed (waveID : String) (runtime : RuntimeService) : Prop := ∀ minerID entrant,
  entrantOf runtime waveID minerID = some entrant → (entrant.minerID = minerID ∨ entrant.minerID = "") ∧
    (entrant.registrationState = .removedBeforeStart → entrant.tableID = "")

section Filed
variable {waveID minerID : String} {before after : RuntimeService}

theorem Filed.same (filed : Filed waveID before) (same : SameEntrants waveID before after) : Filed waveID after := by
  intro minerID entrant found
  rw [same.entrantOf_eq] at found
  exact filed minerID entrant found

theorem Change.filed {syncs : Prop} {tournamentID : String} {f : Entrant → Entrant} {entrant : Entrant}
    (change : Change syncs before waveID tournamentID minerID f) (filed : (entrant.minerID = minerID ∨ entrant.minerID = "") ∧
      (entrant.registrationState = .removedBeforeStart → entrant.tableID = "")) :
    ((f entrant).minerID = minerID ∨ (f entrant).minerID = "") ∧
      ((f entrant).registrationState = .removedBeforeStart → (f entrant).tableID = "") := by
  cases change with
  | seated assignment plan => exact ⟨filed.1,fun removed => by cases removed⟩
  | cleared => exact ⟨filed.1,fun _ => rfl⟩
  | removed => exact ⟨filed.1,fun _ => rfl⟩
  | playing assignment => exact ⟨filed.1,fun removed => by cases removed⟩
  | eliminated => exact ⟨filed.1,fun _ => rfl⟩
  | disqualified barrier carriedOut => exact ⟨filed.1,fun _ => rfl⟩
  | finished ranks stages champion => exact ⟨filed.1,fun _ => rfl⟩

theorem filed_getD {entrant : Option Entrant} (filed : ∀ held, entrant = some held → (held.minerID = minerID ∨ held.minerID = "") ∧
      (held.registrationState = .removedBeforeStart → held.tableID = "")) :
    ((entrant.getD {}).minerID = minerID ∨ (entrant.getD {}).minerID = "") ∧
      ((entrant.getD {}).registrationState = .removedBeforeStart → (entrant.getD {}).tableID = "") := by
  cases entrant with
  | none => exact ⟨.inr rfl,fun _ => rfl⟩
  | some held => exact filed held rfl

theorem filed_covers (waveID other : String) : Covers other fun before after => Filed waveID before → Filed waveID after where
  refl _ filed := filed
  trans _ _ _ first second filed := second (first filed)
  write s t write filed := by
    intro minerID entrant found
    rcases write.parts with ⟨-,entrants⟩ | ⟨waves,-⟩
    · rcases entrants waveID minerID entrant found with same | ⟨-,f,change,rfl⟩
      · exact filed minerID entrant same
      · exact change.filed (filed_getD fun held known => filed minerID held known)
    · unfold entrantOf at found
      rw [waves] at found
      exact filed minerID entrant found
  wave s f change filed := by
    intro minerID entrant found
    rw [entrantOf_modifyAt] at found
    split_ifs at found with own
    · subst own
      obtain ⟨wave,held,found⟩ := Option.bind_eq_some_iff.mp found
      have known : entrantOf s waveID minerID = wave.entrants.get? minerID := by
        unfold entrantOf
        rw [held]
        rfl
      rcases change.entrants wave minerID entrant found with same | rfl | rfl
      · exact filed minerID entrant (known.trans same)
      · exact ⟨.inl rfl,fun removed => by cases removed⟩
      · exact filed_getD fun old present => filed minerID old (known.trans present)
    · exact filed minerID entrant found
  create s wave _ empty filed := by
    intro minerID entrant found
    change ((s.waves.insert other wave).get? waveID).bind _ = some entrant at found
    rw [OrdMap.get?_insert] at found
    split_ifs at found
    · rw [Option.bind_some,empty] at found
      cases found
    · exact filed minerID entrant found
  add _ _ _ filed := filed

theorem Reachable.filed {sum256 : String → Nat} {runtime : RuntimeService} (reached : Reachable sum256 runtime) (waveID : String) :
    Filed waveID runtime :=
  covers_run (filed_covers waveID) Linked.empty reached fun _ _ found => by simp [entrantOf] at found

end Filed

structure Seatless (waveID minerID : String) (runtime : RuntimeService) : Prop where
  filed : Filed waveID runtime
  empty : ∀ entrant, entrantOf runtime waveID minerID = some entrant → entrant.tableID = ""

def StaysSeatless {α : Type} (waveID minerID : String) (x : RuntimeM α) : Prop :=
  Faulty.Moves (fun before after => Seatless waveID minerID before → Seatless waveID minerID after) x

section Seatless
variable {waveID tournamentID minerID : String} {α β : Type} {before after : RuntimeService}
variable {key : String}

theorem Seatless.same (seatless : Seatless waveID minerID before) (same : SameEntrants waveID before after) :
    Seatless waveID minerID after := by
  refine ⟨seatless.filed.same same,fun entrant found => ?_⟩
  rw [same.entrantOf_eq] at found
  exact seatless.empty entrant found

theorem Seatless.at (seatless : Seatless waveID minerID before) (moment : Moment) : Seatless waveID minerID (before.at moment) :=
  ⟨seatless.filed,seatless.empty⟩

theorem Seatless.other (seatless : Seatless waveID minerID before) (named : minerID ≠ "") {entrant : Entrant}
    (found : entrantOf before waveID key = some entrant) (seated : entrant.tableID ≠ "") : entrant.minerID ≠ minerID := by
  rintro rfl
  rcases (seatless.filed key entrant found).1 with own | nameless
  · subst own
    exact seated (seatless.empty entrant found)
  · exact named nameless

theorem Seatless.inactive (seatless : Seatless waveID minerID before) (named : minerID ≠ "") :
    (activeByMiner (currentAssignmentsForTournament before waveID tournamentID)).get? minerID = none := by
  unfold activeByMiner
  refine OrdMap.get?_ofList_eq_none fun listed => ?_
  rw [List.map_map] at listed
  obtain ⟨assignment,inside,own⟩ := List.mem_map.mp listed
  obtain ⟨key,entrant,found,current⟩ := mem_currentAssignments.mp inside
  obtain ⟨-,seated,-,miner,-⟩ := currentAssignment_some current
  exact seatless.other named found seated (miner.symm.trans own)

theorem Seatless.uncarried (seatless : Seatless waveID minerID before) (named : minerID ≠ "") :
    (carriedByMiner before waveID tournamentID).get? minerID = none := by
  unfold carriedByMiner
  refine OrdMap.get?_ofList_eq_none fun listed => ?_
  obtain ⟨⟨_,seat⟩,inside,rfl⟩ := List.mem_map.mp listed
  obtain ⟨entrant,member,carried⟩ := List.mem_filterMap.mp inside
  obtain ⟨key,found⟩ := mem_fieldEntrants.mp member
  split_ifs at carried with away
  rw [not_or,not_or] at away
  obtain ⟨held,-,same⟩ := Option.map_eq_some_iff.mp carried
  cases same
  exact seatless.other named found away.2.1 rfl

theorem StaysSeatless.bind {x : RuntimeM α} {f : α → RuntimeM β} (first : StaysSeatless waveID minerID x)
    (next : ∀ a, StaysSeatless waveID minerID (f a)) : StaysSeatless waveID minerID (x >>= f) :=
  Faulty.Moves.bind (fun _ _ _ first second seatless => second (first seatless)) first next

theorem StaysSeatless.read {f : RuntimeService → RuntimeM α}
    (each : ∀ s, Seatless waveID minerID s → StaysSeatless waveID minerID (f s)) : StaysSeatless waveID minerID (Faulty.read f) :=
  fun s seatless => each s seatless s seatless

theorem StaysSeatless.each {f : β → RuntimeM Unit} {list : List β} (one : ∀ b ∈ list, StaysSeatless waveID minerID (f b)) :
    StaysSeatless waveID minerID (Faulty.each f list) :=
  Faulty.Moves.each (fun _ seatless => seatless) (fun _ _ _ first second seatless => second (first seatless)) one

theorem StaysSeatless.given {p : Prop} [Decidable p] {x : RuntimeM Unit} (stays : StaysSeatless waveID minerID x) :
    StaysSeatless waveID minerID (Faulty.given p x) := Faulty.Moves.given (fun _ seatless => seatless) stays

theorem StaysSeatless.same {x : RuntimeM α} (same : Faulty.Moves (SameEntrants waveID) x) : StaysSeatless waveID minerID x :=
  fun s seatless => seatless.same (same s)

theorem seatless_upsertRow : StaysSeatless waveID minerID upsertRow := .same same_upsertRow

theorem seatless_pure (a : α) : StaysSeatless waveID minerID (pure a : RuntimeM α) := .same (same_pure a)

theorem seatless_updateEntrant {f : Entrant → Entrant}
    (filed : ∀ entrant, (f entrant).minerID = entrant.minerID ∧ (f entrant).registrationState ≠ .removedBeforeStart)
    (own : key = minerID → ∀ entrant, (f entrant).tableID = "")
    : StaysSeatless waveID minerID (updateEntrant waveID key f) := by
  intro s seatless
  have written (name : String) (entrant : Entrant) (found : entrantOf (updateEntrant waveID key f s).2 waveID name = some entrant) :
      entrantOf s waveID name = some entrant ∨ name = key ∧ entrant = f ((entrantOf s waveID name).getD {}) := by
    change entrantOf { s with waves := s.waves.modifyAt waveID _ } waveID name = _ at found
    rw [entrantOf_modifyAt,if_pos rfl] at found
    obtain ⟨wave,held,found⟩ := Option.bind_eq_some_iff.mp found
    have known : entrantOf s waveID name = wave.entrants.get? name := by
      unfold entrantOf
      rw [held]
      rfl
    rw [OrdMap.get?_insert] at found
    split_ifs at found with same
    · subst same
      rw [known]
      exact .inr ⟨rfl,(Option.some.inj found).symm⟩
    · exact .inl (known.trans found)
  refine ⟨fun name entrant found => ?_,fun entrant found => ?_⟩
  · rcases written name entrant found with same | ⟨rfl,rfl⟩
    · exact seatless.filed name entrant same
    · obtain ⟨miner,state⟩ := filed ((entrantOf s waveID name).getD {})
      rw [miner]
      exact ⟨(filed_getD fun held known => seatless.filed name held known).1,fun removed => absurd removed state⟩
  · rcases written minerID entrant found with same | ⟨same,rfl⟩
    · exact seatless.empty entrant same
    · exact own same.symm _

theorem same_appendFieldExitEvent (entrant : Entrant) (stageReached : String) :
    Faulty.Moves (SameEntrants waveID) (appendFieldExitEvent tournamentID entrant stageReached) := by
  intro s
  unfold SameEntrants
  rw [(appendFieldExitEvent_frame tournamentID entrant stageReached s).1]

theorem same_recordExit (key : String) (disqualified : Bool) (entrant : Entrant) :
    Faulty.Moves (SameEntrants waveID) (recordExit tournamentID key disqualified entrant) := by
  unfold recordExit
  split
  · exact same_pure ()
  · refine same_bind (same_appendFieldExitEvent _ _) fun _ => ?_
    split
    · exact same_bind same_upsertRow fun _ => same_updateTournament _ _
    · exact same_pure ()

theorem seatless_putEntrant (entrant : Entrant) {change : Entrant → Entrant}
    (filed : ∀ entrant, (change entrant).minerID = entrant.minerID ∧ (change entrant).registrationState ≠ .removedBeforeStart)
    (own : key = minerID → ∀ entrant, (change entrant).tableID = "") :
    StaysSeatless waveID minerID (putEntrant waveID key entrant change) := by
  unfold putEntrant
  split
  · exact seatless_pure ()
  · exact seatless_upsertRow.bind fun _ => seatless_updateEntrant filed own

theorem seatless_syncEntrant {active : OrdMap String SeatAssignment} (inactive : active.get? minerID = none) (key : String) :
    StaysSeatless waveID minerID (syncEntrant waveID tournamentID active key) := by
  refine .read fun s _ => ?_
  split
  · exact seatless_pure ()
  · split
    · exact seatless_pure ()
    · split
      · rename_i assignment seat
        refine seatless_putEntrant _ (fun _ => ⟨rfl,by simp [playingAt]⟩) ?_
        rintro rfl
        rw [inactive] at seat
        cases seat
      · refine (StaysSeatless.same (same_recordExit _ _ _)).bind fun _ => ?_
        refine seatless_putEntrant _ (fun _ => ⟨rfl,?_⟩) fun _ _ => rfl
        unfold leftField
        dsimp only
        split <;> simp

theorem seatless_syncActiveEntrants {assignments : List SeatAssignment}
    (inactive : (activeByMiner assignments).get? minerID = none) :
    StaysSeatless waveID minerID (syncActiveEntrants waveID tournamentID assignments) :=
  (StaysSeatless.same (same_updateTournament _ _)).bind fun _ => .read fun _ _ => .each fun key _ =>
    seatless_syncEntrant inactive key

theorem seatless_finishEntrant (ranks : OrdMap String Int) (stages : OrdMap String String) (champion : Option String)
    (key : String) : StaysSeatless waveID minerID (finishEntrant waveID tournamentID ranks stages champion key) := by
  refine .read fun _ _ => ?_
  split
  · exact seatless_pure ()
  · split
    · exact seatless_pure ()
    · refine seatless_upsertRow.bind fun _ => seatless_updateEntrant (fun _ => ⟨rfl,?_⟩) fun _ _ => rfl
      unfold completedEntrant
      dsimp only
      split
      · simp
      · split <;> simp

theorem seatless_completeTournament (assignments : List SeatAssignment) (roundNo : Nat) (reason : CompletionReason) :
    StaysSeatless waveID minerID (completeTournament waveID tournamentID assignments roundNo reason) := by
  refine seatless_upsertRow.bind fun _ => StaysSeatless.bind (.read fun _ _ => .same (same_updateTournament _ _)) fun _ =>
    StaysSeatless.bind (.same fun s => (rows_buildTournamentCompletion assignments reason s).entrants) fun completion =>
    seatless_upsertRow.bind fun _ => seatless_upsertRow.given.bind fun _ =>
    StaysSeatless.bind (.same (same_updateTournament _ _)) fun _ =>
    StaysSeatless.bind (.read fun _ _ => .each fun key _ => seatless_finishEntrant _ _ _ key) fun _ =>
    seatless_upsertRow.given.bind fun _ => StaysSeatless.bind (.same fun _ => rfl) fun _ =>
    .same (same_updateWave fun _ => rfl)

theorem same_startNextRound (roundNo : Nat) : Faulty.Moves (SameEntrants waveID) (startNextRound tournamentID roundNo) := by
  refine Faulty.Moves.read fun _ => Faulty.Moves.each SameEntrants.refl (fun _ _ _ first second => second.trans first)
    fun tableID _ => same_bind (Faulty.Moves.read fun _ => ?_) fun _ => same_bind (same_openActorPhase _ _) fun _ => same_upsertRow
  split
  · exact same_pure ()
  · exact same_handleActor _ _

theorem same_openDealt (state : ActorState) (streamSeq : Int) : Faulty.Moves (SameEntrants waveID) (openDealt state streamSeq) := by
  intro s
  unfold openDealt
  split <;> rfl

theorem seatless_carryEntrant {carried : OrdMap String Seat} (missing : carried.get? minerID = none) (assignment : SeatAssignment) :
    StaysSeatless waveID minerID (carryEntrant waveID tournamentID carried assignment) := by
  unfold carryEntrant
  split
  · exact .same fun _ => rfl
  · rename_i seat held
    split
    · exact .same fun _ => rfl
    · refine seatless_upsertRow.bind fun _ => StaysSeatless.bind ?_ fun _ =>
        StaysSeatless.bind (.read fun _ _ => seatless_upsertRow.bind fun _ => .same fun _ => rfl) fun _ =>
        .same (same_updateTournament _ _)
      refine seatless_updateEntrant (fun _ => ⟨rfl,by simp [playingAt]⟩) ?_
      rintro rfl
      rw [missing] at held
      cases held

theorem seatless_applyTransitionPlan (named : minerID ≠ "") (plan : TransitionPlan) (roundNo : Nat) :
    StaysSeatless waveID minerID (applyTransitionPlan waveID tournamentID plan roundNo) := by
  refine StaysSeatless.bind (.same (same_storeCall _)) fun snapshots => StaysSeatless.bind (.read fun s seatless => ?_) fun _ =>
    .read fun _ _ => .same (same_updateWave fun _ => rfl)
  refine StaysSeatless.bind (.same fun _ => rfl) fun _ => StaysSeatless.bind (.same (same_updateTournament _ _)) fun _ =>
    .each fun tableID _ => StaysSeatless.bind (.each fun assignment _ => ?_) fun _ =>
    StaysSeatless.bind (.same (same_openDealt _ _)) fun _ => StaysSeatless.bind (.same fun _ => rfl) fun _ => seatless_upsertRow
  exact seatless_carryEntrant (seatless.uncarried named) assignment

theorem seatless_closeRound (named : minerID ≠ "") : StaysSeatless waveID minerID (closeRound waveID tournamentID) := by
  refine .read fun s seatless => ?_
  refine (seatless_syncActiveEntrants (seatless.inactive named)).bind fun _ => StaysSeatless.bind (.read fun _ _ =>
    .same (same_updateWave fun _ => rfl)) fun _ => .read fun _ _ => ?_
  dsimp only
  split
  · exact (seatless_completeTournament _ _ _).bind fun _ => seatless_pure _
  · refine seatless_upsertRow.bind fun _ => StaysSeatless.bind (.same (same_updateTournament _ _)) fun _ =>
      StaysSeatless.bind ?_ fun _ => StaysSeatless.bind (.same (same_persistRoundBarrier _)) fun _ => seatless_pure _
    unfold startRound
    split
    · exact .same (same_startNextRound _)
    · exact seatless_applyTransitionPlan named _ _

theorem seatless_postActorMutation (named : minerID ≠ "") (tableID : String) (state : ActorState) :
    StaysSeatless waveID minerID (postActorMutation waveID tournamentID tableID state) := by
  refine .read fun _ _ => ?_
  split
  · exact seatless_pure _
  · split
    · refine StaysSeatless.bind (.read fun _ _ => ?_) fun _ => .read fun _ _ => ?_
      · split
        · exact seatless_pure _
        · refine StaysSeatless.bind (.same (same_updateWave fun _ => rfl)) fun _ =>
            StaysSeatless.bind (.same (same_persistRoundBarrier _)) fun _ => ?_
          split
          · exact seatless_closeRound named
          · exact seatless_pure _
      · split
        · exact seatless_pure _
        · exact seatless_upsertRow.bind fun _ => seatless_pure _
    · exact StaysSeatless.bind (.given (.same (same_openActorPhase _ _))) fun _ => seatless_upsertRow.bind fun _ => seatless_pure _

theorem Seatless.perform (seatless : Seatless waveID minerID before) (named : minerID ≠ "") (sum256 : String → Nat) {call : Call}
    (linked : Linked before) (plays : Plays waveID call) : Seatless waveID minerID (perform sum256 call before).2 := by
  cases closes : closesRound before waveID call with
  | false => exact seatless.same (perform_same sum256 linked plays closes)
  | true =>
    cases call with
    | observe tournamentID tableID state =>
      change Seatless waveID minerID (onSubmitCommitted tournamentID tableID state before).2
      rw [onSubmitCommitted,Faulty.read_run]
      cases found : before.tournaments.get? tournamentID with
      | none => exact seatless
      | some entry =>
        have own : tournamentID = Model.tournamentID waveID 1 := by
          unfold closesRound at closes
          simp only [Bool.and_eq_true,decide_eq_true_eq] at closes
          exact closes.1.1.1.1
        have same : entry.waveID = waveID :=
          Model.tournamentID_injective 1 ((linked.tournaments tournamentID entry found).1.symm.trans own)
        dsimp only
        rw [same]
        exact seatless_postActorMutation named tableID state before seatless
    | _ => cases closes

end Seatless

theorem removed_seatless {sum256 : String → Nat} {waveID minerID : String} {start later : RuntimeService}
    (reached : Reachable sum256 start) (named : minerID ≠ "") {entrant : Entrant}
    (found : entrantOf start waveID minerID = some entrant) (removed : entrant.registrationState = .removedBeforeStart)
    (run : Run sum256 (fun _ call => Plays waveID call) start later) : Seatless waveID minerID later := by
  have filed := reached.filed waveID
  have first : Seatless waveID minerID start := by
    refine ⟨filed,fun held same => ?_⟩
    rw [found] at same
    cases same
    exact (filed minerID entrant found).2 removed
  induction run with
  | start => exact first
  | call run moment call plays ih =>
    exact (ih.at moment).perform named sum256 ((reached.linked.run run).at moment) plays

def HasSeat (runtime : RuntimeService) (waveID tournamentID minerID : String) : Prop :=
  ∃ entrant, entrantOf runtime waveID minerID = some entrant ∧ entrant.tournamentID = tournamentID ∧ entrant.tableID ≠ ""

def LeftOut (runtime : RuntimeService) (waveID tournamentID minerID : String) : Prop :=
  ∀ entrant, entrantOf runtime waveID minerID = some entrant → entrant.tournamentID ≠ tournamentID

/-- Entrants are filed under their miners, no exit of one is stored, and who was seated at the start or is now still plays. -/
structure NobodyLeft (waveID tournamentID : String) (start before : RuntimeService) : Prop where
  keyed : Keyed before waveID tournamentID
  exits : ∀ event ∈ exitsOf before tournamentID,
    event.entrantID ∉ (tournamentEntrantsForCompletion before waveID tournamentID).map Entrant.id
  still : ∀ minerID, HasSeat start waveID tournamentID minerID ∨ HasSeat before waveID tournamentID minerID →
    ∃ assignment ∈ currentAssignmentsForTournament before waveID tournamentID, assignment.minerID = minerID

section Behind
variable {waveID tournamentID minerID : String} {start before synced after : RuntimeService}

theorem NobodyLeft.clear (whole : NobodyLeft waveID tournamentID start before) (finish : Finish waveID tournamentID before synced after)
    {event : EliminationEvent} (stored : event ∈ exitsOf synced tournamentID) :
    event.entrantID ∉ (tournamentEntrantsForCompletion synced waveID tournamentID).map Entrant.id := by
  intro known
  obtain ⟨entrant,inside,own⟩ := List.mem_map.mp known
  obtain ⟨⟨minerID,found⟩,tournament⟩ := mem_tournamentEntrants.mp inside
  obtain ⟨old,held,tournament',-,id⟩ := finish.entrant_before found
  have filed := List.mem_filter.mp stored
  obtain ⟨⟨key,_⟩,kept,rfl⟩ := List.mem_map.mp filed.1
  rcases finish.exits.2 key _ (OrdMap.get?_eq_some_iff.mpr kept) with earlier | ⟨gone,leaver,leaves,-⟩
  · refine whole.exits _ (List.mem_filter.mpr ⟨List.mem_map.mpr ⟨_,OrdMap.get?_eq_some_iff.mp earlier,rfl⟩,filed.2⟩) ?_
    rw [← own,id]
    exact List.mem_map_of_mem (mem_tournamentEntrants.mpr ⟨⟨minerID,held⟩,tournament'.symm.trans tournament⟩)
  · obtain ⟨assignment,active,miner⟩ := whole.still gone (.inr ⟨leaver,leaves.found,leaves.own,leaves.table⟩)
    have away := whole.keyed.active_iff.mpr ⟨active,miner⟩
    rw [leaves.away] at away
    cases away

theorem Keyed.holder (keyed : Keyed before waveID tournamentID) {assignment : SeatAssignment}
    (survives : assignment ∈ currentAssignmentsForTournament before waveID tournamentID) : ∃ entrant,
      entrantOf before waveID assignment.minerID = some entrant ∧ entrant.tournamentID = tournamentID := by
  obtain ⟨minerID,entrant,found,current⟩ := mem_currentAssignments.mp survives
  obtain ⟨own,-,-,miner,-⟩ := currentAssignment_some current
  rw [miner,keyed.miner minerID entrant found own]
  exact ⟨entrant,found,own⟩

theorem Finish.listed (finish : Finish waveID tournamentID before synced after) (keyed : Keyed before waveID tournamentID)
    {entrant : Entrant} (found : entrantOf before waveID minerID = some entrant) (own : entrant.tournamentID = tournamentID) :
    ∃ entrant ∈ tournamentEntrantsForCompletion synced waveID tournamentID, entrant.minerID = minerID := by
  have kept := @syncing_kept tournamentID (activeByMiner (currentAssignmentsForTournament before waveID tournamentID))
    (pendingAt before tournamentID minerID) minerID entrant
  refine ⟨_,mem_tournamentEntrants.mpr ⟨⟨minerID,?_⟩,kept.1.trans own⟩,kept.2.1.trans (keyed.miner minerID entrant found own)⟩
  rw [finish.entrants,found,Option.map_some]

theorem NobodyLeft.placing (whole : NobodyLeft waveID tournamentID start before)
    (finish : Finish waveID tournamentID before synced after) :
    PlacingAt synced waveID tournamentID (currentAssignmentsForTournament before waveID tournamentID) where
  miners := (finish.keyed whole.keyed).entrants_apart.1
  ids := (finish.keyed whole.keyed).entrants_apart.2
  distinct := survivors_apart whole.keyed synced
  among := by
    intro miner survives
    unfold survivorsOf rankedSurvivors at survives
    obtain ⟨survivor,inside,rfl⟩ := List.mem_map.mp survives
    obtain ⟨assignment,active,rfl⟩ := List.mem_map.mp ((List.perm_insertionSort _ _).mem_iff.mp inside)
    obtain ⟨entrant,found,own⟩ := whole.keyed.holder active
    obtain ⟨listed,member,named⟩ := finish.listed whole.keyed found own
    exact List.mem_map.mpr ⟨listed,member,named⟩
  once := by
    refine List.Pairwise.imp_of_mem (fun inside _ _ _ => whole.clear finish inside) (List.pairwise_of_forall fun _ _ => trivial)
  out := by
    intro event stored entrant inside own
    exact absurd (own ▸ List.mem_map_of_mem inside) (whole.clear finish stored)

theorem NobodyLeft.ranks (whole : NobodyLeft waveID tournamentID start before)
    (finish : Finish waveID tournamentID before synced after) : ∃ ranks,
      RankedAt synced waveID tournamentID (currentAssignmentsForTournament before waveID tournamentID) ranks ∧
      ∀ minerID entrant, entrantOf before waveID minerID = some entrant → entrant.tournamentID = tournamentID →
        ∃ entrant ∈ tournamentEntrantsForCompletion synced waveID tournamentID, entrant.minerID = minerID ∧
          finishRankOf after waveID minerID = rankOf ranks entrant := by
  have inPlace : InPlaceAt synced waveID tournamentID (currentAssignmentsForTournament before waveID tournamentID) := by
    intro i event found entrant inside own
    have stored := (List.perm_insertionSort _ _).mem_iff.mp (List.mem_of_getElem? found)
    exact absurd (own ▸ List.mem_map_of_mem inside) (whole.clear finish stored)
  have ranked := (whole.placing finish).sorted.ranked inPlace
  refine ⟨_,ranked,fun minerID entrant found own => ?_⟩
  obtain ⟨listed,inside,rfl⟩ := finish.listed whole.keyed found own
  refine ⟨listed,inside,rfl,?_⟩
  have place := mem_places.mp (ranked.places.mem_iff.mp (List.mem_map_of_mem inside))
  unfold rankOf at place ⊢
  cases given : (finishRanks (tournamentEntrantsForCompletion synced waveID tournamentID) (survivorsOf synced tournamentID
      (currentAssignmentsForTournament before waveID tournamentID)) ((exitsOf synced tournamentID).insertionSort exitsBefore)).get?
      listed.minerID with
  | none =>
    rw [given,Option.getD_none] at place
    omega
  | some rank =>
    rw [given] at place
    rw [Option.getD_some] at place ⊢
    exact finish.rank found own given (by omega)

/-- Where nobody has left a tournament, who was removed before the start is left out of its completion or finishes behind
everyone that was dealt in. -/
theorem removed_behind_dealt {sum256 : String → Nat} {later : RuntimeService} (reached : Reachable sum256 start)
    (named : minerID ≠ "") {entrant : Entrant} (found : entrantOf start waveID minerID = some entrant)
    (removed : entrant.registrationState = .removedBeforeStart) (run : Run sum256 (fun _ call => Plays waveID call) start later)
    {moment : Moment} {tableID : String} {state : ActorState}
    (completes : perform sum256 (.observe (Model.tournamentID waveID 1) tableID state) (later.at moment) = (.ok .completed,after))
    (whole : NobodyLeft waveID (Model.tournamentID waveID 1) start (later.at moment)) :
    LeftOut after waveID (Model.tournamentID waveID 1) minerID ∨ ∀ dealt, HasSeat start waveID (Model.tournamentID waveID 1) dealt →
      finishRankOf after waveID dealt < finishRankOf after waveID minerID := by
  have seatless := (removed_seatless reached named found removed run).at moment
  obtain ⟨entry,held,synced,finish⟩ := observe_completed completes
  have same : entry.waveID = waveID := Model.tournamentID_injective 1
    (((reached.linked.run run).at moment).tournaments _ entry held).1.symm
  rw [same] at finish
  obtain ⟨ranks,ranked,ranks_⟩ := whole.ranks finish
  by_cases inside : ∃ entrant, entrantOf (later.at moment) waveID minerID = some entrant ∧
      entrant.tournamentID = Model.tournamentID waveID 1
  · obtain ⟨own,present,tournament⟩ := inside
    right
    intro dealt seated
    obtain ⟨assignment,active,rfl⟩ := whole.still dealt (.inl seated)
    obtain ⟨holder,held,tournament'⟩ := whole.keyed.holder active
    obtain ⟨first,member,miner,rank⟩ := ranks_ _ holder held tournament'
    obtain ⟨second,member',miner',rank'⟩ := ranks_ _ own present tournament
    rw [rank,rank']
    refine ranked.survivors first member second member' ?_ ?_
    · rw [miner]
      unfold survivorsOf rankedSurvivors
      refine List.mem_map.mpr ⟨_,(List.perm_insertionSort _ _).mem_iff.mpr (List.mem_map_of_mem active),rfl⟩
    · rw [miner']
      unfold survivorsOf rankedSurvivors
      intro survives
      obtain ⟨survivor,inside,own⟩ := List.mem_map.mp survives
      obtain ⟨other,active',rfl⟩ := List.mem_map.mp ((List.perm_insertionSort _ _).mem_iff.mp inside)
      have playing := whole.keyed.active_iff.mpr ⟨active',own⟩
      rw [seatless.inactive named] at playing
      cases playing
  · left
    intro last stored tournament
    obtain ⟨stages,finished⟩ := finish.finished
    rw [finished] at stored
    obtain ⟨middle,known,rfl⟩ := Option.map_eq_some_iff.mp stored
    obtain ⟨old,held,tournament',-⟩ := finish.entrant_before known
    refine inside ⟨old,held,tournament'.symm.trans ?_⟩
    unfold finishing at tournament
    split at tournament
    · assumption
    · exact tournament

theorem hasSeat_iff : HasSeat before waveID tournamentID minerID ↔ ∃ filed ∈ filedEntrants before waveID, filed.1 = minerID ∧
    filed.2.tournamentID = tournamentID ∧ filed.2.tableID ≠ "" := by
  constructor
  · rintro ⟨entrant,found,own,seated⟩
    exact ⟨_,mem_filedEntrants.mpr found,rfl,own,seated⟩
  · rintro ⟨⟨_,entrant⟩,inside,rfl,own,seated⟩
    exact ⟨entrant,mem_filedEntrants.mp inside,own,seated⟩

instance : Decidable (HasSeat before waveID tournamentID minerID) := decidable_of_iff _ hasSeat_iff.symm

end Behind

def removedTable : RuntimeService :=
  performAll (fun _ => 0) [.createWave "w" "rated",.registerMiner "w" "a",.registerMiner "w" "b",.registerMiner "w" "c",
    .lockWave "w",.publishSeats "w",.forceRemoveBeforeStart "w" "c"] {}

def handAfter (call : Call) : RuntimeService :=
  playOut (timeOuts (fun _ => 0) "tour:w:01" (List.replicate 4 "tbl:tour:w:01:01")
    (perform (fun _ => 0) call (removedTable.at {})).2) "tbl:tour:w:01:01"

theorem removedTable_reachable : Reachable (fun _ => 0) removedTable := performAll_run _ _ _

theorem handAfter_run {call : Call} (plays : Plays "w" call) :
    Run (fun _ => 0) (fun _ call => Plays "w" call) removedTable (handAfter call) := by
  have called : Run (fun _ => 0) (fun _ call => Plays "w" call) removedTable
      (perform (fun _ => 0) call (removedTable.at {})).2 := Run.start.call {} call plays
  have timedOut := timeOuts_run (fun _ => 0) "tour:w:01" (fun _ _ _ => by simp [Plays,Call.fieldWave])
    (fun _ _ _ => by simp [Plays,Call.fieldWave]) (List.replicate 4 "tbl:tour:w:01:01") called
  exact playOut_run (fun _ _ _ => by simp [Plays,Call.fieldWave]) timedOut _

theorem removedTable_removed : ((entrantOf removedTable "w" "c").any fun entrant =>
    entrant.registrationState = .removedBeforeStart) = true ∧ HasSeat removedTable "w" "tour:w:01" "b" := by
  decide +kernel

theorem handAfter_completion : (((handAfter (.armTimeCap "tour:w:01")).actors.get? "tbl:tour:w:01:01").any fun actor =>
    match perform (fun _ => 0) (.observe "tour:w:01" "tbl:tour:w:01:01" actor.state) ((handAfter (.armTimeCap "tour:w:01")).at {}) with
    | (.ok .completed,_) => true
    | _ => false) = true := by
  decide +kernel

theorem handAfter_nobodyLeft : NobodyLeft "w" "tour:w:01" removedTable ((handAfter (.armTimeCap "tour:w:01")).at {}) := by
  have still : ∀ filed ∈ filedEntrants removedTable "w" ++ filedEntrants ((handAfter (.armTimeCap "tour:w:01")).at {}) "w",
      filed.2.tournamentID = "tour:w:01" → filed.2.tableID ≠ "" →
        ∃ assignment ∈ currentAssignmentsForTournament ((handAfter (.armTimeCap "tour:w:01")).at {}) "w" "tour:w:01",
          assignment.minerID = filed.1 := by
    decide +kernel
  refine ⟨by decide +kernel,by decide +kernel,?_⟩
  rintro minerID (seated | seated) <;> obtain ⟨filed,inside,rfl,own,seat⟩ := hasSeat_iff.mp seated
  · exact still filed (List.mem_append_left _ inside) own seat
  · exact still filed (List.mem_append_right _ inside) own seat

/-- A time cap ends the tournament before anybody has left. -/
theorem removed_behind_dealt_timeCap : ∃ state after,
    perform (fun _ => 0) (.observe "tour:w:01" "tbl:tour:w:01:01" state) ((handAfter (.armTimeCap "tour:w:01")).at {}) =
      (.ok .completed,after) ∧ (LeftOut after "w" "tour:w:01" "c" ∨ ∀ dealt, HasSeat removedTable "w" "tour:w:01" dealt →
        finishRankOf after "w" dealt < finishRankOf after "w" "c") := by
  obtain ⟨actor,-,ends⟩ := (Option.any_eq_true _ _).mp handAfter_completion
  obtain ⟨entrant,found,removed⟩ := (Option.any_eq_true _ _).mp removedTable_removed.1
  split at ends
  · rename_i after completes
    exact ⟨actor.state,after,completes,removed_behind_dealt removedTable_reachable (by decide) found (of_decide_eq_true removed)
      (handAfter_run (by simp [Plays,Call.fieldWave])) completes handAfter_nobodyLeft⟩
  · cases ends

theorem struckHand_completion : (((handAfter (.disqualify "tour:w:01" "b" "collusion")).actors.get? "tbl:tour:w:01:01").any fun actor =>
    match perform (fun _ => 0) (.observe "tour:w:01" "tbl:tour:w:01:01" actor.state)
      ((handAfter (.disqualify "tour:w:01" "b" "collusion")).at {}) with
    | (.ok .completed,after) => decide (finishRankOf after "w" "b" = 3 ∧ finishRankOf after "w" "c" = 2 ∧
        ((entrantOf after "w" "c").any fun entrant => entrant.tournamentID = "tour:w:01") = true)
    | _ => false) = true := by
  decide +kernel

/-- The miner that was never seated finishes before one that has played the only hand. -/
theorem removed_before_dealt : Reachable (fun _ => 0) removedTable ∧
    ((entrantOf removedTable "w" "c").any fun entrant => entrant.registrationState = .removedBeforeStart) = true ∧
    Run (fun _ => 0) (fun _ call => Plays "w" call) removedTable (handAfter (.disqualify "tour:w:01" "b" "collusion")) ∧
    ∃ state after, perform (fun _ => 0) (.observe "tour:w:01" "tbl:tour:w:01:01" state)
      ((handAfter (.disqualify "tour:w:01" "b" "collusion")).at {}) = (.ok .completed,after) ∧
      ¬(LeftOut after "w" "tour:w:01" "c" ∨ ∀ dealt, HasSeat removedTable "w" "tour:w:01" dealt →
        finishRankOf after "w" dealt < finishRankOf after "w" "c") := by
  refine ⟨removedTable_reachable,removedTable_removed.1,handAfter_run (by simp [Plays,Call.fieldWave]),?_⟩
  obtain ⟨actor,-,ends⟩ := (Option.any_eq_true _ _).mp struckHand_completion
  split at ends
  · rename_i after completes
    obtain ⟨rank,rank',kept⟩ := of_decide_eq_true ends
    refine ⟨actor.state,after,completes,?_⟩
    rintro (left | behind)
    · obtain ⟨entrant,found,own⟩ := (Option.any_eq_true _ _).mp kept
      exact left entrant found (of_decide_eq_true own)
    · have better := behind "b" removedTable_removed.2
      rw [rank,rank'] at better
      exact absurd better (by decide)
  · cases ends

end Clawchain.Arena.App
