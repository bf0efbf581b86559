import Clawchain.Arena.App.Operations
import Clawchain.Arena.Hub.Draw
import Clawchain.Arena.Hub.Prestart
import Clawchain.Arena.Table.AllIn

/-! Removals before the start: what they make of the hub's plan, and when one that fails leaves no trace. -/
namespace Clawchain.Arena.App
open Clawchain.Lib Clawchain.Arena.Table Clawchain.Arena.Hub

theorem mem_uniqueTableIDs {assignments : List SeatAssignment} {tableID : String} :
    tableID ∈ uniqueTableIDs assignments ↔ ∃ assignment ∈ assignments, assignment.tableID = tableID := by
  unfold uniqueTableIDs
  rw [(List.perm_insertionSort _ _).mem_iff,List.mem_dedup,List.mem_map]

theorem uniqueTableIDs_nodup (assignments : List SeatAssignment) : (uniqueTableIDs assignments).Nodup :=
  (List.perm_insertionSort _ _).nodup_iff.mpr (List.nodup_dedup _)

def standingOf (runtime : RuntimeService) (waveID : String) : Option (Option Service × String) :=
  (runtime.waves.get? waveID).map fun wave => (wave.hub,wave.tournamentID)

def hubOf (runtime : RuntimeService) (waveID : String) : Option Service :=
  (runtime.waves.get? waveID).bind WaveRuntime.hub

def HubKept (waveID : String) (before after : RuntimeService) : Prop :=
  standingOf after waveID = standingOf before waveID ∧
    ∀ id, (after.tournaments.get? id).isSome = (before.tournaments.get? id).isSome

section Kept
variable {α β : Type} {waveID other : String}

theorem HubKept.refl (runtime : RuntimeService) : HubKept waveID runtime runtime := ⟨rfl,fun _ => rfl⟩

theorem HubKept.trans (a b c : RuntimeService) (first : HubKept waveID a b) (second : HubKept waveID b c) :
    HubKept waveID a c := ⟨second.1.trans first.1,fun id => (second.2 id).trans (first.2 id)⟩

theorem kept_run {x : RuntimeM α} (kept : Faulty.Moves (HubKept waveID) x) {before after : RuntimeService}
    {outcome : Except RuntimeError α} (run : x before = (outcome,after)) : HubKept waveID before after := by
  have moved := kept before
  rwa [run] at moved

theorem kept_pure (a : α) : Faulty.Moves (HubKept waveID) (pure a : RuntimeM α) := Faulty.Moves.pure HubKept.refl a

theorem kept_bind {x : RuntimeM α} {f : α → RuntimeM β} (first : Faulty.Moves (HubKept waveID) x)
    (next : ∀ a, Faulty.Moves (HubKept waveID) (f a)) : Faulty.Moves (HubKept waveID) (x >>= f) :=
  Faulty.Moves.bind HubKept.trans first next

theorem kept_each {f : β → RuntimeM Unit} {list : List β} (one : ∀ b ∈ list, Faulty.Moves (HubKept waveID) (f b)) :
    Faulty.Moves (HubKept waveID) (Faulty.each f list) := Faulty.Moves.each HubKept.refl HubKept.trans one

theorem kept_storeCall (call : StoreM α) : Faulty.Moves (HubKept waveID) (storeCall call) := fun _ => ⟨rfl,fun _ => rfl⟩

theorem kept_upsertRow : Faulty.Moves (HubKept waveID) upsertRow := kept_storeCall _

theorem kept_hubCall (result : Except HubError Service) : Faulty.Moves (HubKept waveID) (hubCall result) := HubKept.refl

theorem kept_findTournament (id : String) : Faulty.Moves (HubKept waveID) (findTournament id) := by
  intro runtime
  unfold findTournament
  split <;> exact HubKept.refl runtime

theorem kept_findWave (name : String) : Faulty.Moves (HubKept waveID) (findWave name) := by
  intro runtime
  unfold findWave
  split <;> exact HubKept.refl runtime

theorem kept_updateTournament (id : String) (f : TournamentRuntime → TournamentRuntime) :
    Faulty.Moves (HubKept waveID) (updateTournament id f) := by
  refine fun runtime => ⟨rfl,fun name => ?_⟩
  change ((runtime.tournaments.modifyAt id f).get? name).isSome = _
  rw [OrdMap.get?_modifyAt]
  split_ifs with own
  · rw [own,Option.isSome_map]
  · rfl

theorem standingOf_modifyAt {runtime : RuntimeService} (f : WaveRuntime → WaveRuntime) :
    standingOf { runtime with waves := runtime.waves.modifyAt other f } waveID =
      if waveID = other then (runtime.waves.get? waveID).map fun wave => ((f wave).hub,(f wave).tournamentID)
      else standingOf runtime waveID := by
  unfold standingOf
  dsimp only
  rw [OrdMap.get?_modifyAt]
  split_ifs with own
  · rw [own,Option.map_map]
    rfl
  · rfl

theorem kept_updateWave {f : WaveRuntime → WaveRuntime}
    (same : ∀ wave, (f wave).hub = wave.hub ∧ (f wave).tournamentID = wave.tournamentID) :
    Faulty.Moves (HubKept waveID) (updateWave other f) := by
  refine fun runtime => ⟨?_,fun _ => rfl⟩
  change standingOf { runtime with waves := runtime.waves.modifyAt other f } waveID = _
  rw [standingOf_modifyAt]
  split_ifs
  · unfold standingOf
    cases runtime.waves.get? waveID with
    | none => rfl
    | some wave => exact congrArg some (Prod.ext (same wave).1 (same wave).2)
  · rfl

theorem kept_updateWave_elsewhere (f : WaveRuntime → WaveRuntime) (differ : other ≠ waveID) :
    Faulty.Moves (HubKept waveID) (updateWave other f) := by
  refine fun runtime => ⟨?_,fun _ => rfl⟩
  change standingOf { runtime with waves := runtime.waves.modifyAt other f } waveID = _
  rw [standingOf_modifyAt,if_neg differ.symm]

theorem kept_updateEntrant (minerID : String) (f : Entrant → Entrant) :
    Faulty.Moves (HubKept waveID) (updateEntrant other minerID f) := kept_updateWave fun _ => ⟨rfl,rfl⟩

theorem kept_upsertSeat (row : SeatRow) : Faulty.Moves (HubKept waveID) (upsertSeat row) :=
  kept_bind kept_upsertRow fun _ _ => ⟨rfl,fun _ => rfl⟩

theorem kept_openDealt (state : ActorState) (streamSeq : Int) :
    Faulty.Moves (HubKept waveID) (openDealt state streamSeq) := by
  intro runtime
  unfold openDealt
  split <;> exact ⟨rfl,fun _ => rfl⟩

theorem kept_resetLiveHub (tournamentID : String) (players : Nat) (assignments : List SeatAssignment) :
    Faulty.Moves (HubKept waveID) (resetLiveHub other tournamentID players assignments) :=
  Faulty.Moves.read fun _ => kept_updateWave fun _ => ⟨rfl,rfl⟩

theorem kept_persistRoundBarrier (name : String) : Faulty.Moves (HubKept waveID) (persistRoundBarrier name) := by
  intro runtime
  unfold persistRoundBarrier
  split
  · exact kept_upsertRow runtime
  · exact HubKept.refl runtime

theorem kept_seatEntrant (plan : String) (assignment : SeatAssignment) :
    Faulty.Moves (HubKept waveID) (seatEntrant other plan assignment) :=
  kept_bind kept_upsertRow fun _ => kept_bind (kept_updateEntrant _ _) fun _ =>
    kept_bind (Faulty.Moves.read fun _ => kept_upsertSeat _) fun _ => kept_upsertRow

theorem kept_seatTableOf (tournamentID : String) (plan : TournamentPlan) (snapshots : Store) (tableID : String) :
    Faulty.Moves (HubKept waveID) (seatTableOf other tournamentID plan snapshots tableID) :=
  kept_bind kept_upsertRow fun _ => kept_bind (kept_each fun _ _ => kept_seatEntrant _ _) fun _ =>
    kept_bind (kept_openDealt _ _) fun _ => kept_bind kept_upsertRow fun _ =>
    kept_bind (fun _ => ⟨rfl,fun _ => rfl⟩) fun _ => kept_updateTournament _ _

theorem kept_clearRemoved (plan : TournamentPlan) (minerID : String) :
    Faulty.Moves (HubKept waveID) (clearRemoved other plan minerID) := by
  refine Faulty.Moves.read fun runtime => ?_
  split
  · exact kept_pure ()
  · split
    · exact kept_pure ()
    · exact kept_bind kept_upsertRow fun _ => kept_updateEntrant _ _

theorem kept_applySeatingPlan (tournamentID : String) (plan : TournamentPlan) :
    Faulty.Moves (HubKept waveID) (applySeatingPlan other tournamentID plan) :=
  kept_bind (kept_storeCall _) fun _ => kept_bind (fun _ => ⟨rfl,fun _ => rfl⟩) fun _ =>
    kept_bind (kept_updateTournament _ _) fun _ => kept_bind (kept_each fun _ _ => kept_seatTableOf _ _ _ _) fun _ =>
    Faulty.Moves.read fun _ => kept_each fun _ _ => kept_clearRemoved _ _

theorem kept_given {p : Prop} [Decidable p] {x : RuntimeM Unit} (moved : Faulty.Moves (HubKept waveID) x) :
    Faulty.Moves (HubKept waveID) (Faulty.given p x) := Faulty.Moves.given HubKept.refl moved

end Kept

def Willing (world : World) : Prop := ∀ outcome ∈ world.outcomes, outcome = .ok

def Takes (store : Store) (event : EventLogEntry) : Prop :=
  ∀ existing ∈ store.events.get? event.eventID, existing.identity = event.identity

instance (store : Store) (event : EventLogEntry) : Decidable (Takes store event) :=
  inferInstanceAs (Decidable (∀ existing ∈ store.events.get? event.eventID, existing.identity = event.identity))

def openingEvent (tournamentID : String) (tableNo : Nat) (previous : Option TableSnapshot) : EventLogEntry :=
  let tableID := Model.tableID tournamentID tableNo
  let handID := Model.handID tournamentID tableNo 1
  let streamSeq := (previous.map TableSnapshot.streamSeq).getD 0 + 1
  let stateSeq := (previous.map TableSnapshot.stateSeq).getD 0 + 1
  { eventID := eventID ("table:" ++ tableID) streamSeq
    aggregateID := tableID
    streamKey := "table:" ++ tableID
    streamSeq := streamSeq
    tournamentID := tournamentID
    tableID := tableID
    handID := handID
    phaseID := phaseID handID .signal
    eventType := "table.phase.opened"
    stateSeq := stateSeq
    occurredAt := 0
    payloadHash := "phase-open-payload:" ++ tableID ++ ":" ++ toString stateSeq
    payload := .phaseOpen }

structure Accepting (world : World) (tournamentID : String) (tables : Nat) : Prop where
  willing : Willing world
  openings : ∀ i ∈ List.range tables, Takes world.store (openingEvent tournamentID (i + 1)
    (latestTableSnapshot world.store tournamentID (Model.tableID tournamentID ↑(i + 1))))

section Writes
variable {ρ α : Type} {world : World}

theorem Willing.tail (willing : Willing world) (now : Int) (store : Store) :
    Willing ⟨store,world.outcomes.tail,now⟩ := fun outcome inside => willing outcome (List.mem_of_mem_tail inside)

theorem writeCall_willing (willing : Willing world) (write : ρ → Store → Except StoreError Store) (rows : List ρ)
    {store : Store} (takes : writeRows write rows world.store = (.ok (),store)) :
    ∃ after, writeCall write rows world = (.ok (),after) ∧ Willing after ∧ after.store = store := by
  obtain ⟨old,outcomes,now⟩ := world
  dsimp only at takes
  refine ⟨⟨store,outcomes.tail,now⟩,?_,willing.tail now store,rfl⟩
  cases outcomes with
  | nil =>
    unfold writeCall
    dsimp only
    rw [takes]
  | cons outcome rest =>
    cases willing outcome List.mem_cons_self
    unfold writeCall
    dsimp only
    rw [takes]

theorem readCall_willing (willing : Willing world) (read : Store → α) :
    ∃ after, readCall read world = (.ok (read world.store),after) ∧ Willing after ∧ after.store = world.store := by
  obtain ⟨old,outcomes,now⟩ := world
  refine ⟨⟨old,outcomes.tail,now⟩,?_,willing.tail now old,rfl⟩
  cases outcomes with
  | nil => rfl
  | cons outcome rest =>
    cases willing outcome List.mem_cons_self
    rfl

theorem writeRows_event {store : Store} {event entry : EventLogEntry} (takes : Takes store event)
    (same : entry.identity = event.identity) : ∃ after, writeRows writeEvent [entry] store = (.ok (),after) ∧
      ∀ id, id ≠ event.eventID → after.events.get? id = store.events.get? id := by
  have named : entry.identity.eventID = event.identity.eventID := congrArg EventLogEntry.eventID same
  change entry.eventID = event.eventID at named
  cases known : store.events.get? entry.eventID with
  | none =>
    refine ⟨{ store with events := store.events.insert entry.eventID entry },?_,fun id other => ?_⟩
    · simp only [writeRows,writeEvent,known]
    · exact OrdMap.get?_insert_of_ne _ _ (named ▸ other)
  | some existing =>
    have agrees : existing.identity = entry.identity := (takes existing (named ▸ known)).trans same.symm
    refine ⟨store,?_,fun _ _ => rfl⟩
    simp only [writeRows,writeEvent,known,agrees,if_true]

def phaseOpened (state : ActorState) (phase : PhaseDefinition) (streamSeq nextSeq now : Int) : EventLogEntry where
  eventID := eventID state.streamKey streamSeq
  aggregateID := state.tableID
  streamKey := state.streamKey
  streamSeq := streamSeq
  tournamentID := state.tournamentID
  tableID := state.tableID
  handID := state.handID
  phaseID := phase.id
  eventType := "table.phase.opened"
  stateSeq := nextSeq
  occurredAt := now
  payloadHash := "phase-open-payload:" ++ state.tableID ++ ":" ++ toString nextSeq
  payload := .phaseOpen

theorem persistPhase_willing (willing : Willing world) {state : ActorState} {phase : PhaseDefinition}
    {streamSeq nextSeq : Int} {event : EventLogEntry} (takes : Takes world.store event)
    (same : ∀ now, (phaseOpened state phase streamSeq nextSeq now).identity = event.identity) :
    ∃ after, persistPhase state phase streamSeq nextSeq world = (.ok (),after) ∧ Willing after ∧
      ∀ id, id ≠ event.eventID → after.store.events.get? id = world.store.events.get? id := by
  obtain ⟨store,written,elsewhere⟩ := writeRows_event takes (same world.now)
  obtain ⟨first,appended,willing₁,stored₁⟩ := writeCall_willing willing _ _ written
  obtain ⟨second,opened,willing₂,kept⟩ : ∃ after,
      openDeadline state phase (eventID state.streamKey streamSeq) first = (.ok (),after) ∧ Willing after ∧
        after.store.events = first.store.events := by
    unfold openDeadline
    cases phase.deadlineAt with
    | none => exact ⟨first,rfl,willing₁,rfl⟩
    | some deadlineAt =>
      obtain ⟨after,done,willing₂,stored⟩ := writeCall_willing willing₁ (fun row store => .ok (writeDeadline row store)) [_] rfl
      exact ⟨after,done,willing₂,by rw [stored]; rfl⟩
  obtain ⟨third,saved,willing₃,stored₃⟩ := writeCall_willing willing₂ (fun (row : TableSnapshot) store =>
    .ok { store with tableSnapshots := store.tableSnapshots.insert row.id row }) [_] rfl
  refine ⟨third,?_,willing₃,fun id other => ?_⟩
  · unfold persistPhase
    rw [Faulty.bind_of_ok _ (show appendPhaseOpened state phase streamSeq nextSeq world = (.ok (),first) from appended),
      Faulty.bind_of_ok _ opened]
    exact saved
  · rw [stored₃,← elsewhere id other,← stored₁,← kept]

end Writes

/-! A plan whose rows are all taken is seated. -/

def opening (snapshots : Store) (tournamentID tableID : String) : String :=
  eventID ("table:" ++ tableID) (((latestTableSnapshot snapshots tournamentID tableID).map TableSnapshot.streamSeq).getD 0 + 1)

theorem opening_injective (snapshots : Store) {tournamentID first second : String}
    (same : opening snapshots tournamentID first = opening snapshots tournamentID second) : first = second := by
  obtain ⟨keys,-⟩ := Format.lastField_injective (Format.colon_notMem_padInt _ _) (Format.colon_notMem_padInt _ _) same
  have chars := congrArg String.toList keys
  simp only [String.toList_append] at chars
  exact String.toList_injective (List.append_cancel_left (List.append_cancel_left chars))

def Ready (snapshots : Store) (tournamentID : String) (rest : List String) (runtime : RuntimeService) : Prop :=
  Willing runtime.world ∧ ∀ tableID ∈ rest, runtime.world.store.events.get? (opening snapshots tournamentID tableID) =
    snapshots.events.get? (opening snapshots tournamentID tableID)

section Seating
variable {waveID tournamentID tableID : String} {snapshots : Store} {rest : List String} {α : Type}
variable {tableNo : Nat} {plan : TournamentPlan}

def Keeps (snapshots : Store) (tournamentID : String) (rest : List String) {α : Type} (x : RuntimeM α) : Prop :=
  Faulty.Triple (Ready snapshots tournamentID rest) x (fun _ => Ready snapshots tournamentID rest) fun _ _ => False

theorem keeps_pure (a : α) : Keeps snapshots tournamentID rest (pure a : RuntimeM α) :=
  Faulty.Triple.pure fun _ ready => ready

theorem keeps_upsertRow : Keeps snapshots tournamentID rest upsertRow := by
  refine Faulty.Triple.of_runs fun runtime ready => ?_
  obtain ⟨after,done,willing,stored⟩ := writeCall_willing ready.1 (fun (_ : Unit) store => .ok store) [()] rfl
  refine ⟨(),{ runtime with world := after },?_,willing,fun name inside => ?_⟩
  · unfold upsertRow storeCall
    rw [done]
    rfl
  · change after.store.events.get? _ = _
    rw [stored]
    exact ready.2 name inside

theorem keeps_modify {f : RuntimeService → RuntimeService} (kept : ∀ s, (f s).world = s.world) :
    Keeps snapshots tournamentID rest (Faulty.modify f : RuntimeM Unit) :=
  Faulty.Triple.modify fun s ready => by
    unfold Ready
    rw [kept]
    exact ready

theorem keeps_bind {β : Type} {x : RuntimeM α} {f : α → RuntimeM β} (first : Keeps snapshots tournamentID rest x)
    (next : ∀ a, Keeps snapshots tournamentID rest (f a)) : Keeps snapshots tournamentID rest (x >>= f) :=
  Faulty.Triple.bind first next

theorem keeps_read {f : RuntimeService → RuntimeM α} (next : ∀ s, Keeps snapshots tournamentID rest (f s)) :
    Keeps snapshots tournamentID rest (Faulty.read f) :=
  Faulty.Triple.read fun s ready => (next s).here ready

theorem keeps_each {β : Type} {f : β → RuntimeM Unit} (one : ∀ b, Keeps snapshots tournamentID rest (f b)) (list : List β) :
    Keeps snapshots tournamentID rest (Faulty.each f list) :=
  Faulty.Triple.each (I := fun _ => Ready snapshots tournamentID rest) (fun b _ => one b) list

theorem keeps_seatEntrant (plan : String) (assignment : SeatAssignment) :
    Keeps snapshots tournamentID rest (seatEntrant waveID plan assignment) :=
  keeps_bind keeps_upsertRow fun _ => keeps_bind (keeps_modify fun _ => rfl) fun _ =>
    keeps_bind (keeps_read fun _ => keeps_bind keeps_upsertRow fun _ => keeps_modify fun _ => rfl) fun _ => keeps_upsertRow

theorem keeps_clearRemoved (plan : TournamentPlan) (minerID : String) :
    Keeps snapshots tournamentID rest (clearRemoved waveID plan minerID) := by
  refine keeps_read fun runtime => ?_
  split
  · exact keeps_pure ()
  · split
    · exact keeps_pure ()
    · exact keeps_bind keeps_upsertRow fun _ => keeps_modify fun _ => rfl

theorem openDealt_runs {state : ActorState} {streamSeq : Int} {runtime : RuntimeService} {event : EventLogEntry}
    (willing : Willing runtime.world) (takes : Takes runtime.world.store event)
    (same : ∀ now, (phaseOpened (openedState state (dealtPhase state runtime.world.now))
      (dealtPhase state runtime.world.now) (streamSeq + 1) (state.stateSeq + 1) now).identity = event.identity) :
    ∃ actor after, openDealt state streamSeq runtime = (.ok actor,{ runtime with world := after }) ∧ Willing after ∧
      ∀ id, id ≠ event.eventID → after.store.events.get? id = runtime.world.store.events.get? id := by
  obtain ⟨after,done,willing',elsewhere⟩ := persistPhase_willing willing takes same
  obtain ⟨actor,opens⟩ : ∃ actor, openDealt state streamSeq runtime = (.ok actor,{ runtime with world := after }) := by
    unfold openDealt Actor.openPhase
    dsimp only [newRecoveredActor,newActor]
    rw [done]
    exact ⟨_,rfl⟩
  exact ⟨actor,after,opens,willing',elsewhere⟩

theorem firstHand_opened (assignments : List SeatAssignment) (previous : Option TableSnapshot)
    (number : tableNoOf assignments (Model.tableID tournamentID tableNo) = tableNo) (time now : Int) :
    let state := firstHand tournamentID (Model.tableID tournamentID tableNo) assignments previous
    (phaseOpened (openedState state (dealtPhase state time)) (dealtPhase state time)
      ((previous.map TableSnapshot.streamSeq).getD 0 + 1) (state.stateSeq + 1) now).identity =
        (openingEvent tournamentID tableNo previous).identity := by
  have hand : (firstHand tournamentID (Model.tableID tournamentID tableNo) assignments previous).handID =
      Model.handID tournamentID tableNo 1 := by
    unfold firstHand
    dsimp only
    rw [number,applyStartHand_number]
  simp only [phaseOpened,openedState,dealtPhase,ite_self,hand,EventLogEntry.identity]
  rfl

theorem openDealt_ready (assignments : List SeatAssignment)
    (number : tableNoOf assignments (Model.tableID tournamentID tableNo) = tableNo)
    (takes : Takes snapshots (openingEvent tournamentID tableNo
      (latestTableSnapshot snapshots tournamentID (Model.tableID tournamentID tableNo))))
    (fresh : Model.tableID tournamentID tableNo ∉ rest) :
    Faulty.Triple (Ready snapshots tournamentID (Model.tableID tournamentID tableNo :: rest))
      (openDealt (firstHand tournamentID (Model.tableID tournamentID tableNo) assignments
        (latestTableSnapshot snapshots tournamentID (Model.tableID tournamentID tableNo)))
        (((latestTableSnapshot snapshots tournamentID (Model.tableID tournamentID tableNo)).map
          TableSnapshot.streamSeq).getD 0))
      (fun _ => Ready snapshots tournamentID rest) fun _ _ => False := by
  refine Faulty.Triple.of_runs fun runtime ready => ?_
  obtain ⟨willing,waiting⟩ := ready
  have taken : Takes runtime.world.store (openingEvent tournamentID tableNo
      (latestTableSnapshot snapshots tournamentID (Model.tableID tournamentID tableNo))) :=
    fun existing found => takes existing ((waiting _ List.mem_cons_self).symm.trans found)
  obtain ⟨actor,after,done,willing',elsewhere⟩ := openDealt_runs willing taken
    (fun now => firstHand_opened assignments _ number runtime.world.now now)
  refine ⟨actor,_,done,willing',fun name inside => ?_⟩
  refine (elsewhere _ fun same => ?_).trans (waiting name (List.mem_cons_of_mem _ inside))
  exact fresh (opening_injective snapshots same ▸ inside)

theorem seatTableOf_ready (own : plan.tournamentID = tournamentID)
    (number : tableNoOf (bySeat plan.seatAssignments (Model.tableID tournamentID tableNo))
      (Model.tableID tournamentID tableNo) = tableNo) (takes : Takes snapshots (openingEvent tournamentID tableNo
      (latestTableSnapshot snapshots tournamentID (Model.tableID tournamentID tableNo))))
    (fresh : Model.tableID tournamentID tableNo ∉ rest) :
    Faulty.Triple (Ready snapshots tournamentID (Model.tableID tournamentID tableNo :: rest))
      (seatTableOf waveID tournamentID plan snapshots (Model.tableID tournamentID tableNo))
      (fun _ => Ready snapshots tournamentID rest) fun _ _ => False := by
  subst own
  refine Faulty.Triple.bind keeps_upsertRow fun _ => Faulty.Triple.bind (keeps_each (keeps_seatEntrant _) _) fun _ =>
    Faulty.Triple.bind (openDealt_ready _ number takes fresh) fun actor => ?_
  exact keeps_bind keeps_upsertRow fun _ => keeps_bind (keeps_modify fun _ => rfl) fun _ => keeps_modify fun _ => rfl

def Openable (snapshots : Store) (plan : TournamentPlan) : Prop := ∀ tableID ∈ uniqueTableIDs plan.seatAssignments,
  ∃ tableNo : Nat, tableID = Model.tableID plan.tournamentID tableNo ∧
    tableNoOf (bySeat plan.seatAssignments tableID) tableID = tableNo ∧
    Takes snapshots (openingEvent plan.tournamentID tableNo (latestTableSnapshot snapshots plan.tournamentID tableID))

theorem seatTables_ready (openable : Openable snapshots plan) {list : List String} (distinct : list.Nodup)
    (inside : ∀ tableID ∈ list, tableID ∈ uniqueTableIDs plan.seatAssignments) :
    Faulty.Triple (Ready snapshots plan.tournamentID list)
      (Faulty.each (seatTableOf waveID plan.tournamentID plan snapshots) list)
      (fun _ => Ready snapshots plan.tournamentID []) fun _ _ => False := by
  induction list with
  | nil => exact Faulty.Triple.pure fun _ ready => ready
  | cons tableID rest ih =>
    obtain ⟨absent,tail⟩ := List.nodup_cons.mp distinct
    obtain ⟨tableNo,rfl,number,takes⟩ := openable tableID (inside _ List.mem_cons_self)
    exact Faulty.Triple.bind (seatTableOf_ready rfl number takes absent) fun _ =>
      ih tail fun other later => inside other (List.mem_cons_of_mem _ later)

theorem applySeatingPlan_runs (waveID : String) {runtime : RuntimeService} (own : plan.tournamentID = tournamentID)
    (willing : Willing runtime.world) (openable : Openable runtime.world.store plan) :
    ∃ after, applySeatingPlan waveID tournamentID plan runtime = (.ok (),after) := by
  subst own
  obtain ⟨world,read,willing',stored⟩ := readCall_willing willing id
  have reads : storeCall (readCall id) runtime = (.ok runtime.world.store,{ runtime with world := world }) := by
    unfold storeCall
    rw [read]
    rfl
  have ready : Ready runtime.world.store plan.tournamentID (uniqueTableIDs plan.seatAssignments) { runtime with world := world } :=
    ⟨willing',fun _ _ => by rw [stored]⟩
  have whole : Faulty.Triple (Ready runtime.world.store plan.tournamentID (uniqueTableIDs plan.seatAssignments))
      (removeActors plan.tournamentID >>= fun _ => updateTournament plan.tournamentID (fun tournament =>
        { tournament with seatAssignments := OrdMap.empty }) >>= fun _ =>
        Faulty.each (seatTableOf waveID plan.tournamentID plan runtime.world.store) (uniqueTableIDs plan.seatAssignments) >>=
        fun _ => Faulty.read fun runtime => Faulty.each (clearRemoved waveID plan) (fieldMiners runtime waveID))
      (fun _ => Ready runtime.world.store plan.tournamentID []) fun _ _ => False :=
    Faulty.Triple.bind (keeps_modify fun _ => rfl) fun _ => Faulty.Triple.bind (keeps_modify fun _ => rfl) fun _ =>
      Faulty.Triple.bind (seatTables_ready openable (uniqueTableIDs_nodup _) fun _ inside => inside) fun _ =>
      keeps_read fun _ => keeps_each (keeps_clearRemoved _) _
  obtain ⟨_,after,done,_⟩ := whole.runs ready
  exact ⟨after,(Faulty.bind_of_ok _ reads).trans done⟩

end Seating

/-! A draw is openable where the repository accepts as many tables. -/
section Openable
variable {sum256 : String → Nat} {entrants : List Entrant} {plan : TournamentPlan} {world : World}

theorem tableNoOf_numbered {assignments : List SeatAssignment} {tableID : String} {tableNo : Nat} (positive : 1 ≤ tableNo)
    (some_ : assignments ≠ []) (numbered : ∀ assignment ∈ assignments, assignment.tableNo = tableNo) :
    tableNoOf assignments tableID = tableNo := by
  cases assignments with
  | nil => exact absurd rfl some_
  | cons first rest =>
    have number := numbered first List.mem_cons_self
    unfold tableNoOf
    dsimp only
    rw [number,if_neg (by omega)]

theorem assignSeats_openable (drawn : plan.seatAssignments = assignSeats sum256 plan.tournamentID entrants)
    (accepting : Accepting world plan.tournamentID (targetTableCount entrants.length)) : Openable world.store plan := by
  intro tableID listed
  have seats := assignSeats_seats sum256 plan.tournamentID entrants
  rw [← drawn] at seats
  obtain ⟨assignment,inside,own⟩ := mem_uniqueTableIDs.mp listed
  obtain ⟨tableNo,first,last,-,table⟩ := seats.tables assignment inside
  rw [length_balancedTargetSizes] at last
  have same : tableID = Model.tableID plan.tournamentID tableNo := own.symm.trans table
  refine ⟨tableNo,same,?_,?_⟩
  · have grouped : ∀ other, other ∈ bySeat plan.seatAssignments tableID ↔
        other ∈ plan.seatAssignments ∧ other.tableID = tableID := by
      intro other
      unfold bySeat tableGroup
      rw [(List.perm_insertionSort _ _).mem_iff,List.mem_filter,decide_eq_true_eq]
    refine tableNoOf_numbered first (List.ne_nil_of_mem ((grouped assignment).mpr ⟨inside,own⟩)) fun other member => ?_
    obtain ⟨seated,there⟩ := (grouped other).mp member
    obtain ⟨otherNo,-,-,number,named⟩ := seats.tables other seated
    have equal := tableID_injective (named.symm.trans (there.trans same))
    rw [number,equal]
  · have takes := accepting.openings (tableNo - 1) (List.mem_range.mpr (by omega))
    rw [Nat.sub_add_cancel first] at takes
    rw [same]
    exact takes

end Openable

section Removal
variable {sum256 : String → Nat} {waveID minerID tournamentID : String} {runtime : RuntimeService}
  {hub removed service : Service}
variable {store : Store}

theorem standingOf_some (standing : standingOf runtime waveID = some (some hub,tournamentID)) :
    ∃ wave, runtime.waves.get? waveID = some wave ∧ wave.hub = some hub ∧ wave.tournamentID = tournamentID := by
  obtain ⟨wave,found,same⟩ := Option.map_eq_some_iff.mp standing
  exact ⟨wave,found,congrArg Prod.fst same,congrArg Prod.snd same⟩

theorem standingOf_setHub (standing : standingOf runtime waveID = some (some hub,tournamentID)) (service : Service) :
    standingOf (setHub waveID service runtime).2 waveID = some (some service,tournamentID) := by
  change standingOf { runtime with waves := runtime.waves.modifyAt waveID fun wave => { wave with hub := some service } } waveID = _
  obtain ⟨wave,found,-,own⟩ := standingOf_some standing
  rw [standingOf_modifyAt,if_pos rfl,found,Option.map_some,own]

def afterRepublication (waveID minerID : String) (wave : WaveRuntime) (service : Service) : RuntimeM Unit := do
  Faulty.given ((wave.entrants.get? minerID).isSome = true) do
    upsertRow
    updateEntrant waveID minerID removedBeforeStart
  match service.tournaments with
  | [] => Faulty.fail .noTournamentPacked
  | plan :: _ => do
    let _ ← findTournament wave.tournamentID
    upsertRow
    updateTournament wave.tournamentID fun tournament =>
      { tournament with tournament := plannedTournament plan tournament.tournament }
    applySeatingPlan waveID wave.tournamentID plan
    resetLiveHub waveID plan.tournamentID plan.entrantIDs.length plan.seatAssignments

theorem forceRemoveBeforeStart_cases (sum256 : String → Nat) (minerID : String) (standing : standingOf runtime waveID = some (some hub,tournamentID))
    (named : tournamentID ≠ "") : ∃ wave, runtime.waves.get? waveID = some wave ∧ wave.tournamentID = tournamentID ∧
      forceRemoveBeforeStart sum256 waveID minerID runtime =
        match hub.forceRemoveBeforeStart minerID with
        | .error e => (.error (.hub e),runtime)
        | .ok removed => match removed.republishSeats sum256 with
          | .error e => (.error (.hub e),(setHub waveID removed runtime).2)
          | .ok service => afterRepublication waveID minerID wave service
              (setHub waveID service (setHub waveID removed runtime).2).2 := by
  obtain ⟨⟨row,entrants,waveHub,liveHub,own⟩,found,rfl,rfl⟩ := standingOf_some standing
  refine ⟨_,found,rfl,?_⟩
  unfold forceRemoveBeforeStart
  rw [Faulty.bind_of_ok _ (by rw [findWave,found])]
  dsimp only
  rw [if_neg named]
  cases removes : hub.forceRemoveBeforeStart minerID with
  | error e => rfl
  | ok removed =>
    cases republishes : removed.republishSeats sum256 with
    | error e =>
      rw [Faulty.bind_of_ok _ (show hubCall (.ok removed) runtime = (.ok removed,runtime) from rfl)]
      dsimp only
      rw [republishes]
      rfl
    | ok service =>
      rw [Faulty.bind_of_ok _ (show hubCall (.ok removed) runtime = (.ok removed,runtime) from rfl)]
      dsimp only
      rw [republishes]
      rfl

theorem kept_afterRepublication {other : String} (wave : WaveRuntime) :
    Faulty.Moves (HubKept other) (afterRepublication waveID minerID wave service) := by
  refine kept_bind (kept_given (kept_bind kept_upsertRow fun _ => kept_updateEntrant _ _)) fun _ => ?_
  split
  · exact fun runtime => HubKept.refl runtime
  · exact kept_bind (kept_findTournament _) fun _ => kept_bind kept_upsertRow fun _ =>
      kept_bind (kept_updateTournament _ _) fun _ => kept_bind (kept_applySeatingPlan _ _) fun _ => kept_resetLiveHub _ _ _

def Standing (store : Store) (tournamentID : String) (runtime : RuntimeService) : Prop :=
  Willing runtime.world ∧ runtime.world.store = store ∧ (runtime.tournaments.get? tournamentID).isSome

theorem standing_upsertRow : Faulty.Triple (Standing store tournamentID) upsertRow
    (fun _ => Standing store tournamentID) fun _ _ => False := by
  refine Faulty.Triple.of_runs fun runtime standing => ?_
  obtain ⟨after,done,willing,stored⟩ := writeCall_willing standing.1 (fun (_ : Unit) store => .ok store) [()] rfl
  refine ⟨(),{ runtime with world := after },?_,willing,stored.trans standing.2.1,standing.2.2⟩
  unfold upsertRow storeCall
  rw [done]
  rfl

theorem standing_updateTournament (f : TournamentRuntime → TournamentRuntime) :
    Faulty.Triple (Standing store tournamentID) (updateTournament tournamentID f)
      (fun _ => Standing store tournamentID) fun _ _ => False :=
  Faulty.Triple.modify fun runtime standing => ⟨standing.1,standing.2.1,by
    rw [OrdMap.get?_modifyAt,if_pos rfl,Option.isSome_map]
    exact standing.2.2⟩

theorem standing_findTournament : Faulty.Triple (Standing store tournamentID) (findTournament tournamentID)
    (fun _ => Standing store tournamentID) fun _ _ => False := by
  refine Faulty.Triple.of_runs fun runtime standing => ?_
  obtain ⟨entry,found⟩ := Option.isSome_iff_exists.mp standing.2.2
  exact ⟨entry,runtime,by rw [findTournament,found],standing⟩

theorem afterRepublication_runs (waveID minerID : String) {wave : WaveRuntime} {plan : TournamentPlan} {rest : List TournamentPlan}
    (plans : service.tournaments = plan :: rest) (own : plan.tournamentID = wave.tournamentID)
    (willing : Willing runtime.world) (known : (runtime.tournaments.get? wave.tournamentID).isSome)
    (openable : Openable runtime.world.store plan) :
    ∃ after, afterRepublication waveID minerID wave service runtime = (.ok (),after) := by
  have whole : Faulty.Triple (Standing runtime.world.store wave.tournamentID)
      (afterRepublication waveID minerID wave service) (fun _ _ => True) fun _ _ => False := by
    refine Faulty.Triple.bind (R := fun _ => Standing runtime.world.store wave.tournamentID)
      (Faulty.Triple.given (fun _ => ?_) fun _ _ standing => standing) fun _ => ?_
    · exact Faulty.Triple.bind standing_upsertRow fun _ => Faulty.Triple.modify fun _ standing => standing
    · rw [plans]
      refine Faulty.Triple.bind standing_findTournament fun _ => Faulty.Triple.bind standing_upsertRow fun _ =>
        Faulty.Triple.bind (standing_updateTournament _) fun _ => Faulty.Triple.bind (R := fun _ _ => True) ?_ fun _ => ?_
      · refine Faulty.Triple.of_runs fun middle standing => ?_
        obtain ⟨after,done⟩ := applySeatingPlan_runs waveID own standing.1 (standing.2.1 ▸ openable)
        exact ⟨(),after,done,trivial⟩
      · exact Faulty.Triple.read fun _ _ => Faulty.Triple.modify fun _ _ => trivial
  obtain ⟨_,after,done,-⟩ := whole.runs ⟨willing,rfl,known⟩
  exact ⟨after,done⟩

end Removal

def Drawn (hub : Service) (plan : TournamentPlan) : Prop :=
  plan.entrantIDs = hub.activeEntrants.map Entrant.id ∧
    (plan.seatAssignments.map seatedAs).Perm (hub.activeEntrants.map named)

structure Published (waveID : String) (runtime : RuntimeService) (hub : Service) (plan : TournamentPlan)
    (rest : List TournamentPlan) : Prop where
  standing : standingOf runtime waveID = some (some hub,plan.tournamentID)
  plans : hub.tournaments = plan :: rest
  state : hub.waveState = some .seatsPublished
  named : plan.tournamentID ≠ ""
  known : (runtime.tournaments.get? plan.tournamentID).isSome
  drawn : Drawn hub plan

def PublishedWave (waveID : String) (runtime : RuntimeService) : Prop :=
  ∃ hub plan rest, Published waveID runtime hub plan rest

/-- A removal the hub would carry out finds a plan that was not republished and a repository that takes it. -/
def Safe (runtime : RuntimeService) (waveID minerID : String) : Prop :=
  ∀ hub plan, hubOf runtime waveID = some hub → hub.tournaments.head? = some plan → Removable hub.entrants minerID →
    hub.republishUsed = false ∧
      Accepting runtime.world plan.tournamentID (targetTableCount (hub.activeEntrants.length - 1))

/-- After the call the plan is that of the field; a call that fails leaves the field and the plan alone. -/
def Atomic (waveID : String) (before : RuntimeService) (call : Except RuntimeError Advance × RuntimeService) : Prop :=
  (∃ hub plan, hubOf call.2 waveID = some hub ∧ hub.tournaments.head? = some plan ∧ Drawn hub plan) ∧
    ∀ e, call.1 = .error e → (hubOf call.2 waveID).map (fun hub => (hub.entrants,hub.tournaments)) =
      (hubOf before waveID).map fun hub => (hub.entrants,hub.tournaments)

section Run
variable {sum256 : String → Nat} {waveID minerID : String} {start runtime after : RuntimeService} {hub : Service}
  {plan : TournamentPlan} {rest : List TournamentPlan}

theorem hubOf_standing : hubOf runtime waveID = (standingOf runtime waveID).bind Prod.fst := by
  unfold hubOf standingOf
  rw [Option.bind_map]
  rfl

theorem Published.found (published : Published waveID runtime hub plan rest) : hubOf runtime waveID = some hub := by
  rw [hubOf_standing,published.standing]
  rfl

theorem Published.kept (published : Published waveID runtime hub plan rest) (kept : HubKept waveID runtime after) :
    Published waveID after hub plan rest :=
  { published with standing := kept.1.trans published.standing, known := by rw [kept.2]; exact published.known }

theorem forceRemoveBeforeStart_iff (minerID : String) (state : hub.waveState = some .seatsPublished) :
    (∃ removed, hub.forceRemoveBeforeStart minerID = .ok removed) ↔ Removable hub.entrants minerID := by
  rw [← removeEntrant_iff]
  unfold Service.forceRemoveBeforeStart
  rw [if_neg (not_not.mpr state)]
  cases removeEntrant minerID hub.entrants with
  | error e => simp [Except.map]
  | ok entrants => simp [Except.map]

theorem republishSeats_drawn {removed service : Service} (republishes : removed.republishSeats sum256 = .ok service)
    (plans : removed.tournaments = plan :: rest) : ∃ plan', service.tournaments = plan' :: rest ∧
      plan'.tournamentID = plan.tournamentID ∧ service.waveState = removed.waveState ∧ Drawn service plan' ∧
      plan'.seatAssignments = assignSeats sum256 plan'.tournamentID removed.activeEntrants := by
  obtain ⟨first,later,held,rfl⟩ := republishSeats_plan sum256 republishes
  cases plans.symm.trans held
  exact ⟨_,rfl,rfl,rfl,⟨rfl,assignSeats_named sum256 _ _⟩,rfl⟩

theorem removal_cases (sum256 : String → Nat) (published : Published waveID runtime hub plan rest) (minerID : String) :
    (¬Removable hub.entrants minerID ∧
      ∃ e, forceRemoveBeforeStart sum256 waveID minerID runtime = (.error e,runtime)) ∨
    (Removable hub.entrants minerID ∧ hub.republishUsed = true ∧ ∃ e removed,
      hub.forceRemoveBeforeStart minerID = .ok removed ∧
      forceRemoveBeforeStart sum256 waveID minerID runtime = (.error e,(setHub waveID removed runtime).2)) ∨
    (Removable hub.entrants minerID ∧ hub.republishUsed = false ∧
      PublishedWave waveID (forceRemoveBeforeStart sum256 waveID minerID runtime).2 ∧
      (Accepting runtime.world plan.tournamentID (targetTableCount (hub.activeEntrants.length - 1)) →
        (forceRemoveBeforeStart sum256 waveID minerID runtime).1 = .ok ())) := by
  obtain ⟨wave,-,own,same⟩ := forceRemoveBeforeStart_cases sum256 minerID published.standing published.named
  have possible := forceRemoveBeforeStart_iff minerID published.state
  cases removes : hub.forceRemoveBeforeStart minerID with
  | error e =>
    rw [removes] at same possible
    refine .inl ⟨fun removable => ?_,_,same⟩
    obtain ⟨_,impossible⟩ := possible.mpr removable
    cases impossible
  | ok removed =>
    have removable := possible.mp ⟨removed,removes⟩
    rw [removes] at same
    dsimp only at same
    obtain ⟨field,shape⟩ := forceRemoveBeforeStart_plan removes
    have fields : removed.waveState = hub.waveState ∧ removed.republishUsed = hub.republishUsed ∧
        removed.pendingRepublish = true ∧ removed.tournaments = hub.tournaments := by
      rw [shape]
      exact ⟨rfl,rfl,rfl,rfl⟩
    right
    cases used : hub.republishUsed with
    | true =>
      refine .inl ⟨removable,rfl,.hub .republishAlreadyUsed,removed,rfl,?_⟩
      rw [same]
      unfold Service.republishSeats
      rw [fields.1,published.state,fields.2.1,used]
      rfl
    | false =>
      refine .inr ⟨removable,rfl,?_⟩
      obtain ⟨service,republishes⟩ := republishSeats_taken sum256 (fields.1.trans published.state)
        (fields.2.1.trans used) fields.2.2.1 (by rw [fields.2.2.2,published.plans]; exact List.cons_ne_nil _ _)
      obtain ⟨plan',plans,own',state,drawn,seats⟩ := republishSeats_drawn republishes (fields.2.2.2.trans published.plans)
      rw [republishes] at same
      dsimp only at same
      rw [same]
      have again : Published waveID (setHub waveID service (setHub waveID removed runtime).2).2 service plan' rest :=
        { standing := own' ▸ standingOf_setHub (standingOf_setHub published.standing removed) service
          plans := plans
          state := state.trans (fields.1.trans published.state)
          named := own' ▸ published.named
          known := own' ▸ published.known
          drawn := drawn }
      refine ⟨⟨service,_,rest,again.kept (kept_afterRepublication wave _)⟩,fun accepting => ?_⟩
      have fewer : removed.activeEntrants.length = hub.activeEntrants.length - 1 := by
        have length := removeEntrant_length field
        rw [activeEntrants_eq,activeEntrants_eq,List.length_insertionSort,List.length_insertionSort]
        omega
      rw [← fewer,← own'] at accepting
      obtain ⟨after,done⟩ := afterRepublication_runs waveID minerID again.plans (own'.trans own.symm)
        (show Willing (setHub waveID service (setHub waveID removed runtime).2).2.world from accepting.willing)
        (own ▸ published.known) (assignSeats_openable seats accepting)
      rw [done]

theorem kept_forceRemoveBeforeStart {other : String} (differ : other ≠ waveID) (minerID : String) :
    Faulty.Moves (HubKept waveID) (forceRemoveBeforeStart sum256 other minerID) := by
  refine kept_bind (kept_findWave _) fun wave => ?_
  split
  · exact HubKept.refl
  · split
    · exact HubKept.refl
    · refine kept_bind (kept_hubCall _) fun _ => kept_bind (kept_updateWave_elsewhere _ differ) fun _ =>
        kept_bind (kept_hubCall _) fun service => kept_bind (kept_updateWave_elsewhere _ differ) fun _ => ?_
      exact kept_afterRepublication wave

theorem perform_removal (runtime : RuntimeService) : perform sum256 (.forceRemoveBeforeStart waveID minerID) runtime =
    ((forceRemoveBeforeStart sum256 waveID minerID runtime).1.map fun _ => .waiting,
      (forceRemoveBeforeStart sum256 waveID minerID runtime).2) := by
  cases run : forceRemoveBeforeStart sum256 waveID minerID runtime with
  | mk outcome after =>
    cases outcome with
    | error e => exact Faulty.bind_of_error _ run
    | ok _ => exact Faulty.bind_of_ok _ run

theorem PublishedWave.atomic (published : PublishedWave waveID runtime) :
    ∃ hub plan, hubOf runtime waveID = some hub ∧ hub.tournaments.head? = some plan ∧ Drawn hub plan := by
  obtain ⟨hub,plan,rest,published⟩ := published
  exact ⟨hub,plan,published.found,by rw [published.plans]; rfl,published.drawn⟩

theorem Published.head (published : Published waveID runtime hub plan rest) : hub.tournaments.head? = some plan := by
  rw [published.plans]
  rfl

theorem removal_safe (published : PublishedWave waveID runtime) (safe : Safe runtime waveID minerID) :
    PublishedWave waveID (perform sum256 (.forceRemoveBeforeStart waveID minerID) runtime).2 ∧
      Atomic waveID runtime (perform sum256 (.forceRemoveBeforeStart waveID minerID) runtime) := by
  have whole := published
  obtain ⟨hub,plan,rest,published⟩ := published
  rw [perform_removal]
  obtain ⟨-,e,same⟩ | ⟨removable,used,-⟩ | ⟨removable,unused,again,succeeds⟩ :=
    removal_cases sum256 published minerID
  · rw [same]
    exact ⟨whole,whole.atomic,fun _ _ => rfl⟩
  · obtain ⟨unused,-⟩ := safe hub plan published.found published.head removable
    rw [used] at unused
    cases unused
  · obtain ⟨-,accepting⟩ := safe hub plan published.found published.head removable
    refine ⟨again,again.atomic,fun e failed => ?_⟩
    dsimp only at failed
    rw [succeeds accepting] at failed
    cases failed

theorem removal_stuck (published : Published waveID runtime hub plan rest) (removable : Removable hub.entrants minerID)
    (used : hub.republishUsed = true) :
    ¬Atomic waveID runtime (perform sum256 (.forceRemoveBeforeStart waveID minerID) runtime) := by
  rintro ⟨-,unchanged⟩
  rw [perform_removal] at unchanged
  obtain ⟨refused,-⟩ | ⟨-,-,e,removed,removes,same⟩ | ⟨-,unused,-⟩ := removal_cases sum256 published minerID
  · exact refused removable
  · rw [same] at unchanged
    have still := unchanged e rfl
    rw [hubOf_standing,hubOf_standing,standingOf_setHub published.standing,published.standing] at still
    have entrants : removed.entrants = hub.entrants := congrArg Prod.fst (Option.some.inj still)
    have fewer := removeEntrant_length (forceRemoveBeforeStart_plan removes).1
    rw [entrants] at fewer
    omega
  · rw [used] at unused
    cases unused

theorem PublishedWave.at (published : PublishedWave waveID runtime) (moment : Moment) :
    PublishedWave waveID (runtime.at moment) := by
  obtain ⟨hub,plan,rest,published⟩ := published
  exact ⟨hub,plan,rest,published.kept ⟨rfl,fun _ => rfl⟩⟩

/-- Removals before the start keep the plan of a published wave in agreement with its field, and those that fail leave
no trace, as long as the hub refuses them or can draw the field again. -/
theorem removal_atomic (published : PublishedWave waveID start)
    (run : Run sum256 (fun now call => ∃ other minerID, call = .forceRemoveBeforeStart other minerID ∧
      (other = waveID → Safe now waveID minerID)) start runtime) (moment : Moment) (minerID : String) :
    (∃ hub plan, hubOf runtime waveID = some hub ∧ hub.tournaments.head? = some plan ∧ Drawn hub plan) ∧
    (Safe (runtime.at moment) waveID minerID →
      Atomic waveID runtime (perform sum256 (.forceRemoveBeforeStart waveID minerID) (runtime.at moment))) ∧
    (Atomic waveID runtime (perform sum256 (.forceRemoveBeforeStart waveID minerID) (runtime.at moment)) →
      ∀ hub, hubOf runtime waveID = some hub → Removable hub.entrants minerID → hub.republishUsed = false) := by
  have now : PublishedWave waveID runtime := by
    induction run with
    | start => exact published
    | @call before run moment call admitted ih =>
      obtain ⟨other,minerID,rfl,safe⟩ := admitted
      have here := ih.at moment
      by_cases own : other = waveID
      · subst own
        exact (removal_safe here (safe rfl)).1
      · obtain ⟨hub,plan,rest,published⟩ := here
        rw [perform_removal]
        exact ⟨hub,plan,rest,published.kept (kept_forceRemoveBeforeStart own minerID _)⟩
  refine ⟨now.atomic,fun safe => ?_,fun atomic hub found removable => ?_⟩
  · exact (removal_safe (now.at moment) safe).2
  · obtain ⟨other,plan,rest,published⟩ := now
    cases published.found.symm.trans found
    by_contra used
    rw [Bool.not_eq_false] at used
    exact removal_stuck (published.kept (show HubKept waveID runtime (runtime.at moment) from ⟨rfl,fun _ => rfl⟩)) removable used atomic

end Run

section Publish
variable {sum256 : String → Nat} {waveID : String} {before after runtime : RuntimeService} {hub : Service}
  {plan : TournamentPlan} {rest : List TournamentPlan}

theorem lockWave_standing (locks : lockWave sum256 waveID before = (.ok (),after)) : ∃ hub plan,
    standingOf after waveID = some (some hub,plan.tournamentID) ∧ hub.tournaments = [plan] ∧ plan.tournamentID ≠ "" ∧
      Drawn hub plan := by
  cases found : before.waves.get? waveID with
  | none =>
    rw [lockWave_missing sum256 found] at locks
    cases locks
  | some wave =>
    rw [lockWave_found sum256 found] at locks
    obtain ⟨_,marked,sets,follows⟩ := Faulty.bind_ok locks
    have there : marked = (updateWave waveID _ before).2 := (congrArg Prod.snd sets).symm
    refine ⟨lockedHub sum256 waveID wave.entrants,lockPlan sum256 waveID wave.entrants,?_,rfl,
      Model.tournamentID_ne_empty waveID 1,rfl,assignSeats_named sum256 _ _⟩
    have set : standingOf marked waveID = some (some (lockedHub sum256 waveID wave.entrants),Model.tournamentID waveID 1) := by
      rw [there]
      change standingOf { before with waves := before.waves.modifyAt waveID _ } waveID = _
      rw [standingOf_modifyAt,if_pos rfl,found]
      rfl
    obtain ⟨_,first,wrote,follows⟩ := Faulty.bind_ok follows
    obtain ⟨_,second,wrote',follows⟩ := Faulty.bind_ok follows
    obtain ⟨_,third,joined,follows⟩ := Faulty.bind_ok follows
    have added : after.waves = third.waves := by
      cases follows
      rfl
    have joins : HubKept waveID second third := kept_run (kept_each fun _ _ => kept_bind kept_upsertRow fun _ =>
      kept_bind (kept_updateEntrant _ _) fun _ => kept_upsertRow) joined
    have last : standingOf after waveID = standingOf third waveID := by
      unfold standingOf
      rw [added]
    exact last.trans (joins.1.trans ((kept_run kept_upsertRow wrote').1.trans ((kept_run kept_upsertRow wrote).1.trans set)))

theorem publishSeats_published (standing : standingOf runtime waveID = some (some hub,plan.tournamentID))
    (plans : hub.tournaments = plan :: rest) (named : plan.tournamentID ≠ "") (drawn : Drawn hub plan)
    (publishes : publishSeats waveID runtime = (.ok (),after)) : PublishedWave waveID after := by
  obtain ⟨⟨row,entrants,waveHub,liveHub,own⟩,found,rfl,rfl⟩ := standingOf_some standing
  unfold publishSeats at publishes
  rw [Faulty.bind_of_ok _ (by rw [findWave,found])] at publishes
  dsimp only at publishes
  rw [if_neg named] at publishes
  obtain ⟨service,middle,asked,publishes⟩ := Faulty.bind_ok publishes
  have published : hub.publishSeats = .ok service := Faulty.ok_of_mapError (congrArg Prod.fst asked)
  cases congrArg Prod.snd asked
  obtain ⟨_,marked,sets,publishes⟩ := Faulty.bind_ok publishes
  cases sets
  obtain ⟨field,state,tournaments⟩ := publishSeats_plan published
  rw [plans,List.map_cons] at tournaments
  obtain ⟨_,first,moved,publishes⟩ := Faulty.bind_ok publishes
  obtain ⟨_,second,wrote,publishes⟩ := Faulty.bind_ok publishes
  rw [tournaments] at publishes
  obtain ⟨entry,third,fetched,publishes⟩ := Faulty.bind_ok publishes
  obtain missing | ⟨entry',stored,found'⟩ := findTournament_cases plan.tournamentID second
  · rw [missing] at fetched
    cases fetched
  cases found'.symm.trans fetched
  have early : HubKept waveID _ second := HubKept.trans _ _ _
    (kept_run (by exact kept_updateWave fun _ => ⟨rfl,rfl⟩) moved) (kept_run kept_upsertRow wrote)
  have late : HubKept waveID second after := by
    refine kept_run ?_ publishes
    exact kept_bind kept_upsertRow fun _ => kept_bind (kept_updateTournament _ _) fun _ =>
      kept_bind (kept_each fun _ _ => kept_upsertRow) fun _ => kept_bind (kept_applySeatingPlan _ _) fun _ =>
      kept_bind (kept_resetLiveHub _ _ _) fun _ => kept_persistRoundBarrier _
  refine ⟨service,_,_,?_,tournaments,state,named,?_,?_⟩
  · exact late.1.trans (early.1.trans (standingOf_setHub standing service))
  · rw [late.2]
    exact Option.isSome_iff_exists.mpr ⟨entry,stored⟩
  · unfold Drawn Service.activeEntrants
    rw [field]
    exact drawn

end Publish

theorem safe_calm {runtime : RuntimeService} {waveID minerID tournamentID : String} {tables : Nat}
    (calm : ((hubOf runtime waveID).any fun hub => hub.republishUsed = false ∧
      targetTableCount (hub.activeEntrants.length - 1) = tables ∧
      hub.tournaments.head?.map TournamentPlan.tournamentID = some tournamentID) = true)
    (takes : ∀ i ∈ List.range tables, Takes runtime.world.store (openingEvent tournamentID (i + 1)
      (latestTableSnapshot runtime.world.store tournamentID (Model.tableID tournamentID ↑(i + 1))))) :
    Safe (runtime.at {}) waveID minerID := by
  intro hub plan found first _
  obtain ⟨other,held,facts⟩ := (Option.any_eq_true _ _).mp calm
  obtain ⟨unused,few,named⟩ := of_decide_eq_true facts
  cases held.symm.trans found
  rw [first,Option.map_some,Option.some.injEq] at named
  rw [few,named]
  exact ⟨unused,fun _ inside => (by cases inside),takes⟩

def fourRegistered : RuntimeService :=
  performAll (fun _ => 0) [.createWave "w" "rated",.registerMiner "w" "a",.registerMiner "w" "b",.registerMiner "w" "c",
    .registerMiner "w" "d"] {}

def fourLocked : RuntimeService := (lockWave (fun _ => 0) "w" fourRegistered).2

def fourPublished : RuntimeService := (publishSeats "w" fourLocked).2

theorem fourPublished_succeeds : (lockWave (fun _ => 0) "w" fourRegistered).1 = .ok () ∧
    (publishSeats "w" fourLocked).1 = .ok () := by
  decide +kernel

theorem fourPublished_published : PublishedWave "w" fourPublished := by
  have run {x : RuntimeM Unit} {s : RuntimeService} (done : (x s).1 = .ok ()) : x s = (.ok (),(x s).2) := Prod.ext done rfl
  obtain ⟨hub,plan,standing,plans,named,drawn⟩ := lockWave_standing (run fourPublished_succeeds.1)
  exact publishSeats_published standing plans named drawn (run fourPublished_succeeds.2)

theorem fourPublished_accepts : ((hubOf fourPublished "w").any fun hub => hub.republishUsed = false ∧
      targetTableCount (hub.activeEntrants.length - 1) = 1 ∧
      hub.tournaments.head?.map TournamentPlan.tournamentID = some "tour:w:01") = true ∧
    ∀ i ∈ List.range 1, Takes fourPublished.world.store (openingEvent "tour:w:01" (i + 1)
      (latestTableSnapshot fourPublished.world.store "tour:w:01" (Model.tableID "tour:w:01" ↑(i + 1)))) := by
  decide +kernel

theorem removal_atomic_fourPublished : Atomic "w" fourPublished
    (perform (fun _ => 0) (.forceRemoveBeforeStart "w" "c") (fourPublished.at {})) :=
  (removal_atomic fourPublished_published .start {} "c").2.1 (safe_calm fourPublished_accepts.1 fourPublished_accepts.2)

def threePublished : RuntimeService := (perform (fun _ => 0) (.forceRemoveBeforeStart "w" "c") (fourPublished.at {})).2

theorem threePublished_removal :
    (perform (fun _ => 0) (.forceRemoveBeforeStart "w" "d") (threePublished.at {})).1 =
      .error (.hub .republishAlreadyUsed) ∧
    ((hubOf (perform (fun _ => 0) (.forceRemoveBeforeStart "w" "d") (threePublished.at {})).2 "w").map
      fun hub => hub.activeEntrants.length) ≠ (hubOf threePublished "w").map fun hub => hub.activeEntrants.length := by
  decide +kernel

theorem second_removal_fails : PublishedWave "w" fourPublished ∧
    Run (fun _ => 0) (fun _ call => ∃ minerID, call = .forceRemoveBeforeStart "w" minerID) fourPublished threePublished ∧
    ¬Atomic "w" threePublished (perform (fun _ => 0) (.forceRemoveBeforeStart "w" "d") (threePublished.at {})) := by
  refine ⟨fourPublished_published,Run.start.call {} (.forceRemoveBeforeStart "w" "c") ⟨"c",rfl⟩,fun atomic => ?_⟩
  have same := congrArg (Option.map fun (field : List Entrant × List TournamentPlan) =>
    (({ entrants := field.1 } : Service).activeEntrants.length)) (atomic.2 _ threePublished_removal.1)
  rw [Option.map_map,Option.map_map] at same
  exact threePublished_removal.2 same

end Clawchain.Arena.App
