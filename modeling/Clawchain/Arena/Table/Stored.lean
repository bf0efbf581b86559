import Clawchain.Arena.Table.Persist

/-! What the calls of the actor leave in the store when the store takes all of it. -/
namespace Clawchain.Arena.Table
open Clawchain.Lib Faulty

variable {world after : World} {state : ActorState} {nextSeq : Int} {envelope : CommandEnvelope} {event : String}
  {actor : Actor}

theorem writeCall_ok {ρ : Type} {write : ρ → Store → Except StoreError Store} {rows : List ρ}
    (done : writeCall write rows world = (.ok (),after)) :
    writeRows write rows world.store = (.ok (),after.store) ∧ after.now = world.now := by
  unfold writeCall at done
  split at done
  · rename_i count _ _
    have failed := congrArg Prod.fst done
    simp only at failed
    cases result : (writeRows write (rows.take count) world.store).1 with
    | error e =>
      rw [result] at failed
      cases failed
    | ok _ =>
      rw [result] at failed
      cases failed
  · simp only [Prod.mk.injEq] at done
    obtain ⟨fine,rfl⟩ := done
    exact ⟨Prod.ext fine rfl,rfl⟩

theorem writeCall_row {ρ : Type} (write : ρ → Store → Store) {row : ρ}
    (done : writeCall (fun row store => .ok (write row store)) [row] world = (.ok (),after)) :
    after.store = write row world.store ∧ after.now = world.now := by
  obtain ⟨rows,now⟩ := writeCall_ok done
  simp only [writeRows] at rows
  exact ⟨(congrArg Prod.snd rows).symm,now⟩

theorem writeDeadline_stored (store : Store) (row : ActionDeadline) : ∃ stored : ActionDeadline,
    stored.deadlineID = row.deadlineID ∧ stored.status = row.status ∧ stored.tournamentID = row.tournamentID ∧
      stored.tableID = row.tableID ∧ stored.handID = row.handID ∧ stored.phaseID = row.phaseID ∧
      stored.seatID = row.seatID ∧ stored.deadlineAt = row.deadlineAt ∧
      (writeDeadline row store).deadlines = store.deadlines.insert stored.deadlineID stored :=
  ⟨{ row with createdAt := ((store.deadlines.get? row.deadlineID).map ActionDeadline.createdAt).getD row.createdAt },
    rfl,rfl,rfl,rfl,rfl,rfl,rfl,rfl,rfl⟩

def recordEvents (entries : List EventLogEntry) (events : OrdMap String EventLogEntry) : OrdMap String EventLogEntry :=
  entries.foldl (fun held entry => if (held.get? entry.eventID).isSome then held else held.insert entry.eventID entry) events

theorem writeRows_events {entries : List EventLogEntry} {store after : Store}
    (done : writeRows writeEvent entries store = (.ok (),after)) :
    after = { store with events := recordEvents entries store.events } := by
  induction entries generalizing store with
  | nil =>
    cases done
    rfl
  | cons entry rest ih =>
    simp only [writeRows,writeEvent] at done
    cases held : store.events.get? entry.eventID with
    | none =>
      rw [held] at done
      have same := ih done
      simpa [recordEvents,held] using same
    | some existing =>
      rw [held] at done
      simp only at done
      split_ifs at done
      · have same := ih done
        simpa [recordEvents,held] using same
      · cases done

theorem appendEvents_ok (entries : List EventLogEntry) (done : appendEvents entries world = (.ok (),after)) :
    after.store = { world.store with events := recordEvents entries world.store.events } ∧ after.now = world.now := by
  obtain ⟨rows,now⟩ := writeCall_ok done
  exact ⟨writeRows_events rows,now⟩

structure Pictures (state : ActorState) (table : State) (stateSeq streamSeq : Int) (row : TableSnapshot) : Prop where
  tableID : row.tableID = state.tableID
  tournamentID : row.tournamentID = state.tournamentID
  stateSeq : row.stateSeq = stateSeq
  streamSeq : row.streamSeq = streamSeq
  payload : row.payload = table

theorem snapshotTable_ok {table : State} {streamSeq : Int}
    (done : snapshotTable state table nextSeq streamSeq world = (.ok (),after)) :
    ∃ row, Pictures state table nextSeq streamSeq row ∧
      after.store = { world.store with tableSnapshots := world.store.tableSnapshots.insert row.id row } ∧
      after.now = world.now := by
  obtain ⟨stored,now⟩ := writeCall_row (fun (row : TableSnapshot) store =>
    { store with tableSnapshots := store.tableSnapshots.insert row.id row }) done
  exact ⟨_,⟨rfl,rfl,rfl,rfl,rfl⟩,stored,now⟩

theorem persistAction_ok (done : persistAction state envelope event nextSeq world = (.ok (),after)) :
    after.store.events = world.store.events ∧ after.store.deadlines = world.store.deadlines ∧
      after.store.tableSnapshots = world.store.tableSnapshots ∧ after.now = world.now := by
  obtain ⟨stored,now⟩ := writeCall_row (fun (record : ActionRecord) store =>
    { store with actions := store.actions.insert record.requestID record }) done
  rw [stored]
  exact ⟨rfl,rfl,rfl,now⟩

theorem persistEvents_ok {base : Int} {events : List Event}
    (done : persistEvents state event nextSeq base events world = (.ok (),after)) :
    after.store = { world.store with
      events := recordEvents (logEntries state event nextSeq base events world.now) world.store.events } ∧
      after.now = world.now := by
  unfold persistEvents at done
  simp only at done
  split_ifs at done with none_
  · cases done
    rw [none_]
    exact ⟨rfl,rfl⟩
  · exact appendEvents_ok _ done

theorem closeDeadline_ok {cmd : Command} (done : closeDeadline state cmd event world = (.ok (),after)) :
    ((resolvesDeadline cmd && state.phaseID != "") = false ∧ after = world) ∨
      (resolvesDeadline cmd && state.phaseID != "") = true ∧ ∃ row : ActionDeadline,
        row.deadlineID = deadlineID state.phaseID ∧ row.status = .closed ∧
        after.store = writeDeadline row world.store ∧ after.now = world.now := by
  unfold closeDeadline at done
  split_ifs at done with resolves
  · obtain ⟨stored,now⟩ := writeCall_row writeDeadline done
    exact .inr ⟨resolves,_,rfl,rfl,stored,now⟩
  · cases done
    exact .inl ⟨by simpa using resolves,rfl⟩

theorem snapshotHand_ok {next : State} {final : Int}
    (done : snapshotHand state next nextSeq final world = (.ok (),after)) :
    after.store.events = world.store.events ∧ after.store.deadlines = world.store.deadlines ∧
      after.store.tableSnapshots = world.store.tableSnapshots ∧ after.now = world.now := by
  unfold snapshotHand at done
  split_ifs at done
  · obtain ⟨stored,now⟩ := writeCall_row (fun (row : HandSnapshot) store =>
      { store with handSnapshots := store.handSnapshots.insert row.id row }) done
    rw [stored]
    exact ⟨rfl,rfl,rfl,now⟩
  · cases done
    exact ⟨rfl,rfl,rfl,rfl⟩

def finalStreamSeq (actor : Actor) (events : List Event) : Int :=
  if events.length > 0 then actor.streamSeq + 1 + events.length - 1 else actor.streamSeq

structure Stored (actor : Actor) (envelope : CommandEnvelope) (next : State) (events : List Event)
    (before after : World) : Prop where
  now : after.now = before.now
  log : after.store.events = recordEvents (logEntries actor.state actor.nextResult.resultEventID
    actor.nextResult.stateSeq (actor.streamSeq + 1) events before.now) before.store.events
  deadlines : (resolvesDeadline envelope.command && actor.state.phaseID != "") = false ∧
      after.store.deadlines = before.store.deadlines ∨
    (resolvesDeadline envelope.command && actor.state.phaseID != "") = true ∧ ∃ row : ActionDeadline,
      row.deadlineID = deadlineID actor.state.phaseID ∧ row.status = .closed ∧
      after.store.deadlines = before.store.deadlines.insert row.deadlineID row
  tableSnapshots : after.store.tableSnapshots = before.store.tableSnapshots ∨ ∃ row : TableSnapshot,
    Pictures actor.state next actor.nextResult.stateSeq (finalStreamSeq actor events) row ∧
      after.store.tableSnapshots = before.store.tableSnapshots.insert row.id row

theorem persist_ok {next : State} {events : List Event}
    (done : persist actor envelope next events world = (.ok (),after)) :
    Stored actor envelope next events world after := by
  obtain ⟨_,recorded,first,rest⟩ := bind_ok done
  obtain ⟨_,logged,second,rest⟩ := bind_ok rest
  obtain ⟨_,closed,third,rest⟩ := bind_ok rest
  obtain ⟨_,pictured,fourth,rest⟩ := bind_ok rest
  obtain ⟨events1,deadlines1,snapshots1,now1⟩ := persistAction_ok first
  obtain ⟨stored2,now2⟩ := persistEvents_ok second
  obtain ⟨events4,deadlines4,snapshots4,now4⟩ := snapshotHand_ok fourth
  have third' : closed.now = logged.now ∧ closed.store.events = logged.store.events ∧
      closed.store.tableSnapshots = logged.store.tableSnapshots := by
    rcases closeDeadline_ok third with ⟨_,rfl⟩ | ⟨_,row,_,_,stored,now⟩
    · exact ⟨rfl,rfl,rfl⟩
    · rw [stored]
      exact ⟨now,rfl,rfl⟩
  obtain ⟨now3,events3,snapshots3⟩ := third'
  have last : after.now = pictured.now ∧ after.store.events = pictured.store.events ∧
      after.store.deadlines = pictured.store.deadlines ∧
      (after.store.tableSnapshots = pictured.store.tableSnapshots ∨ ∃ row : TableSnapshot,
        Pictures actor.state next actor.nextResult.stateSeq (finalStreamSeq actor events) row ∧
          after.store.tableSnapshots = pictured.store.tableSnapshots.insert row.id row) := by
    by_cases taken : (next.handClosed || actor.state.phaseID != "") = true
    · rw [if_pos taken] at rest
      obtain ⟨row,pictures,stored,now⟩ := snapshotTable_ok rest
      rw [stored]
      exact ⟨now,rfl,rfl,.inr ⟨row,pictures,rfl⟩⟩
    · rw [if_neg taken] at rest
      cases rest
      exact ⟨rfl,rfl,rfl,.inl rfl⟩
  obtain ⟨now5,events5,deadlines5,snapshots5⟩ := last
  have events2 := congrArg Store.events stored2
  have deadlines2 := congrArg Store.deadlines stored2
  have snapshots2 := congrArg Store.tableSnapshots stored2
  simp only at events2 deadlines2 snapshots2
  constructor
  · rw [now5,now4,now3,now2,now1]
  · rw [events5,events4,events3,events2,events1,now1]
    rfl
  · rcases closeDeadline_ok third with ⟨kept,rfl⟩ | ⟨resolves,row,own,status,stored,_⟩
    · exact .inl ⟨kept,by rw [deadlines5,deadlines4,deadlines2,deadlines1]⟩
    · obtain ⟨closing,id,state,_,_,_,_,_,_,wrote⟩ := writeDeadline_stored logged.store row
      rw [← stored,deadlines2,deadlines1,← deadlines4,← deadlines5] at wrote
      exact .inr ⟨resolves,closing,id.trans own,state.trans status,wrote⟩
  · have same : pictured.store.tableSnapshots = world.store.tableSnapshots := by
      rw [snapshots4,snapshots3,snapshots2,snapshots1]
    rwa [same] at snapshots5

def phaseEntry (state : ActorState) (phase : PhaseDefinition) (streamSeq nextSeq now : Int) : EventLogEntry where
  eventID := eventID state.streamKey streamSeq
  aggregateID := state.tableID
  streamKey := state.streamKey
  streamSeq := streamSeq
  tournamentID := state.tournamentID
  tableID := state.tableID
  handID := state.handID
  phaseID := phase.id
  eventType := "table.phase.opened"
  stateSeq := nextSeq
  occurredAt := now
  payloadHash := "phase-open-payload:" ++ state.tableID ++ ":" ++ toString nextSeq
  payload := .phaseOpen

structure PhaseStored (state : ActorState) (phase : PhaseDefinition) (streamSeq nextSeq : Int)
    (before after : World) : Prop where
  now : after.now = before.now
  log : after.store.events =
    recordEvents [phaseEntry state phase streamSeq nextSeq before.now] before.store.events
  deadlines : ∀ deadlineAt, phase.deadlineAt = some deadlineAt → ∃ row : ActionDeadline,
    row.deadlineID = deadlineID phase.id ∧ row.status = .opened ∧ row.tournamentID = state.tournamentID ∧
      row.tableID = state.tableID ∧ row.handID = state.handID ∧ row.phaseID = phase.id ∧
      row.seatID = seatID state.tableID phase.actingSeat ∧ row.deadlineAt = deadlineAt ∧
      after.store.deadlines = before.store.deadlines.insert row.deadlineID row
  tableSnapshots : ∃ row : TableSnapshot, Pictures state state.table nextSeq streamSeq row ∧
    after.store.tableSnapshots = before.store.tableSnapshots.insert row.id row

theorem persistPhase_ok {phase : PhaseDefinition} {streamSeq : Int}
    (done : persistPhase state phase streamSeq nextSeq world = (.ok (),after)) :
    PhaseStored state phase streamSeq nextSeq world after := by
  obtain ⟨_,logged,first,rest⟩ := bind_ok done
  obtain ⟨_,opened,second,third⟩ := bind_ok rest
  obtain ⟨stored1,now1⟩ := appendEvents_ok [phaseEntry state phase streamSeq nextSeq world.now] first
  obtain ⟨row,pictures,stored3,now3⟩ := snapshotTable_ok third
  unfold openDeadline at second
  cases deadlineAt : phase.deadlineAt with
  | none =>
    rw [deadlineAt] at second
    cases second
    constructor
    · rw [now3,now1]
    · rw [stored3,stored1]
    · intro _ given
      rw [deadlineAt] at given
      cases given
    · exact ⟨row,pictures,by rw [stored3,stored1]⟩
  | some time =>
    rw [deadlineAt] at second
    obtain ⟨stored2,now2⟩ := writeCall_row writeDeadline second
    constructor
    · rw [now3,now2,now1]
    · rw [stored3,stored2,writeDeadline,stored1]
    · intro _ given
      rw [deadlineAt] at given
      cases given
      have same : after.store.deadlines = opened.store.deadlines := by rw [stored3]
      have kept : logged.store.deadlines = world.store.deadlines := by rw [stored1]
      obtain ⟨row,id,status,tournament,table,hand,phase,seat,time,wrote⟩ := writeDeadline_stored logged.store _
      rw [← stored2,← same,kept] at wrote
      exact ⟨row,id,status,tournament,table,hand,phase,seat,time,wrote⟩
    · exact ⟨row,pictures,by rw [stored3,stored2,writeDeadline,stored1]⟩

theorem handle_stored {after : Actor} {before : World} {result : Except HandleError Result}
    (done : actor.handle envelope before = (result,after,world))
    (answered : ∀ failure, result ≠ .error (.store failure)) :
    after = actor ∧ world = before ∨
      actor.results.get? envelope.requestID = none ∧ envelope.expectedStateSeq = actor.state.stateSeq ∧
        ∃ next events, apply actor.state.table envelope.command = .ok (next,events) ∧
          result = .ok actor.nextResult ∧ after = actor.committed envelope.requestID next events ∧
          Stored actor envelope next events before world := by
  rcases handle_cases actor envelope before with
    ⟨_,_,same⟩ | ⟨_,e,_,same,unmoved | ⟨_,_,_,failure,kind,_,_⟩⟩ | ⟨fresh,current,next,events,_,applied,stored,same⟩
  · cases done.symm.trans same
    exact .inl ⟨rfl,rfl⟩
  · cases done.symm.trans same
    exact .inl ⟨rfl,unmoved⟩
  · cases done.symm.trans same
    exact absurd (congrArg Except.error kind) (answered failure)
  · cases done.symm.trans same
    exact .inr ⟨fresh,current,next,events,applied,rfl,rfl,persist_ok stored⟩

theorem openPhase_stored {after : Actor} {phase : PhaseDefinition} {before : World}
    (done : actor.openPhase phase before = (.ok (),after,world)) :
    after = { actor with
      state := { openedState actor.state phase with stateSeq := actor.state.stateSeq + 1 }
      streamSeq := actor.streamSeq + 1 } ∧
      PhaseStored (openedState actor.state phase) phase (actor.streamSeq + 1) (actor.state.stateSeq + 1) before world := by
  unfold Actor.openPhase at done
  simp only at done
  cases stored : persistPhase (openedState actor.state phase) phase (actor.streamSeq + 1)
      (actor.state.stateSeq + 1) before with
  | mk result final =>
    rw [stored] at done
    cases result with
    | error e => cases done
    | ok _ =>
      cases done
      exact ⟨rfl,persistPhase_ok stored⟩

end Clawchain.Arena.Table
