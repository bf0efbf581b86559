import Clawchain.Arena.Table.Stored

/-! Opening a phase against a store that fails. The memory of the actor moves
before the first write, and no error takes it back. -/
namespace Clawchain.Arena.Table
open Clawchain.Lib Faulty

/-! What a computation that ended well had of the store. -/

/-- A computation that ends well only when so many store calls do. -/
def Needs (calls : Nat) (x : StoreM Unit) : Prop :=
  ∀ world after, x world = (.ok (),after) →
    (∀ outcome ∈ world.outcomes.take calls, outcome = .ok) ∧ after.outcomes = world.outcomes.drop calls

theorem Needs.pure : Needs 0 (pure ()) := by
  intro world after done
  cases done
  exact ⟨by simp,rfl⟩

theorem Needs.bind {left right : Nat} {x : StoreM Unit} {f : Unit → StoreM Unit} (first : Needs left x)
    (next : Needs right (f ())) : Needs (left + right) (x >>= f) := by
  intro world after done
  obtain ⟨_,middle,start,rest⟩ := bind_ok done
  obtain ⟨fine,outcomes⟩ := first world middle start
  obtain ⟨later,remains⟩ := next middle after rest
  constructor
  · intro outcome member
    rw [List.take_add,List.mem_append] at member
    rcases member with early | late
    · exact fine outcome early
    · exact later outcome (outcomes ▸ late)
  · rw [remains,outcomes,List.drop_drop]

theorem writeCall_needs {ρ : Type} (write : ρ → Store → Except StoreError Store) (rows : List ρ) :
    Needs 1 (writeCall write rows) := by
  intro world after done
  unfold writeCall at done
  split at done
  · rename_i count rest outcomes
    have failed := congrArg Prod.fst done
    cases wrote : (writeRows write (rows.take count) world.store).1 with
    | error e => simp [wrote,Except.bind] at failed
    | ok => simp [wrote,Except.bind] at failed
  · rename_i fine
    obtain rfl := congrArg Prod.snd done
    cases outcomes : world.outcomes with
    | nil => simp
    | cons outcome rest =>
      cases outcome with
      | ok => simp
      | failed count => exact absurd outcomes (fine count rest)

def phaseCalls (phase : PhaseDefinition) : Nat := 1 + ((if phase.deadlineAt.isSome then 1 else 0) + 1)

theorem openDeadline_needs (state : ActorState) (phase : PhaseDefinition) (event : String) :
    Needs (if phase.deadlineAt.isSome then 1 else 0) (openDeadline state phase event) := by
  intro world after done
  unfold openDeadline at done
  cases deadlineAt : phase.deadlineAt with
  | none =>
    simp only [deadlineAt] at done
    exact Needs.pure world after done
  | some time =>
    simp only [deadlineAt] at done
    exact writeCall_needs _ _ world after done

theorem openDeadline_succeeds (state : ActorState) (phase : PhaseDefinition) (event : String) :
    Succeeds (if phase.deadlineAt.isSome then 1 else 0) (openDeadline state phase event) := by
  intro world fine
  unfold openDeadline
  cases deadlineAt : phase.deadlineAt with
  | none => exact ⟨world,rfl,rfl⟩
  | some time =>
    rw [deadlineAt] at fine
    exact writeCall_succeeds _ (fun _ => ⟨_,rfl⟩) world fine

theorem snapshotTable_needs (state : ActorState) (table : State) (nextSeq streamSeq : Int) :
    Needs 1 (snapshotTable state table nextSeq streamSeq) :=
  fun world after done => writeCall_needs _ _ world after done

theorem snapshotTable_succeeds (state : ActorState) (table : State) (nextSeq streamSeq : Int) :
    Succeeds 1 (snapshotTable state table nextSeq streamSeq) :=
  fun world fine => writeCall_succeeds _ (fun _ => ⟨_,rfl⟩) world fine

def Agrees (entry : EventLogEntry) (store : Store) : Prop :=
  ∀ existing, store.events.get? entry.eventID = some existing → existing.identity = entry.identity

theorem writeEvent_agrees (entry : EventLogEntry) (store : Store) :
    (writeRows writeEvent [entry] store).1 = .ok () ↔ Agrees entry store := by
  unfold writeRows writeEvent Agrees
  cases held : store.events.get? entry.eventID with
  | none => simp [writeRows]
  | some existing =>
    by_cases same : existing.identity = entry.identity
    · simp [writeRows,same]
    · simp [same]

theorem persistPhase_ends (state : ActorState) (phase : PhaseDefinition) (streamSeq nextSeq : Int) (world : World) :
    (persistPhase state phase streamSeq nextSeq).Ends world ↔
      (∀ outcome ∈ world.outcomes.take (phaseCalls phase), outcome = .ok) ∧
        Agrees (phaseEntry state phase streamSeq nextSeq world.now) world.store := by
  have opened := writeCall_of_ok writeEvent [phaseEntry state phase streamSeq nextSeq world.now] world
  constructor
  · rintro ⟨_,done⟩
    have run : persistPhase state phase streamSeq nextSeq world = (.ok (),_) := Prod.ext done rfl
    obtain ⟨_,middle,first,rest⟩ := bind_ok run
    obtain ⟨early,outcomes⟩ := writeCall_needs _ _ world middle first
    obtain ⟨late,_⟩ := Needs.bind (openDeadline_needs state phase (eventID state.streamKey streamSeq))
      (snapshotTable_needs state state.table nextSeq streamSeq) middle _ rest
    constructor
    · intro outcome member
      unfold phaseCalls at member
      rw [List.take_add,List.mem_append] at member
      rcases member with head | tail
      · exact early outcome head
      · exact late outcome (outcomes ▸ tail)
    · rw [← writeEvent_agrees]
      exact (congrArg Prod.fst (opened early)).symm.trans (congrArg Prod.fst first)
  · rintro ⟨fine,agrees⟩
    unfold phaseCalls at fine
    rw [List.take_add] at fine
    have first := opened fun outcome member => fine outcome (List.mem_append_left _ member)
    rw [(writeEvent_agrees _ _).mpr agrees] at first
    have later : Succeeds ((if phase.deadlineAt.isSome then 1 else 0) + 1) (do
        openDeadline state phase (eventID state.streamKey streamSeq)
        snapshotTable state state.table nextSeq streamSeq) :=
      Succeeds.bind (openDeadline_succeeds _ _ _) (snapshotTable_succeeds _ _ _ _)
    obtain ⟨after,rest,_⟩ := later { world with
      store := (writeRows writeEvent [phaseEntry state phase streamSeq nextSeq world.now] world.store).2
      outcomes := world.outcomes.drop 1 } fun outcome member => fine outcome (List.mem_append_right _ member)
    have begun : appendPhaseOpened state phase streamSeq nextSeq world = _ := first
    have done : persistPhase state phase streamSeq nextSeq world = (.ok (),after) := (bind_of_ok _ begun).trans rest
    exact ⟨(),congrArg Prod.fst done⟩

structure Unmoved (actor after : Actor) : Prop where
  streamSeq : after.streamSeq = actor.streamSeq
  phaseID : after.state.phaseID = actor.state.phaseID
  handID : after.state.handID = actor.state.handID
  table : after.state.table = actor.state.table
  stateSeq : after.state.stateSeq = actor.state.stateSeq

structure TakesPhase (actor : Actor) (phase : PhaseDefinition) (world : World) : Prop where
  calls : ∀ outcome ∈ world.outcomes.take (phaseCalls phase), outcome = .ok
  agrees : Agrees (phaseEntry (openedState actor.state phase) phase (actor.streamSeq + 1)
    (actor.state.stateSeq + 1) world.now) world.store

theorem openPhase_failed {actor after : Actor} {phase : PhaseDefinition} {world final : World} {e : StoreError}
    (failed : actor.openPhase phase world = (.error e,after,final)) :
    after = { actor with state := openedState actor.state phase, streamSeq := actor.streamSeq + 1 } := by
  unfold Actor.openPhase at failed
  dsimp only at failed
  split at failed
  · cases failed
    rfl
  · cases failed

theorem openPhase_error (actor : Actor) (phase : PhaseDefinition) (world : World) :
    (∃ e after final, actor.openPhase phase world = (.error e,after,final)) ↔ ¬TakesPhase actor phase world := by
  have ends := persistPhase_ends (openedState actor.state phase) phase (actor.streamSeq + 1)
    (actor.state.stateSeq + 1) world
  have takes : TakesPhase actor phase world ↔ (persistPhase (openedState actor.state phase) phase
      (actor.streamSeq + 1) (actor.state.stateSeq + 1)).Ends world :=
    ⟨fun ⟨calls,agrees⟩ => ends.mpr ⟨calls,agrees⟩,fun ended => ⟨(ends.mp ended).1,(ends.mp ended).2⟩⟩
  rw [takes]
  unfold Actor.openPhase Ends
  dsimp only
  cases run : persistPhase (openedState actor.state phase) phase (actor.streamSeq + 1)
      (actor.state.stateSeq + 1) world with
  | mk result final =>
    cases result with
    | error e => simp
    | ok => simp

end Clawchain.Arena.Table
