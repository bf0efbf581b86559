import Clawchain.Arena.Table.ExactlyOnce

/-! What the actor's writes touch. Each part of the store is changed by the
calls that own it and by no other; the action record is the first write of a
command and the only one to the action rows. -/
namespace Clawchain.Arena.Table
open Clawchain.Lib Faulty

def Leaves {β : Type} (part : Store → β) (before after : World) : Prop := part after.store = part before.store

section Frame
variable {β ρ : Type} {part : Store → β}

theorem leaves_refl (world : World) : Leaves part world world := rfl

theorem leaves_trans (a b c : World) (left : Leaves part a b) (right : Leaves part b c) : Leaves part a c :=
  Eq.trans right left

theorem writeRows_leaves (write : ρ → Store → Except StoreError Store)
    (frame : ∀ row store next, write row store = .ok next → part next = part store) (rows : List ρ) (store : Store) :
    part (writeRows write rows store).2 = part store := by
  induction rows generalizing store with
  | nil => rfl
  | cons row rest ih =>
    unfold writeRows
    cases written : write row store with
    | error e => rfl
    | ok next => exact (ih next).trans (frame row store next written)

theorem writeCall_leaves (write : ρ → Store → Except StoreError Store) (rows : List ρ)
    (frame : ∀ row store next, write row store = .ok next → part next = part store) :
    Moves (Leaves part) (writeCall write rows) := by
  intro world
  unfold writeCall Leaves
  split
  · exact writeRows_leaves write frame _ _
  · exact writeRows_leaves write frame _ _

theorem readCall_leaves {α : Type} (read : Store → α) : Moves (Leaves part) (readCall read) := by
  intro world
  unfold readCall Leaves
  split <;> rfl

theorem writeEvent_frame {entry : EventLogEntry} {store next : Store} (written : writeEvent entry store = .ok next) :
    next.actions = store.actions ∧ next.ledger = store.ledger ∧ next.deadlines = store.deadlines := by
  unfold writeEvent at written
  split at written
  · cases written
    exact ⟨rfl,rfl,rfl⟩
  · split_ifs at written
    cases written
    exact ⟨rfl,rfl,rfl⟩

end Frame

theorem persistEvents_leaves (state : ActorState) (event : String) (nextSeq base : Int) (events : List Event) :
    Moves (Leaves fun store => (store.actions,store.ledger)) (persistEvents state event nextSeq base events) := by
  intro world
  unfold persistEvents
  dsimp only
  split_ifs
  · exact leaves_refl _
  · refine writeCall_leaves _ _ ?_ world
    intro row store next written
    obtain ⟨actions,ledger,_⟩ := writeEvent_frame written
    rw [actions,ledger]

theorem upsertActionDeadline_leaves (deadline : ActionDeadline) :
    Moves (Leaves fun store => (store.actions,store.ledger)) (upsertActionDeadline deadline) :=
  writeCall_leaves _ _ fun row store next written => by cases written; rfl

theorem snapshotTable_leaves (state : ActorState) (table : State) (nextSeq streamSeq : Int) :
    Moves (Leaves fun store => (store.actions,store.ledger)) (snapshotTable state table nextSeq streamSeq) :=
  fun world => writeCall_leaves _ _ (fun row store next written => by cases written; rfl) world

theorem persistDerivedState_leaves (state : ActorState) (cmd : Command) (next : State) (nextSeq : Int)
    (event : String) (final : Int) :
    Moves (Leaves fun store => (store.actions,store.ledger))
      (persistDerivedState state cmd next nextSeq event final) := by
  unfold persistDerivedState
  refine Moves.bind leaves_trans ?_ fun _ => Moves.bind leaves_trans ?_ fun _ => ?_
  · intro world
    unfold closeDeadline
    split_ifs
    · exact upsertActionDeadline_leaves _ world
    · exact leaves_refl _
  · intro world
    unfold snapshotHand
    split_ifs
    · exact writeCall_leaves _ _ (fun row store next written => by cases written; rfl) world
    · exact leaves_refl _
  · split_ifs
    · exact snapshotTable_leaves _ _ _ _
    · exact Moves.pure leaves_refl _

theorem persistPhase_leaves (state : ActorState) (phase : PhaseDefinition) (streamSeq nextSeq : Int) :
    Moves (Leaves fun store => (store.actions,store.ledger)) (persistPhase state phase streamSeq nextSeq) := by
  unfold persistPhase
  refine Moves.bind leaves_trans ?_ fun _ => Moves.bind leaves_trans ?_ fun _ => snapshotTable_leaves _ _ _ _
  · intro world
    refine writeCall_leaves _ _ ?_ world
    intro row store next written
    obtain ⟨actions,ledger,_⟩ := writeEvent_frame written
    rw [actions,ledger]
  · intro world
    unfold openDeadline
    split
    · exact leaves_refl _
    · exact upsertActionDeadline_leaves _ world

structure Recorded (actor : Actor) (record : ActionRecord) : Prop where
  acceptedStateSeq : record.acceptedStateSeq = actor.nextResult.stateSeq
  resultEventID : record.resultEventID = actor.nextResult.resultEventID

theorem persistAction_cases (actor : Actor) (envelope : CommandEnvelope) (world : World) :
    let outcome := persistAction actor.state envelope actor.nextResult.resultEventID actor.nextResult.stateSeq world
    outcome.2.store.ledger = world.store.ledger ∧
      (outcome.2.store.actions = world.store.actions ∧ outcome.1 ≠ .ok () ∨
        ∃ record, Recorded actor record ∧
          outcome.2.store.actions = world.store.actions.insert envelope.requestID record) := by
  dsimp only
  unfold persistAction appendActionRecords writeCall
  dsimp only
  cases outcomes : world.outcomes with
  | nil => exact ⟨rfl,.inr ⟨_,⟨rfl,rfl⟩,rfl⟩⟩
  | cons outcome rest =>
    cases outcome with
    | ok => exact ⟨rfl,.inr ⟨_,⟨rfl,rfl⟩,rfl⟩⟩
    | failed rows =>
      cases rows with
      | zero => exact ⟨rfl,.inl ⟨rfl,by simp [writeRows,Except.bind]⟩⟩
      | succ rows =>
        simp only [List.take_succ_cons,List.take_nil]
        exact ⟨rfl,.inr ⟨_,⟨rfl,rfl⟩,rfl⟩⟩

theorem persist_cases (actor : Actor) (envelope : CommandEnvelope) (next : State) (events : List Event) (world : World) :
    let outcome := persist actor envelope next events world
    outcome.2.store.ledger = world.store.ledger ∧
      (outcome.2.store.actions = world.store.actions ∧ outcome.1 ≠ .ok () ∨
        ∃ record, Recorded actor record ∧
          outcome.2.store.actions = world.store.actions.insert envelope.requestID record) := by
  have first := persistAction_cases actor envelope world
  dsimp only at first ⊢
  have rest : Moves (Leaves fun store => (store.actions,store.ledger)) (do
      persistEvents actor.state actor.nextResult.resultEventID actor.nextResult.stateSeq (actor.streamSeq + 1) events
      persistDerivedState actor.state envelope.command next actor.nextResult.stateSeq actor.nextResult.resultEventID
        (if events.length > 0 then actor.streamSeq + 1 + events.length - 1 else actor.streamSeq)) :=
    Moves.bind leaves_trans (persistEvents_leaves _ _ _ _ _) fun _ => persistDerivedState_leaves _ _ _ _ _ _
  have split : persist actor envelope next events = (do
      persistAction actor.state envelope actor.nextResult.resultEventID actor.nextResult.stateSeq
      persistEvents actor.state actor.nextResult.resultEventID actor.nextResult.stateSeq (actor.streamSeq + 1) events
      persistDerivedState actor.state envelope.command next actor.nextResult.stateSeq actor.nextResult.resultEventID
        (if events.length > 0 then actor.streamSeq + 1 + events.length - 1 else actor.streamSeq)) := rfl
  rw [split]
  cases run : persistAction actor.state envelope actor.nextResult.resultEventID actor.nextResult.stateSeq world with
  | mk result middle =>
    rw [run] at first
    cases result with
    | error e =>
      rw [bind_of_error _ run]
      exact first
    | ok done =>
      rw [bind_of_ok _ run]
      have kept := rest middle
      unfold Leaves at kept
      rw [Prod.mk.injEq] at kept
      obtain ⟨ledger,wrote⟩ := first
      refine ⟨kept.2.trans ledger,.inr ?_⟩
      rcases wrote with ⟨_,failed⟩ | ⟨record,recorded,actions⟩
      · exact absurd rfl failed
      · exact ⟨record,recorded,kept.1.trans actions⟩

def strandsRecord (actor : Actor) (envelope : CommandEnvelope) (world : World) : Bool :=
  match actor.handle envelope world with
  | (.error (.store _),_,after) => (after.store.actions.get? envelope.requestID).isSome
  | _ => false

def Succeeds (calls : Nat) (x : StoreM Unit) : Prop :=
  ∀ world, (∀ outcome ∈ world.outcomes.take calls, outcome = .ok) →
    ∃ after, x world = (.ok (),after) ∧ after.outcomes = world.outcomes.drop calls

theorem Succeeds.bind {left right : Nat} {x : StoreM Unit} {f : Unit → StoreM Unit} (first : Succeeds left x)
    (next : Succeeds right (f ())) : Succeeds (left + right) (x >>= f) := by
  intro world fine
  rw [List.take_add] at fine
  obtain ⟨middle,done,rest⟩ := first world fun outcome member => fine outcome (List.mem_append_left _ member)
  obtain ⟨after,last,remains⟩ := next middle fun outcome member => fine outcome (List.mem_append_right _ (rest ▸ member))
  refine ⟨after,(bind_of_ok f done).trans last,?_⟩
  rw [remains,rest,List.drop_drop]

theorem writeCall_of_ok {ρ : Type} (write : ρ → Store → Except StoreError Store) (rows : List ρ) (world : World)
    (fine : ∀ outcome ∈ world.outcomes.take 1, outcome = .ok) :
    writeCall write rows world = ((writeRows write rows world.store).1,
      { world with store := (writeRows write rows world.store).2, outcomes := world.outcomes.drop 1 }) := by
  unfold writeCall
  cases outcomes : world.outcomes with
  | nil => rfl
  | cons outcome rest =>
    rw [outcomes] at fine
    obtain rfl := fine outcome (by simp)
    rfl

theorem writeCall_succeeds {ρ : Type} {write : ρ → Store → Except StoreError Store} (row : ρ)
    (always : ∀ store, ∃ next, write row store = .ok next) : Succeeds 1 (writeCall write [row]) := by
  intro world fine
  obtain ⟨next,wrote⟩ := always world.store
  refine ⟨_,(writeCall_of_ok write [row] world fine).trans (Prod.ext ?_ rfl),rfl⟩
  simp only [writeRows,wrote]

theorem Succeeds.pure : Succeeds 0 (pure ()) := fun world _ => ⟨world,rfl,rfl⟩

def derivedCalls (state : ActorState) (cmd : Command) (next : State) : Nat :=
  (if resolvesDeadline cmd && state.phaseID != "" then 1 else 0) +
    ((if next.handClosed then 1 else 0) + if next.handClosed || state.phaseID != "" then 1 else 0)

theorem persistDerivedState_succeeds (state : ActorState) (cmd : Command) (next : State) (nextSeq : Int)
    (event : String) (final : Int) :
    Succeeds (derivedCalls state cmd next) (persistDerivedState state cmd next nextSeq event final) := by
  unfold persistDerivedState derivedCalls
  refine Succeeds.bind ?_ (Succeeds.bind ?_ ?_)
  · intro world
    unfold closeDeadline
    split_ifs
    · exact writeCall_succeeds _ (fun store => ⟨_,rfl⟩) world
    · exact Succeeds.pure world
  · intro world
    unfold snapshotHand
    split_ifs
    · exact writeCall_succeeds _ (fun store => ⟨_,rfl⟩) world
    · exact Succeeds.pure world
  · split_ifs
    · exact fun world => writeCall_succeeds _ (fun store => ⟨_,rfl⟩) world
    · exact Succeeds.pure

/-- The store refuses the action record of the command, or takes everything that the command writes: none of
its calls fails, and its event ids carry no other events. -/
def Unbroken (actor : Actor) (envelope : CommandEnvelope) (world : World) : Prop :=
  ∀ next events, apply actor.state.table envelope.command = .ok (next,events) →
    world.outcomes.head? = some (.failed 0) ∨
      (∀ outcome ∈ world.outcomes.take
          (1 + ((if events = [] then 0 else 1) + derivedCalls actor.state envelope.command next)), outcome = .ok) ∧
        (writeRows writeEvent (logEntries actor.state actor.nextResult.resultEventID actor.nextResult.stateSeq
          (actor.streamSeq + 1) events world.now) world.store).1 = .ok ()

theorem writeRows_event_actions (entries : List EventLogEntry) (store : Store) (actions : OrdMap String ActionRecord) :
    (writeRows writeEvent entries { store with actions := actions }).1 = (writeRows writeEvent entries store).1 := by
  induction entries generalizing store with
  | nil => rfl
  | cons entry rest ih =>
    unfold writeRows writeEvent
    dsimp only
    cases store.events.get? entry.eventID with
    | none => exact ih { store with events := store.events.insert entry.eventID entry }
    | some held =>
      dsimp only
      split_ifs
      · exact ih store
      · rfl

theorem persistEvents_of_ok (state : ActorState) (event : String) (nextSeq base : Int) (events : List Event)
    (world : World) (fine : ∀ outcome ∈ world.outcomes.take (if events = [] then 0 else 1), outcome = .ok)
    (agree : (writeRows writeEvent (logEntries state event nextSeq base events world.now) world.store).1 = .ok ()) :
    ∃ after, persistEvents state event nextSeq base events world = (.ok (),after) ∧
      after.outcomes = world.outcomes.drop (if events = [] then 0 else 1) := by
  unfold persistEvents
  dsimp only
  by_cases none : events = []
  · rw [if_pos none] at fine ⊢
    rw [if_pos (by simp [logEntries,none])]
    exact ⟨world,rfl,rfl⟩
  · rw [if_neg none] at fine ⊢
    rw [if_neg (by simp [logEntries,none])]
    exact ⟨_,(writeCall_of_ok writeEvent _ world fine).trans (Prod.ext agree rfl),rfl⟩

theorem persist_of_unbroken {actor : Actor} {envelope : CommandEnvelope} {next : State} {events : List Event}
    {world : World} (unbroken : Unbroken actor envelope world)
    (applied : apply actor.state.table envelope.command = .ok (next,events)) :
    (persist actor envelope next events world).1 = .ok () ∨
      (persist actor envelope next events world).2.store.actions = world.store.actions := by
  rcases unbroken next events applied with refused | ⟨fine,agree⟩
  · right
    cases outcomes : world.outcomes with
    | nil =>
      rw [outcomes] at refused
      cases refused
    | cons outcome rest =>
      rw [outcomes] at refused
      cases refused
      have failed : persistAction actor.state envelope actor.nextResult.resultEventID actor.nextResult.stateSeq world =
          (.error .unavailable,{ world with outcomes := rest }) := by
        unfold persistAction appendActionRecords writeCall
        rw [outcomes]
        rfl
      have same : persist actor envelope next events world = (.error .unavailable,{ world with outcomes := rest }) :=
        bind_of_error _ failed
      rw [same]
  · left
    rw [List.take_add,List.take_add] at fine
    obtain ⟨stored,recorded,same⟩ : ∃ stored, persistAction actor.state envelope actor.nextResult.resultEventID
        actor.nextResult.stateSeq world = (.ok (),stored) ∧ ∃ actions, stored =
          { world with store := { world.store with actions := actions }, outcomes := world.outcomes.drop 1 } :=
      ⟨_,writeCall_of_ok _ _ world fun outcome member => fine outcome (List.mem_append_left _ member),_,rfl⟩
    obtain ⟨actions,rfl⟩ := same
    obtain ⟨middle,evented,rest⟩ := persistEvents_of_ok actor.state actor.nextResult.resultEventID
      actor.nextResult.stateSeq (actor.streamSeq + 1) events
      { world with store := { world.store with actions := actions }, outcomes := world.outcomes.drop 1 }
      (fun outcome member => fine outcome (List.mem_append_right _ (List.mem_append_left _ member)))
      ((writeRows_event_actions _ world.store actions).trans agree)
    obtain ⟨after,derived,_⟩ := persistDerivedState_succeeds actor.state envelope.command next
      actor.nextResult.stateSeq actor.nextResult.resultEventID
      (if events.length > 0 then actor.streamSeq + 1 + events.length - 1 else actor.streamSeq) middle
      (fun outcome member => fine outcome (List.mem_append_right _ (List.mem_append_right _ (rest ▸ member))))
    have done : persist actor envelope next events world = (.ok (),after) :=
      (bind_of_ok _ recorded).trans ((bind_of_ok _ evented).trans derived)
    rw [done]

theorem strandsRecord_of_unbroken {actor : Actor} {envelope : CommandEnvelope} {world : World}
    (unbroken : Unbroken actor envelope world) (fresh : world.store.actions.get? envelope.requestID = none) :
    strandsRecord actor envelope world = false := by
  unfold strandsRecord
  rcases handle_cases actor envelope world with
    ⟨_,_,same⟩ | ⟨_,e,after,same,unmoved | ⟨_,next,events,failure,kind,applied,stored⟩⟩ | ⟨_,_,_,_,_,_,_,same⟩
  · rw [same]
  · rw [same,unmoved]
    cases e with
    | store failure => exact congrArg Option.isSome fresh
    | _ => rfl
  · rw [same,kind]
    have kept := persist_of_unbroken unbroken applied
    rw [stored] at kept
    rcases kept with done | same
    · cases done
    · change (after.store.actions.get? envelope.requestID).isSome = false
      rw [same,fresh]
      rfl
  · rw [same]

theorem handle_store (actor : Actor) (envelope : CommandEnvelope) (world : World) :
    (actor.handle envelope world).2.2.store.ledger = world.store.ledger ∧
      ∀ requestID, requestID ≠ envelope.requestID →
        (actor.handle envelope world).2.2.store.actions.get? requestID = world.store.actions.get? requestID := by
  have written (next : State) (events : List Event) : let after := (persist actor envelope next events world).2
      after.store.ledger = world.store.ledger ∧ ∀ requestID, requestID ≠ envelope.requestID →
        after.store.actions.get? requestID = world.store.actions.get? requestID := by
    obtain ⟨ledger,actions⟩ := persist_cases actor envelope next events world
    refine ⟨ledger,fun requestID differ => ?_⟩
    rcases actions with ⟨same,_⟩ | ⟨record,_,same⟩
    · rw [same]
    · rw [same,OrdMap.get?_insert_of_ne _ _ differ]
  rcases handle_cases actor envelope world with
    ⟨result,_,same⟩ | ⟨_,e,after,same,unmoved | ⟨_,next,events,failure,_,_,stored⟩⟩ | ⟨_,_,next,events,after,_,stored,same⟩
  · rw [same]
    exact ⟨rfl,fun _ _ => rfl⟩
  · rw [same,unmoved]
    exact ⟨rfl,fun _ _ => rfl⟩
  · have wrote := written next events
    rw [stored] at wrote
    rw [same]
    exact wrote
  · have wrote := written next events
    rw [stored] at wrote
    rw [same]
    exact wrote

theorem openPhase_store (actor : Actor) (phase : PhaseDefinition) (world : World) :
    (actor.openPhase phase world).2.2.store.actions = world.store.actions ∧
      (actor.openPhase phase world).2.2.store.ledger = world.store.ledger ∧
      (actor.openPhase phase world).2.1.results = actor.results := by
  have kept := persistPhase_leaves (openedState actor.state phase) phase (actor.streamSeq + 1)
    (actor.state.stateSeq + 1) world
  unfold Leaves at kept
  rw [Prod.mk.injEq] at kept
  unfold Actor.openPhase
  dsimp only
  cases run : persistPhase (openedState actor.state phase) phase (actor.streamSeq + 1)
      (actor.state.stateSeq + 1) world with
  | mk result after =>
    rw [run] at kept
    cases result with
    | error e => exact ⟨kept.1,kept.2,rfl⟩
    | ok done => exact ⟨kept.1,kept.2,rfl⟩

end Clawchain.Arena.Table
