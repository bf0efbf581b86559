import Clawchain.Arena.Gateway.Submit
import Clawchain.Arena.Table.Persist

/-! The parts of a submission that answer no client. Reads, ledger entries and
the calls the runtime makes under its own request ids leave every client's
action record, result and cached response as they are. -/
namespace Clawchain.Arena.Submit
open Clawchain.Lib Clawchain.Arena.Table Faulty

def runtimeRequestID (requestID : String) : Bool :=
  "sys:start:".toList.isPrefixOf requestID.toList || "timeout:".toList.isPrefixOf requestID.toList

def HookCall.own : HookCall → Bool
  | .handle _ envelope => runtimeRequestID envelope.requestID
  | _ => true

section Quiet
variable (digest : SubmissionPayload → String)

def Known (system : System) (requestID : String) (payload : SubmissionPayload) : Prop :=
  ∃ entry, system.world.store.ledger.get? requestID = some entry ∧ entry.payloadHash = digest payload

def SameMemory (before after : System) : Prop :=
  after.gateway.responses = before.gateway.responses ∧ after.gateway.ledger = before.gateway.ledger

/-- Nothing a client could be answered from is added, changed or lost. -/
structure Quiet (before after : System) : Prop where
  known : ∀ requestID payload, Known digest before requestID payload → Known digest after requestID payload
  records : ∀ requestID, runtimeRequestID requestID = false →
    after.world.store.actions.get? requestID = before.world.store.actions.get? requestID
  results : ∀ tableID actor requestID result, runtimeRequestID requestID = false →
    after.actor? tableID = some actor → actor.results.get? requestID = some result →
    ∃ origin, before.actor? tableID = some origin ∧ origin.results.get? requestID = some result
  steps : ∀ step ∈ before.steps, step ∈ after.steps
  memory : SameMemory before after

variable {digest}
variable {after system before : System} {req : SubmitRequest} {actor : Option Actor}

theorem Quiet.refl (system : System) : Quiet digest system system :=
  ⟨fun _ _ known => known,fun _ _ => rfl,fun _ actor _ _ _ present found => ⟨actor,present,found⟩,
    fun _ member => member,rfl,rfl⟩

theorem Quiet.trans (a b c : System) (left : Quiet digest a b) (right : Quiet digest b c) : Quiet digest a c where
  known requestID payload known := right.known requestID payload (left.known requestID payload known)
  records requestID client := (right.records requestID client).trans (left.records requestID client)
  results tableID actor requestID result client present found := by
    obtain ⟨middle,middlePresent,middleFound⟩ := right.results tableID actor requestID result client present found
    exact left.results tableID middle requestID result client middlePresent middleFound
  steps step member := right.steps step (left.steps step member)
  memory := ⟨right.memory.1.trans left.memory.1,right.memory.2.trans left.memory.2⟩

theorem known_of_ledger (ledger : after.world.store.ledger = before.world.store.ledger) (requestID : String)
    (payload : SubmissionPayload) (known : Known digest before requestID payload)
    : Known digest after requestID payload := by
  unfold Known
  rw [ledger]
  exact known

theorem quiet_of_world (gateway : after.gateway = before.gateway) (steps : after.steps = before.steps)
    (actions : after.world.store.actions = before.world.store.actions)
    (known : ∀ requestID payload, Known digest before requestID payload → Known digest after requestID payload) :
    Quiet digest before after where
  known := known
  records requestID _ := by rw [actions]
  results tableID actor requestID result _ present found := by
    refine ⟨actor,?_,found⟩
    rw [System.actor?,← gateway]
    exact present
  steps step member := by rwa [steps]
  memory := by
    unfold SameMemory
    rw [gateway]
    exact ⟨rfl,rfl⟩

theorem storeCall_quiet {α : Type} (call : StoreM α)
    (frame : Moves (Leaves fun store => (store.actions,store.ledger)) call) :
    Moves (Quiet digest) (storeCall call) := by
  intro system
  have kept := frame system.world
  unfold Leaves at kept
  rw [Prod.mk.injEq] at kept
  exact quiet_of_world rfl rfl kept.1 (known_of_ledger kept.2)

theorem writeSubmission_known {entry : SubmissionLedger} {store next : Store}
    (written : writeSubmission entry store = .ok next) :
    next.actions = store.actions ∧ next.ledger.get? entry.requestID = some entry ∧
      ∀ requestID held, store.ledger.get? requestID = some held →
        ∃ now, next.ledger.get? requestID = some now ∧ now.payloadHash = held.payloadHash := by
  have inserted (agrees : ∀ held, store.ledger.get? entry.requestID = some held →
      held.payloadHash = entry.payloadHash) (requestID : String) (held : SubmissionLedger)
      (found : store.ledger.get? requestID = some held) :
      ∃ now, (store.ledger.insert entry.requestID entry).get? requestID = some now ∧
        now.payloadHash = held.payloadHash := by
    rw [OrdMap.get?_insert]
    by_cases own : requestID = entry.requestID
    · rw [if_pos own]
      exact ⟨entry,rfl,(agrees held (own ▸ found)).symm⟩
    · rw [if_neg own]
      exact ⟨held,found,rfl⟩
  unfold writeSubmission at written
  cases existing : store.ledger.get? entry.requestID with
  | none =>
    rw [existing] at written
    cases written
    exact ⟨rfl,OrdMap.get?_insert_self _ _ _,inserted fun held found => by rw [existing] at found; contradiction⟩
  | some held =>
    rw [existing] at written
    dsimp only at written
    split_ifs at written with agrees
    cases written
    exact ⟨rfl,OrdMap.get?_insert_self _ _ _,inserted fun other found => by
      rw [existing] at found
      cases found
      exact agrees⟩

theorem writeCall_single {ρ : Type} (write : ρ → Store → Except StoreError Store) (row : ρ) (world : World) :
    ((writeCall write [row] world).2.store = world.store ∧ (writeCall write [row] world).1 ≠ .ok ()) ∨
      write row world.store = .ok (writeCall write [row] world).2.store := by
  have all : (writeRows write [row] world.store).2 = world.store ∧ (writeRows write [row] world.store).1 ≠ .ok () ∨
      write row world.store = .ok (writeRows write [row] world.store).2 := by
    unfold writeRows
    cases written : write row world.store with
    | error e => exact .inl ⟨rfl,by simp⟩
    | ok next => exact .inr rfl
  unfold writeCall
  cases outcomes : world.outcomes with
  | nil => exact all
  | cons outcome rest =>
    cases outcome with
    | ok => exact all
    | failed rows =>
      cases rows with
      | zero => exact .inl ⟨rfl,by simp [writeRows,Except.bind]⟩
      | succ rows =>
        simp only [List.take_succ_cons,List.take_nil]
        rcases all with ⟨same,failed⟩ | wrote
        · refine .inl ⟨same,?_⟩
          cases result : (writeRows write [row] world.store).1 with
          | error e => simp [Except.bind]
          | ok done => exact absurd result failed
        · exact .inr wrote

theorem recordSubmission_quiet (req : SubmitRequest) (status : SubmissionStatus) :
    Moves (Quiet digest) (recordSubmission digest req status) := by
  intro system
  unfold recordSubmission storeCall appendSubmissionLedgerEntries
  rcases writeCall_single writeSubmission _ system.world with ⟨same,_⟩ | wrote
  · refine quiet_of_world rfl rfl (congrArg Store.actions same) ?_
    rintro requestID payload ⟨entry,found,hash⟩
    exact ⟨entry,(congrArg (fun store => store.ledger.get? requestID) same).trans found,hash⟩
  · obtain ⟨actions,_,kept⟩ := writeSubmission_known wrote
    refine quiet_of_world rfl rfl actions ?_
    rintro requestID payload ⟨entry,found,hash⟩
    obtain ⟨now,held,same⟩ := kept requestID entry found
    exact ⟨now,held,same.trans hash⟩

theorem recordSubmission_known {status : SubmissionStatus} {done : Unit}
    (recorded : recordSubmission digest req status system = (.ok done,after)) :
    Known digest after req.requestID req.payload := by
  unfold recordSubmission storeCall appendSubmissionLedgerEntries at recorded
  rw [Prod.mk.injEq] at recorded
  obtain ⟨accepted,rfl⟩ := recorded
  rcases writeCall_single writeSubmission _ system.world with ⟨_,failed⟩ | wrote
  · exact absurd (ok_of_mapError accepted) failed
  · obtain ⟨_,own,_⟩ := writeSubmission_known wrote
    exact ⟨_,own,rfl⟩

theorem recordSubmission_actions (req : SubmitRequest) (status : SubmissionStatus) (system : System) :
    (recordSubmission digest req status system).2.world.store.actions = system.world.store.actions := by
  unfold recordSubmission storeCall appendSubmissionLedgerEntries
  rcases writeCall_single writeSubmission _ system.world with ⟨same,_⟩ | wrote
  · exact congrArg Store.actions same
  · exact (writeSubmission_known wrote).1

theorem setActor_get? (system : System) (tableID other : String) (actor : Actor) (world : World) :
    (system.setActor tableID actor world).actor? other =
      if other = tableID then some actor else system.actor? other := OrdMap.get?_insert _ _ _ _

theorem system_handle_cases (system : System) (tableID : String) (actor : Actor) (envelope : CommandEnvelope) :
    (∃ result, actor.results.get? envelope.requestID = some result ∧
      system.handle tableID actor envelope = (.ok result,system.setActor tableID actor system.world)) ∨
    (actor.results.get? envelope.requestID = none ∧ ∃ e after,
      actor.handle envelope system.world = (.error e,actor,after) ∧
      system.handle tableID actor envelope = (.error e,system.setActor tableID actor after)) ∨
    (actor.results.get? envelope.requestID = none ∧ ∃ next events after,
      apply actor.state.table envelope.command = .ok (next,events) ∧
      persist actor envelope next events system.world = (.ok (),after) ∧
      system.handle tableID actor envelope = (.ok actor.nextResult,
        { system.setActor tableID (actor.committed envelope.requestID next events) after with
          steps := system.steps ++ [⟨tableID,envelope.requestID,envelope.command,actor.state.stateSeq,
            actor.state.stateSeq + 1,actor.state.table,next⟩] })) := by
  unfold System.handle
  rcases handle_cases actor envelope system.world with
    ⟨result,hit,same⟩ | ⟨miss,e,after,same,_⟩ | ⟨miss,_,next,events,after,applied,stored,same⟩
  · refine .inl ⟨result,hit,?_⟩
    rw [same]
    exact if_pos rfl
  · refine .inr (.inl ⟨miss,e,after,same,?_⟩)
    rw [same]
    exact if_pos rfl
  · refine .inr (.inr ⟨miss,next,events,after,applied,stored,?_⟩)
    rw [same]
    have moved : ¬ (actor.committed envelope.requestID next events).state.stateSeq = actor.state.stateSeq := by
      change ¬ actor.state.stateSeq + 1 = actor.state.stateSeq
      omega
    exact if_neg moved

theorem system_handle_frame (system : System) (tableID : String) (actor : Actor) (envelope : CommandEnvelope) :
    SameMemory system (system.handle tableID actor envelope).2 ∧
      (system.handle tableID actor envelope).2.world = (actor.handle envelope system.world).2.2 ∧
      (∀ step ∈ system.steps, step ∈ (system.handle tableID actor envelope).2.steps) ∧
      (∀ other, (system.handle tableID actor envelope).2.actor? other =
        if other = tableID then some (actor.handle envelope system.world).2.1 else system.actor? other) := by
  have actors (other : String) := setActor_get? system tableID other (actor.handle envelope system.world).2.1
    (actor.handle envelope system.world).2.2
  unfold System.handle
  dsimp only
  split_ifs
  · exact ⟨⟨rfl,rfl⟩,rfl,fun _ member => member,actors⟩
  · exact ⟨⟨rfl,rfl⟩,rfl,fun _ member => List.mem_append_left _ member,actors⟩

theorem system_handle_known (system : System) (tableID : String) (actor : Actor) (envelope : CommandEnvelope)
    (requestID : String) (payload : SubmissionPayload) (known : Known digest system requestID payload) :
    Known digest (system.handle tableID actor envelope).2 requestID payload := by
  obtain ⟨_,world,_,_⟩ := system_handle_frame system tableID actor envelope
  refine known_of_ledger ?_ requestID payload known
  rw [world]
  exact (handle_store actor envelope system.world).1

theorem results_of_actor {tableID : String} {actor moved : Actor} (present : before.actor? tableID = some actor)
    (actors : ∀ other, after.actor? other = if other = tableID then some moved else before.actor? other)
    (results : ∀ requestID result, runtimeRequestID requestID = false →
      moved.results.get? requestID = some result → actor.results.get? requestID = some result) (other : String)
    (held : Actor) (requestID : String) (result : Result) (client : runtimeRequestID requestID = false)
    (heldFound : after.actor? other = some held) (found : held.results.get? requestID = some result) :
    ∃ origin, before.actor? other = some origin ∧ origin.results.get? requestID = some result := by
  rw [actors] at heldFound
  split_ifs at heldFound with own
  · cases heldFound
    exact ⟨actor,own ▸ present,results requestID result client found⟩
  · exact ⟨held,heldFound,found⟩

theorem runtime_handle_quiet (system : System) {tableID : String} {actor : Actor} (envelope : CommandEnvelope)
    (present : system.actor? tableID = some actor) (own : runtimeRequestID envelope.requestID = true) :
    Quiet digest system (system.handle tableID actor envelope).2 := by
  obtain ⟨memory,world,steps,actors⟩ := system_handle_frame system tableID actor envelope
  have differ (requestID : String) (client : runtimeRequestID requestID = false) :
      requestID ≠ envelope.requestID := by
    rintro rfl
    rw [own] at client
    contradiction
  refine ⟨system_handle_known system tableID actor envelope,?_,results_of_actor present actors ?_,steps,memory⟩
  · intro requestID client
    rw [world]
    exact (handle_store actor envelope system.world).2 requestID (differ requestID client)
  · intro requestID result client found
    rcases handle_cases actor envelope system.world with
      ⟨_,_,same⟩ | ⟨_,_,_,same,_⟩ | ⟨_,_,next,events,_,_,_,same⟩
    · rwa [same] at found
    · rwa [same] at found
    · rw [same] at found
      change (actor.results.insert envelope.requestID actor.nextResult).get? requestID = some result at found
      rwa [OrdMap.get?_insert_of_ne _ _ (differ requestID client)] at found

theorem openPhaseOn_quiet (tableID : String) (phase : PhaseDefinition) :
    Moves (Quiet digest) (openPhaseOn tableID phase) := by
  intro system
  unfold openPhaseOn
  cases present : system.actor? tableID with
  | none => exact Quiet.refl system
  | some actor =>
    obtain ⟨actions,ledger,results⟩ := openPhase_store actor phase system.world
    refine ⟨known_of_ledger ledger,fun requestID _ => ?_,
      results_of_actor present (fun other => setActor_get? _ _ _ _ _) ?_,fun _ member => member,rfl,rfl⟩
    · exact congrArg (fun rows => rows.get? requestID) actions
    · intro requestID result _ found
      rwa [← results]

theorem handleOn_quiet (tableID : String) (envelope : CommandEnvelope)
    (own : runtimeRequestID envelope.requestID = true) : Moves (Quiet digest) (handleOn tableID envelope) := by
  intro system
  unfold handleOn
  cases present : system.actor? tableID with
  | none => exact Quiet.refl system
  | some actor => exact runtime_handle_quiet system envelope present own

theorem registerActor_quiet (tableID : String) (state : ActorState) (streamSeq : Int) (system : System) :
    Quiet digest system (system.setActor tableID (newRecoveredActor state streamSeq) system.world) := by
  refine ⟨fun _ _ known => known,fun _ _ => rfl,?_,fun _ member => member,rfl,rfl⟩
  intro other held requestID result _ heldFound found
  rw [setActor_get?] at heldFound
  split_ifs at heldFound with same
  · cases heldFound
    exact absurd found (by simp [newRecoveredActor,newActor])
  · exact ⟨held,heldFound,found⟩

theorem removeActor_quiet (tableID : String) (system : System) : Quiet digest system
    { system with gateway := { system.gateway with actors := system.gateway.actors.erase tableID } } := by
  refine ⟨fun _ _ known => known,fun _ _ => rfl,?_,fun _ member => member,rfl,rfl⟩
  intro other held requestID result _ heldFound found
  have kept : (system.gateway.actors.erase tableID).get? other = some held := heldFound
  rw [OrdMap.get?_erase] at kept
  split_ifs at kept
  exact ⟨held,kept,found⟩

theorem hookCall_quiet (call : HookCall) (own : call.own = true) : Moves (Quiet digest) (hookCall call) := by
  cases call with
  | openPhase tableID phase => exact openPhaseOn_quiet tableID phase
  | handle tableID envelope => exact handleOn_quiet tableID envelope own
  | registerActor tableID state streamSeq => exact registerActor_quiet tableID state streamSeq
  | removeActor tableID => exact removeActor_quiet tableID
  | fail => exact Quiet.refl

theorem hookCalls_quiet (calls : List HookCall) (own : ∀ call ∈ calls, call.own = true) :
    Moves (Quiet digest) (hookCalls calls) := by
  induction calls with
  | nil => exact Moves.pure Quiet.refl _
  | cons call rest ih =>
    exact Moves.bind Quiet.trans (hookCall_quiet call (own call List.mem_cons_self)) fun _ =>
      ih fun later member => own later (List.mem_cons_of_mem _ member)

theorem readCall_ok {α : Type} {read : Store → α} {value : α}
    (loaded : storeCall (readCall read) system = (.ok value,after)) :
    value = read system.world.store ∧ after.gateway = system.gateway ∧ after.steps = system.steps ∧
      after.world.store = system.world.store := by
  have outcome : (∃ e rest, readCall read system.world = (.error e,{ system.world with outcomes := rest })) ∨
      ∃ rest, readCall read system.world = (.ok (read system.world.store),{ system.world with outcomes := rest }) := by
    unfold readCall
    split
    · exact .inl ⟨_,_,rfl⟩
    · exact .inr ⟨_,rfl⟩
  unfold storeCall at loaded
  rcases outcome with ⟨e,rest,failed⟩ | ⟨rest,done⟩
  · simp only [failed,Except.mapError,Prod.mk.injEq] at loaded
    exact absurd loaded.1 (by simp)
  · simp only [done,Except.mapError,Prod.mk.injEq,Except.ok.injEq] at loaded
    obtain ⟨rfl,rfl⟩ := loaded
    exact ⟨rfl,rfl,rfl,rfl⟩

theorem loadRecorded_quiet (req : SubmitRequest) : Moves (Quiet digest) (loadRecorded digest req) := by
  refine Moves.bind Quiet.trans (storeCall_quiet _ (readCall_leaves _)) fun entry => ?_
  cases entry with
  | none => exact Moves.pure Quiet.refl _
  | some entry =>
    dsimp only
    split_ifs
    · exact fun system => Quiet.refl system
    · exact storeCall_quiet _ (readCall_leaves _)

theorem loadRecorded_some {action : ActionRecord} (loaded : loadRecorded digest req system = (.ok (some action),after)) :
    Known digest after req.requestID req.payload ∧ after.world.store.actions.get? req.requestID = some action := by
  unfold loadRecorded at loaded
  obtain ⟨entry,middle,first,rest⟩ := bind_ok loaded
  obtain ⟨found,_,_,store⟩ := readCall_ok first
  cases entry with
  | none => cases rest
  | some entry =>
    dsimp only at rest
    split_ifs at rest with differ
    · cases rest
    · obtain ⟨actionFound,_,_,same⟩ := readCall_ok rest
      refine ⟨⟨entry,?_,not_not.mp differ⟩,?_⟩
      · rw [same,store]
        exact found.symm
      · rw [same]
        exact actionFound.symm

theorem planSubmit_quiet (req : SubmitRequest) (actor : Option Actor) :
    Moves (Quiet digest) (planSubmit digest req actor) := by
  unfold planSubmit
  cases toCommand req with
  | none => exact fun system => Quiet.refl system
  | some command =>
    refine Moves.bind Quiet.trans (loadRecorded_quiet req) fun action => ?_
    cases action with
    | some action => exact Moves.pure Quiet.refl _
    | none =>
      cases actor with
      | none => exact fun system => Quiet.refl system
      | some actor =>
        exact Moves.bind Quiet.trans (recordSubmission_quiet req .received) fun _ =>
          Moves.pure Quiet.refl _

theorem planSubmit_replay {action : ActionRecord}
    (planned : planSubmit digest req actor system = (.ok (.replay action),after)) :
    Known digest after req.requestID req.payload ∧ after.world.store.actions.get? req.requestID = some action := by
  unfold planSubmit at planned
  cases command : toCommand req with
  | none =>
    rw [command] at planned
    cases planned
  | some command =>
    simp only [command] at planned
    obtain ⟨loaded,middle,first,rest⟩ := bind_ok planned
    cases loaded with
    | some found =>
      cases rest
      exact loadRecorded_some first
    | none =>
      cases actor with
      | none => cases rest
      | some actor =>
        obtain ⟨_,_,_,last⟩ := bind_ok rest
        cases last

theorem planSubmit_commit {command : Command} {target : Actor}
    (planned : planSubmit digest req actor system = (.ok (.commit command target),after)) :
    Known digest after req.requestID req.payload ∧ toCommand req = some command ∧ actor = some target := by
  unfold planSubmit at planned
  cases found : toCommand req with
  | none =>
    rw [found] at planned
    cases planned
  | some expected =>
    simp only [found] at planned
    obtain ⟨loaded,middle,first,rest⟩ := bind_ok planned
    cases loaded with
    | some record => cases rest
    | none =>
      cases actor with
      | none => cases rest
      | some actor =>
        obtain ⟨_,noted,recorded,last⟩ := bind_ok rest
        cases last
        exact ⟨recordSubmission_known recorded,rfl,rfl⟩

theorem loadRecorded_none (ledgered : ∀ record,
      system.world.store.actions.get? req.requestID = some record → ∃ payload, Known digest system req.requestID payload)
    (loaded : loadRecorded digest req system = (.ok none,after)) :
    after.world.store.actions.get? req.requestID = none := by
  unfold loadRecorded at loaded
  obtain ⟨entry,middle,first,rest⟩ := bind_ok loaded
  obtain ⟨found,_,_,store⟩ := readCall_ok first
  cases entry with
  | none =>
    cases rest
    rw [store,Option.eq_none_iff_forall_ne_some]
    intro record recorded
    -- A record never stands without its ledger entry.
    obtain ⟨_,entry,held,_⟩ := ledgered record recorded
    rw [← found] at held
    contradiction
  | some entry =>
    dsimp only at rest
    split_ifs at rest with differ
    · cases rest
    · obtain ⟨missing,_,_,same⟩ := readCall_ok rest
      rw [same]
      exact missing.symm

theorem planSubmit_fresh {command : Command} {target : Actor}
    (ledgered : ∀ record, system.world.store.actions.get? req.requestID = some record →
      ∃ payload, Known digest system req.requestID payload)
    (planned : planSubmit digest req actor system = (.ok (.commit command target),after)) :
    after.world.store.actions.get? req.requestID = none := by
  unfold planSubmit at planned
  cases found : toCommand req with
  | none =>
    rw [found] at planned
    cases planned
  | some expected =>
    simp only [found] at planned
    obtain ⟨loaded,middle,first,rest⟩ := bind_ok planned
    cases loaded with
    | some record => cases rest
    | none =>
      cases actor with
      | none => cases rest
      | some actor =>
        obtain ⟨_,noted,recorded,last⟩ := bind_ok rest
        cases last
        have same : (recordSubmission digest req .received middle).2.world.store.actions = middle.world.store.actions :=
          recordSubmission_actions req .received middle
        rw [recorded] at same
        change after.world.store.actions = _ at same
        rw [same]
        exact loadRecorded_none ledgered first

theorem planSubmit_actors (req : SubmitRequest) (actor : Option Actor) (system : System) :
    (planSubmit digest req actor system).2.gateway = system.gateway := by
  have loads (α : Type) (call : StoreM α) : Moves (fun a b : System => b.gateway = a.gateway) (storeCall call) :=
    fun system => rfl
  have keeps : Moves (fun a b : System => b.gateway = a.gateway) (planSubmit digest req actor) := by
    have trans (a b c : System) (left : b.gateway = a.gateway) (right : c.gateway = b.gateway) :
        c.gateway = a.gateway := right.trans left
    unfold planSubmit
    cases toCommand req with
    | none => exact fun system => rfl
    | some command =>
      refine Moves.bind trans (Moves.bind trans (loads _ _) fun entry => ?_) fun action => ?_
      · cases entry with
        | none => exact fun system => rfl
        | some entry =>
          dsimp only
          split_ifs
          · exact fun system => rfl
          · exact loads _ _
      · cases action with
        | some action => exact fun system => rfl
        | none =>
          cases actor with
          | none => exact fun system => rfl
          | some actor => exact Moves.bind trans (loads _ _) fun _ _ => rfl
  exact keeps system

section Carry
variable {hook : Option (List HookCall)} {req : SubmitRequest} {system : System}
variable {after : System} {response : SubmitResponse}

theorem settleRequest_quiet (own : ∀ calls, hook = some calls → ∀ call ∈ calls, call.own = true)
    (response : SubmitResponse) : Moves (Quiet digest) (settleRequest digest hook req response) := by
  refine Moves.bind Quiet.trans (recordSubmission_quiet req .committed) fun _ =>
    Moves.bind Quiet.trans (hookCalls_quiet _ ?_) fun _ =>
      Moves.bind Quiet.trans (recordSubmission_quiet req .applied) fun _ => Moves.pure Quiet.refl _
  cases hook with
  | none => simp
  | some calls => exact own calls rfl

theorem handleRequest_ok {command : Command} {actor : Actor}
    (handled : handleRequest req command actor system = (.ok response,after)) :
    ∃ result, system.handle req.tableID actor ⟨req.requestID,req.expectedStateSeq,command⟩ = (.ok result,after) ∧
      response = ⟨result.resultEventID,result.stateSeq⟩ := by
  unfold handleRequest at handled
  cases run : system.handle req.tableID actor ⟨req.requestID,req.expectedStateSeq,command⟩ with
  | mk result moved =>
    rw [run] at handled
    cases result with
    | error e =>
      simp only [Except.mapError,Except.map,Prod.mk.injEq] at handled
      exact absurd handled.1 (by simp)
    | ok result =>
      simp only [Except.mapError,Except.map,Prod.mk.injEq,Except.ok.injEq] at handled
      obtain ⟨rfl,rfl⟩ := handled
      exact ⟨result,rfl,rfl⟩

theorem settleRequest_ok {answer : SubmitResponse}
    (done : settleRequest digest hook req response system = (.ok answer,after)) : answer = response := by
  obtain ⟨_,_,_,afterCommitted⟩ := bind_ok done
  obtain ⟨_,_,_,afterHook⟩ := bind_ok afterCommitted
  obtain ⟨_,_,_,last⟩ := bind_ok afterHook
  cases last
  rfl

theorem replayRequest_quiet (own : ∀ calls, hook = some calls → ∀ call ∈ calls, call.own = true)
    (action : ActionRecord) : Moves (Quiet digest) (replayRequest digest hook req action) := by
  refine Moves.bind Quiet.trans (fun system => ?_) fun _ => Moves.pure Quiet.refl _
  have recorded : Moves (Quiet digest) (recordSubmission digest req .applied) :=
    recordSubmission_quiet req .applied
  unfold finalizeDurableReplay
  cases hook with
  | none => exact recorded system
  | some calls =>
    cases system.actor? req.tableID with
    | none => exact Quiet.refl system
    | some actor => exact Moves.bind Quiet.trans (hookCalls_quiet calls (own calls rfl)) (fun _ => recorded) system

theorem replayRequest_ok {action : ActionRecord}
    (done : replayRequest digest hook req action system = (.ok response,after)) :
    response = ⟨action.resultEventID,action.acceptedStateSeq⟩ := by
  obtain ⟨_,_,_,last⟩ := bind_ok done
  cases last
  rfl

theorem carryOut_memory (own : ∀ calls, hook = some calls → ∀ call ∈ calls, call.own = true) (plan : Plan)
    (system : System) : SameMemory system (carryOut digest hook req plan system).2 := by
  have trans (a b c : System) (left : SameMemory a b) (right : SameMemory b c) : SameMemory a c :=
    ⟨right.1.trans left.1,right.2.trans left.2⟩
  cases plan with
  | replay action =>
    have quiet : Quiet digest system (replayRequest digest hook req action system).2 :=
      replayRequest_quiet own action system
    exact quiet.memory
  | commit command actor =>
    refine Moves.bind trans (fun s => ?_) (fun response s => ?_) system
    · exact (system_handle_frame s req.tableID actor ⟨req.requestID,req.expectedStateSeq,command⟩).1
    · have quiet : Quiet digest s (settleRequest digest hook req response s).2 := settleRequest_quiet own response s
      exact quiet.memory

end Carry

end Quiet

/-- One event in the life of a gateway: the store's outcomes and the clock change, a submission, calls of the
runtime, a restart that loses all memory. -/
inductive GatewayStep (digest : SubmissionPayload → String)
    (permitted : Option (List HookCall) → SubmitRequest → System → Prop) : System → System → Prop
  | weather (system : System) (outcomes : List Outcome) (now : Int) : GatewayStep digest permitted system
      { system with world := { system.world with outcomes := outcomes, now := now } }
  | submit (system : System) (hook : Option (List HookCall)) (req : SubmitRequest)
      (allowed : permitted hook req system) : GatewayStep digest permitted system (submit digest hook req system).2
  | runtime (system : System) (calls : List HookCall) (own : ∀ call ∈ calls, call.own = true) :
      GatewayStep digest permitted system (hookCalls calls system).2
  | restart (system : System) : GatewayStep digest permitted system { system with gateway := {} }

structure Fresh (system : System) : Prop where
  records : system.world.store.actions = OrdMap.empty
  responses : system.gateway.responses = OrdMap.empty
  requests : system.gateway.ledger = OrdMap.empty
  results : ∀ tableID actor, system.actor? tableID = some actor → actor.results = OrdMap.empty

theorem signalSystem_fresh (outcomes : List Outcome) : Fresh (signalSystem outcomes) := by
  refine ⟨rfl,rfl,rfl,fun tableID actor present => ?_⟩
  have one : OrdMap.get? (OrdMap.empty.insert "tbl:tour:w1:01:01" signalActor) tableID = some actor := present
  rw [OrdMap.get?_insert] at one
  split_ifs at one with same
  · cases one
    rfl
  · simp at one

end Clawchain.Arena.Submit
