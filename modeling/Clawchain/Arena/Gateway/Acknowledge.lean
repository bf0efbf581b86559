import Clawchain.Arena.Gateway.Quiet

/-! Acknowledged means applied. The gateway takes a stored action record for the
proof that its command was applied, so the law holds as long as no handling
fails after its record was stored. -/
namespace Clawchain.Arena.Submit
open Clawchain.Lib Clawchain.Arena.Table Faulty Relation

/-- The command of the payload was the step of its table that reached number `stateSeq`. -/
def AppliedAt (steps : List Step) (requestID : String) (payload : SubmissionPayload) (stateSeq : Int) : Prop :=
  ∃ step ∈ steps, step.tableID = payload.tableID ∧ step.requestID = requestID ∧
    payload.command? = some step.command ∧ step.fromSeq = stateSeq - 1 ∧ step.toSeq = stateSeq ∧
    ∃ events, apply step.before step.command = .ok (step.after,events)

section Invariant
variable (digest : SubmissionPayload → String) (used : Set SubmissionPayload)

/-- Whatever could answer a client's request stands for an applied command. -/
structure Faithful (system : System) : Prop where
  records : ∀ requestID record, runtimeRequestID requestID = false →
    system.world.store.actions.get? requestID = some record →
    ∃ payload ∈ used, Known digest system requestID payload ∧
      AppliedAt system.steps requestID payload record.acceptedStateSeq
  results : ∀ tableID actor requestID result, runtimeRequestID requestID = false →
    system.actor? tableID = some actor → actor.results.get? requestID = some result →
    ∃ payload ∈ used, Known digest system requestID payload ∧ AppliedAt system.steps requestID payload result.stateSeq
  responses : ∀ requestID response, runtimeRequestID requestID = false →
    system.gateway.responses.get? requestID = some response →
    ∃ req, system.gateway.ledger.get? requestID = some req ∧ req.payload ∈ used ∧
      AppliedAt system.steps requestID req.payload response.stateSeq

variable {digest used}

variable {system before after : System} {hook : Option (List HookCall)} {req : SubmitRequest}
theorem AppliedAt.later {requestID : String} {payload : SubmissionPayload} {stateSeq : Int}
    (applied : AppliedAt before.steps requestID payload stateSeq) (steps : ∀ step ∈ before.steps, step ∈ after.steps) :
    AppliedAt after.steps requestID payload stateSeq := by
  obtain ⟨step,member,rest⟩ := applied
  exact ⟨step,steps step member,rest⟩

theorem Quiet.faithful (quiet : Quiet digest before after) (faithful : Faithful digest used before)
    : Faithful digest used after := by
  refine ⟨fun requestID record client found => ?_,fun tableID actor requestID result client present found => ?_,
    fun requestID response client found => ?_⟩
  · rw [quiet.records requestID client] at found
    obtain ⟨payload,inUse,known,applied⟩ := faithful.records requestID record client found
    exact ⟨payload,inUse,quiet.known _ _ known,applied.later quiet.steps⟩
  · obtain ⟨origin,held,cached⟩ := quiet.results tableID actor requestID result client present found
    obtain ⟨payload,inUse,known,applied⟩ := faithful.results tableID origin requestID result client held cached
    exact ⟨payload,inUse,quiet.known _ _ known,applied.later quiet.steps⟩
  · rw [quiet.memory.1] at found
    obtain ⟨req,held,inUse,applied⟩ := faithful.responses requestID response client found
    exact ⟨req,by rw [quiet.memory.2]; exact held,inUse,applied.later quiet.steps⟩

section Client
variable {system : System} {tableID : String} {actor : Actor} {payload : SubmissionPayload} {envelope : CommandEnvelope}

theorem handle_faithful (faithful : Faithful digest used system) (present : system.actor? tableID = some actor)
    (records : ∀ record, (system.handle tableID actor envelope).2.world.store.actions.get? envelope.requestID =
      some record → system.world.store.actions.get? envelope.requestID = some record ∨
        ∃ payload ∈ used, Known digest system envelope.requestID payload ∧
          AppliedAt (system.handle tableID actor envelope).2.steps envelope.requestID payload record.acceptedStateSeq)
    (results : ∀ requestID result, (actor.handle envelope system.world).2.1.results.get? requestID = some result →
      actor.results.get? requestID = some result ∨
        ∃ payload ∈ used, Known digest system requestID payload ∧
          AppliedAt (system.handle tableID actor envelope).2.steps requestID payload result.stateSeq) :
    Faithful digest used (system.handle tableID actor envelope).2 := by
  obtain ⟨memory,world,steps,actors⟩ := system_handle_frame system tableID actor envelope
  have known (requestID : String) (payload : SubmissionPayload) (old : Known digest system requestID payload) :
      Known digest (system.handle tableID actor envelope).2 requestID payload :=
    system_handle_known system tableID actor envelope requestID payload old
  have kept {requestID : String} {stateSeq : Int}
      (held : ∃ payload ∈ used, Known digest system requestID payload ∧
        AppliedAt system.steps requestID payload stateSeq) :
      ∃ payload ∈ used, Known digest (system.handle tableID actor envelope).2 requestID payload ∧
        AppliedAt (system.handle tableID actor envelope).2.steps requestID payload stateSeq := by
    obtain ⟨payload,inUse,old,applied⟩ := held
    exact ⟨payload,inUse,known _ _ old,applied.later steps⟩
  refine ⟨fun requestID record client found => ?_,fun other held requestID result client heldFound found => ?_,
    fun requestID response client found => ?_⟩
  · by_cases own : requestID = envelope.requestID
    · subst own
      rcases records record found with old | ⟨payload,inUse,old,applied⟩
      · exact kept (faithful.records _ record client old)
      · exact ⟨payload,inUse,known _ _ old,applied⟩
    · rw [world,(handle_store actor envelope system.world).2 requestID own] at found
      exact kept (faithful.records requestID record client found)
  · rw [actors] at heldFound
    split_ifs at heldFound with own
    · cases heldFound
      rcases results requestID result found with old | ⟨payload,inUse,old,applied⟩
      · exact kept (faithful.results tableID actor requestID result client present old)
      · exact ⟨payload,inUse,known _ _ old,applied⟩
    · exact kept (faithful.results other held requestID result client heldFound found)
  · rw [memory.1] at found
    obtain ⟨req,held,inUse,applied⟩ := faithful.responses requestID response client found
    exact ⟨req,by rw [memory.2]; exact held,inUse,applied.later steps⟩

theorem client_handle_faithful (distinct : Set.InjOn digest used) (faithful : Faithful digest used system)
    (present : system.actor? tableID = some actor) (client : runtimeRequestID envelope.requestID = false)
    (inUse : payload ∈ used) (known : Known digest system envelope.requestID payload)
    (seated : payload.tableID = tableID) (command : payload.command? = some envelope.command)
    (clean : strandsRecord actor envelope system.world = false) :
    Faithful digest used (system.handle tableID actor envelope).2 ∧
      ∀ result, (system.handle tableID actor envelope).1 = .ok result →
        AppliedAt (system.handle tableID actor envelope).2.steps envelope.requestID payload result.stateSeq := by
  obtain ⟨_,world,steps,_⟩ := system_handle_frame system tableID actor envelope
  have handled := handle_cases actor envelope system.world
  rcases system_handle_cases system tableID actor envelope with
    ⟨result,hit,same⟩ | ⟨miss,e,after,failed,same⟩ | ⟨miss,next,events,after,applied,stored,same⟩
  · -- Answered from the actor's cache.
    have still : actor.handle envelope system.world = (.ok result,actor,system.world) := by
      rcases handled with ⟨other,found,still⟩ | ⟨miss,_⟩ | ⟨miss,_⟩
      · rw [hit] at found
        cases found
        exact still
      · rw [hit] at miss
        contradiction
      · rw [hit] at miss
        contradiction
    refine ⟨handle_faithful faithful present (fun record found => .inl ?_) (fun requestID held found => .inl ?_),?_⟩
    · rwa [world,still] at found
    · rwa [still] at found
    · intro answer accepted
      rw [same] at accepted
      cases accepted
      obtain ⟨other,otherInUse,⟨entry,found,hash⟩,step⟩ := faithful.results tableID actor _ result client present hit
      obtain ⟨held,heldFound,heldHash⟩ := known
      rw [found] at heldFound
      cases heldFound
      rw [← distinct otherInUse inUse (hash.symm.trans heldHash)]
      exact step.later steps
  · -- Refused: whatever was written, the record is not there.
    refine ⟨handle_faithful faithful present (fun record found => .inl ?_) (fun requestID held found => .inl ?_),?_⟩
    · rw [world,failed] at found
      rcases handled with ⟨_,hit,_⟩ | ⟨_,e',after',failed',unmoved⟩ | ⟨_,_,_,_,_,_,_,committed⟩
      · rw [miss] at hit
        contradiction
      · rw [failed] at failed'
        cases failed'
        rcases unmoved with rfl | ⟨_,_,_,failure,rfl,_,_⟩
        · exact found
        · unfold strandsRecord at clean
          rw [failed] at clean
          change (after.store.actions.get? envelope.requestID).isSome = false at clean
          change after.store.actions.get? envelope.requestID = some record at found
          rw [found] at clean
          contradiction
      · rw [failed] at committed
        cases committed
    · rwa [failed] at found
    · intro answer accepted
      rw [same] at accepted
      cases accepted
  · -- Applied.
    have step : AppliedAt (system.handle tableID actor envelope).2.steps envelope.requestID payload
        actor.nextResult.stateSeq := by
      refine ⟨⟨tableID,envelope.requestID,envelope.command,actor.state.stateSeq,actor.state.stateSeq + 1,
        actor.state.table,next⟩,?_,seated.symm,rfl,command,?_,rfl,events,applied⟩
      · rw [same]
        exact List.mem_append_right _ List.mem_cons_self
      · change actor.state.stateSeq = actor.state.stateSeq + 1 - 1
        omega
    have moved : actor.handle envelope system.world =
        (.ok actor.nextResult,actor.committed envelope.requestID next events,after) := by
      rcases handled with ⟨_,hit,_⟩ | ⟨_,_,_,failed,_⟩ | ⟨_,_,next',events',after',applied',stored',committed⟩
      · rw [miss] at hit
        contradiction
      · have refused : (system.handle tableID actor envelope).1 ≠ .ok actor.nextResult := by
          unfold System.handle
          rw [failed]
          simp
        exact absurd (congrArg Prod.fst same) refused
      · rw [applied] at applied'
        cases applied'
        rw [stored] at stored'
        cases stored'
        exact committed
    refine ⟨handle_faithful faithful present (fun record found => .inr ?_) (fun requestID held found => ?_),?_⟩
    · obtain ⟨_,wrote⟩ := persist_cases actor envelope next events system.world
      rw [stored] at wrote
      rw [world,moved] at found
      rcases wrote with ⟨_,failed⟩ | ⟨written,recorded,inserted⟩
      · exact absurd rfl failed
      · rw [inserted,OrdMap.get?_insert_self] at found
        cases found
        rw [recorded.acceptedStateSeq]
        exact ⟨payload,inUse,known,step⟩
    · rw [moved] at found
      change (actor.results.insert envelope.requestID actor.nextResult).get? requestID = some held at found
      rw [OrdMap.get?_insert] at found
      split_ifs at found with own
      · cases found
        rw [own]
        exact .inr ⟨payload,inUse,known,step⟩
      · exact .inl found
    · intro answer accepted
      rw [same] at accepted
      cases accepted
      exact step

end Client

section Carry
variable {hook : Option (List HookCall)} {req : SubmitRequest} {system : System}

theorem commitRequest_faithful (distinct : Set.InjOn digest used) (faithful : Faithful digest used system)
    (own : ∀ calls, hook = some calls → ∀ call ∈ calls, call.own = true) {command : Command} {actor : Actor}
    (present : system.actor? req.tableID = some actor) (client : runtimeRequestID req.requestID = false)
    (inUse : req.payload ∈ used) (known : Known digest system req.requestID req.payload)
    (translated : toCommand req = some command)
    (clean : strandsRecord actor ⟨req.requestID,req.expectedStateSeq,command⟩ system.world = false) :
    Faithful digest used (commitRequest digest hook req command actor system).2 ∧
      ∀ response, (commitRequest digest hook req command actor system).1 = .ok response →
        AppliedAt (commitRequest digest hook req command actor system).2.steps req.requestID req.payload
          response.stateSeq := by
  let envelope : CommandEnvelope := ⟨req.requestID,req.expectedStateSeq,command⟩
  have number : runtimeRequestID envelope.requestID = false := client
  obtain ⟨handled,applied⟩ := client_handle_faithful distinct faithful present number inUse known rfl translated clean
  have moved : (handleRequest req command actor system).2 =
      (system.handle req.tableID actor ⟨req.requestID,req.expectedStateSeq,command⟩).2 := rfl
  cases run : handleRequest req command actor system with
  | mk outcome middle =>
    rw [run] at moved
    change middle = _ at moved
    rw [← moved] at handled applied
    cases outcome with
    | error e =>
      have same : commitRequest digest hook req command actor system = (.error e,middle) := bind_of_error _ run
      rw [same]
      exact ⟨handled,fun _ accepted => by contradiction⟩
    | ok response =>
      have same : commitRequest digest hook req command actor system = settleRequest digest hook req response middle :=
        bind_of_ok _ run
      have rest : Quiet digest middle (commitRequest digest hook req command actor system).2 := by
        rw [same]
        exact settleRequest_quiet own response middle
      refine ⟨rest.faithful handled,fun answer accepted => ?_⟩
      have equal : answer = response := settleRequest_ok (same.symm.trans (Prod.ext accepted rfl))
      obtain ⟨result,reached,told⟩ := handleRequest_ok run
      rw [equal,told]
      exact (applied result (congrArg Prod.fst reached)).later rest.steps

theorem recorded_applied (distinct : Set.InjOn digest used) (faithful : Faithful digest used system)
    (client : runtimeRequestID req.requestID = false) (inUse : req.payload ∈ used)
    (known : Known digest system req.requestID req.payload)
    {action : ActionRecord} (found : system.world.store.actions.get? req.requestID = some action) :
    AppliedAt system.steps req.requestID req.payload action.acceptedStateSeq := by
  obtain ⟨payload,otherInUse,⟨entry,entryFound,hash⟩,applied⟩ := faithful.records req.requestID action client found
  obtain ⟨held,heldFound,heldHash⟩ := known
  rw [entryFound] at heldFound
  cases heldFound
  rw [← distinct otherInUse inUse (hash.symm.trans heldHash)]
  exact applied

theorem cacheRequest_faithful (distinct : Set.InjOn digest used) (inUse : req.payload ∈ used)
    (agrees : ∀ existing, system.gateway.ledger.get? req.requestID = some existing →
      digest existing.payload = digest req.payload)
    (faithful : Faithful digest used system) : Faithful digest used (cacheRequest system req) := by
  refine ⟨faithful.records,faithful.results,fun requestID response client found => ?_⟩
  obtain ⟨existing,held,existingInUse,applied⟩ := faithful.responses requestID response client found
  have inserted : (cacheRequest system req).gateway.ledger.get? requestID =
      if requestID = req.requestID then some req else system.gateway.ledger.get? requestID := OrdMap.get?_insert _ _ _ _
  rw [inserted]
  split_ifs with same
  · subst same
    refine ⟨req,rfl,inUse,?_⟩
    rw [← distinct existingInUse inUse (agrees existing held)]
    exact applied
  · exact ⟨existing,held,existingInUse,applied⟩

theorem cacheResponse_faithful {response : SubmitResponse} (inUse : req.payload ∈ used)
    (held : system.gateway.ledger.get? req.requestID = some req)
    (applied : AppliedAt system.steps req.requestID req.payload response.stateSeq)
    (faithful : Faithful digest used system) : Faithful digest used (cacheResponse system req response) := by
  refine ⟨faithful.records,faithful.results,fun requestID answer client found => ?_⟩
  have inserted : (cacheResponse system req response).gateway.responses.get? requestID =
      if requestID = req.requestID then some response else system.gateway.responses.get? requestID :=
    OrdMap.get?_insert _ _ _ _
  rw [inserted] at found
  split_ifs at found with same
  · cases found
    subst same
    exact ⟨req,held,inUse,applied⟩
  · exact faithful.responses requestID answer client found

end Carry

variable (digest used)

/-- A client's submission during which the store does not break off after the action record. -/
structure Orderly (hook : Option (List HookCall)) (req : SubmitRequest) (system : System) : Prop where
  client : runtimeRequestID req.requestID = false
  inUse : req.payload ∈ used
  own : ∀ calls, hook = some calls → ∀ call ∈ calls, call.own = true
  unbroken : ∀ command actor planned,
    planSubmit digest req (system.actor? req.tableID) system = (.ok (.commit command actor),planned) →
    Unbroken actor ⟨req.requestID,req.expectedStateSeq,command⟩ planned.world

variable {digest used}

theorem carryOut_faithful {actor : Option Actor} {planned : System} {plan : Plan} (distinct : Set.InjOn digest used)
    (faithful : Faithful digest used system) (orderly : Orderly digest used hook req system)
    (looked : actor = none ∨ actor = system.actor? req.tableID)
    (made : planSubmit digest req actor system = (.ok plan,planned)) :
    Faithful digest used (carryOut digest hook req plan planned).2 ∧
      ∀ response, (carryOut digest hook req plan planned).1 = .ok response →
        AppliedAt (carryOut digest hook req plan planned).2.steps req.requestID req.payload response.stateSeq := by
  have planning : Quiet digest system planned := by
    have moved : Quiet digest system (planSubmit digest req actor system).2 := planSubmit_quiet req actor system
    rwa [made] at moved
  have kept : Faithful digest used planned := planning.faithful faithful
  cases plan with
  | replay action =>
    obtain ⟨known,found⟩ := planSubmit_replay made
    have quiet : Quiet digest planned (replayRequest digest hook req action planned).2 :=
      replayRequest_quiet orderly.own action planned
    refine ⟨quiet.faithful kept,fun response accepted => ?_⟩
    have equal := replayRequest_ok (Prod.ext accepted rfl)
    rw [equal]
    exact (recorded_applied distinct kept orderly.client orderly.inUse known found).later quiet.steps
  | commit command target =>
    obtain ⟨known,translated,isTarget⟩ := planSubmit_commit made
    have present : actor = system.actor? req.tableID := by
      rcases looked with none | same
      · rw [none] at isTarget
        contradiction
      · exact same
    have gateway : planned.gateway = system.gateway := by
      have same : (planSubmit digest req actor system).2.gateway = system.gateway := planSubmit_actors req actor system
      rwa [made] at same
    have seated : planned.actor? req.tableID = some target := by
      rw [System.actor?,gateway]
      exact present.symm.trans isTarget
    have fresh : planned.world.store.actions.get? req.requestID = none := by
      refine planSubmit_fresh (fun record found => ?_) made
      obtain ⟨payload,_,ledgered,_⟩ := faithful.records req.requestID record orderly.client found
      exact ⟨payload,ledgered⟩
    have clean := strandsRecord_of_unbroken (orderly.unbroken command target planned (present ▸ made)) fresh
    exact commitRequest_faithful distinct kept orderly.own seated orderly.client orderly.inUse known translated clean

theorem submitOwned_faithful {actor : Option Actor} (distinct : Set.InjOn digest used)
    (faithful : Faithful digest used system) (orderly : Orderly digest used hook req system)
    (looked : actor = none ∨ actor = system.actor? req.tableID)
    (agrees : ∀ existing, system.gateway.ledger.get? req.requestID = some existing →
      digest existing.payload = digest req.payload) :
    Faithful digest used (submitOwned digest hook req actor system).2 ∧
      ∀ response, (submitOwned digest hook req actor system).1 = .ok response →
        AppliedAt (submitOwned digest hook req actor system).2.steps req.requestID req.payload response.stateSeq := by
  have planning : Quiet digest system (planSubmit digest req actor system).2 := planSubmit_quiet req actor system
  unfold submitOwned
  cases made : planSubmit digest req actor system with
  | mk outcome planned =>
    rw [made] at planning
    cases outcome with
    | error e => exact ⟨planning.faithful faithful,fun _ accepted => by contradiction⟩
    | ok plan =>
      have carried := carryOut_faithful distinct faithful orderly looked made
      have memory : SameMemory planned (carryOut digest hook req plan planned).2 :=
        carryOut_memory orderly.own plan planned
      dsimp only
      generalize carryOut digest hook req plan planned = outcome at carried memory ⊢
      obtain ⟨result,after⟩ := outcome
      obtain ⟨kept,applied⟩ := carried
      have cached : Faithful digest used (cacheRequest after req) := by
        refine cacheRequest_faithful distinct orderly.inUse (fun existing held => agrees existing ?_) kept
        rw [← planning.memory.2,← memory.2]
        exact held
      cases result with
      | error e => exact ⟨cached,fun _ accepted => by contradiction⟩
      | ok response =>
        have step := applied response rfl
        refine ⟨cacheResponse_faithful orderly.inUse (OrdMap.get?_insert_self _ _ _) step cached,?_⟩
        intro answer accepted
        cases accepted
        exact step

theorem submit_faithful (distinct : Set.InjOn digest used) (faithful : Faithful digest used system)
    (orderly : Orderly digest used hook req system) :
    Faithful digest used (submit digest hook req system).2 ∧
      ∀ response, (submit digest hook req system).1 = .ok response →
        AppliedAt (submit digest hook req system).2.steps req.requestID req.payload response.stateSeq := by
  unfold submit
  by_cases signed : validSignature req.minerID req.signature = false
  · rw [if_pos signed]
    exact ⟨faithful,fun _ accepted => by contradiction⟩
  rw [if_neg signed]
  by_cases conflict : ∃ existing, system.gateway.ledger.get? req.requestID = some existing ∧
      submissionPayloadHash digest existing ≠ submissionPayloadHash digest req
  · rw [if_pos conflict]
    exact ⟨faithful,fun _ accepted => by contradiction⟩
  rw [if_neg conflict]
  have agrees (existing : SubmitRequest) (held : system.gateway.ledger.get? req.requestID = some existing) :
      digest existing.payload = digest req.payload := by
    by_contra differ
    exact conflict ⟨existing,held,differ⟩
  cases cached : system.gateway.responses.get? req.requestID with
  | none => exact submitOwned_faithful distinct faithful orderly (.inr rfl) agrees
  | some response =>
    dsimp only
    split_ifs with named
    · refine ⟨faithful,fun answer accepted => ?_⟩
      cases accepted
      obtain ⟨existing,held,existingInUse,applied⟩ := faithful.responses req.requestID response orderly.client cached
      rw [← distinct existingInUse orderly.inUse (agrees existing held)]
      exact applied
    · have bare : Orderly digest used none req system :=
        ⟨orderly.client,orderly.inUse,fun _ absent => by contradiction,orderly.unbroken⟩
      exact submitOwned_faithful distinct faithful bare (.inl rfl) agrees

theorem restart_faithful (faithful : Faithful digest used system) :
    Faithful digest used { system with gateway := {} } := by
  refine ⟨faithful.records,fun tableID actor requestID result _ present => ?_,fun requestID response _ found => ?_⟩
  · exact absurd present (by simp [System.actor?])
  · exact absurd found (by simp)

theorem fresh_faithful (fresh : Fresh system) : Faithful digest used system := by
  refine ⟨fun requestID record _ found => ?_,fun tableID actor requestID result _ present found => ?_,
    fun requestID response _ found => ?_⟩
  · rw [fresh.records] at found
    exact absurd found (by simp)
  · rw [fresh.results tableID actor present] at found
    exact absurd found (by simp)
  · rw [fresh.responses] at found
    exact absurd found (by simp)

theorem step_faithful (distinct : Set.InjOn digest used) (step : GatewayStep digest (Orderly digest used) before after)
    (faithful : Faithful digest used before) :
    Faithful digest used after := by
  cases step with
  | weather outcomes now => exact ⟨faithful.records,faithful.results,faithful.responses⟩
  | submit hook req orderly => exact (submit_faithful distinct faithful orderly).1
  | runtime calls own => exact (hookCalls_quiet calls own _).faithful faithful
  | restart => exact restart_faithful faithful

theorem run_faithful {start : System} (distinct : Set.InjOn digest used) (fresh : Fresh start)
    (run : ReflTransGen (GatewayStep digest (Orderly digest used)) start system) : Faithful digest used system := by
  induction run with
  | refl => exact fresh_faithful fresh
  | tail _ step ih => exact step_faithful distinct step ih

/-- Acknowledged means applied, as long as no handling breaks off between its action record and its last write. -/
theorem acknowledged_applied {start system : System} (distinct : Set.InjOn digest used) (fresh : Fresh start)
    (run : ReflTransGen (GatewayStep digest (Orderly digest used)) start system) {hook : Option (List HookCall)}
    {req : SubmitRequest} (orderly : Orderly digest used hook req system) {response : SubmitResponse}
    (accepted : (submit digest hook req system).1 = .ok response) :
    AppliedAt (submit digest hook req system).2.steps req.requestID req.payload response.stateSeq :=
  (submit_faithful distinct (run_faithful distinct fresh run) orderly).2 response accepted

end Invariant

def signalPlanned : System := (planSubmit joined signalRequest (some signalActor) (signalSystem [])).2

theorem signalRequest_planned : planSubmit joined signalRequest ((signalSystem []).actor? signalRequest.tableID)
    (signalSystem []) = (.ok (.commit (.submitArenaAction ⟨1,.signalNone,0⟩) signalActor),signalPlanned) := rfl

theorem signalRequest_orderly : Orderly joined {signalRequest.payload} none signalRequest (signalSystem []) := by
  refine ⟨by decide,rfl,fun _ absent => by contradiction,fun command actor planned made => ?_⟩
  rw [signalRequest_planned] at made
  cases made
  intro next events applied
  cases applied
  exact .inr ⟨fun outcome member => absurd member List.not_mem_nil,by decide +kernel⟩

theorem acknowledged_applied_signal :
    (submit joined none signalRequest (signalSystem [])).1 = .ok ⟨"evt:table:tbl:tour:w1:01:01:000000000001",1⟩ ∧
      AppliedAt (submit joined none signalRequest (signalSystem [])).2.steps "req:1" signalRequest.payload 1 := by
  have accepted : (submit joined none signalRequest (signalSystem [])).1 =
      .ok ⟨"evt:table:tbl:tour:w1:01:01:000000000001",1⟩ := by decide +kernel
  exact ⟨accepted,acknowledged_applied (Set.injOn_singleton _ _) (signalSystem_fresh []) .refl signalRequest_orderly
    accepted⟩

/-- The events are refused after the action record was stored: the submission fails and the table rests, and yet the
client that tries again is told that its command moved the table to number 1. -/
theorem acknowledged_unapplied :
    let first := submit joined none signalRequest (signalSystem [.ok,.ok,.ok,.failed 0])
    let retried := submit joined none signalRequest first.2
    first.1 = .error (.handle (.store .unavailable)) ∧
      retried.1 = .ok ⟨"evt:table:tbl:tour:w1:01:01:000000000001",1⟩ ∧
      retried.2.actor? "tbl:tour:w1:01:01" = some signalActor ∧
      ¬ AppliedAt retried.2.steps "req:1" signalRequest.payload 1 := by
  have none : (submit joined none signalRequest
      (submit joined none signalRequest (signalSystem [.ok,.ok,.ok,.failed 0])).2).2.steps = [] := by decide +kernel
  refine ⟨by decide +kernel,by decide +kernel,by decide +kernel,?_⟩
  rw [none]
  rintro ⟨step,member,_⟩
  cases member

end Clawchain.Arena.Submit
