import Clawchain.Arena.Gateway.Interleave
import Clawchain.Arena.Gateway.Quiet
import Clawchain.Arena.Hub.Service
import Mathlib.Data.Set.Function

/-! Retries. An accepted request keeps its action record for good, so whatever
is lost it is answered alike; but after a restart the answer comes with another
run of the observer, and that one may open a phase. -/
namespace Clawchain.Arena.Submit
open Clawchain.Lib Clawchain.Arena.Table Faulty Relation

/-- What `OnSubmitCommitted` does to the actors for the state it is given: nothing for a tournament it does not run;
a closed hand is noted at the barrier of its round, and `advance` stands for what completing the round does; an open
hand gets its phase opened. -/
def observerCalls (tournaments : OrdMap String (Option Hub.Service)) (advance : List HookCall) (req : SubmitRequest)
    (state : ActorState) (now : Int) : List HookCall :=
  match tournaments.get? req.tournamentID with
  | none => []
  | some liveHub =>
    if state.table.handClosed then
      match liveHub with
      | none => []
      | some hub => if (hub.markHandClosed req.tableID).canAdvanceRound then advance else []
    else ((hookPhase state now).map (.openPhase req.tableID)).toList

/-- The observer finds nothing to do: the tournament is unknown, the hand is closed and its round goes on without it,
or the hand is open with nobody on turn. -/
def ObserverIdle (tournaments : OrdMap String (Option Hub.Service)) (req : SubmitRequest) (table : State) : Prop :=
  ∀ liveHub, tournaments.get? req.tournamentID = some liveHub →
    if table.handClosed then ∀ hub, liveHub = some hub → (hub.markHandClosed req.tableID).canAdvanceRound = false
    else table.actingSeatNo = 0

theorem observerCalls_idle {tournaments : OrdMap String (Option Hub.Service)} {req : SubmitRequest}
    {state : ActorState} (idle : ObserverIdle tournaments req state.table) (advance : List HookCall) (now : Int) :
    observerCalls tournaments advance req state now = [] := by
  unfold observerCalls
  cases found : tournaments.get? req.tournamentID with
  | none => rfl
  | some liveHub =>
    have rests := idle liveHub found
    dsimp only
    split_ifs at rests ⊢ with closed
    · cases liveHub with
      | none => rfl
      | some hub =>
        dsimp only
        rw [if_neg (by simp [rests hub rfl])]
    · unfold hookPhase
      rw [if_neg (by simp [rests])]
      rfl

/-! What an accepted request leaves behind. -/

def answerOf (record : ActionRecord) : SubmitResponse := ⟨record.resultEventID,record.acceptedStateSeq⟩

section Invariant
variable (digest : SubmissionPayload → String) (used : Set SubmissionPayload)

/-- Every answer in memory is the answer of an action record, and every record has its ledger entry. -/
structure Consistent (system : System) : Prop where
  records : ∀ requestID record, runtimeRequestID requestID = false →
    system.world.store.actions.get? requestID = some record → ∃ payload, Known digest system requestID payload
  results : ∀ tableID actor requestID result, runtimeRequestID requestID = false →
    system.actor? tableID = some actor → actor.results.get? requestID = some result →
    ∃ record, system.world.store.actions.get? requestID = some record ∧
      answerOf record = ⟨result.resultEventID,result.stateSeq⟩
  responses : ∀ requestID response, runtimeRequestID requestID = false →
    system.gateway.responses.get? requestID = some response →
    (∃ existing, system.gateway.ledger.get? requestID = some existing) ∧
      ∃ record, system.world.store.actions.get? requestID = some record ∧ answerOf record = response
  memory : ∀ requestID existing, runtimeRequestID requestID = false →
    system.gateway.ledger.get? requestID = some existing →
    existing.payload ∈ used ∧ Known digest system requestID existing.payload ∧
      ∃ command, existing.payload.command? = some command

structure Answered (system : System) (requestID : String) (payload : SubmissionPayload) (response : SubmitResponse) :
    Prop where
  known : Known digest system requestID payload
  command : ∃ command, payload.command? = some command
  record : ∃ record, system.world.store.actions.get? requestID = some record ∧ answerOf record = response

structure Lasting (before after : System) : Prop where
  known : ∀ requestID payload, Known digest before requestID payload → Known digest after requestID payload
  records : ∀ requestID record, runtimeRequestID requestID = false →
    before.world.store.actions.get? requestID = some record → after.world.store.actions.get? requestID = some record

variable {digest used}

theorem Answered.later {before after : System} {requestID : String} {payload : SubmissionPayload}
    {response : SubmitResponse} (client : runtimeRequestID requestID = false)
    (answered : Answered digest before requestID payload response) (lasting : Lasting digest before after) :
    Answered digest after requestID payload response := by
  obtain ⟨record,found,answer⟩ := answered.record
  exact ⟨lasting.known _ _ answered.known,answered.command,record,lasting.records _ _ client found,answer⟩

theorem Lasting.refl (system : System) : Lasting digest system system :=
  ⟨fun _ _ known => known,fun _ _ _ found => found⟩

theorem Lasting.trans {a b c : System} (left : Lasting digest a b) (right : Lasting digest b c) : Lasting digest a c :=
  ⟨fun id payload known => right.known id payload (left.known id payload known),
    fun id record client found => right.records id record client (left.records id record client found)⟩

theorem Quiet.lasting {before after : System} (quiet : Quiet digest before after) : Lasting digest before after :=
  ⟨quiet.known,fun requestID _ client found => (quiet.records requestID client).trans found⟩

theorem Quiet.consistent {before after : System} (quiet : Quiet digest before after)
    (consistent : Consistent digest used before) : Consistent digest used after := by
  refine ⟨fun requestID record client found => ?_,fun tableID actor requestID result client present found => ?_,
    fun requestID response client found => ?_,fun requestID existing client held => ?_⟩
  · rw [quiet.records requestID client] at found
    obtain ⟨payload,known⟩ := consistent.records requestID record client found
    exact ⟨payload,quiet.known _ _ known⟩
  · obtain ⟨origin,held,cached⟩ := quiet.results tableID actor requestID result client present found
    rw [quiet.records requestID client]
    exact consistent.results tableID origin requestID result client held cached
  · rw [quiet.memory.1] at found
    rw [quiet.memory.2,quiet.records requestID client]
    exact consistent.responses requestID response client found
  · rw [quiet.memory.2] at held
    obtain ⟨inUse,known,command⟩ := consistent.memory requestID existing client held
    exact ⟨inUse,quiet.known _ _ known,command⟩

section Client
variable {system : System} {tableID : String} {actor : Actor} {envelope : CommandEnvelope}

theorem handle_lasting (fresh : system.world.store.actions.get? envelope.requestID = none) :
    Lasting digest system (system.handle tableID actor envelope).2 := by
  obtain ⟨_,world,_,_⟩ := system_handle_frame system tableID actor envelope
  refine ⟨system_handle_known system tableID actor envelope,fun requestID record _ found => ?_⟩
  have other : requestID ≠ envelope.requestID := by
    rintro rfl
    rw [fresh] at found
    contradiction
  rw [world,(handle_store actor envelope system.world).2 requestID other]
  exact found

theorem handle_consistent (consistent : Consistent digest used system) (present : system.actor? tableID = some actor)
    (client : runtimeRequestID envelope.requestID = false)
    (known : ∃ payload, Known digest system envelope.requestID payload)
    (fresh : system.world.store.actions.get? envelope.requestID = none) :
    Consistent digest used (system.handle tableID actor envelope).2 ∧
      ∀ result, (system.handle tableID actor envelope).1 = .ok result →
        ∃ record, (system.handle tableID actor envelope).2.world.store.actions.get? envelope.requestID = some record ∧
          answerOf record = ⟨result.resultEventID,result.stateSeq⟩ := by
  obtain ⟨memory,world,_,actors⟩ := system_handle_frame system tableID actor envelope
  have lasting : Lasting digest system (system.handle tableID actor envelope).2 := handle_lasting fresh
  have records (requestID : String) (record : ActionRecord) (isClient : runtimeRequestID requestID = false)
      (found : (system.handle tableID actor envelope).2.world.store.actions.get? requestID = some record) :
      ∃ payload, Known digest (system.handle tableID actor envelope).2 requestID payload := by
    by_cases own : requestID = envelope.requestID
    · obtain ⟨payload,held⟩ := known
      exact ⟨payload,own ▸ lasting.known _ _ held⟩
    · rw [world,(handle_store actor envelope system.world).2 requestID own] at found
      obtain ⟨payload,held⟩ := consistent.records requestID record isClient found
      exact ⟨payload,lasting.known _ _ held⟩
  have responses (requestID : String) (response : SubmitResponse) (isClient : runtimeRequestID requestID = false)
      (found : (system.handle tableID actor envelope).2.gateway.responses.get? requestID = some response) :
      (∃ existing, (system.handle tableID actor envelope).2.gateway.ledger.get? requestID = some existing) ∧
        ∃ record, (system.handle tableID actor envelope).2.world.store.actions.get? requestID = some record ∧
          answerOf record = response := by
    rw [memory.1] at found
    rw [memory.2]
    obtain ⟨existing,record,held,answer⟩ := consistent.responses requestID response isClient found
    exact ⟨existing,record,lasting.records _ _ isClient held,answer⟩
  have requests (requestID : String) (existing : SubmitRequest) (isClient : runtimeRequestID requestID = false)
      (held : (system.handle tableID actor envelope).2.gateway.ledger.get? requestID = some existing) :
      existing.payload ∈ used ∧
        Known digest (system.handle tableID actor envelope).2 requestID existing.payload ∧
        ∃ command, existing.payload.command? = some command := by
    rw [memory.2] at held
    obtain ⟨inUse,old,command⟩ := consistent.memory requestID existing isClient held
    exact ⟨inUse,lasting.known _ _ old,command⟩
  have kept (requestID : String) (result : Result) (isClient : runtimeRequestID requestID = false) (other : String)
      (held : Actor) (heldFound : system.actor? other = some held)
      (found : held.results.get? requestID = some result) :
      ∃ record, (system.handle tableID actor envelope).2.world.store.actions.get? requestID = some record ∧
        answerOf record = ⟨result.resultEventID,result.stateSeq⟩ := by
    obtain ⟨record,stored,answer⟩ := consistent.results other held requestID result isClient heldFound found
    exact ⟨record,lasting.records _ _ isClient stored,answer⟩
  rcases system_handle_cases system tableID actor envelope with
    ⟨result,hit,_⟩ | ⟨_,e,after,failed,same⟩ | ⟨_,next,events,after,_,stored,same⟩
  · obtain ⟨record,found,_⟩ := consistent.results tableID actor _ result client present hit
    rw [fresh] at found
    contradiction
  · refine ⟨⟨records,?_,responses,requests⟩,fun answer accepted => ?_⟩
    · intro other held requestID result isClient heldFound found
      rw [actors,failed] at heldFound
      split_ifs at heldFound with own
      · cases heldFound
        exact kept requestID result isClient tableID actor present found
      · exact kept requestID result isClient other held heldFound found
    · rw [same] at accepted
      cases accepted
  · have written : ∃ record,
        (system.handle tableID actor envelope).2.world.store.actions.get? envelope.requestID = some record ∧
          answerOf record = ⟨actor.nextResult.resultEventID,actor.nextResult.stateSeq⟩ := by
      obtain ⟨_,wrote⟩ := persist_cases actor envelope next events system.world
      rw [stored] at wrote
      rw [same]
      rcases wrote with ⟨_,failed⟩ | ⟨record,recorded,inserted⟩
      · exact absurd rfl failed
      · refine ⟨record,?_,?_⟩
        · change after.store.actions.get? envelope.requestID = some record
          rw [inserted,OrdMap.get?_insert_self]
        · unfold answerOf
          rw [recorded.acceptedStateSeq,recorded.resultEventID]
    refine ⟨⟨records,?_,responses,requests⟩,fun answer accepted => ?_⟩
    · intro other held requestID result isClient heldFound found
      have moved : (system.handle tableID actor envelope).2.actor? other =
          if other = tableID then some (actor.committed envelope.requestID next events) else system.actor? other := by
        rw [same]
        exact setActor_get? system tableID other _ after
      rw [moved] at heldFound
      split_ifs at heldFound with own
      · cases heldFound
        change (actor.results.insert envelope.requestID actor.nextResult).get? requestID = some result at found
        rw [OrdMap.get?_insert] at found
        split_ifs at found with mine
        · cases found
          rw [mine]
          exact written
        · exact kept requestID result isClient tableID actor present found
      · exact kept requestID result isClient other held heldFound found
    · rw [same] at accepted
      cases accepted
      exact written

end Client

section Submission
variable {hook : Option (List HookCall)} {req : SubmitRequest} {system : System}

variable (used) in
/-- A client's submission: its request id is no id of the runtime's own, and neither are those of the hook. -/
structure Courteous (hook : Option (List HookCall)) (req : SubmitRequest) (_ : System) : Prop where
  client : runtimeRequestID req.requestID = false
  inUse : req.payload ∈ used
  own : ∀ calls, hook = some calls → ∀ call ∈ calls, call.own = true

theorem commitRequest_consistent (consistent : Consistent digest used system)
    (courteous : Courteous used hook req system) {command : Command} {actor : Actor}
    (present : system.actor? req.tableID = some actor) (known : Known digest system req.requestID req.payload)
    (fresh : system.world.store.actions.get? req.requestID = none) :
    Consistent digest used (commitRequest digest hook req command actor system).2 ∧
      Lasting digest system (commitRequest digest hook req command actor system).2 ∧
      ∀ response, (commitRequest digest hook req command actor system).1 = .ok response →
        ∃ record, (commitRequest digest hook req command actor system).2.world.store.actions.get? req.requestID =
          some record ∧ answerOf record = response := by
  let envelope : CommandEnvelope := ⟨req.requestID,req.expectedStateSeq,command⟩
  have client : runtimeRequestID envelope.requestID = false := courteous.client
  obtain ⟨handled,answered⟩ := handle_consistent consistent present client ⟨_,known⟩ fresh
  have lasting : Lasting digest system (system.handle req.tableID actor envelope).2 := handle_lasting fresh
  have moved : (handleRequest req command actor system).2 = (system.handle req.tableID actor envelope).2 := rfl
  cases run : handleRequest req command actor system with
  | mk outcome middle =>
    rw [run] at moved
    change middle = _ at moved
    rw [← moved] at handled answered lasting
    cases outcome with
    | error e =>
      have same : commitRequest digest hook req command actor system = (.error e,middle) := bind_of_error _ run
      rw [same]
      exact ⟨handled,lasting,fun _ accepted => by contradiction⟩
    | ok response =>
      have same : commitRequest digest hook req command actor system = settleRequest digest hook req response middle :=
        bind_of_ok _ run
      have rest : Quiet digest middle (commitRequest digest hook req command actor system).2 := by
        rw [same]
        exact settleRequest_quiet courteous.own response middle
      refine ⟨rest.consistent handled,lasting.trans rest.lasting,fun answer accepted => ?_⟩
      have equal : answer = response := settleRequest_ok (same.symm.trans (Prod.ext accepted rfl))
      obtain ⟨result,reached,told⟩ := handleRequest_ok run
      obtain ⟨record,found,holds⟩ := answered result (congrArg Prod.fst reached)
      exact ⟨record,rest.lasting.records _ _ courteous.client found,holds.trans (told.symm.trans equal.symm)⟩

theorem carryOut_consistent {actor : Option Actor} {planned : System} {plan : Plan}
    (consistent : Consistent digest used system) (courteous : Courteous used hook req system)
    (looked : actor = none ∨ actor = system.actor? req.tableID)
    (made : planSubmit digest req actor system = (.ok plan,planned)) :
    Consistent digest used (carryOut digest hook req plan planned).2 ∧
      Lasting digest system (carryOut digest hook req plan planned).2 ∧
      Known digest (carryOut digest hook req plan planned).2 req.requestID req.payload ∧
      ∀ response, (carryOut digest hook req plan planned).1 = .ok response →
        ∃ record, (carryOut digest hook req plan planned).2.world.store.actions.get? req.requestID = some record ∧
          answerOf record = response := by
  have planning : Quiet digest system planned := by
    have moved : Quiet digest system (planSubmit digest req actor system).2 := planSubmit_quiet req actor system
    rwa [made] at moved
  have kept : Consistent digest used planned := planning.consistent consistent
  cases plan with
  | replay action =>
    obtain ⟨known,found⟩ := planSubmit_replay made
    have quiet : Quiet digest planned (replayRequest digest hook req action planned).2 :=
      replayRequest_quiet courteous.own action planned
    refine ⟨quiet.consistent kept,planning.lasting.trans quiet.lasting,quiet.known _ _ known,?_⟩
    intro response accepted
    have equal := replayRequest_ok (Prod.ext accepted rfl)
    exact ⟨action,quiet.lasting.records _ _ courteous.client found,equal.symm⟩
  | commit command target =>
    obtain ⟨known,_,isTarget⟩ := planSubmit_commit made
    have present : actor = system.actor? req.tableID := by
      rcases looked with none | same
      · rw [none] at isTarget
        contradiction
      · exact same
    have gateway : planned.gateway = system.gateway := by
      have same : (planSubmit digest req actor system).2.gateway = system.gateway := planSubmit_actors req actor system
      rwa [made] at same
    have seated : planned.actor? req.tableID = some target := by
      rw [System.actor?,gateway]
      exact present.symm.trans isTarget
    have fresh := planSubmit_fresh (fun record found => consistent.records _ record courteous.client found) made
    have plain : Courteous used hook req planned := ⟨courteous.client,courteous.inUse,courteous.own⟩
    obtain ⟨after,lasting,answered⟩ := commitRequest_consistent kept plain seated known fresh
    exact ⟨after,planning.lasting.trans lasting,lasting.known _ _ known,answered⟩

theorem remember_consistent (consistent : Consistent digest used system)
    (courteous : Courteous used hook req system) (known : Known digest system req.requestID req.payload)
    (command : ∃ command, req.payload.command? = some command) (outcome : Except SubmitError SubmitResponse)
    (answered : ∀ response, outcome = .ok response → ∃ record,
      system.world.store.actions.get? req.requestID = some record ∧ answerOf record = response) :
    Consistent digest used (remember req (outcome,system)).2 := by
  have inserted (requestID : String) : (system.gateway.ledger.insert req.requestID req).get? requestID =
      if requestID = req.requestID then some req else system.gateway.ledger.get? requestID := OrdMap.get?_insert _ _ _ _
  have memory (requestID : String) (existing : SubmitRequest) (client : runtimeRequestID requestID = false)
      (held : (system.gateway.ledger.insert req.requestID req).get? requestID = some existing) :
      existing.payload ∈ used ∧ Known digest system requestID existing.payload ∧
        ∃ command, existing.payload.command? = some command := by
    rw [inserted] at held
    split_ifs at held with own
    · cases held
      exact ⟨courteous.inUse,own ▸ known,command⟩
    · exact consistent.memory requestID existing client held
  have stays (requestID : String) (held : ∃ existing, system.gateway.ledger.get? requestID = some existing) :
      ∃ existing, (system.gateway.ledger.insert req.requestID req).get? requestID = some existing := by
    rw [inserted]
    split_ifs
    · exact ⟨req,rfl⟩
    · exact held
  cases outcome with
  | error e =>
    refine ⟨consistent.records,consistent.results,fun requestID response client found => ?_,memory⟩
    exact (consistent.responses requestID response client found).imp_left (stays requestID)
  | ok response =>
    refine ⟨consistent.records,consistent.results,fun requestID answer client found => ?_,memory⟩
    change (system.gateway.responses.insert req.requestID response).get? requestID = some answer at found
    rw [OrdMap.get?_insert] at found
    split_ifs at found with own
    · cases found
      subst own
      exact ⟨⟨req,OrdMap.get?_insert_self _ _ _⟩,answered response rfl⟩
    · exact (consistent.responses requestID answer client found).imp_left (stays requestID)

theorem planSubmit_translated {actor : Option Actor} {planned : System} {plan : Plan}
    (made : planSubmit digest req actor system = (.ok plan,planned)) : ∃ command, req.payload.command? = some command := by
  unfold planSubmit at made
  cases translated : toCommand req with
  | none =>
    rw [translated] at made
    cases made
  | some command => exact ⟨command,translated⟩

theorem submitOwned_consistent {actor : Option Actor} (consistent : Consistent digest used system)
    (courteous : Courteous used hook req system)
    (looked : actor = none ∨ actor = system.actor? req.tableID) :
    Consistent digest used (submitOwned digest hook req actor system).2 ∧
      Lasting digest system (submitOwned digest hook req actor system).2 ∧
      ∀ response, (submitOwned digest hook req actor system).1 = .ok response →
        Answered digest (submitOwned digest hook req actor system).2 req.requestID req.payload response := by
  have planning : Quiet digest system (planSubmit digest req actor system).2 := planSubmit_quiet req actor system
  unfold submitOwned
  cases made : planSubmit digest req actor system with
  | mk outcome planned =>
    rw [made] at planning
    cases outcome with
    | error e => exact ⟨planning.consistent consistent,planning.lasting,fun _ accepted => by contradiction⟩
    | ok plan =>
      have carried := carryOut_consistent consistent courteous looked made
      have command := planSubmit_translated made
      dsimp only
      generalize carryOut digest hook req plan planned = outcome at carried ⊢
      obtain ⟨result,after⟩ := outcome
      obtain ⟨kept,lasting,known,answered⟩ := carried
      have plain : Courteous used hook req after := ⟨courteous.client,courteous.inUse,courteous.own⟩
      refine ⟨remember_consistent kept plain known command result answered,?_,fun response accepted => ?_⟩
      · cases result with
        | error e => exact ⟨lasting.known,lasting.records⟩
        | ok response => exact ⟨lasting.known,lasting.records⟩
      · cases result with
        | error e => cases accepted
        | ok told =>
          cases accepted
          exact ⟨known,command,answered response rfl⟩

theorem submit_consistent (distinct : Set.InjOn digest used) (consistent : Consistent digest used system)
    (courteous : Courteous used hook req system) :
    Consistent digest used (submit digest hook req system).2 ∧
      Lasting digest system (submit digest hook req system).2 ∧
      ∀ response, (submit digest hook req system).1 = .ok response →
        Answered digest (submit digest hook req system).2 req.requestID req.payload response := by
  unfold submit
  by_cases signed : validSignature req.minerID req.signature = false
  · rw [if_pos signed]
    exact ⟨consistent,Lasting.refl system,fun _ accepted => by contradiction⟩
  rw [if_neg signed]
  by_cases conflict : ∃ existing, system.gateway.ledger.get? req.requestID = some existing ∧
      submissionPayloadHash digest existing ≠ submissionPayloadHash digest req
  · rw [if_pos conflict]
    exact ⟨consistent,Lasting.refl system,fun _ accepted => by contradiction⟩
  rw [if_neg conflict]
  cases cached : system.gateway.responses.get? req.requestID with
  | none => exact submitOwned_consistent consistent courteous (.inr rfl)
  | some response =>
    dsimp only
    split_ifs with named
    · refine ⟨consistent,Lasting.refl system,fun answer accepted => ?_⟩
      cases accepted
      obtain ⟨⟨existing,held⟩,record⟩ := consistent.responses req.requestID response courteous.client cached
      obtain ⟨inUse,known,command⟩ := consistent.memory req.requestID existing courteous.client held
      have agrees : digest existing.payload = digest req.payload := by
        by_contra differ
        exact conflict ⟨existing,held,differ⟩
      have same : existing.payload = req.payload := distinct inUse courteous.inUse agrees
      exact ⟨same ▸ known,same ▸ command,record⟩
    · have bare : Courteous used none req system :=
        ⟨courteous.client,courteous.inUse,fun _ absent => by contradiction⟩
      exact submitOwned_consistent consistent bare (.inl rfl)

end Submission

theorem restart_consistent {system : System} (consistent : Consistent digest used system) :
    Consistent digest used { system with gateway := {} } := by
  refine ⟨consistent.records,fun tableID actor requestID result _ present => ?_,
    fun requestID response _ found => ?_,fun requestID existing _ held => ?_⟩
  · exact absurd present (by simp [System.actor?])
  · exact absurd found (by simp)
  · exact absurd held (by simp)

theorem step_consistent {before after : System} (distinct : Set.InjOn digest used)
    (step : GatewayStep digest (Courteous used) before after) (consistent : Consistent digest used before) :
    Consistent digest used after ∧ Lasting digest before after := by
  cases step with
  | weather outcomes now =>
    exact ⟨⟨consistent.records,consistent.results,consistent.responses,consistent.memory⟩,
      fun _ _ known => known,fun _ _ _ found => found⟩
  | submit hook req courteous =>
    obtain ⟨kept,lasting,_⟩ := submit_consistent distinct consistent courteous
    exact ⟨kept,lasting⟩
  | runtime calls own =>
    have quiet : Quiet digest before (hookCalls calls before).2 := hookCalls_quiet calls own before
    exact ⟨quiet.consistent consistent,quiet.lasting⟩
  | restart => exact ⟨restart_consistent consistent,fun _ _ known => known,fun _ _ _ found => found⟩

theorem run_consistent {before after : System} (distinct : Set.InjOn digest used)
    (run : ReflTransGen (GatewayStep digest (Courteous used)) before after)
    (consistent : Consistent digest used before) : Consistent digest used after ∧ Lasting digest before after := by
  induction run with
  | refl => exact ⟨consistent,Lasting.refl before⟩
  | tail _ step ih =>
    obtain ⟨kept,lasting⟩ := step_consistent distinct step ih.1
    exact ⟨kept,ih.2.trans lasting⟩

theorem fresh_consistent {system : System} (fresh : Fresh system) : Consistent digest used system := by
  refine ⟨fun requestID record _ found => ?_,fun tableID actor requestID result _ present found => ?_,
    fun requestID response _ found => ?_,fun requestID existing _ held => ?_⟩
  · rw [fresh.records] at found
    exact absurd found (by simp)
  · rw [fresh.results tableID actor present] at found
    exact absurd found (by simp)
  · rw [fresh.responses] at found
    exact absurd found (by simp)
  · rw [fresh.requests] at held
    exact absurd held (by simp)

structure Inert (before after : System) : Prop where
  actors : ∀ tableID, after.actor? tableID = before.actor? tableID
  deadlines : openDeadlines after.world.store = openDeadlines before.world.store

section Retry
variable {hook : Option (List HookCall)} {req : SubmitRequest} {system : System} {response : SubmitResponse}

theorem readCall_calm {α : Type} (read : Store → α) (calm : system.world.outcomes = []) :
    storeCall (readCall read) system = (.ok (read system.world.store),system) := by
  obtain ⟨gateway,world,steps⟩ := system
  obtain ⟨store,outcomes,now⟩ := world
  change outcomes = [] at calm
  subst calm
  rfl

theorem planSubmit_answered (answered : Answered digest system req.requestID req.payload response)
    (calm : system.world.outcomes = []) (actor : Option Actor) :
    ∃ record, planSubmit digest req actor system = (.ok (.replay record),system) ∧ answerOf record = response := by
  obtain ⟨command,translated⟩ := answered.command
  obtain ⟨record,found,answer⟩ := answered.record
  obtain ⟨entry,held,hash⟩ := answered.known
  have first : storeCall (loadSubmissionLedgerEntry req.requestID) system = (.ok (some entry),system) := by
    rw [← held]
    exact readCall_calm _ calm
  have second : storeCall (loadActionRecord req.requestID) system = (.ok (some record),system) := by
    rw [← found]
    exact readCall_calm _ calm
  have loaded : loadRecorded digest req system = (.ok (some record),system) := by
    unfold loadRecorded
    rw [bind_of_ok _ first]
    have same : entry.payloadHash = submissionPayloadHash digest req := hash
    exact (congrFun (if_neg (not_not.mpr same)) system).trans second
  refine ⟨record,?_,answer⟩
  have command? : toCommand req = some command := translated
  unfold planSubmit
  rw [command?]
  dsimp only
  rw [bind_of_ok _ loaded]
  rfl

theorem recordSubmission_calm (known : Known digest system req.requestID req.payload)
    (calm : system.world.outcomes = []) (status : SubmissionStatus) :
    (recordSubmission digest req status system).1 = .ok () ∧
      Inert system (recordSubmission digest req status system).2 := by
  obtain ⟨entry,held,hash⟩ := known
  unfold recordSubmission storeCall appendSubmissionLedgerEntries
  rw [writeCall_of_ok _ _ _ (by rw [calm]; exact fun outcome member => absurd member List.not_mem_nil)]
  simp only [writeRows,writeSubmission,held]
  have same : entry.payloadHash = submissionPayloadHash digest req := hash
  rw [if_pos same]
  exact ⟨rfl,fun tableID => rfl,rfl⟩

theorem submitOwned_retry (answered : Answered digest system req.requestID req.payload response)
    (calm : system.world.outcomes = []) (idle : hook.getD [] = []) (actor : Option Actor) :
    (submitOwned digest hook req actor system).1 = .ok response ∧
      Inert system (submitOwned digest hook req actor system).2 := by
  obtain ⟨record,planned,answer⟩ := planSubmit_answered answered calm actor
  obtain ⟨noted,rests⟩ := recordSubmission_calm answered.known calm .applied
  have finalized : (finalizeDurableReplay digest hook req system).1 = .ok () ∧
      Inert system (finalizeDurableReplay digest hook req system).2 := by
    unfold finalizeDurableReplay
    cases hook with
    | none => exact ⟨noted,rests⟩
    | some calls =>
      change calls = [] at idle
      subst idle
      cases system.actor? req.tableID with
      | none => exact ⟨rfl,fun _ => rfl,rfl⟩
      | some actor => exact ⟨noted,rests⟩
  unfold submitOwned
  rw [planned]
  dsimp only [carryOut]
  have replayed : replayRequest digest hook req record system =
      (.ok response,(finalizeDurableReplay digest hook req system).2) := by
    unfold replayRequest
    rw [bind_of_ok _ (Prod.ext finalized.1 rfl)]
    exact Prod.ext (congrArg Except.ok answer) rfl
  rw [replayed]
  exact ⟨rfl,finalized.2.actors,finalized.2.deadlines⟩

theorem submit_retry (consistent : Consistent digest used system) (client : runtimeRequestID req.requestID = false)
    (answered : Answered digest system req.requestID req.payload response) (calm : system.world.outcomes = [])
    (signed : validSignature req.minerID req.signature = true)
    (idle : system.gateway.responses.get? req.requestID ≠ none ∨ hook.getD [] = []) :
    (submit digest hook req system).1 = .ok response ∧ Inert system (submit digest hook req system).2 := by
  have agrees : ¬ ∃ existing, system.gateway.ledger.get? req.requestID = some existing ∧
      submissionPayloadHash digest existing ≠ submissionPayloadHash digest req := by
    rintro ⟨existing,held,differ⟩
    obtain ⟨_,⟨entry,found,hash⟩,_⟩ := consistent.memory req.requestID existing client held
    obtain ⟨other,otherFound,otherHash⟩ := answered.known
    rw [found] at otherFound
    cases otherFound
    exact differ (hash.symm.trans otherHash)
  unfold submit
  rw [if_neg (by rw [signed]; decide),if_neg agrees]
  cases cached : system.gateway.responses.get? req.requestID with
  | none =>
    rcases idle with held | rests
    · exact absurd cached held
    · exact submitOwned_retry answered calm rests _
  | some held =>
    have same : held = response := by
      obtain ⟨_,record,found,answer⟩ := consistent.responses req.requestID held client cached
      obtain ⟨other,otherFound,otherAnswer⟩ := answered.record
      rw [found] at otherFound
      cases otherFound
      exact answer.symm.trans otherAnswer
    subst same
    dsimp only
    split_ifs with named
    · exact ⟨rfl,fun _ => rfl,rfl⟩
    · exact submitOwned_retry answered calm rfl none

end Retry

def replayHook (tournaments : OrdMap String (Option Hub.Service)) (advance : List HookCall) (req : SubmitRequest)
    (system : System) : Option (List HookCall) :=
  some (((system.actor? req.tableID).map fun actor =>
    observerCalls tournaments advance req actor.state system.world.now).getD [])

/-- The retry of an accepted request is inert when its response is still in memory, or when the observer has nothing
to do for the state its table is in. -/
theorem retry_inert {start first system : System} (distinct : Set.InjOn digest used) (fresh : Fresh start)
    (before : ReflTransGen (GatewayStep digest (Courteous used)) start first) {hook : Option (List HookCall)}
    {req : SubmitRequest} (courteous : Courteous used hook req first) {response : SubmitResponse}
    (accepted : (submit digest hook req first).1 = .ok response)
    (between : ReflTransGen (GatewayStep digest (Courteous used)) (submit digest hook req first).2 system)
    (calm : system.world.outcomes = []) {retry : SubmitRequest} (sameID : retry.requestID = req.requestID)
    (samePayload : retry.payload = req.payload) (signed : validSignature retry.minerID retry.signature = true)
    (tournaments : OrdMap String (Option Hub.Service)) (advance : List HookCall)
    (idle : system.gateway.responses.get? retry.requestID ≠ none ∨
      ∀ actor, system.actor? retry.tableID = some actor → ObserverIdle tournaments retry actor.state.table) :
    (submit digest (replayHook tournaments advance retry system) retry system).1 = .ok response ∧
      Inert system (submit digest (replayHook tournaments advance retry system) retry system).2 := by
  have start := (run_consistent distinct before (fresh_consistent fresh)).1
  obtain ⟨kept,_,answered⟩ := submit_consistent distinct start courteous
  obtain ⟨consistent,lasting⟩ := run_consistent distinct between kept
  have later := (answered response accepted).later courteous.client lasting
  rw [← sameID,← samePayload] at later
  refine submit_retry consistent (sameID ▸ courteous.client) later calm signed (idle.imp_right fun rests => ?_)
  unfold replayHook
  cases found : system.actor? retry.tableID with
  | none => rfl
  | some actor => exact observerCalls_idle (rests actor found) advance _

/-- An acknowledged action is not lost: through further submissions, calls of the runtime, failures and restarts the ledger
keeps its payload, the store its record, and whatever memory would answer from is on record too. -/
theorem acknowledged_kept {start first last : System} (distinct : Set.InjOn digest used) (fresh : Fresh start)
    (before : ReflTransGen (GatewayStep digest (Courteous used)) start first) {hook : Option (List HookCall)}
    {req : SubmitRequest} (courteous : Courteous used hook req first) {response : SubmitResponse}
    (accepted : (submit digest hook req first).1 = .ok response)
    (later : ReflTransGen (GatewayStep digest (Courteous used)) (submit digest hook req first).2 last) :
    Consistent digest used last ∧ Answered digest last req.requestID req.payload response := by
  obtain ⟨kept,_,answered⟩ := submit_consistent distinct (run_consistent distinct before (fresh_consistent fresh)).1 courteous
  obtain ⟨consistent,lasting⟩ := run_consistent distinct later kept
  exact ⟨consistent,(answered response accepted).later courteous.client lasting⟩

end Invariant

/-! A restart between the first submission and its retry. -/

/-- The actor is rebuilt from its table's snapshot; hand and phase are those of the open deadline. -/
def recoverActor (store : Store) (tournamentID tableID : String) : List HookCall :=
  match latestTableSnapshot store tournamentID tableID with
  | none => []
  | some snapshot =>
    [.registerActor tableID (recoveredState snapshot (latestOpenDeadline store tournamentID tableID)) snapshot.streamSeq]

def restarted (system : System) (tournamentID tableID : String) : System :=
  (hookCalls (recoverActor system.world.store tournamentID tableID) { system with gateway := {} }).2

def signalTournaments : OrdMap String (Option Hub.Service) :=
  OrdMap.empty.insert "tour:w1:01" (some { tournamentID := "tour:w1:01", liveTables := [⟨"tbl:tour:w1:01:01",2⟩] })

def signalHook : Option (List HookCall) :=
  some (observerCalls signalTournaments [] signalRequest
    { signalActor.state with
      stateSeq := 1
      table := { signalActor.state.table with
        actingSeatNo := 2
        seats := twoSeats.insert 1 { seatNo := 1, state := .active, stack := 100, manualActionThisHand := true } } } 0)

def signalAccepted : System := (submit joined signalHook signalRequest (signalSystem [])).2

theorem signalRequest_courteous : Courteous {signalRequest.payload} signalHook signalRequest (signalSystem []) := by
  refine ⟨by decide,rfl,fun calls same call member => ?_⟩
  cases same
  have opens : call = .openPhase "tbl:tour:w1:01:01" _ := List.mem_singleton.mp member
  rw [opens]
  rfl

theorem signalRequest_accepted : (submit joined signalHook signalRequest (signalSystem [])).1 =
    .ok ⟨"evt:table:tbl:tour:w1:01:01:000000000001",1⟩ := by decide +kernel

def signalLost : System := { signalAccepted with gateway := {} }

theorem signalLost_reached : ReflTransGen (GatewayStep joined (Courteous {signalRequest.payload})) signalAccepted
    signalLost := .single (.restart signalAccepted)

theorem signalLost_calm : signalLost.world.outcomes = [] := by decide +kernel

theorem signalLost_idle (actor : Actor) (present : signalLost.actor? signalRequest.tableID = some actor) :
    ObserverIdle signalTournaments signalRequest actor.state.table :=
  absurd present (by simp [System.actor?,signalLost])

theorem acknowledged_kept_restart : Consistent joined {signalRequest.payload} signalLost ∧
    Answered joined signalLost signalRequest.requestID signalRequest.payload ⟨"evt:table:tbl:tour:w1:01:01:000000000001",1⟩ :=
  acknowledged_kept (Set.injOn_singleton joined signalRequest.payload) (signalSystem_fresh []) .refl signalRequest_courteous
    signalRequest_accepted signalLost_reached

/-- After a restart the retry is answered from the store; with no actor left nothing is done. -/
theorem retry_inert_restart :
    (submit joined (replayHook signalTournaments [] signalRequest signalLost) signalRequest signalLost).1 =
        .ok ⟨"evt:table:tbl:tour:w1:01:01:000000000001",1⟩ ∧
      Inert signalLost
        (submit joined (replayHook signalTournaments [] signalRequest signalLost) signalRequest signalLost).2 :=
  retry_inert (Set.injOn_singleton joined signalRequest.payload) (signalSystem_fresh []) .refl signalRequest_courteous
    signalRequest_accepted signalLost_reached signalLost_calm rfl rfl (by decide) signalTournaments []
    (.inr signalLost_idle)

/-- The table has two seats and the second is to signal. The process restarts, the first client tries again: it gets
its first answer, and the observer opens the second seat's phase once more, with a new number and a second deadline. -/
theorem retry_opens_again :
    let again := restarted signalAccepted "tour:w1:01" "tbl:tour:w1:01:01"
    let retried := submit joined (replayHook signalTournaments [] signalRequest again) signalRequest again
    (again.actor? "tbl:tour:w1:01:01").map (fun actor => actor.state.stateSeq) = some 2 ∧
      (openDeadlines again.world.store).keys = ["ddl:phase:hand:tour:w1:01:01:0001:signal:002"] ∧
      retried.1 = .ok ⟨"evt:table:tbl:tour:w1:01:01:000000000001",1⟩ ∧
      (retried.2.actor? "tbl:tour:w1:01:01").map (fun actor => actor.state.stateSeq) = some 3 ∧
      (openDeadlines retried.2.world.store).keys =
        ["ddl:phase:hand:tour:w1:01:01:0001:signal:002","ddl:phase:hand:tour:w1:01:01:0001:signal:003"] := by
  exact ⟨by decide +kernel,by decide +kernel,by decide +kernel,by decide +kernel,by decide +kernel⟩

end Clawchain.Arena.Submit
