import Clawchain.Arena.Gateway.Flight
import Clawchain.Arena.Table.Persist

/-! Calls that share a request id. Whatever comes between their steps, one of
them at a time owns the request; what it records and what it answers binds all
the others. -/
namespace Clawchain.Arena.Submit
open Clawchain.Lib Clawchain.Arena.Table Faulty Relation

section Calm

def Calm (before after : World) : Prop := before.outcomes = [] → after.outcomes = []

theorem calm_trans (a b c : World) (left : Calm a b) (right : Calm b c) : Calm a c := fun calm => right (left calm)

theorem calm_writeCall {ρ : Type} (write : ρ → Store → Except StoreError Store) (rows : List ρ) :
    Moves Calm (writeCall write rows) := by
  intro world calm
  unfold writeCall
  rw [calm]
  rfl

theorem calm_persistDerivedState (state : ActorState) (cmd : Command) (next : State) (nextSeq : Int) (event : String)
    (final : Int) : Moves Calm (persistDerivedState state cmd next nextSeq event final) := by
  refine Moves.bind calm_trans ?_ fun _ => Moves.bind calm_trans ?_ fun _ => ?_
  · intro world
    unfold closeDeadline
    split_ifs
    · exact calm_writeCall _ _ world
    · exact id
  · intro world
    unfold snapshotHand
    split_ifs
    · exact calm_writeCall _ _ world
    · exact id
  · split_ifs
    · exact fun world => calm_writeCall _ _ world
    · exact fun _ => id

theorem calm_persist (actor : Actor) (envelope : CommandEnvelope) (next : State) (events : List Event) :
    Moves Calm (persist actor envelope next events) := by
  refine Moves.bind calm_trans (fun world => calm_writeCall _ _ world) fun _ => Moves.bind calm_trans ?_ fun _ =>
    calm_persistDerivedState _ _ _ _ _ _
  intro world
  unfold persistEvents
  dsimp only
  split_ifs
  · exact id
  · exact calm_writeCall _ _ world

theorem calm_persistPhase (state : ActorState) (phase : PhaseDefinition) (streamSeq nextSeq : Int) :
    Moves Calm (persistPhase state phase streamSeq nextSeq) := by
  refine Moves.bind calm_trans (fun world => calm_writeCall _ _ world) fun _ => Moves.bind calm_trans ?_ fun _ =>
    fun world => calm_writeCall _ _ world
  intro world
  unfold openDeadline
  split
  · exact id
  · exact calm_writeCall _ _ world

end Calm

theorem eventID_ne_empty (streamKey : String) (streamSeq : Int) : eventID streamKey streamSeq ≠ "" := by
  intro empty
  have length := congrArg String.length empty
  unfold eventID at length
  simp [String.length_append] at length

structure Named (objects : Nat → Actor) (world : World) : Prop where
  records : ∀ requestID record, world.store.actions.get? requestID = some record → record.resultEventID ≠ ""
  results : ∀ actor requestID result, (objects actor).results.get? requestID = some result → result.resultEventID ≠ ""
  calm : world.outcomes = []

/-- What a call of `Handle` leaves, with its table moved or not. -/
structure Handled (actor after : Actor) (requestID : String) (before world : World) : Prop where
  ledger : world.store.ledger = before.store.ledger
  kept : ∀ id, (before.store.actions.get? id).isSome → (world.store.actions.get? id).isSome
  records : ∀ id record, world.store.actions.get? id = some record →
    before.store.actions.get? id = some record ∨ record.resultEventID ≠ ""
  results : ∀ id result, after.results.get? id = some result →
    actor.results.get? id = some result ∨ result.resultEventID ≠ ""
  calm : before.outcomes = [] → world.outcomes = []
  moved : after.state.stateSeq ≠ actor.state.stateSeq → (world.store.actions.get? requestID).isSome

theorem handle_handled (actor : Actor) (envelope : CommandEnvelope) (world : World) :
    Handled actor (actor.handle envelope world).2.1 envelope.requestID world (actor.handle envelope world).2.2 := by
  have written (next : State) (events : List Event) : let after := (persist actor envelope next events world).2
      after.store.ledger = world.store.ledger ∧
        (∀ id, (world.store.actions.get? id).isSome → (after.store.actions.get? id).isSome) ∧
        ∀ id record, after.store.actions.get? id = some record →
          world.store.actions.get? id = some record ∨ record.resultEventID ≠ "" := by
    obtain ⟨ledger,actions⟩ := persist_cases actor envelope next events world
    refine ⟨ledger,?_⟩
    rcases actions with ⟨same,_⟩ | ⟨record,recorded,same⟩
    · rw [same]
      exact ⟨fun _ kept => kept,fun _ _ found => .inl found⟩
    · rw [same]
      constructor
      · intro id held
        rw [OrdMap.get?_insert]
        split_ifs
        · rfl
        · exact held
      · intro id other found
        rw [OrdMap.get?_insert] at found
        split_ifs at found
        · cases found
          right
          rw [recorded.resultEventID]
          exact eventID_ne_empty _ _
        · exact .inl found
  rcases handle_cases actor envelope world with
    ⟨result,_,same⟩ | ⟨_,e,after,same,rfl | ⟨_,next,events,failure,_,_,stored⟩⟩ | ⟨_,_,next,events,after,_,stored,same⟩
  · rw [same]
    exact ⟨rfl,fun _ kept => kept,fun _ _ found => .inl found,fun _ _ found => .inl found,id,fun moved => absurd rfl moved⟩
  · rw [same]
    exact ⟨rfl,fun _ kept => kept,fun _ _ found => .inl found,fun _ _ found => .inl found,id,fun moved => absurd rfl moved⟩
  · have wrote := written next events
    have calm := calm_persist actor envelope next events world
    rw [stored] at wrote calm
    rw [same]
    exact ⟨wrote.1,wrote.2.1,wrote.2.2,fun _ _ found => .inl found,calm,fun moved => absurd rfl moved⟩
  · have wrote := written next events
    have calm := calm_persist actor envelope next events world
    have record := (persist_cases actor envelope next events world).2
    rw [stored] at wrote calm record
    rw [same]
    refine ⟨wrote.1,wrote.2.1,wrote.2.2,?_,calm,fun _ => ?_⟩
    · intro id result found
      change (actor.results.insert envelope.requestID actor.nextResult).get? id = some result at found
      rw [OrdMap.get?_insert] at found
      split_ifs at found
      · cases found
        exact .inr (eventID_ne_empty _ _)
      · exact .inl found
    · rcases record with ⟨_,failed⟩ | ⟨record,_,actions⟩
      · exact absurd rfl failed
      · rw [actions,OrdMap.get?_insert_self]
        rfl

theorem openPhase_handled (actor : Actor) (phase : PhaseDefinition) (world : World) :
    (actor.openPhase phase world).2.2.store.ledger = world.store.ledger ∧
      (actor.openPhase phase world).2.2.store.actions = world.store.actions ∧
      (actor.openPhase phase world).2.1.results = actor.results ∧
      (world.outcomes = [] → (actor.openPhase phase world).2.2.outcomes = []) := by
  obtain ⟨actions,ledger,results⟩ := openPhase_store actor phase world
  refine ⟨ledger,actions,results,?_⟩
  have calm := calm_persistPhase (openedState actor.state phase) phase (actor.streamSeq + 1)
    (actor.state.stateSeq + 1) world
  unfold Actor.openPhase
  dsimp only
  split
  · rename_i stored
    rw [stored] at calm
    exact calm
  · rename_i stored
    rw [stored] at calm
    exact calm

theorem Named.update {objects : Nat → Actor} {world later : World} (named : Named objects world) {actor : Nat}
    {object : Actor} (calm : later.outcomes = [])
    (records : ∀ id record, later.store.actions.get? id = some record →
      world.store.actions.get? id = some record ∨ record.resultEventID ≠ "")
    (results : ∀ id result, object.results.get? id = some result →
      (objects actor).results.get? id = some result ∨ result.resultEventID ≠ "") :
    Named (Function.update objects actor object) later where
  records id record found := (records id record found).elim (named.records id record) fun there => there
  results other id result found := by
    by_cases own : other = actor
    · subst own
      rw [Function.update_self] at found
      exact (results id result found).elim (named.results other id result) fun there => there
    · rw [Function.update_of_ne own] at found
      exact named.results other id result found
  calm := calm

theorem handle_result {actor after : Actor} {envelope : CommandEnvelope} {world final : World} {result : Result}
    (named : ∀ id result, actor.results.get? id = some result → result.resultEventID ≠ "")
    (done : actor.handle envelope world = (.ok result,after,final)) : result.resultEventID ≠ "" := by
  rcases handle_cases actor envelope world with
    ⟨_,found,same⟩ | ⟨_,_,_,same,_⟩ | ⟨_,_,_,_,_,_,_,same⟩
  · cases done.symm.trans same
    exact named _ _ found
  · cases done.symm.trans same
  · cases done.symm.trans same
    exact eventID_ne_empty _ _

section Flight
variable {ι : Type} [DecidableEq ι] {digest : SubmissionPayload → String} {board : Flight ι} {req : SubmitRequest}
  {world : World}

theorem onWorld_read {α : Type} (read : Store → α) (calm : world.outcomes = []) :
    onWorld (storeCall (readCall read)) world = (.ok (read world.store),world) := by
  obtain ⟨store,outcomes,now⟩ := world
  change outcomes = [] at calm
  subst calm
  rfl

theorem onWorld_record (calm : world.outcomes = []) (status : SubmissionStatus) :
    (∃ entry : SubmissionLedger, entry.payloadHash = submissionPayloadHash digest req ∧
      (∀ row, world.store.ledger.get? req.requestID = some row → row.payloadHash = submissionPayloadHash digest req) ∧
      onWorld (recordSubmission digest req status) world = (.ok (),{ world with
        store := { world.store with ledger := world.store.ledger.insert req.requestID entry } })) ∨
    ∃ row, world.store.ledger.get? req.requestID = some row ∧ row.payloadHash ≠ submissionPayloadHash digest req ∧
      onWorld (recordSubmission digest req status) world = (.error .requestPayloadConflict,world) := by
  obtain ⟨store,outcomes,now⟩ := world
  change outcomes = [] at calm
  subst calm
  dsimp only
  unfold onWorld recordSubmission storeCall appendSubmissionLedgerEntries
  dsimp only
  rw [writeCall_of_ok _ _ _ (by simp)]
  simp only [writeRows,writeSubmission]
  cases held : store.ledger.get? req.requestID with
  | none => exact .inl ⟨_,rfl,(fun row found => by cases found),rfl⟩
  | some row =>
    by_cases same : row.payloadHash = submissionPayloadHash digest req
    · simp only [if_pos same]
      exact .inl ⟨_,rfl,(fun other found => by cases found; exact same),rfl⟩
    · simp only [if_neg same]
      exact .inr ⟨row,rfl,same,rfl⟩

end Flight

/-! What holds of the calls of one request. -/

def Stage.recorded : Stage → Bool
  | .loadEntry => false
  | .loadAction _ => false
  | .record _ => false
  | .finish _ cacheRequest => cacheRequest
  | _ => true

def Stage.response? : Stage → Option SubmitResponse
  | .commit response => some response
  | .observe response => some response
  | .apply response => some response
  | .replay response => some response
  | .reapply response => some response
  | .finish (.ok response) _ => some response
  | _ => none

def Stage.early : Stage → Bool
  | .record _ => true
  | .handle _ _ => true
  | _ => false

section Kept
variable {ι : Type} (digest : SubmissionPayload → String) (request : ι → SubmitRequest) (start : Store)

def Rows (board : Flight ι) (req : SubmitRequest) : Prop :=
  ∃ row, board.world.store.ledger.get? req.requestID = some row ∧ row.payloadHash = submissionPayloadHash digest req

def Unclaimed (board : Flight ι) (req : SubmitRequest) : Prop :=
  ∀ row, board.world.store.ledger.get? req.requestID = some row → row.payloadHash = submissionPayloadHash digest req

def Refusal (req : SubmitRequest) (e : SubmitError) : Prop :=
  e = .requestPayloadConflict ∨
    e = .badRequest ∧ toCommand req = none ∧ (start.ledger.get? req.requestID).isSome

structure StageSound (board : Flight ι) (req : SubmitRequest) (stage : Stage) : Prop where
  recorded : stage.recorded = true → Rows digest board req
  loaded : ∀ command, stage = .loadAction command → Rows digest board req
  agrees : ∀ command, stage = .record command → Unclaimed digest board req
  early : stage.early = true → req.requestID ∉ board.changes
  response : ∀ response, stage.response? = some response → response.resultEventID ≠ ""
  cached : ∀ response cacheRequest, stage = .finish (.ok response) cacheRequest → cacheRequest = true
  refused : ∀ e, stage = .finish (.error e) false → ¬Unclaimed digest board req → Refusal start req e

structure Owns (board : Flight ι) (req : SubmitRequest) (owner : Owner) : Prop where
  flying : ∃ flying, board.inFlight.get? req.requestID = some flying ∧
    flying.payloadHash = submissionPayloadHash digest req
  unanswered : board.responses.get? req.requestID = none
  remembered : ∀ other, board.ledger.get? req.requestID = some other →
    submissionPayloadHash digest other = submissionPayloadHash digest req
  sound : StageSound digest start board req owner.stage

structure Kept (id : String) (board : Flight ι) : Prop where
  cached : ∀ req, board.ledger.get? id = some req → ∃ row, board.world.store.ledger.get? id = some row ∧
    row.payloadHash = submissionPayloadHash digest req
  remembered : ∀ response, board.responses.get? id = some response →
    response.resultEventID ≠ "" ∧ (board.ledger.get? id).isSome
  owns : ∀ caller owner, (request caller).requestID = id → board.calls caller = .owning owner →
    Owns digest start board (request caller) owner
  alone : ∀ caller other owner ownerOther, (request caller).requestID = id → (request other).requestID = id →
    board.calls caller = .owning owner → board.calls other = .owning ownerOther → caller = other
  source : (board.world.store.ledger.get? id).isSome → (start.ledger.get? id).isSome ∨ (board.ledger.get? id).isSome ∨
    ∃ caller owner, (request caller).requestID = id ∧ board.calls caller = .owning owner ∧ owner.stage.recorded = true
  once : board.changes.count id ≤ 1
  changed : id ∈ board.changes → (board.world.store.actions.get? id).isSome ∧ (board.world.store.ledger.get? id).isSome
  answers : ∀ caller response, (request caller).requestID = id → board.calls caller = .ended (.answered response) →
    board.responses.get? id = some response

structure Advanced (req : SubmitRequest) (before after : Flight ι) : Prop where
  responses : after.responses = before.responses
  ledger : after.ledger = before.ledger
  inFlight : after.inFlight = before.inFlight
  calls : after.calls = before.calls
  named : Named after.objects after.world
  elsewhere : ∀ id, id ≠ req.requestID →
    after.world.store.ledger.get? id = before.world.store.ledger.get? id ∧ after.changes.count id = before.changes.count id
  claimed : ∀ row, before.world.store.ledger.get? req.requestID = some row →
    ∃ later, after.world.store.ledger.get? req.requestID = some later ∧ later.payloadHash = row.payloadHash
  kept : ∀ id, (before.world.store.actions.get? id).isSome → (after.world.store.actions.get? id).isSome
  once : after.changes.count req.requestID ≤ 1
  changed : req.requestID ∈ after.changes →
    (after.world.store.actions.get? req.requestID).isSome ∧ (after.world.store.ledger.get? req.requestID).isSome

variable {digest request start} {board after : Flight ι} {req : SubmitRequest}

theorem Kept.stays (kept : Kept digest request start req.requestID board) (named : Named board.objects board.world) :
    Advanced req board board where
  responses := rfl
  ledger := rfl
  inFlight := rfl
  calls := rfl
  named := named
  elsewhere _ _ := ⟨rfl,rfl⟩
  claimed row found := ⟨row,found,rfl⟩
  kept _ held := held
  once := kept.once
  changed := kept.changed

theorem Rows.claims {board : Flight ι} (rows : Rows digest board req) : Unclaimed digest board req := by
  obtain ⟨row,held,same⟩ := rows
  intro other found
  cases held.symm.trans found
  exact same

theorem Kept.notes (kept : Kept digest request start req.requestID board) (named : Named board.objects board.world)
    (unclaimed : Unclaimed digest board req) (status : SubmissionStatus) :
    ∃ world, onWorld (recordSubmission digest req status) board.world = (.ok (),world) ∧
      Advanced req board { board with world := world } ∧ Rows digest { board with world := world } req := by
  rcases @onWorld_record digest req _ named.calm status with
    ⟨entry,hash,_,done⟩ | ⟨row,held,differs,_⟩
  · refine ⟨_,done,?_,entry,OrdMap.get?_insert_self _ _ _,hash⟩
    have changed : req.requestID ∈ board.changes → (board.world.store.actions.get? req.requestID).isSome ∧
        ((board.world.store.ledger.insert req.requestID entry).get? req.requestID).isSome := fun member =>
      ⟨(kept.changed member).1,by rw [OrdMap.get?_insert_self]; rfl⟩
    exact ⟨rfl,rfl,rfl,rfl,⟨named.records,named.results,named.calm⟩,
      fun id differ => ⟨OrdMap.get?_insert_of_ne _ _ differ,rfl⟩,
      fun row held => ⟨entry,OrdMap.get?_insert_self _ _ _,hash.trans (unclaimed row held).symm⟩,
      fun _ held => held,kept.once,changed⟩
  · exact absurd (unclaimed row held) differs

theorem StageSound.of_recorded {stage : Stage} (rows : Rows digest board req) (recorded : stage.recorded = true)
    (early : stage.early = true → req.requestID ∉ board.changes)
    (response : ∀ response, stage.response? = some response → response.resultEventID ≠ "") :
    StageSound digest start board req stage where
  recorded _ := rows
  loaded command same := by
    rw [same] at recorded
    cases recorded
  agrees command same := by
    rw [same] at recorded
    cases recorded
  early := early
  response := response
  cached answer cacheRequest same := by
    rw [same] at recorded
    exact recorded
  refused e same := by
    rw [same] at recorded
    cases recorded

theorem StageSound.of_refused {e : SubmitError} (refused : ¬Unclaimed digest board req → Refusal start req e) :
    StageSound digest start board req (.finish (.error e) false) where
  recorded same := by cases same
  loaded _ same := by cases same
  agrees _ same := by cases same
  early same := by cases same
  response _ same := by cases same
  cached _ _ same := by cases same
  refused _ same := by
    cases same
    exact refused

theorem StageSound.of_fresh {command : Command} (unclaimed : Unclaimed digest board req)
    (early : req.requestID ∉ board.changes) : StageSound digest start board req (.record command) where
  recorded same := by cases same
  loaded _ same := by cases same
  agrees _ _ := unclaimed
  early _ := early
  response _ same := by cases same
  cached _ _ same := by cases same
  refused _ same := by cases same

theorem StageSound.of_launched : StageSound digest start board req .loadEntry where
  recorded same := by cases same
  loaded _ same := by cases same
  agrees _ same := by cases same
  early same := by cases same
  response _ same := by cases same
  cached _ _ same := by cases same
  refused _ same := by cases same

theorem StageSound.of_loaded {command : Command} (rows : Rows digest board req) :
    StageSound digest start board req (.loadAction command) where
  recorded same := by cases same
  loaded _ _ := rows
  agrees _ same := by cases same
  early same := by cases same
  response _ same := by cases same
  cached _ _ same := by cases same
  refused _ same := by cases same

end Kept

section Stages
variable {ι : Type} [DecidableEq ι] {digest : SubmissionPayload → String} {request : ι → SubmitRequest} {start : Store}
  {board : Flight ι} {req : SubmitRequest}

theorem handleRequest_advances (kept : Kept digest request start req.requestID board)
    (named : Named board.objects board.world) (rows : Rows digest board req) (early : req.requestID ∉ board.changes)
    (command : Command) (actor : Nat) :
    Advanced req board (board.handleRequest req command actor).1 ∧
      Rows digest (board.handleRequest req command actor).1 req ∧
      ((∃ response, (board.handleRequest req command actor).2 = .commit response ∧ response.resultEventID ≠ "") ∨
        ∃ e, (board.handleRequest req command actor).2 = .finish (.error e) true) := by
  have handled := handle_handled (board.objects actor) ⟨req.requestID,req.expectedStateSeq,command⟩ board.world
  have answer (result : Result) (same : ((board.objects actor).handle ⟨req.requestID,req.expectedStateSeq,command⟩
      board.world).1 = .ok result) : result.resultEventID ≠ "" :=
    handle_result (named.results actor) (Prod.ext same rfl)
  unfold Flight.handleRequest
  dsimp only
  generalize (board.objects actor).handle ⟨req.requestID,req.expectedStateSeq,command⟩ board.world = outcome at *
  obtain ⟨result,after,world⟩ := outcome
  dsimp only at handled answer ⊢
  have namedAfter : Named (Function.update board.objects actor after) world :=
    named.update (handled.calm named.calm) handled.records handled.results
  have none_ : board.changes.count req.requestID = 0 := List.count_eq_zero_of_not_mem early
  have held : (world.store.ledger.get? req.requestID).isSome := by
    obtain ⟨row,found,_⟩ := rows
    rw [handled.ledger,found]
    rfl
  refine ⟨?_,?_,?_⟩
  · split_ifs with still
    · refine ⟨rfl,rfl,rfl,rfl,namedAfter,?_,?_,handled.kept,kept.once,fun member => absurd member early⟩
      · intro id differ
        exact ⟨congrArg (fun ledger => ledger.get? id) handled.ledger,rfl⟩
      · intro row found
        exact ⟨row,(congrArg (fun ledger => ledger.get? req.requestID) handled.ledger).trans found,rfl⟩
    · refine ⟨rfl,rfl,rfl,rfl,namedAfter,?_,?_,handled.kept,?_,fun _ => ⟨handled.moved still,held⟩⟩
      · intro id differ
        refine ⟨congrArg (fun ledger => ledger.get? id) handled.ledger,?_⟩
        simp [Ne.symm differ]
      · intro row found
        exact ⟨row,(congrArg (fun ledger => ledger.get? req.requestID) handled.ledger).trans found,rfl⟩
      · simp [none_]
  · have same : Rows digest (board.setObject actor after world) req := by
      unfold Rows
      change ∃ row, world.store.ledger.get? req.requestID = some row ∧ _
      rw [handled.ledger]
      exact rows
    split_ifs
    · exact same
    · exact same
  · cases result with
    | ok result => exact .inl ⟨_,rfl,answer result rfl⟩
    | error e => cases e with
      | stateSeqMismatch => exact .inr ⟨_,rfl⟩
      | rejected reason => exact .inr ⟨_,rfl⟩
      | store failure => exact .inr ⟨_,rfl⟩

variable (digest) in
structure Goes (start : Store) (req : SubmitRequest) (before : Flight ι) (stage : Stage) (outcome : Flight ι × Stage) :
    Prop where
  advanced : Advanced req before outcome.1
  sound : StageSound digest start outcome.1 req outcome.2
  recorded : stage.recorded = true → outcome.2.recorded = true
  source : (outcome.1.world.store.ledger.get? req.requestID).isSome →
    (before.world.store.ledger.get? req.requestID).isSome ∨ outcome.2.recorded = true

variable {caller : ι} {owner : Owner}
variable {actor : Option Nat} {observer : Bool}

theorem recorded_goes {stage next : Stage} {after : Flight ι} (advanced : Advanced req board after)
    (rows : Rows digest after req) (recorded : next.recorded = true) (early : next.early = false)
    (response : ∀ response, next.response? = some response → response.resultEventID ≠ "") :
    Goes digest start req board stage (after,next) where
  advanced := advanced
  sound := .of_recorded rows recorded (fun same => by rw [early] at same; cases same) response
  recorded _ := recorded
  source _ := .inr recorded

theorem Kept.foreign (kept : Kept digest request start (request caller).requestID board)
    (owning : board.calls caller = .owning owner) (unrecorded : owner.stage.recorded = false)
    (foreign : ¬Unclaimed digest board (request caller)) : (start.ledger.get? (request caller).requestID).isSome := by
  unfold Unclaimed at foreign
  push Not at foreign
  obtain ⟨row,held,differs⟩ := foreign
  rcases kept.source (by rw [held]; rfl) with old | memory | ⟨other,ownerOther,same,busy,recorded⟩
  · exact old
  · obtain ⟨req,cached⟩ := Option.isSome_iff_exists.mp memory
    obtain ⟨known,found,hash⟩ := kept.cached req cached
    cases held.symm.trans found
    exact absurd (hash.trans ((kept.owns caller owner rfl owning).remembered req cached)) differs
  · obtain rfl := kept.alone other caller ownerOther owner same rfl busy owning
    rw [owning] at busy
    cases busy
    rw [unrecorded] at recorded
    cases recorded

theorem loadEntry_goes (kept : Kept digest request start (request caller).requestID board)
    (named : Named board.objects board.world) (observed : Bool)
    (owning : board.calls caller = .owning ⟨.loadEntry,actor,observer⟩) :
    Goes digest start (request caller) board .loadEntry
      (board.stage digest (request caller) ⟨.loadEntry,actor,observer⟩ observed) := by
  unfold Flight.stage
  dsimp only
  cases translated : toCommand (request caller) with
  | none =>
    have refused : ¬Unclaimed digest board (request caller) → Refusal start (request caller) .badRequest := fun foreign =>
      .inr ⟨rfl,translated,kept.foreign owning rfl foreign⟩
    exact ⟨kept.stays named,.of_refused refused,(fun same => by cases same),fun held => .inl held⟩
  | some command =>
    have read := onWorld_read (fun store => store.ledger.get? (request caller).requestID) named.calm
    unfold loadSubmissionLedgerEntry Flight.afterCall
    dsimp only
    rw [read]
    dsimp only
    cases held : board.world.store.ledger.get? (request caller).requestID with
    | none =>
      have unclaimed : Unclaimed digest board (request caller) := fun row found => by
        cases held.symm.trans found
      have early : (request caller).requestID ∉ board.changes := fun member => by
        have there := (kept.changed member).2
        rw [held] at there
        cases there
      exact ⟨kept.stays named,.of_fresh unclaimed early,(fun same => by cases same),fun there => .inl there⟩
    | some entry =>
      dsimp only
      by_cases same : entry.payloadHash = submissionPayloadHash digest (request caller)
      · rw [if_neg (not_not.mpr same)]
        exact ⟨kept.stays named,.of_loaded ⟨entry,held,same⟩,(fun same => by cases same),fun there => .inl there⟩
      · rw [if_pos same]
        exact ⟨kept.stays named,.of_refused fun _ => .inl rfl,(fun same => by cases same),fun there => .inl there⟩

theorem loadAction_goes (kept : Kept digest request start (request caller).requestID board)
    (named : Named board.objects board.world) {command : Command} (observed : Bool)
    (owning : board.calls caller = .owning ⟨.loadAction command,actor,observer⟩) :
    Goes digest start (request caller) board (.loadAction command)
      (board.stage digest (request caller) ⟨.loadAction command,actor,observer⟩ observed) := by
  have rows := (kept.owns caller _ rfl owning).sound.loaded command rfl
  have read := onWorld_read (fun store => store.actions.get? (request caller).requestID) named.calm
  unfold Flight.stage loadActionRecord Flight.afterCall
  dsimp only
  rw [read]
  dsimp only
  cases held : board.world.store.actions.get? (request caller).requestID with
  | none =>
    have early : (request caller).requestID ∉ board.changes := fun member => by
      have there := (kept.changed member).1
      rw [held] at there
      cases there
    exact ⟨kept.stays named,.of_fresh rows.claims early,(fun same => by cases same),fun there => .inl there⟩
  | some action =>
    refine recorded_goes (kept.stays named) rows rfl rfl fun response same => ?_
    cases same
    exact named.records _ _ held

theorem record_goes (kept : Kept digest request start (request caller).requestID board)
    (named : Named board.objects board.world) {command : Command} (observed : Bool)
    (owning : board.calls caller = .owning ⟨.record command,actor,observer⟩) :
    Goes digest start (request caller) board (.record command)
      (board.stage digest (request caller) ⟨.record command,actor,observer⟩ observed) := by
  have sound := (kept.owns caller _ rfl owning).sound
  unfold Flight.stage
  cases actor with
  | none =>
    have refused : ¬Unclaimed digest board (request caller) → Refusal start (request caller) .unknownTable := fun foreign =>
      absurd (sound.agrees command rfl) foreign
    exact ⟨kept.stays named,.of_refused refused,(fun same => by cases same),fun there => .inl there⟩
  | some actor =>
    obtain ⟨world,done,advanced,rows⟩ := kept.notes named (sound.agrees command rfl) .received
    dsimp only
    unfold Flight.afterCall
    rw [done]
    have early : (request caller).requestID ∉ board.changes := sound.early rfl
    exact ⟨advanced,.of_recorded rows rfl (fun _ => early) (fun _ same => by cases same),fun _ => rfl,fun _ => .inr rfl⟩

theorem note_goes (kept : Kept digest request start req.requestID board) (named : Named board.objects board.world)
    (rows : Rows digest board req) (status : SubmissionStatus) {stage next : Stage} (recorded : next.recorded = true)
    (early : next.early = false)
    (response : ∀ response, next.response? = some response → response.resultEventID ≠ "") :
    Goes digest start req board stage
      (board.afterCall (onWorld (recordSubmission digest req status) board.world) true fun _ => next) := by
  obtain ⟨world,done,advanced,held⟩ := kept.notes named rows.claims status
  unfold Flight.afterCall
  rw [done]
  exact recorded_goes advanced held recorded early response

theorem stage_goes (kept : Kept digest request start (request caller).requestID board)
    (named : Named board.objects board.world) (observed : Bool) (owning : board.calls caller = .owning owner)
    (unfinished : ∀ result cacheRequest, owner.stage ≠ .finish result cacheRequest) :
    Goes digest start (request caller) board owner.stage
      (board.stage digest (request caller) owner observed) := by
  have sound := (kept.owns caller owner rfl owning).sound
  obtain ⟨stage,actor,observer⟩ := owner
  cases stage with
  | loadEntry => exact loadEntry_goes kept named observed owning
  | loadAction command => exact loadAction_goes kept named observed owning
  | record command => exact record_goes kept named observed owning
  | handle command object =>
    obtain ⟨advanced,rows,next⟩ := handleRequest_advances kept named (sound.recorded rfl) (sound.early rfl) command object
    change Goes digest start (request caller) board (.handle command object) (board.handleRequest (request caller) command object)
    rcases next with ⟨response,same,there⟩ | ⟨e,same⟩
    · rw [← Prod.eta (board.handleRequest (request caller) command object),same]
      refine recorded_goes advanced rows rfl rfl fun other found => ?_
      cases found
      exact there
    · rw [← Prod.eta (board.handleRequest (request caller) command object),same]
      exact recorded_goes advanced rows rfl rfl fun other found => by cases found
  | commit response =>
    exact note_goes kept named (sound.recorded rfl) .committed rfl rfl fun other found => by
      cases found
      exact sound.response response rfl
  | observe response =>
    unfold Flight.stage
    dsimp only
    split
    · exact recorded_goes (kept.stays named) (sound.recorded rfl) rfl rfl fun other found => by cases found
    · exact recorded_goes (kept.stays named) (sound.recorded rfl) rfl rfl fun other found => by
        cases found
        exact sound.response response rfl
  | apply response =>
    exact note_goes kept named (sound.recorded rfl) .applied rfl rfl fun other found => by
      cases found
      exact sound.response response rfl
  | replay response =>
    have goes (next : Stage) (recorded : next.recorded = true) (early : next.early = false)
        (same : ∀ other, next.response? = some other → other = response) :
        Goes digest start (request caller) board (.replay response) (board,next) :=
      recorded_goes (kept.stays named) (sound.recorded rfl) recorded early fun other found => by
        rw [same other found]
        exact sound.response response rfl
    unfold Flight.stage
    dsimp only
    split
    · split
      · exact goes _ rfl rfl fun other found => by cases found; rfl
      · exact goes _ rfl rfl fun other found => by cases found
    · exact goes _ rfl rfl fun other found => by cases found; rfl
    · exact goes _ rfl rfl fun other found => by cases found; rfl
  | reapply response =>
    exact note_goes kept named (sound.recorded rfl) .applied rfl rfl fun other found => by
      cases found
      exact sound.response response rfl
  | finish result cacheRequest => exact absurd rfl (unfinished result cacheRequest)

end Stages

end Clawchain.Arena.Submit
