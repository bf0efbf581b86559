import Clawchain.Arena.Gateway.SingleFlight

/-! Every interleaving of the calls of a gateway. What holds of a request is
kept by each step, of its own calls, of other calls and of the runtime; so it
holds in every run. -/
namespace Clawchain.Arena.Submit
open Clawchain.Lib Clawchain.Arena.Table Faulty Relation

section Steps
variable {ι : Type} [DecidableEq ι] {digest : SubmissionPayload → String} {request : ι → SubmitRequest} {start : Store}
  {board before after : Flight ι} {id : String} {caller : ι} {owner : Owner}
variable {how : CallEnd}

/-- Nothing of a request has changed; its action may have got a record. -/
structure Elsewhere (request : ι → SubmitRequest) (id : String) (before after : Flight ι) : Prop where
  responses : after.responses.get? id = before.responses.get? id
  ledger : after.ledger.get? id = before.ledger.get? id
  inFlight : after.inFlight.get? id = before.inFlight.get? id
  rows : after.world.store.ledger.get? id = before.world.store.ledger.get? id
  actions : (before.world.store.actions.get? id).isSome → (after.world.store.actions.get? id).isSome
  changes : after.changes.count id = before.changes.count id
  calls : ∀ caller, (request caller).requestID = id → after.calls caller = before.calls caller

theorem mem_of_count {changes earlier : List String} (same : changes.count id = earlier.count id) :
    id ∈ changes ↔ id ∈ earlier := by
  rw [← List.count_pos_iff,← List.count_pos_iff,same]

theorem StageSound.elsewhere {req : SubmitRequest} {stage : Stage} (sound : StageSound digest start before req stage)
    (rows : after.world.store.ledger.get? req.requestID = before.world.store.ledger.get? req.requestID)
    (changes : req.requestID ∈ after.changes ↔ req.requestID ∈ before.changes) :
    StageSound digest start after req stage := by
  have held : Rows digest after req ↔ Rows digest before req := by
    unfold Rows
    rw [rows]
  have free : Unclaimed digest after req ↔ Unclaimed digest before req := by
    unfold Unclaimed
    rw [rows]
  exact ⟨fun same => held.mpr (sound.recorded same),fun command same => held.mpr (sound.loaded command same),
    fun command same => free.mpr (sound.agrees command same),fun same member => sound.early same (changes.mp member),
    sound.response,sound.cached,fun e same foreign => sound.refused e same fun unclaimed => foreign (free.mpr unclaimed)⟩

theorem Kept.elsewhere (kept : Kept digest request start id before) (frame : Elsewhere request id before after) :
    Kept digest request start id after where
  cached req found := by
    rw [frame.ledger] at found
    rw [frame.rows]
    exact kept.cached req found
  remembered response found := by
    rw [frame.responses] at found
    rw [frame.ledger]
    exact kept.remembered response found
  owns caller owner same owning := by
    rw [frame.calls caller same] at owning
    have owns := kept.owns caller owner same owning
    subst same
    refine ⟨?_,?_,?_,owns.sound.elsewhere frame.rows (mem_of_count frame.changes)⟩
    · rw [frame.inFlight]
      exact owns.flying
    · rw [frame.responses]
      exact owns.unanswered
    · rw [frame.ledger]
      exact owns.remembered
  alone caller other owner ownerOther same sameOther owning owningOther := by
    rw [frame.calls caller same] at owning
    rw [frame.calls other sameOther] at owningOther
    exact kept.alone caller other owner ownerOther same sameOther owning owningOther
  source held := by
    rw [frame.rows] at held
    rw [frame.ledger]
    rcases kept.source held with old | memory | ⟨caller,owner,same,owning,recorded⟩
    · exact .inl old
    · exact .inr (.inl memory)
    · exact .inr (.inr ⟨caller,owner,same,(frame.calls caller same).trans owning,recorded⟩)
  once := frame.changes ▸ kept.once
  changed member := by
    have earlier := kept.changed ((mem_of_count frame.changes).mp member)
    rw [frame.rows]
    exact ⟨frame.actions earlier.1,earlier.2⟩
  answers caller response same ended := by
    rw [frame.calls caller same] at ended
    rw [frame.responses]
    exact kept.answers caller response same ended

theorem setCall_own (board : Flight ι) (caller : ι) (state : CallState) :
    (board.setCall caller state).calls caller = state := by
  unfold Flight.setCall
  exact Function.update_self _ _ _

theorem setCall_other (board : Flight ι) (state : CallState) (differ : (request caller).requestID ≠ id) :
    Elsewhere request id board (board.setCall caller state) := by
  refine ⟨rfl,rfl,rfl,rfl,fun held => held,rfl,fun other same => ?_⟩
  have others : other ≠ caller := fun own => differ (own ▸ same)
  exact Function.update_of_ne others _ _

theorem Kept.setCall (kept : Kept digest request start (request caller).requestID board) {state : CallState}
    (idle : ∀ owner, board.calls caller ≠ .owning owner) (stays : ∀ owner, state ≠ .owning owner)
    (answered : ∀ response, state = .ended (.answered response) →
      board.responses.get? (request caller).requestID = some response) :
    Kept digest request start (request caller).requestID (board.setCall caller state) := by
  have calls (other : ι) (owner : Owner) :
      (board.setCall caller state).calls other = .owning owner ↔ board.calls other = .owning owner := by
    change Function.update board.calls caller state other = _ ↔ _
    by_cases own : other = caller
    · subst own
      rw [Function.update_self]
      exact ⟨fun same => absurd same (stays owner),fun same => absurd same (idle owner)⟩
    · rw [Function.update_of_ne own]
  refine ⟨kept.cached,kept.remembered,?_,?_,?_,kept.once,kept.changed,?_⟩
  · intro other owner same owning
    have owns := kept.owns other owner same ((calls other owner).mp owning)
    exact ⟨owns.flying,owns.unanswered,owns.remembered,owns.sound.elsewhere rfl Iff.rfl⟩
  · intro one other owner ownerOther same sameOther owning owningOther
    exact kept.alone one other owner ownerOther same sameOther ((calls one owner).mp owning)
      ((calls other ownerOther).mp owningOther)
  · intro held
    rcases kept.source held with old | memory | ⟨other,owner,same,owning,recorded⟩
    · exact .inl old
    · exact .inr (.inl memory)
    · exact .inr (.inr ⟨other,owner,same,(calls other owner).mpr owning,recorded⟩)
  · intro other response same ended
    change Function.update board.calls caller state other = _ at ended
    by_cases own : other = caller
    · subst own
      rw [Function.update_self] at ended
      exact answered response ended
    · rw [Function.update_of_ne own] at ended
      exact kept.answers other response same ended

theorem Kept.nobody (kept : Kept digest request start id board) (free : board.inFlight.get? id = none) (other : ι)
    (owner : Owner) (same : (request other).requestID = id) : board.calls other ≠ .owning owner := by
  intro owning
  obtain ⟨flying,found,_⟩ := (kept.owns other owner same owning).flying
  rw [same,free] at found
  cases found

theorem Kept.launch (kept : Kept digest request start (request caller).requestID board)
    (free : board.inFlight.get? (request caller).requestID = none)
    (unanswered : board.responses.get? (request caller).requestID = none)
    (remembered : ∀ other, board.ledger.get? (request caller).requestID = some other →
      submissionPayloadHash digest other = submissionPayloadHash digest (request caller))
    (channels : Nat) (actor : Option Nat) (observer : Bool) :
    Kept digest request start (request caller).requestID ({ board with
      inFlight := board.inFlight.insert (request caller).requestID
        ⟨submissionPayloadHash digest (request caller),board.channels⟩
      channels := channels }.setCall caller (.owning ⟨.loadEntry,actor,observer⟩)) := by
  have only (other : ι) (owner : Owner) (same : (request other).requestID = (request caller).requestID)
      (owning : Function.update board.calls caller (.owning ⟨.loadEntry,actor,observer⟩) other = .owning owner) :
      other = caller := by
    by_contra others
    rw [Function.update_of_ne others] at owning
    exact kept.nobody free other owner same owning
  refine ⟨kept.cached,kept.remembered,?_,?_,?_,kept.once,kept.changed,?_⟩
  · intro other owner same owning
    obtain rfl := only other owner same owning
    change Function.update board.calls other _ other = _ at owning
    rw [Function.update_self] at owning
    cases owning
    exact ⟨⟨_,OrdMap.get?_insert_self _ _ _,rfl⟩,unanswered,remembered,.of_launched⟩
  · intro one other owner ownerOther same sameOther owning owningOther
    rw [only one owner same owning,only other ownerOther sameOther owningOther]
  · intro held
    rcases kept.source held with old | memory | ⟨other,owner,same,owning,_⟩
    · exact .inl old
    · exact .inr (.inl memory)
    · exact absurd owning (kept.nobody free other owner same)
  · intro other response same ended
    change Function.update board.calls caller _ other = _ at ended
    by_cases own : other = caller
    · subst own
      rw [Function.update_self] at ended
      cases ended
    · rw [Function.update_of_ne own] at ended
      exact kept.answers other response same ended

theorem Kept.begin (kept : Kept digest request start (request caller).requestID board)
    (calling : board.calls caller = .calling) :
    Kept digest request start (request caller).requestID (board.beginSubmit digest caller (request caller)) := by
  have idle (owner : Owner) : board.calls caller ≠ .owning owner := by simp [calling]
  have ends (e : SubmitError) : Kept digest request start (request caller).requestID
      (board.setCall caller (.ended (.failed e))) :=
    kept.setCall idle (fun _ same => by cases same) fun _ same => by cases same
  unfold Flight.beginSubmit
  split_ifs with forged conflict
  · exact ends _
  · exact ends _
  · cases answered : board.responses.get? (request caller).requestID with
    | some response =>
      dsimp only
      rw [if_pos (kept.remembered response answered).1]
      refine kept.setCall idle (fun _ same => by cases same) fun other same => ?_
      cases same
      exact answered
    | none =>
      dsimp only
      cases flying : board.inFlight.get? (request caller).requestID with
      | some entry =>
        dsimp only
        split_ifs
        · exact ends _
        · exact kept.setCall idle (fun _ same => by cases same) fun _ same => by cases same
      | none =>
        refine kept.launch flying answered (fun other found => ?_) _ _ _
        by_contra differs
        exact conflict ⟨other,found,differs⟩

theorem Kept.advance (kept : Kept digest request start (request caller).requestID board)
    (owning : board.calls caller = .owning owner) {stage : Stage}
    (goes : Goes digest start (request caller) board owner.stage (after,stage)) :
    Kept digest request start (request caller).requestID
      (after.setCall caller (.owning { owner with stage := stage })) := by
  obtain ⟨advanced,sound,stays,source⟩ := goes
  have owns := kept.owns caller owner rfl owning
  have only (other : ι) (ownerOther : Owner) (same : (request other).requestID = (request caller).requestID)
      (busy : Function.update after.calls caller (.owning { owner with stage := stage }) other = .owning ownerOther) :
      other = caller := by
    by_contra others
    rw [Function.update_of_ne others,advanced.calls] at busy
    exact others (kept.alone other caller ownerOther owner same rfl busy owning)
  refine ⟨?_,?_,?_,?_,?_,advanced.once,advanced.changed,?_⟩
  · intro req found
    change after.ledger.get? _ = _ at found
    rw [advanced.ledger] at found
    obtain ⟨row,held,hash⟩ := kept.cached req found
    obtain ⟨later,there,same⟩ := advanced.claimed row held
    exact ⟨later,there,same.trans hash⟩
  · intro response found
    change after.responses.get? _ = _ at found
    rw [advanced.responses] at found
    change _ ∧ (after.ledger.get? _).isSome
    rw [advanced.ledger]
    exact kept.remembered response found
  · intro other ownerOther same busy
    obtain rfl := only other ownerOther same busy
    change Function.update after.calls other _ other = _ at busy
    rw [Function.update_self] at busy
    cases busy
    refine ⟨?_,?_,?_,sound.elsewhere rfl Iff.rfl⟩
    · change ∃ flying, after.inFlight.get? _ = _ ∧ _
      rw [advanced.inFlight]
      exact owns.flying
    · change after.responses.get? _ = _
      rw [advanced.responses]
      exact owns.unanswered
    · change ∀ req, after.ledger.get? _ = some req → _
      rw [advanced.ledger]
      exact owns.remembered
  · intro one other ownerOne ownerOther same sameOther busy busyOther
    rw [only one ownerOne same busy,only other ownerOther sameOther busyOther]
  · intro held
    by_cases recorded : stage.recorded = true
    · exact .inr (.inr ⟨caller,_,rfl,Function.update_self _ _ _,recorded⟩)
    · rcases kept.source ((source held).resolve_right recorded) with old | memory | ⟨other,ownerOther,same,busy,noted⟩
      · exact .inl old
      · refine .inr (.inl ?_)
        change (after.ledger.get? _).isSome
        rw [advanced.ledger]
        exact memory
      · obtain rfl := kept.alone other caller ownerOther owner same rfl busy owning
        rw [owning] at busy
        cases busy
        exact absurd (stays noted) recorded
  · intro other response same ended
    change Function.update after.calls caller _ other = _ at ended
    by_cases own : other = caller
    · subst own
      rw [Function.update_self] at ended
      cases ended
    · rw [Function.update_of_ne own,advanced.calls] at ended
      change after.responses.get? _ = _
      rw [advanced.responses]
      exact kept.answers other response same ended

theorem Kept.finish (kept : Kept digest request start (request caller).requestID board)
    {result : Except SubmitError SubmitResponse} {cacheRequest : Bool}
    (owning : board.calls caller = .owning owner) (finishing : owner.stage = .finish result cacheRequest) :
    Kept digest request start (request caller).requestID
      ((board.finishSubmit (request caller) result cacheRequest).setCall caller (.ended (endOf result))) := by
  have owns := kept.owns caller owner rfl owning
  have free (other : ι) (ownerOther : Owner) (same : (request other).requestID = (request caller).requestID) :
      Function.update board.calls caller (.ended (endOf result)) other ≠ .owning ownerOther := by
    by_cases own : other = caller
    · subst own
      simp
    · rw [Function.update_of_ne own]
      exact fun busy => own (kept.alone other caller ownerOther owner same rfl busy owning)
  have recorded : cacheRequest = true → Rows digest board (request caller) := fun caches =>
    owns.sound.recorded (by rw [finishing]; exact caches)
  have ledger (req : SubmitRequest)
      (found : (if cacheRequest then board.ledger.insert (request caller).requestID (request caller)
        else board.ledger).get? (request caller).requestID = some req) :
      ∃ row, board.world.store.ledger.get? (request caller).requestID = some row ∧
        row.payloadHash = submissionPayloadHash digest req := by
    split_ifs at found with caches
    · rw [OrdMap.get?_insert_self] at found
      cases found
      exact recorded caches
    · exact kept.cached req found
  have memory (held : cacheRequest = true ∨ (board.ledger.get? (request caller).requestID).isSome) :
      ((if cacheRequest then board.ledger.insert (request caller).requestID (request caller)
        else board.ledger).get? (request caller).requestID).isSome := by
    split_ifs with caches
    · rw [OrdMap.get?_insert_self]
      rfl
    · exact held.resolve_left caches
  refine ⟨ledger,?_,fun other ownerOther same busy => absurd busy (free other ownerOther same),
    fun other _ ownerOther _ same _ busy _ => absurd busy (free other ownerOther same),?_,kept.once,kept.changed,?_⟩
  · intro response found
    cases result with
    | ok answer =>
      change (board.responses.insert (request caller).requestID answer).get? _ = _ at found
      rw [OrdMap.get?_insert_self] at found
      cases found
      exact ⟨owns.sound.response response (by rw [finishing]; rfl),
        memory (.inl (owns.sound.cached response cacheRequest finishing))⟩
    | error e =>
      obtain ⟨named,held⟩ := kept.remembered response found
      exact ⟨named,memory (.inr held)⟩
  · intro held
    rcases kept.source held with old | before | ⟨other,ownerOther,same,busy,noted⟩
    · exact .inl old
    · exact .inr (.inl (memory (.inr before)))
    · obtain rfl := kept.alone other caller ownerOther owner same rfl busy owning
      rw [owning] at busy
      cases busy
      rw [finishing] at noted
      exact .inr (.inl (memory (.inl noted)))
  · intro other response same ended
    change Function.update board.calls caller _ other = _ at ended
    by_cases own : other = caller
    · subst own
      rw [Function.update_self] at ended
      cases result with
      | ok answer =>
        cases ended
        exact OrdMap.get?_insert_self _ _ _
      | error e => cases ended
    · rw [Function.update_of_ne own] at ended
      have answered := kept.answers other response same ended
      rw [owns.unanswered] at answered
      cases answered

theorem proceed_finish {result : Except SubmitError SubmitResponse} {cacheRequest : Bool} (req : SubmitRequest)
    (observed : Bool) (finishing : owner.stage = .finish result cacheRequest) :
    board.proceed digest caller req owner observed =
      (board.finishSubmit req result cacheRequest).setCall caller (.ended (endOf result)) := by
  unfold Flight.proceed
  rw [finishing]

theorem proceed_stage (req : SubmitRequest) (observed : Bool)
    (unfinished : ∀ result cacheRequest, owner.stage ≠ .finish result cacheRequest) :
    board.proceed digest caller req owner observed = (board.stage digest req owner observed).1.setCall caller
      (.owning { owner with stage := (board.stage digest req owner observed).2 }) := by
  obtain ⟨stage,actor,observer⟩ := owner
  cases stage with
  | finish result cacheRequest => exact absurd rfl (unfinished result cacheRequest)
  | _ => rfl

theorem finish_or_not (stage : Stage) : (∃ result cacheRequest, stage = .finish result cacheRequest) ∨
    ∀ result cacheRequest, stage ≠ .finish result cacheRequest := by
  cases stage with
  | finish result cacheRequest => exact .inl ⟨result,cacheRequest,rfl⟩
  | _ => exact .inr fun _ _ same => by cases same

theorem Kept.proceed (kept : Kept digest request start (request caller).requestID board)
    (named : Named board.objects board.world) (observed : Bool) (owning : board.calls caller = .owning owner) :
    Kept digest request start (request caller).requestID
      (board.proceed digest caller (request caller) owner observed) := by
  rcases finish_or_not owner.stage with ⟨result,cacheRequest,finishing⟩ | unfinished
  · rw [proceed_finish _ observed finishing]
    exact kept.finish owning finishing
  · rw [proceed_stage _ observed unfinished]
    exact kept.advance owning (stage_goes kept named observed owning unfinished)

/-! Requests of another id, and the rest of the process. -/

theorem begin_other (board : Flight ι) (differ : (request caller).requestID ≠ id) :
    Elsewhere request id board (board.beginSubmit digest caller (request caller)) := by
  have calls (state : CallState) := setCall_other board state differ
  unfold Flight.beginSubmit
  split_ifs
  · exact calls _
  · exact calls _
  · split
    · split_ifs
      · exact calls _
      · exact calls _
    · split
      · split_ifs
        · exact calls _
        · exact calls _
      · obtain ⟨_,_,_,_,_,_,same⟩ := calls (.owning ⟨.loadEntry,board.actors.get? (request caller).tableID,board.observer⟩)
        exact ⟨rfl,rfl,OrdMap.get?_insert_of_ne _ _ (Ne.symm differ),rfl,fun held => held,rfl,same⟩

theorem begin_named (named : Named board.objects board.world) (caller : ι) (req : SubmitRequest) :
    Named (board.beginSubmit digest caller req).objects (board.beginSubmit digest caller req).world := by
  unfold Flight.beginSubmit
  split_ifs
  · exact named
  · exact named
  · split
    · split_ifs
      · exact named
      · exact named
    · split
      · split_ifs
        · exact named
        · exact named
      · exact named

theorem finish_other (board : Flight ι) (result : Except SubmitError SubmitResponse) (cacheRequest : Bool)
    (state : CallState) (differ : (request caller).requestID ≠ id) :
    Elsewhere request id board ((board.finishSubmit (request caller) result cacheRequest).setCall caller state) := by
  have calls := (setCall_other board state differ).calls
  refine ⟨?_,?_,(OrdMap.get?_erase _ _ _).trans (if_neg (Ne.symm differ)),rfl,fun held => held,rfl,calls⟩
  · cases result with
    | ok response => exact OrdMap.get?_insert_of_ne _ _ (Ne.symm differ)
    | error e => rfl
  · change (if cacheRequest then board.ledger.insert (request caller).requestID (request caller)
      else board.ledger).get? id = _
    split_ifs
    · exact OrdMap.get?_insert_of_ne _ _ (Ne.symm differ)
    · rfl

theorem advance_other (advanced : Advanced (request caller) before after) (state : CallState)
    (differ : (request caller).requestID ≠ id) : Elsewhere request id before (after.setCall caller state) := by
  obtain ⟨rows,changes⟩ := advanced.elsewhere id (Ne.symm differ)
  have calls := (setCall_other after state differ).calls
  exact ⟨congrArg (fun responses => responses.get? id) advanced.responses,
    congrArg (fun ledger => ledger.get? id) advanced.ledger,congrArg (fun inFlight => inFlight.get? id) advanced.inFlight,
    rows,advanced.kept id,changes,fun other same => (calls other same).trans (congrFun advanced.calls other)⟩

theorem runtime_other (board : Flight ι) (call : RuntimeCall) : Elsewhere request id board (board.runtime call) := by
  cases call with
  | handle actor envelope =>
    have handled := handle_handled (board.objects actor) envelope board.world
    exact ⟨rfl,rfl,rfl,congrArg (fun ledger => ledger.get? id) handled.ledger,handled.kept id,rfl,fun _ _ => rfl⟩
  | openPhase actor phase =>
    obtain ⟨ledger,actions,_⟩ := openPhase_handled (board.objects actor) phase board.world
    refine ⟨rfl,rfl,rfl,congrArg (fun ledger => ledger.get? id) ledger,fun held => ?_,rfl,fun _ _ => rfl⟩
    exact (congrArg (fun actions => (actions.get? id).isSome) actions).trans held
  | registerActor tableID state streamSeq => exact ⟨rfl,rfl,rfl,rfl,fun held => held,rfl,fun _ _ => rfl⟩
  | removeActor tableID => exact ⟨rfl,rfl,rfl,rfl,fun held => held,rfl,fun _ _ => rfl⟩
  | setObserver present => exact ⟨rfl,rfl,rfl,rfl,fun held => held,rfl,fun _ _ => rfl⟩
  | tick now => exact ⟨rfl,rfl,rfl,rfl,fun held => held,rfl,fun _ _ => rfl⟩

theorem runtime_named (named : Named board.objects board.world) (call : RuntimeCall) :
    Named (board.runtime call).objects (board.runtime call).world := by
  cases call with
  | handle actor envelope =>
    have handled := handle_handled (board.objects actor) envelope board.world
    exact named.update (handled.calm named.calm) handled.records handled.results
  | openPhase actor phase =>
    obtain ⟨_,actions,results,calm⟩ := openPhase_handled (board.objects actor) phase board.world
    exact named.update (calm named.calm) (fun id record found => .inl (actions ▸ found))
      fun id result found => .inl (results ▸ found)
  | registerActor tableID state streamSeq =>
    exact named.update named.calm (fun id record found => .inl found) fun id result found => by
      change OrdMap.empty.get? id = some result at found
      simp at found
  | removeActor tableID => exact named
  | setObserver present => exact named
  | tick now => exact ⟨named.records,named.results,named.calm⟩

theorem step_kept (step : FlightStep digest request before after) (named : Named before.objects before.world)
    (kept : ∀ id, Kept digest request start id before) :
    Named after.objects after.world ∧ ∀ id, Kept digest request start id after := by
  have idle {caller : ι} {done : Nat} (waiting : before.calls caller = .waiting done) (owner : Owner) :
      before.calls caller ≠ .owning owner := by simp [waiting]
  cases step with
  | begin caller calling =>
    refine ⟨begin_named named caller _,fun id => ?_⟩
    by_cases own : (request caller).requestID = id
    · subst own
      exact (kept _).begin calling
    · exact (kept id).elsewhere (begin_other before own)
  | wake caller done waiting closed =>
    refine ⟨named,fun id => ?_⟩
    by_cases own : (request caller).requestID = id
    · subst own
      exact (kept _).setCall (idle waiting) (fun _ same => by cases same) fun _ same => by cases same
    · exact (kept id).elsewhere (setCall_other before _ own)
  | cancel caller done waiting =>
    refine ⟨named,fun id => ?_⟩
    by_cases own : (request caller).requestID = id
    · subst own
      exact (kept _).setCall (idle waiting) (fun _ same => by cases same) fun _ same => by cases same
    · exact (kept id).elsewhere (setCall_other before _ own)
  | proceed caller owner observed owning =>
    rcases finish_or_not owner.stage with ⟨result,cacheRequest,finishing⟩ | unfinished
    · refine ⟨by rw [proceed_finish _ observed finishing]; exact named,fun id => ?_⟩
      by_cases own : (request caller).requestID = id
      · subst own
        exact (kept _).proceed named observed owning
      · rw [proceed_finish _ observed finishing]
        exact (kept id).elsewhere (finish_other before result cacheRequest _ own)
    · have advanced := (stage_goes (kept _) named observed owning unfinished).advanced
      refine ⟨by rw [proceed_stage _ observed unfinished]; exact advanced.named,fun id => ?_⟩
      by_cases own : (request caller).requestID = id
      · subst own
        exact (kept _).proceed named observed owning
      · rw [proceed_stage _ observed unfinished]
        exact (kept id).elsewhere (advance_other advanced _ own)
  | runtime call => exact ⟨runtime_named named call,fun id => (kept id).elsewhere (runtime_other before call)⟩

theorem stage_calls (req : SubmitRequest) (owner : Owner) (observed : Bool) :
    (board.stage digest req owner observed).1.calls = board.calls := by
  obtain ⟨stage,actor,observer⟩ := owner
  cases stage with
  | loadEntry =>
    unfold Flight.stage
    dsimp only
    split <;> rfl
  | record command => cases actor <;> rfl
  | handle command object =>
    change (board.handleRequest req command object).1.calls = _
    unfold Flight.handleRequest
    dsimp only
    split_ifs <;> rfl
  | _ => rfl

theorem begin_calls (board : Flight ι) (other : ι) (req : SubmitRequest) (away : caller ≠ other) :
    (board.beginSubmit digest other req).calls caller = board.calls caller := by
  have same (between : Flight ι) (state : CallState) (calls : between.calls = board.calls) :
      (between.setCall other state).calls caller = board.calls caller :=
    (Function.update_of_ne away _ _).trans (congrFun calls caller)
  unfold Flight.beginSubmit
  split_ifs
  · exact same _ _ rfl
  · exact same _ _ rfl
  · split
    · split_ifs
      · exact same _ _ rfl
      · exact same _ _ rfl
    · split
      · split_ifs
        · exact same _ _ rfl
        · exact same _ _ rfl
      · exact same _ _ rfl

theorem step_ended (step : FlightStep digest request before after) (ended : before.calls caller = .ended how)
    : after.calls caller = .ended how := by
  have others {other : ι} {state : CallState} {between : Flight ι} (differ : before.calls other ≠ .ended how)
      (same : between.calls = before.calls) : (between.setCall other state).calls caller = .ended how := by
    have away : caller ≠ other := fun own => differ (own ▸ ended)
    change Function.update between.calls other state caller = _
    rw [Function.update_of_ne away,same]
    exact ended
  cases step with
  | begin other calling =>
    have away : caller ≠ other := by
      rintro rfl
      rw [ended] at calling
      cases calling
    exact (begin_calls before other (request other) away).trans ended
  | wake other done waiting closed => exact others (by simp [waiting]) rfl
  | cancel other done waiting => exact others (by simp [waiting]) rfl
  | proceed other owner observed owning =>
    have differ : before.calls other ≠ .ended how := by simp [owning]
    rcases finish_or_not owner.stage with ⟨result,cacheRequest,finishing⟩ | unfinished
    · rw [proceed_finish _ observed finishing]
      exact others differ rfl
    · rw [proceed_stage _ observed unfinished]
      exact others differ (stage_calls _ _ _)
  | runtime call => cases call <;> exact ended

theorem step_rows (step : FlightStep digest request before after) (named : Named before.objects before.world)
    (kept : ∀ id, Kept digest request start id before) {row : SubmissionLedger}
    (held : before.world.store.ledger.get? id = some row) :
    ∃ later, after.world.store.ledger.get? id = some later ∧ later.payloadHash = row.payloadHash := by
  have same {between : Flight ι} (rows : between.world.store.ledger.get? id = before.world.store.ledger.get? id) :
      ∃ later, between.world.store.ledger.get? id = some later ∧ later.payloadHash = row.payloadHash :=
    ⟨row,rows.trans held,rfl⟩
  cases step with
  | begin caller calling =>
    apply same
    unfold Flight.beginSubmit
    split_ifs
    · rfl
    · rfl
    · split
      · split_ifs <;> rfl
      · split
        · split_ifs <;> rfl
        · rfl
  | wake caller done waiting closed => exact same rfl
  | cancel caller done waiting => exact same rfl
  | proceed caller owner observed owning =>
    rcases finish_or_not owner.stage with ⟨result,cacheRequest,finishing⟩ | unfinished
    · rw [proceed_finish _ observed finishing]
      exact same rfl
    · have advanced := (stage_goes (kept _) named observed owning unfinished).advanced
      rw [proceed_stage _ observed unfinished]
      by_cases own : id = (request caller).requestID
      · subst own
        exact advanced.claimed row held
      · exact same (advanced.elsewhere id own).1
  | runtime call => exact same (@runtime_other _ _ request _ before call).rows

/-- How a call can end whose request another submission has on record. -/
def Foreclosed (start : Store) (req : SubmitRequest) (how : CallEnd) : Prop :=
  how = .failed .requestPayloadConflict ∨ how = .cancelled ∨
    how = .failed .invalidSignature ∧ validSignature req.minerID req.signature = false ∨
      how = .failed .badRequest ∧ toCommand req = none ∧ (start.ledger.get? req.requestID).isSome

theorem begin_foreclosed (kept : Kept digest request start (request caller).requestID board)
    (foreign : ¬Unclaimed digest board (request caller))
    (ended : (board.beginSubmit digest caller (request caller)).calls caller = .ended how) :
    Foreclosed start (request caller) how := by
  have ends {state : CallState} {between : Flight ι} (same : (between.setCall caller state).calls caller = .ended how) :
      state = .ended how := (setCall_own between caller state).symm.trans same
  unfold Flight.beginSubmit at ended
  split_ifs at ended with forged conflict
  · cases ends ended
    exact .inr (.inr (.inl ⟨rfl,forged⟩))
  · cases ends ended
    exact .inl rfl
  · split at ended
    · rename_i response answered
      obtain ⟨req,found⟩ := Option.isSome_iff_exists.mp (kept.remembered response answered).2
      have hash : submissionPayloadHash digest req = submissionPayloadHash digest (request caller) := by
        by_contra differs
        exact conflict ⟨req,found,differs⟩
      obtain ⟨row,held,own⟩ := kept.cached req found
      exact absurd (Rows.claims ⟨row,held,own.trans hash⟩) foreign
    · split at ended
      · split_ifs at ended
        · cases ends ended
          exact .inl rfl
        · cases ends ended
      · cases ends ended

theorem finish_foreclosed (kept : Kept digest request start (request caller).requestID board)
    (owning : board.calls caller = .owning owner) {result : Except SubmitError SubmitResponse} {cacheRequest : Bool}
    (finishing : owner.stage = .finish result cacheRequest) (foreign : ¬Unclaimed digest board (request caller)) :
    Foreclosed start (request caller) (endOf result) := by
  have sound := (kept.owns caller owner rfl owning).sound
  have unrecorded : cacheRequest = false := by
    rw [Bool.eq_false_iff]
    intro caches
    exact foreign (sound.recorded (by rw [finishing]; exact caches)).claims
  cases result with
  | ok response =>
    rw [sound.cached response cacheRequest finishing] at unrecorded
    cases unrecorded
  | error e =>
    rw [unrecorded] at finishing
    rcases sound.refused e finishing foreign with rfl | ⟨rfl,blank,old⟩
    · exact .inl rfl
    · exact .inr (.inr (.inr ⟨rfl,blank,old⟩))

theorem step_foreclosed (step : FlightStep digest request before after)
    (kept : ∀ id, Kept digest request start id before) (foreign : ¬Unclaimed digest before (request caller))
    (open_ : ∀ how, before.calls caller ≠ .ended how) (ended : after.calls caller = .ended how) :
    Foreclosed start (request caller) how := by
  have others {other : ι} {state : CallState} {between : Flight ι} (away : caller ≠ other)
      (same : between.calls = before.calls) (set : (between.setCall other state).calls caller = .ended how) :
      Foreclosed start (request caller) how := by
    change Function.update between.calls other state caller = _ at set
    rw [Function.update_of_ne away,same] at set
    exact absurd set (open_ how)
  have ends {state : CallState} {between : Flight ι} (same : (between.setCall caller state).calls caller = .ended how) :
      state = .ended how := (setCall_own between caller state).symm.trans same
  cases step with
  | begin other calling =>
    by_cases own : other = caller
    · subst own
      exact begin_foreclosed (kept _) foreign ended
    · have away : caller ≠ other := fun same => own same.symm
      have stays : (before.beginSubmit digest other (request other)).calls caller = before.calls caller :=
        begin_calls before other (request other) away
      rw [stays] at ended
      exact absurd ended (open_ how)
  | wake other done waiting closed =>
    by_cases own : other = caller
    · subst own
      cases ends ended
    · exact others (fun same => own same.symm) rfl ended
  | cancel other done waiting =>
    by_cases own : other = caller
    · subst own
      cases ends ended
      exact .inr (.inl rfl)
    · exact others (fun same => own same.symm) rfl ended
  | proceed other owner observed owning =>
    rcases finish_or_not owner.stage with ⟨result,cacheRequest,finishing⟩ | unfinished
    · rw [proceed_finish _ observed finishing] at ended
      by_cases own : other = caller
      · subst own
        cases ends ended
        exact finish_foreclosed (kept _) owning finishing foreign
      · exact others (fun same => own same.symm) rfl ended
    · rw [proceed_stage _ observed unfinished] at ended
      by_cases own : other = caller
      · subst own
        cases ends ended
      · exact others (fun same => own same.symm) (stage_calls _ _ _) ended
  | runtime call => cases call <;> exact absurd ended (open_ how)

end Steps

structure Opening {ι : Type} (board : Flight ι) : Prop where
  responses : board.responses = OrdMap.empty
  ledger : board.ledger = OrdMap.empty
  inFlight : board.inFlight = OrdMap.empty
  changes : board.changes = []
  calls : ∀ caller, board.calls caller = .calling
  named : Named board.objects board.world

def Recorded (digest : SubmissionPayload → String) {ι : Type} (board : Flight ι) (requestID : String)
    (payload : SubmissionPayload) : Prop :=
  ∃ row, board.world.store.ledger.get? requestID = some row ∧ row.payloadHash = digest payload

section Runs
variable {ι : Type} [DecidableEq ι] {digest : SubmissionPayload → String} {request : ι → SubmitRequest}
  {start board later : Flight ι} {caller : ι}

theorem opening_kept (opening : Opening start) (id : String) : Kept digest request start.world.store id start where
  cached req found := by simp [opening.ledger] at found
  remembered response found := by simp [opening.responses] at found
  owns caller owner _ owning := by simp [opening.calls] at owning
  alone caller other owner ownerOther _ _ owning := by simp [opening.calls] at owning
  source held := .inl held
  once := by simp [opening.changes]
  changed member := by simp [opening.changes] at member
  answers caller response _ ended := by simp [opening.calls] at ended

theorem run_kept (opening : Opening start) (run : ReflTransGen (FlightStep digest request) start board) :
    Named board.objects board.world ∧ ∀ id, Kept digest request start.world.store id board := by
  induction run with
  | refl => exact ⟨opening.named,opening_kept opening⟩
  | tail _ step ih => exact step_kept step ih.1 ih.2

theorem run_foreclosed (opening : Opening start) (run : ReflTransGen (FlightStep digest request) start board)
    (foreign : ¬Unclaimed digest board (request caller)) (open_ : ∀ how, board.calls caller ≠ .ended how)
    (onward : ReflTransGen (FlightStep digest request) board later) :
    ¬Unclaimed digest later (request caller) ∧
      ∀ how, later.calls caller = .ended how → Foreclosed start.world.store (request caller) how := by
  induction onward with
  | refl => exact ⟨foreign,fun how ended => absurd ended (open_ how)⟩
  | tail steps step ih =>
    rename_i middle after
    obtain ⟨named,kept⟩ := run_kept opening (run.trans steps)
    constructor
    · intro unclaimed
      refine ih.1 fun row held => ?_
      obtain ⟨next,there,same⟩ := step_rows step named kept held
      exact same.symm.trans (unclaimed next there)
    · intro how ended
      by_cases before : ∃ how, middle.calls caller = .ended how
      · obtain ⟨earlier,was⟩ := before
        have same := (step_ended step was).symm.trans ended
        cases same
        exact ih.2 how was
      · exact step_foreclosed step kept ih.1 (fun how was => before ⟨how,was⟩) ended

/-- Among the calls that share a request id one at most moves a table, the answers agree, and once a submission is
on record no call with another one gets through. -/
theorem concurrent_submits {used : Set SubmissionPayload} (distinct : Set.InjOn digest used)
    (asked : ∀ caller, (request caller).payload ∈ used) (opening : Opening start)
    (run : ReflTransGen (FlightStep digest request) start board) :
    (∀ requestID, board.changes.count requestID ≤ 1) ∧
      (∀ caller other response answer, (request caller).requestID = (request other).requestID →
        board.calls caller = .ended (.answered response) → board.calls other = .ended (.answered answer) →
        response = answer) ∧
      ∀ payload ∈ used, ∀ caller later how, Recorded digest board (request caller).requestID payload →
        (request caller).payload ≠ payload → (∀ how, board.calls caller ≠ .ended how) →
        ReflTransGen (FlightStep digest request) board later → later.calls caller = .ended how →
        Foreclosed start.world.store (request caller) how := by
  obtain ⟨_,kept⟩ := run_kept opening run
  refine ⟨fun requestID => (kept requestID).once,?_,?_⟩
  · intro caller other response answer same ended endedOther
    have first := (kept _).answers caller response same ended
    have second := (kept _).answers other answer rfl endedOther
    exact Option.some.inj (first.symm.trans second)
  · intro payload inUse caller later how recorded differs open_ onward ended
    obtain ⟨row,held,hash⟩ := recorded
    have foreign : ¬Unclaimed digest board (request caller) := fun unclaimed =>
      differs (distinct (asked caller) inUse ((unclaimed row held).symm.trans hash))
    exact (run_foreclosed opening run foreign open_ onward).2 how ended

/-! The table of two: one call records a request, others come with another submission for it. -/

def Flight.onward (digest : SubmissionPayload → String) (board : Flight ι) (caller : ι) (req : SubmitRequest) :
    Flight ι :=
  match board.calls caller with
  | .owning owner => board.proceed digest caller req owner true
  | _ => board

theorem onward_run (board : Flight ι) (caller : ι) :
    ReflTransGen (FlightStep digest request) board (board.onward digest caller (request caller)) := by
  unfold Flight.onward
  split
  · exact .single (.proceed board caller _ true (by assumption))
  · exact .refl

theorem begin_run (calling : board.calls caller = .calling) :
    ReflTransGen (FlightStep digest request) board (board.beginSubmit digest caller (request caller)) :=
  .single (.begin board caller calling)

end Runs

def strangeRequest : SubmitRequest := { signalRequest with tableID := "tbl:none" }

def flightRequest : Fin 6 → SubmitRequest
  | 0 => signalRequest
  | 3 => { strangeRequest with signature := "" }
  | 4 => { strangeRequest with requestID := "req:2", actionType := "" }
  | _ => strangeRequest

def signalFlight : Flight (Fin 6) where
  actors := OrdMap.empty.insert signalRequest.tableID 0
  objects := fun _ => signalActor
  allocated := 1
  world := { store := { ledger := OrdMap.empty.insert "req:2" {
    requestID := "req:2"
    tournamentID := signalRequest.tournamentID
    tableID := signalRequest.tableID
    seatID := seatIDForRequest signalRequest
    minerID := signalRequest.minerID
    expectedStateSeq := signalRequest.expectedStateSeq
    validationStatus := .received
    payloadHash := joined signalRequest.payload } } }

theorem signalFlight_opening : Opening signalFlight where
  responses := rfl
  ledger := rfl
  inFlight := rfl
  changes := rfl
  calls _ := rfl
  named := ⟨fun id record found => by simp [signalFlight] at found,
    fun actor id result found => by simp [signalFlight,signalActor,newActor] at found,rfl⟩

def strangeFlight : Flight (Fin 6) :=
  let first := (signalFlight.beginSubmit joined 1 (flightRequest 1)).beginSubmit joined 2 (flightRequest 2)
  ((first.onward joined 1 (flightRequest 1)).onward joined 1 (flightRequest 1)).onward joined 1 (flightRequest 1)

def recordedFlight : Flight (Fin 6) :=
  ((strangeFlight.beginSubmit joined 0 (flightRequest 0)).onward joined 0 (flightRequest 0)).onward joined 0
    (flightRequest 0)

theorem recordedFlight_run : ReflTransGen (FlightStep joined flightRequest) signalFlight recordedFlight :=
  (begin_run rfl).trans <| (begin_run (by decide +kernel)).trans <| (onward_run _ 1).trans <| (onward_run _ 1).trans <|
    (onward_run _ 1).trans <| (begin_run (by decide +kernel)).trans <| (onward_run _ 0).trans (onward_run _ 0)

theorem recordedFlight_recorded : Recorded joined recordedFlight signalRequest.requestID signalRequest.payload := by
  have held : (recordedFlight.world.store.ledger.get? signalRequest.requestID).map SubmissionLedger.payloadHash =
      some (joined signalRequest.payload) := by decide +kernel
  obtain ⟨row,found,hash⟩ := Option.map_eq_some_iff.mp held
  exact ⟨row,found,hash⟩

theorem flightRequest_distinct : Set.InjOn joined (Set.range fun caller => (flightRequest caller).payload) := by
  have decided : ∀ one other : Fin 6, joined (flightRequest one).payload = joined (flightRequest other).payload →
      (flightRequest one).payload = (flightRequest other).payload := by decide +kernel
  rintro _ ⟨one,rfl⟩ _ ⟨other,rfl⟩ same
  exact decided one other same

/-- A call with the strange submission that comes after the record is refused. -/
theorem concurrent_submits_signal : (∀ requestID, recordedFlight.changes.count requestID ≤ 1) ∧
    Foreclosed signalFlight.world.store strangeRequest (.failed .requestPayloadConflict) := by
  have runs := concurrent_submits flightRequest_distinct (fun caller => ⟨caller,rfl⟩) signalFlight_opening
    recordedFlight_run
  refine ⟨runs.1,?_⟩
  have calling : recordedFlight.calls 5 = .calling := by decide +kernel
  have ended : (recordedFlight.beginSubmit joined 5 (flightRequest 5)).calls 5 =
      .ended (.failed .requestPayloadConflict) := by decide +kernel
  exact runs.2.2 signalRequest.payload ⟨0,rfl⟩ 5 _ _ recordedFlight_recorded (by decide +kernel)
    (fun how was => by rw [calling] at was; cases was) (begin_run calling) ended

/-- A call that is badly signed, that gives up waiting, or that is blank beside a record from before the process is
refused in another way. -/
theorem foreclosed_otherwise : Opening signalFlight ∧
    ReflTransGen (FlightStep joined flightRequest) signalFlight recordedFlight ∧
    Recorded joined recordedFlight signalRequest.requestID signalRequest.payload ∧
    strangeRequest.payload ≠ signalRequest.payload ∧
    (recordedFlight.calls 3 = .calling ∧ ∃ later, ReflTransGen (FlightStep joined flightRequest) recordedFlight later ∧
      later.calls 3 = .ended (.failed .invalidSignature)) ∧
    (recordedFlight.calls 2 = .waiting 0 ∧ ∃ later, ReflTransGen (FlightStep joined flightRequest) recordedFlight later ∧
      later.calls 2 = .ended .cancelled) ∧
    (Recorded joined signalFlight "req:2" signalRequest.payload ∧ (flightRequest 4).payload ≠ signalRequest.payload) ∧
    ∃ later, ReflTransGen (FlightStep joined flightRequest) signalFlight later ∧
      later.calls 4 = .ended (.failed .badRequest) := by
  have calling : recordedFlight.calls 3 = .calling := by decide +kernel
  have waiting : recordedFlight.calls 2 = .waiting 0 := by decide +kernel
  have blank : signalFlight.calls 4 = .calling := rfl
  refine ⟨signalFlight_opening,recordedFlight_run,recordedFlight_recorded,by decide +kernel,
    ⟨calling,_,begin_run calling,by decide +kernel⟩,⟨waiting,_,.single (.cancel _ 2 0 waiting),by decide +kernel⟩,
    ⟨⟨_,OrdMap.get?_insert_self _ _ _,rfl⟩,by decide +kernel⟩,_,
    (begin_run blank).trans ((onward_run _ 4).trans (onward_run _ 4)),?_⟩
  decide +kernel

end Clawchain.Arena.Submit
