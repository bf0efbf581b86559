import Clawchain.Arena.Table.Actor
import Mathlib.Data.List.Induction

/-! Exactly-once application. Whatever the calls and whatever the store does to
them, the actor's table is the fold of the reducer over the commands it
accepted, and its number counts them. -/
namespace Clawchain.Arena.Table
open Clawchain.Lib

theorem handle_cases (actor : Actor) (envelope : CommandEnvelope) (world : World) :
    (∃ result, actor.results.get? envelope.requestID = some result ∧
      actor.handle envelope world = (.ok result,actor,world)) ∨
    (actor.results.get? envelope.requestID = none ∧ ∃ e after, actor.handle envelope world = (.error e,actor,after) ∧
      (after = world ∨ envelope.expectedStateSeq = actor.state.stateSeq ∧ ∃ next events failure,
        e = .store failure ∧ apply actor.state.table envelope.command = .ok (next,events) ∧
        persist actor envelope next events world = (.error failure,after))) ∨
    (actor.results.get? envelope.requestID = none ∧ envelope.expectedStateSeq = actor.state.stateSeq ∧
      ∃ next events after, apply actor.state.table envelope.command = .ok (next,events) ∧
        persist actor envelope next events world = (.ok (),after) ∧
        actor.handle envelope world =
          (.ok actor.nextResult,actor.committed envelope.requestID next events,after)) := by
  unfold Actor.handle
  cases cached : actor.results.get? envelope.requestID with
  | some result => exact .inl ⟨result,rfl,rfl⟩
  | none =>
    by_cases current : envelope.expectedStateSeq = actor.state.stateSeq
    · simp only [current,ne_eq,not_true_eq_false,if_false]
      cases outcome : apply actor.state.table envelope.command with
      | error e => exact .inr (.inl ⟨trivial,_,world,rfl,.inl rfl⟩)
      | ok result =>
        obtain ⟨next,events⟩ := result
        cases stored : persist actor envelope next events world with
        | mk verdict after =>
          cases verdict with
          | error failure =>
            refine .inr (.inl ⟨trivial,.store failure,after,?_,.inr ⟨trivial,next,events,failure,rfl,rfl,stored⟩⟩)
            simp only [stored]
          | ok done =>
            refine .inr (.inr ⟨trivial,trivial,next,events,after,rfl,stored,?_⟩)
            simp only [stored]
    · exact .inr (.inl ⟨rfl,_,world,if_pos current,.inl rfl⟩)

/-- One call, with the store as this call finds it and treats it. -/
structure Call where
  envelope : CommandEnvelope
  world : World

abbrev Outcomes := List (CommandEnvelope × Except HandleError Result)

def handleAll (actor : Actor) (calls : List Call) : Actor × Outcomes :=
  calls.foldl (fun run call =>
    let outcome := run.1.handle call.envelope call.world
    (outcome.2.1,run.2 ++ [(call.envelope,outcome.1)])) (actor,[])

def accept (accepted : List CommandEnvelope) : CommandEnvelope × Except HandleError Result → List CommandEnvelope
  | (envelope,.ok _) =>
    if envelope.requestID ∈ accepted.map CommandEnvelope.requestID then accepted else accepted ++ [envelope]
  | (_,.error _) => accepted

def acceptedOf (outcomes : Outcomes) : List CommandEnvelope := outcomes.foldl accept []

def applyAll (table : State) (commands : List Command) : Except ApplyError State :=
  commands.foldlM (fun table command => (apply table command).map Prod.fst) table

theorem handleAll_snoc (actor : Actor) (calls : List Call) (call : Call) :
    handleAll actor (calls ++ [call]) =
      let run := handleAll actor calls
      let outcome := run.1.handle call.envelope call.world
      (outcome.2.1,run.2 ++ [(call.envelope,outcome.1)]) := by
  unfold handleAll
  rw [List.foldl_append]
  rfl

theorem acceptedOf_snoc (outcomes : Outcomes) (last : CommandEnvelope × Except HandleError Result) :
    acceptedOf (outcomes ++ [last]) = accept (acceptedOf outcomes) last := by
  unfold acceptedOf
  rw [List.foldl_append]
  rfl

theorem acceptedOf_succeeded (outcomes : Outcomes) :
    ∀ envelope ∈ acceptedOf outcomes, ∃ result, (envelope,.ok result) ∈ outcomes := by
  induction outcomes using List.reverseRecOn with
  | nil => simp [acceptedOf]
  | append_singleton outcomes last ih =>
    intro envelope member
    rw [acceptedOf_snoc] at member
    have old (earlier : envelope ∈ acceptedOf outcomes) : ∃ result, (envelope,.ok result) ∈ outcomes ++ [last] := by
      obtain ⟨result,inside⟩ := ih envelope earlier
      exact ⟨result,List.mem_append_left _ inside⟩
    obtain ⟨called,outcome⟩ := last
    cases outcome with
    | error e => exact old member
    | ok result =>
      rw [accept] at member
      split_ifs at member
      · exact old member
      · rcases List.mem_append.mp member with earlier | new
        · exact old earlier
        · cases List.mem_singleton.mp new
          exact ⟨result,List.mem_append_right _ List.mem_cons_self⟩

theorem applyAll_snoc (table middle : State) (commands : List Command) (command : Command)
    (reached : applyAll table commands = .ok middle) :
    applyAll table (commands ++ [command]) = (apply middle command).map Prod.fst := by
  unfold applyAll at reached ⊢
  rw [List.foldlM_append,reached]
  simp [bind,Except.bind]
  cases apply middle command <;> rfl

structure Run (initial : ActorState) (actor : Actor) (past : Outcomes) : Prop where
  folded : applyAll initial.table ((acceptedOf past).map CommandEnvelope.command) = .ok actor.state.table
  numbered : actor.state.stateSeq = initial.stateSeq + (acceptedOf past).length
  cached : ∀ requestID, (∃ result, actor.results.get? requestID = some result) ↔
    requestID ∈ (acceptedOf past).map CommandEnvelope.requestID
  replayed : ∀ envelope result, (envelope,.ok result) ∈ past →
    actor.results.get? envelope.requestID = some result
  current : ∀ envelope ∈ acceptedOf past, envelope.expectedStateSeq < actor.state.stateSeq
  increasing : (acceptedOf past).Pairwise fun a b => a.expectedStateSeq < b.expectedStateSeq

section Step
variable {initial : ActorState} {actor : Actor} {past : Outcomes}

theorem Run.replay (run : Run initial actor past) (envelope : CommandEnvelope) {result : Result}
    (hit : actor.results.get? envelope.requestID = some result) :
    Run initial actor (past ++ [(envelope,.ok result)]) := by
  have known := (run.cached envelope.requestID).mp ⟨result,hit⟩
  have same : acceptedOf (past ++ [(envelope,.ok result)]) = acceptedOf past := by
    rw [acceptedOf_snoc,accept,if_pos known]
  refine ⟨?_,?_,?_,?_,?_,?_⟩
  · rw [same]; exact run.folded
  · rw [same]; exact run.numbered
  · rw [same]; exact run.cached
  · intro other found member
    rcases List.mem_append.mp member with old | new
    · exact run.replayed other found old
    · cases List.mem_singleton.mp new
      exact hit
  · rw [same]; exact run.current
  · rw [same]; exact run.increasing

theorem Run.refuse (run : Run initial actor past) (envelope : CommandEnvelope) (e : HandleError) :
    Run initial actor (past ++ [(envelope,.error e)]) := by
  have same : acceptedOf (past ++ [(envelope,.error e)]) = acceptedOf past := by rw [acceptedOf_snoc,accept]
  refine ⟨?_,?_,?_,?_,?_,?_⟩
  · rw [same]; exact run.folded
  · rw [same]; exact run.numbered
  · rw [same]; exact run.cached
  · intro other found member
    rcases List.mem_append.mp member with old | new
    · exact run.replayed other found old
    · cases List.mem_singleton.mp new
  · rw [same]; exact run.current
  · rw [same]; exact run.increasing

theorem Run.commit (run : Run initial actor past) (envelope : CommandEnvelope) {next : State} {events : List Event}
    (miss : actor.results.get? envelope.requestID = none)
    (current : envelope.expectedStateSeq = actor.state.stateSeq)
    (applied : apply actor.state.table envelope.command = .ok (next,events)) :
    Run initial (actor.committed envelope.requestID next events) (past ++ [(envelope,.ok actor.nextResult)]) := by
  have fresh : envelope.requestID ∉ (acceptedOf past).map CommandEnvelope.requestID := by
    rw [← run.cached]
    rintro ⟨result,found⟩
    rw [miss] at found
    contradiction
  have more : acceptedOf (past ++ [(envelope,.ok actor.nextResult)]) = acceptedOf past ++ [envelope] := by
    rw [acceptedOf_snoc,accept,if_neg fresh]
  have counted := run.numbered
  refine ⟨?_,?_,?_,?_,?_,?_⟩
  · rw [more,List.map_append]
    change applyAll _ (_ ++ [envelope.command]) = _
    rw [applyAll_snoc _ _ _ _ run.folded,applied]
    rfl
  · rw [more,List.length_append]
    change actor.state.stateSeq + 1 = _
    push_cast
    simp only [List.length_singleton]
    omega
  · intro requestID
    rw [more,List.map_append,List.mem_append]
    change (∃ result, (actor.results.insert envelope.requestID actor.nextResult).get? requestID = some result) ↔ _
    rw [OrdMap.get?_insert,← run.cached]
    by_cases own : requestID = envelope.requestID
    · simp [own]
    · simp [own]
  · intro other result member
    change (actor.results.insert envelope.requestID actor.nextResult).get? other.requestID = some result
    rcases List.mem_append.mp member with old | new
    · have held := run.replayed other result old
      have differ : other.requestID ≠ envelope.requestID := by
        intro equal
        rw [equal,miss] at held
        contradiction
      rw [OrdMap.get?_insert_of_ne _ _ differ,held]
    · cases List.mem_singleton.mp new
      rw [OrdMap.get?_insert_self]
  · intro other member
    change other.expectedStateSeq < actor.state.stateSeq + 1
    rw [more] at member
    rcases List.mem_append.mp member with old | new
    · have below := run.current other old
      omega
    · cases List.mem_singleton.mp new
      omega
  · rw [more]
    refine List.pairwise_append.mpr ⟨run.increasing,List.pairwise_singleton _ _,?_⟩
    intro a earlier b last
    cases List.mem_singleton.mp last
    have below := run.current a earlier
    omega

end Step

theorem handleAll_run (initial : ActorState) (streamSeq : Int) (calls : List Call) :
    Run initial (handleAll (newRecoveredActor initial streamSeq) calls).1
      (handleAll (newRecoveredActor initial streamSeq) calls).2 := by
  induction calls using List.reverseRecOn with
  | nil => exact ⟨rfl,(Int.add_zero _).symm,by simp [handleAll,acceptedOf,newRecoveredActor,newActor],
      by simp [handleAll],by simp [handleAll,acceptedOf],List.Pairwise.nil⟩
  | append_singleton calls call ih =>
    rw [handleAll_snoc]
    dsimp only
    rcases handle_cases (handleAll (newRecoveredActor initial streamSeq) calls).1 call.envelope call.world with
      ⟨result,hit,same⟩ | ⟨_,e,after,same,_⟩ | ⟨miss,current,next,events,after,applied,_,same⟩
    · rw [same]
      exact ih.replay call.envelope hit
    · rw [same]
      exact ih.refuse call.envelope e
    · rw [same]
      exact ih.commit call.envelope miss current applied

/-- Every command is applied once, at the first success of its request id, and
nothing else moves the actor. -/
theorem handle_exactly_once (initial : ActorState) (streamSeq : Int) (calls : List Call) (call : Call) :
    let run := handleAll (newRecoveredActor initial streamSeq) calls
    let outcome := run.1.handle call.envelope call.world
    let firstSuccess := (∃ result, outcome.1 = .ok result) ∧
      ∀ envelope result, (envelope,.ok result) ∈ run.2 → envelope.requestID ≠ call.envelope.requestID
    applyAll initial.table ((acceptedOf run.2).map CommandEnvelope.command) = .ok run.1.state.table ∧
      run.1.state.stateSeq = initial.stateSeq + (acceptedOf run.2).length ∧
      (firstSuccess → outcome.2.1.state.stateSeq = run.1.state.stateSeq + 1) ∧
      (¬ firstSuccess → outcome.2.1.state.stateSeq = run.1.state.stateSeq) ∧
      (∀ result, outcome.1 = .ok result → ∀ envelope first, (envelope,.ok first) ∈ run.2 →
        envelope.requestID = call.envelope.requestID → result = first) ∧
      (∀ e, outcome.1 = .error e → outcome.2.1 = run.1) ∧
      (acceptedOf run.2).Pairwise fun a b => a.expectedStateSeq ≠ b.expectedStateSeq := by
  dsimp only
  have run := handleAll_run initial streamSeq calls
  generalize handleAll (newRecoveredActor initial streamSeq) calls = state at run ⊢
  obtain ⟨actor,past⟩ := state
  have separate := run.increasing.imp fun {a b} below => ne_of_lt below
  refine ⟨run.folded,run.numbered,?_⟩
  rcases handle_cases actor call.envelope call.world with
    ⟨result,hit,same⟩ | ⟨miss,e,after,same,_⟩ | ⟨miss,current,next,events,after,applied,_,same⟩
  · rw [same]
    obtain ⟨first,accepted,id⟩ := List.mem_map.mp ((run.cached call.envelope.requestID).mp ⟨result,hit⟩)
    obtain ⟨original,earlier⟩ := acceptedOf_succeeded past first accepted
    refine ⟨fun once => absurd id (once.2 first original earlier),fun _ => rfl,?_,fun e clash => (by cases clash),separate⟩
    intro replayed equal envelope again member sameID
    cases equal
    have held := run.replayed envelope again member
    rw [sameID,hit] at held
    exact Option.some.inj held
  · rw [same]
    refine ⟨?_,fun _ => rfl,fun result clash => (by cases clash),fun _ _ => rfl,separate⟩
    rintro ⟨⟨result,clash⟩,_⟩
    cases clash
  · rw [same]
    have unseen (envelope : CommandEnvelope) (result : Result) (member : (envelope,.ok result) ∈ past) :
        envelope.requestID ≠ call.envelope.requestID := by
      intro sameID
      have held := run.replayed envelope result member
      rw [sameID,miss] at held
      contradiction
    exact ⟨fun _ => rfl,fun repeated => absurd ⟨⟨_,rfl⟩,unseen⟩ repeated,
      fun result _ envelope first member sameID => absurd sameID (unseen envelope first member),
      fun e clash => (by cases clash),separate⟩

end Clawchain.Arena.Table
