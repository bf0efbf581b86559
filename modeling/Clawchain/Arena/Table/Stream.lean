import Clawchain.Arena.Table.Stored
import Clawchain.Arena.Table.Turn

/-! The event stream of a table: the rows a call adds, and their numbers. -/
namespace Clawchain.Arena.Table
open Clawchain.Lib

theorem eventIDForIndex_chars (key : String) {n : Int} (nonneg : 0 ≤ n) (idx : Nat) :
    ∃ tail : List Char, (tail = [] ∨ ∃ rest, tail = ':' :: rest) ∧
      (eventIDForIndex (eventID key n) idx).toList =
        ("evt:" ++ key ++ ":").toList ++ (Format.padded 12 n.natAbs ++ tail) := by
  have number : (Format.padInt 12 n).toList = Format.padded 12 n.natAbs := by
    simp [Format.padInt,Format.pad,not_lt.mpr nonneg]
  by_cases first : idx = 0
  · refine ⟨[],.inl rfl,?_⟩
    simp [eventIDForIndex,first,eventID,String.toList_append,number]
  · refine ⟨':' :: (toString idx).toList,.inr ⟨_,rfl⟩,?_⟩
    simp [eventIDForIndex,first,eventID,String.toList_append,number]

variable {actor after : Actor} {key : String} {entries log : List EventLogEntry} {before world : World} {starts : Nat}

theorem eventIDForIndex_number {n m : Int} {idx idx' : Nat} (nonneg : 0 ≤ n) (nonneg' : 0 ≤ m)
    (same : eventIDForIndex (eventID key n) idx = eventIDForIndex (eventID key m) idx') : n = m := by
  obtain ⟨tail,ends,chars⟩ := eventIDForIndex_chars key nonneg idx
  obtain ⟨tail',ends',chars'⟩ := eventIDForIndex_chars key nonneg' idx'
  rw [same,chars'] at chars
  have number := Format.pad_injective ends' ends (List.append_cancel_left chars)
  omega

theorem lt_append_right (l : List Char) (c : Char) (rest : List Char) : l < l ++ c :: rest := by
  induction l with
  | nil => exact List.nil_lt_cons _ _
  | cons head tail ih => exact List.cons_lt_cons_iff.mpr (.inr ⟨rfl,ih⟩)

theorem eventID_lt_second (id : String) : eventIDForIndex id 0 < eventIDForIndex id 1 := by
  have chars : (eventIDForIndex id 1).toList = id.toList ++ ':' :: (toString 1).toList := by
    simp [eventIDForIndex,String.toList_append]
  rw [String.lt_iff_toList_lt,chars]
  exact lt_append_right _ _ _

def addedRows (before after : OrdMap String EventLogEntry) : List EventLogEntry :=
  (after.filter fun id _ => (before.get? id).isNone).entries.map Prod.snd

def byID (entries : List EventLogEntry) : List (String × EventLogEntry) :=
  entries.map fun entry => (entry.eventID,entry)

theorem byID_sorted (distinct : entries.Pairwise fun a b => a.eventID < b.eventID) :
    (byID entries).Pairwise fun a b => a.1 < b.1 := List.pairwise_map.mpr distinct

theorem get?_recordEvents {events : OrdMap String EventLogEntry}
    (fresh : ∀ entry ∈ entries, events.get? entry.eventID = none)
    (distinct : entries.Pairwise fun a b => a.eventID < b.eventID) (id : String) :
    (recordEvents entries events).get? id = ((byID entries).lookup id).or (events.get? id) := by
  induction entries generalizing events with
  | nil => rfl
  | cons entry rest ih =>
    obtain ⟨above,tail⟩ := List.pairwise_cons.mp distinct
    have absent := fresh entry List.mem_cons_self
    have step : recordEvents (entry :: rest) events = recordEvents rest (events.insert entry.eventID entry) := by
      simp [recordEvents,absent]
    have unseen : ∀ other ∈ rest, (events.insert entry.eventID entry).get? other.eventID = none := by
      intro other inside
      rw [OrdMap.get?_insert_of_ne _ _ (ne_of_gt (above other inside))]
      exact fresh other (List.mem_cons_of_mem _ inside)
    rw [step,ih unseen tail,OrdMap.get?_insert]
    have front : byID (entry :: rest) = (entry.eventID,entry) :: byID rest := rfl
    by_cases same : id = entry.eventID
    · subst same
      have gone : (byID rest).lookup entry.eventID = none := by
        rw [Option.eq_none_iff_forall_ne_some]
        intro other found
        have member := (OrdMap.lookup_eq_some_iff (byID_sorted tail)).mp found
        obtain ⟨held,inside,pair⟩ := List.mem_map.mp member
        have equal : held.eventID = entry.eventID := congrArg Prod.fst pair
        exact absurd (above held inside) (by rw [equal]; exact lt_irrefl _)
      rw [gone,front]
      simp
    · have differ : (id == entry.eventID) = false := by simpa using same
      rw [if_neg same,front,List.lookup_cons,differ]

theorem addedRows_recordEvents {events : OrdMap String EventLogEntry}
    (fresh : ∀ entry ∈ entries, events.get? entry.eventID = none)
    (distinct : entries.Pairwise fun a b => a.eventID < b.eventID) :
    addedRows events (recordEvents entries events) = entries := by
  have same : ((recordEvents entries events).filter fun id _ => (events.get? id).isNone) =
      ⟨byID entries,byID_sorted distinct⟩ := by
    apply OrdMap.ext_get?
    intro id
    rw [OrdMap.get?_filter,get?_recordEvents fresh distinct]
    change _ = (byID entries).lookup id
    cases found : (byID entries).lookup id with
    | none => cases held : events.get? id <;> simp
    | some entry =>
      have member := (OrdMap.lookup_eq_some_iff (byID_sorted distinct)).mp found
      obtain ⟨own,inside,pair⟩ := List.mem_map.mp member
      cases pair
      simp [fresh _ inside]
  unfold addedRows
  rw [same]
  simp [byID,Function.comp_def]

theorem advanceAfterTurn_events (previous next : State) (event : Event) :
    (advanceAfterTurn previous next [event]).2 = [event] ∨
      ∃ closing, (advanceAfterTurn previous next [event]).2 = [event,closing] := by
  unfold advanceAfterTurn
  split_ifs
  · exact .inr ⟨_,rfl⟩
  · exact .inl rfl
  · split
    · exact .inl rfl
    · exact .inl rfl
    · exact .inr ⟨_,rfl⟩
    · exact .inl rfl

def startsHand : Command → Bool
  | .startHand _ => true
  | _ => false

theorem apply_events {state next : State} {cmd : Command} {events : List Event}
    (applied : apply state cmd = .ok (next,events)) :
    startsHand cmd = true ∧ events = [] ∨
      startsHand cmd = false ∧ ∃ first, events = [first] ∨ ∃ second, events = [first,second] := by
  have turn {acted : State} {event : Event} (same : (next,events) = advanceAfterTurn state acted [event]) :
      ∃ first, events = [first] ∨ ∃ second, events = [first,second] := by
    rcases advanceAfterTurn_events state acted event with one | ⟨closing,two⟩
    · exact ⟨event,.inl ((congrArg Prod.snd same).trans one)⟩
    · exact ⟨event,.inr ⟨closing,(congrArg Prod.snd same).trans two⟩⟩
  cases cmd with
  | startHand start =>
    cases applied
    exact .inl ⟨rfl,rfl⟩
  | submitArenaAction action =>
    obtain ⟨_,_,_,_,_,_,_,same⟩ := applyAction_turn applied
    exact .inr ⟨rfl,turn same⟩
  | applyPhaseTimeout timeout =>
    obtain ⟨_,_,_,_,_,same⟩ := applyTimeout_turn applied
    exact .inr ⟨rfl,turn same⟩
  | closeHand =>
    cases applied
    exact .inr ⟨rfl,_,.inl rfl⟩
  | unknown => cases applied

def startsHandNow (actor : Actor) (envelope : CommandEnvelope) : Bool :=
  (actor.results.get? envelope.requestID).isNone && envelope.expectedStateSeq == actor.state.stateSeq &&
    startsHand envelope.command

/-- A run of calls none of which the store fails, with the rows they added and the number of hands they started. -/
inductive Streamed (initial : Actor) (origin : Store) : Actor → Store → List EventLogEntry → Nat → Prop where
  | start : Streamed initial origin initial origin [] 0
  | handled {actor after : Actor} {store : Store} {before next : World} {log : List EventLogEntry} {starts : Nat}
    {envelope : CommandEnvelope} {result : Except HandleError Result}
    (run : Streamed initial origin actor store log starts) (same : before.store = store)
    (done : actor.handle envelope before = (result,after,next))
    (answered : ∀ failure, result ≠ .error (.store failure)) :
    Streamed initial origin after next.store (log ++ addedRows store.events next.store.events)
      (starts + if startsHandNow actor envelope then 1 else 0)
  | opened {actor after : Actor} {store : Store} {before next : World} {log : List EventLogEntry} {starts : Nat}
    {phase : PhaseDefinition} (run : Streamed initial origin actor store log starts) (same : before.store = store)
    (done : actor.openPhase phase before = (.ok (),after,next)) :
    Streamed initial origin after next.store (log ++ addedRows store.events next.store.events) starts

/-- The numbers of the actor's stream are 1, 2 and so on up to its own, and every result names a row of it. -/
def NoHoles (actor : Actor) (log : List EventLogEntry) : Prop :=
  let stream := log.filter fun entry => entry.streamKey = actor.state.streamKey
  stream.map EventLogEntry.streamSeq = (List.range stream.length).map (fun (idx : Nat) => (idx : Int) + 1) ∧
    actor.streamSeq = stream.length ∧
    ∀ requestID result, actor.results.get? requestID = some result →
      ∃ entry ∈ stream, entry.eventID = result.resultEventID

def Unwritten (key : String) (store : Store) : Prop :=
  ∀ n : Int, 0 < n → ∀ idx, store.events.get? (eventIDForIndex (eventID key n) idx) = none

structure Streaming (key : String) (actor : Actor) (store : Store) (log : List EventLogEntry) (starts : Nat) : Prop where
  keyed : actor.state.streamKey = key
  fresh : ∀ n : Int, actor.streamSeq < n → ∀ idx, store.events.get? (eventIDForIndex (eventID key n) idx) = none
  counted : actor.streamSeq = log.length + starts
  own : ∀ entry ∈ log, entry.streamKey = key
  numbered : starts = 0 → log.map EventLogEntry.streamSeq = (List.range log.length).map fun (idx : Nat) => (idx : Int) + 1
  answered : starts = 0 → ∀ requestID result, actor.results.get? requestID = some result →
    ∃ entry ∈ log, entry.eventID = result.resultEventID

structure Appended (key : String) (streamSeq : Int) (entries : List EventLogEntry) : Prop where
  own : ∀ entry ∈ entries, entry.streamKey = key
  numbered : entries.map EventLogEntry.streamSeq =
    (List.range entries.length).map fun (idx : Nat) => streamSeq + 1 + idx
  named : ∀ entry ∈ entries, ∃ idx, entry.eventID = eventIDForIndex (eventID key (streamSeq + 1)) idx
  distinct : entries.Pairwise fun a b => a.eventID < b.eventID

section Step
variable {key : String} {actor after : Actor} {store next : Store} {log entries : List EventLogEntry} {starts : Nat}

theorem Streaming.append (streaming : Streaming key actor store log starts)
    (appended : Appended key actor.streamSeq entries) (stored : next.events = recordEvents entries store.events)
    (keyed : after.state.streamKey = key) (skipped : Nat)
    (grown : after.streamSeq = actor.streamSeq + entries.length + skipped) (moved : 0 < entries.length + skipped)
    (results : skipped = 0 → ∀ requestID result, after.results.get? requestID = some result →
      actor.results.get? requestID = some result ∨ ∃ entry ∈ entries, entry.eventID = result.resultEventID) :
    Streaming key after next (log ++ addedRows store.events next.events) (starts + skipped) := by
  have counted := streaming.counted
  have unseen : ∀ entry ∈ entries, store.events.get? entry.eventID = none := by
    intro entry inside
    obtain ⟨idx,same⟩ := appended.named entry inside
    rw [same]
    exact streaming.fresh _ (by omega) idx
  rw [stored,addedRows_recordEvents unseen appended.distinct]
  constructor
  · exact keyed
  · intro n above idx
    rw [stored,get?_recordEvents unseen appended.distinct,streaming.fresh n (by omega) idx,Option.or_none,
      Option.eq_none_iff_forall_ne_some]
    intro entry found
    have member := (OrdMap.lookup_eq_some_iff (byID_sorted appended.distinct)).mp found
    obtain ⟨held,inside,pair⟩ := List.mem_map.mp member
    obtain ⟨idx',same⟩ := appended.named held inside
    have number := eventIDForIndex_number (by omega) (by omega) (same.symm.trans (congrArg Prod.fst pair))
    omega
  · rw [List.length_append,grown,counted]
    push_cast
    omega
  · intro entry inside
    rcases List.mem_append.mp inside with old | new
    · exact streaming.own entry old
    · exact appended.own entry new
  · intro none_
    have old := streaming.numbered (by omega)
    rw [List.map_append,old,appended.numbered,List.length_append,List.range_add,List.map_append,List.map_map]
    congr 1
    apply List.map_congr_left
    intro idx _
    simp only [Function.comp_apply]
    push_cast
    omega
  · intro none_ requestID result found
    rcases results (by omega) requestID result found with old | ⟨entry,inside,same⟩
    · obtain ⟨entry,inside,same⟩ := streaming.answered (by omega) requestID result old
      exact ⟨entry,List.mem_append_left _ inside,same⟩
    · exact ⟨entry,List.mem_append_right _ inside,same⟩

end Step

theorem phaseEntry_appended (state : ActorState) (phase : PhaseDefinition) (streamSeq nextSeq now : Int) :
    Appended state.streamKey streamSeq [phaseEntry state phase (streamSeq + 1) nextSeq now] where
  own := by simp [phaseEntry]
  numbered := by simp [phaseEntry]
  named := by
    intro entry inside
    cases List.mem_singleton.mp inside
    exact ⟨0,rfl⟩
  distinct := List.pairwise_singleton _ _

theorem logEntries_appended {table next : State} {cmd : Command} {events : List Event}
    (applied : apply table cmd = .ok (next,events)) (state : ActorState) (streamSeq nextSeq now : Int) :
    Appended state.streamKey streamSeq
      (logEntries state (eventID state.streamKey (streamSeq + 1)) nextSeq (streamSeq + 1) events now) := by
  have distinct : (logEntries state (eventID state.streamKey (streamSeq + 1)) nextSeq (streamSeq + 1) events
      now).Pairwise fun a b => a.eventID < b.eventID := by
    rcases apply_events applied with ⟨_,rfl⟩ | ⟨_,first,rfl | ⟨second,rfl⟩⟩
    · exact List.Pairwise.nil
    · exact List.pairwise_singleton _ _
    · refine List.pairwise_pair.mpr ?_
      exact eventID_lt_second _
  refine ⟨?_,?_,?_,distinct⟩
  · intro entry inside
    obtain ⟨_,_,rfl⟩ := List.mem_map.mp inside
    rfl
  · rcases apply_events applied with ⟨_,rfl⟩ | ⟨_,first,rfl | ⟨second,rfl⟩⟩ <;> simp [logEntries,List.range_succ]
  · intro entry inside
    obtain ⟨⟨event,idx⟩,_,rfl⟩ := List.mem_map.mp inside
    exact ⟨idx,rfl⟩

theorem addedRows_self (events : OrdMap String EventLogEntry) : addedRows events events = [] := by
  have none_ : (events.filter fun id _ => (events.get? id).isNone) = OrdMap.empty := by
    apply OrdMap.ext_get?
    intro id
    rw [OrdMap.get?_filter,OrdMap.get?_empty]
    cases events.get? id <;> simp
  unfold addedRows
  rw [none_]
  rfl

theorem handle_startsHand {envelope : CommandEnvelope} {result : Except HandleError Result}
    (starts : startsHandNow actor envelope = true) (done : actor.handle envelope before = (result,after,world))
    (answered : ∀ failure, result ≠ .error (.store failure)) : ∃ next,
      apply actor.state.table envelope.command = .ok (next,[]) ∧
        after = actor.committed envelope.requestID next [] ∧ Stored actor envelope next [] before world := by
  simp only [startsHandNow,Bool.and_eq_true,Option.isNone_iff_eq_none,beq_iff_eq] at starts
  obtain ⟨⟨fresh,current⟩,starting⟩ := starts
  cases command : envelope.command with
  | startHand cmd =>
    unfold Actor.handle at done
    rw [fresh] at done
    simp only [current,ne_eq,not_true_eq_false,if_false,command,apply] at done
    cases stored : persist actor envelope (applyStartHand actor.state.table cmd) [] before with
    | mk verdict final =>
      rw [stored] at done
      cases verdict with
      | error failure =>
        cases done
        exact absurd rfl (answered failure)
      | ok _ =>
        cases done
        exact ⟨_,rfl,rfl,persist_ok stored⟩
  | _ =>
    rw [command] at starting
    cases starting

theorem Streaming.handled {envelope : CommandEnvelope} {result : Except HandleError Result}
    (streaming : Streaming key actor before.store log starts)
    (done : actor.handle envelope before = (result,after,world))
    (answered : ∀ failure, result ≠ .error (.store failure)) :
    Streaming key after world.store (log ++ addedRows before.store.events world.store.events)
      (starts + if startsHandNow actor envelope then 1 else 0) := by
  have keyed := streaming.keyed
  by_cases starting : startsHandNow actor envelope = true
  · obtain ⟨next,applied,rfl,stored⟩ := handle_startsHand starting done answered
    have appended := logEntries_appended applied actor.state actor.streamSeq actor.nextResult.stateSeq before.now
    rw [keyed] at appended
    rw [if_pos starting]
    refine streaming.append appended ?_ ?_ 1 ?_ ?_ fun none_ => absurd none_ one_ne_zero
    · rw [← keyed]
      exact stored.log
    · exact keyed
    · simp [Actor.committed,logEntries]
    · simp
  · rw [if_neg starting]
    rcases handle_stored done answered with ⟨rfl,rfl⟩ | ⟨fresh,current,next,events,applied,_,rfl,stored⟩
    · rw [addedRows_self,List.append_nil,add_zero]
      exact streaming
    · have appended := logEntries_appended applied actor.state actor.streamSeq actor.nextResult.stateSeq before.now
      have length : (logEntries actor.state (eventID actor.state.streamKey (actor.streamSeq + 1))
          actor.nextResult.stateSeq (actor.streamSeq + 1) events before.now).length = events.length := by
        simp [logEntries]
      have some_ : 0 < events.length := by
        rcases apply_events applied with ⟨starts,_⟩ | ⟨_,first,rfl | ⟨second,rfl⟩⟩
        · exact absurd (by simp [startsHandNow,fresh,current,starts]) starting
        · simp
        · simp
      rw [keyed] at appended length
      refine streaming.append appended ?_ ?_ 0 ?_ ?_ ?_
      · rw [← keyed]
        exact stored.log
      · exact keyed
      · simp only [Actor.committed,length]
        split_ifs <;> omega
      · omega
      · intro _ requestID result found
        simp only [Actor.committed,OrdMap.get?_insert] at found
        split_ifs at found
        · cases found
          right
          cases events with
          | nil => cases some_
          | cons first rest => exact ⟨_,List.mem_cons_self,by rw [← keyed]; rfl⟩
        · exact .inl found

theorem Streaming.opened {phase : PhaseDefinition} (streaming : Streaming key actor before.store log starts)
    (done : actor.openPhase phase before = (.ok (),after,world)) :
    Streaming key after world.store (log ++ addedRows before.store.events world.store.events) starts := by
  obtain ⟨rfl,stored⟩ := openPhase_stored done
  have appended := phaseEntry_appended (openedState actor.state phase) phase actor.streamSeq
    (actor.state.stateSeq + 1) before.now
  have same : (openedState actor.state phase).streamKey = key := streaming.keyed
  rw [same] at appended
  refine streaming.append appended stored.log ?_ 0 ?_ ?_ fun _ _ _ found => .inl found
  · exact same
  · simp
  · simp

theorem Streamed.streaming {initial : Actor} {origin store : Store} (numbered : initial.streamSeq = 0)
    (cached : initial.results = OrdMap.empty) (unwritten : Unwritten initial.state.streamKey origin)
    (run : Streamed initial origin actor store log starts) :
    Streaming initial.state.streamKey actor store log starts := by
  induction run with
  | start =>
    refine ⟨rfl,fun n above => unwritten n (by omega),by simp [numbered],by simp,fun _ => rfl,?_⟩
    intro _ requestID result found
    rw [cached] at found
    cases found
  | handled _ same done answered ih =>
    subst same
    exact ih.handled done answered
  | opened _ same done ih =>
    subst same
    exact ih.opened done

/-- The stream of a new actor is without holes exactly as long as no hand was started through it. -/
theorem stream_without_holes_iff (initial : ActorState) (origin : Store) (unwritten : Unwritten initial.streamKey origin)
    {actor : Actor} {store : Store} {log : List EventLogEntry} {starts : Nat}
    (run : Streamed (newActor initial) origin actor store log starts) : NoHoles actor log ↔ starts = 0 := by
  have same : (newActor initial).state = initial := rfl
  rw [← same] at unwritten
  have streaming := run.streaming rfl rfl unwritten
  have whole : (log.filter fun entry => entry.streamKey = actor.state.streamKey) = log := by
    apply List.filter_eq_self.mpr
    intro entry inside
    rw [streaming.keyed,decide_eq_true_iff]
    exact streaming.own entry inside
  have counted := streaming.counted
  unfold NoHoles
  rw [whole]
  constructor
  · intro ⟨_,length,_⟩
    omega
  · intro none_
    exact ⟨streaming.numbered none_,by omega,streaming.answered none_⟩

/-! A hand started, and its first phase opened. -/

def undealt : ActorState := { tableID := "tbl:tour:w1:01:01", tournamentID := "tour:w1:01", table := { seats := twoSeats } }

def handStarted : Except HandleError Result × Actor × World :=
  (newActor undealt).handle ⟨"sys:start:tbl:tour:w1:01:01:1",0,.startHand ⟨10,20,0,40⟩⟩ {}

def handOpened : Except StoreError Unit × Actor × World :=
  handStarted.2.1.openPhase ⟨"phase:1","hand:1",.signal,1,20,some 30⟩ handStarted.2.2

def startedLog : List EventLogEntry :=
  ([] ++ addedRows OrdMap.empty handStarted.2.2.store.events) ++
    addedRows handStarted.2.2.store.events handOpened.2.2.store.events

theorem startedLog_streamed : Streamed (newActor undealt) {} handOpened.2.1 handOpened.2.2.store startedLog 1 := by
  have starting : (newActor undealt).handle ⟨"sys:start:tbl:tour:w1:01:01:1",0,.startHand ⟨10,20,0,40⟩⟩ {} =
      (.ok ⟨"evt:table:tbl:tour:w1:01:01:000000000001",1⟩,handStarted.2.1,handStarted.2.2) := by decide +kernel
  have opening : handStarted.2.1.openPhase ⟨"phase:1","hand:1",.signal,1,20,some 30⟩ handStarted.2.2 =
      (.ok (),handOpened.2.1,handOpened.2.2) := by decide +kernel
  have started := Streamed.handled .start rfl starting (fun _ failed => nomatch failed)
  exact Streamed.opened started rfl opening

theorem undealt_unwritten : Unwritten undealt.streamKey {} := fun _ _ _ => rfl

theorem stream_without_holes_iff_started : NoHoles handOpened.2.1 startedLog ↔ 1 = 0 :=
  stream_without_holes_iff undealt {} undealt_unwritten startedLog_streamed

theorem started_hand_leaves_hole : Streamed (newActor undealt) {} handOpened.2.1 handOpened.2.2.store startedLog 1 ∧
    startedLog.map EventLogEntry.streamSeq = [2] ∧ handOpened.2.1.streamSeq = 2 ∧
    handStarted.1 = .ok ⟨"evt:table:tbl:tour:w1:01:01:000000000001",1⟩ ∧
    handOpened.2.2.store.events.get? "evt:table:tbl:tour:w1:01:01:000000000001" = none ∧
    ¬NoHoles handOpened.2.1 startedLog := by
  refine ⟨startedLog_streamed,by decide +kernel,by decide +kernel,by decide +kernel,by decide +kernel,?_⟩
  rintro ⟨numbers,_⟩
  revert numbers
  decide +kernel

end Clawchain.Arena.Table
