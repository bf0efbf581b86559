import Clawchain.Arena.Table.Stored
import Clawchain.Arena.Table.Live

/-! A table can be rebuilt from the store whenever a turn is open: its latest
snapshot and its latest open deadline hold what the live actor holds. -/
namespace Clawchain.Arena.Table
open Clawchain.Lib

def ofTable (tournamentID tableID : String) (row : TableSnapshot) : Prop :=
  row.tournamentID = tournamentID ∧ row.tableID = tableID

theorem latestTableSnapshot_of_top {store : Store} {tournamentID tableID : String} (id : String) {top : TableSnapshot}
    (held : store.tableSnapshots.get? id = some top) (own : ofTable tournamentID tableID top)
    (beyond : ∀ other row, other ≠ id → store.tableSnapshots.get? other = some row →
      ofTable tournamentID tableID row → row.streamSeq < top.streamSeq) :
    latestTableSnapshot store tournamentID tableID = some top := by
  have member : top ∈ store.tableSnapshots.entries.map Prod.snd :=
    List.mem_map.mpr ⟨_,OrdMap.get?_eq_some_iff.mp held,rfl⟩
  have below : ∀ row ∈ store.tableSnapshots.entries.map Prod.snd, ofTable tournamentID tableID row →
      row = top ∨ row.streamSeq < top.streamSeq := by
    intro row inside matching
    obtain ⟨⟨other,_⟩,entry,rfl⟩ := List.mem_map.mp inside
    have found := OrdMap.get?_eq_some_iff.mpr entry
    by_cases same : other = id
    · subst same
      exact .inl (Option.some.inj (found.symm.trans held))
    · exact .inr (beyond other _ same found matching)
  unfold latestTableSnapshot
  generalize store.tableSnapshots.entries.map Prod.snd = rows at member below ⊢
  -- What the loop holds is the top or below it, and from the top on the top.
  have loop : ∀ latest : Option TableSnapshot, (∀ row, latest = some row → row = top ∨ row.streamSeq < top.streamSeq) →
      (top ∈ rows ∨ latest = some top) →
      rows.foldl (fun latest snapshot =>
        if snapshot.tournamentID = tournamentID ∧ snapshot.tableID = tableID ∧
          latest.all (·.streamSeq < snapshot.streamSeq) then some snapshot else latest) latest = some top := by
    clear member
    induction rows with
    | nil =>
      intro latest _ reached
      exact reached.resolve_left List.not_mem_nil
    | cons row rest ih =>
      intro latest bounded reached
      rw [List.foldl_cons]
      have step : ∀ next, (if row.tournamentID = tournamentID ∧ row.tableID = tableID ∧
          latest.all (·.streamSeq < row.streamSeq) then some row else latest) = next →
          (∀ held, next = some held → held = top ∨ held.streamSeq < top.streamSeq) ∧ (top ∈ rest ∨ next = some top) := by
        intro next taken
        split_ifs at taken with newer
        · subst taken
          have placed := below row List.mem_cons_self ⟨newer.1,newer.2.1⟩
          refine ⟨fun held same => Option.some.inj same ▸ placed,?_⟩
          rcases placed with rfl | under
          · exact .inr rfl
          · rcases reached with inside | rfl
            · rcases List.mem_cons.mp inside with rfl | later
              · exact absurd under (lt_irrefl _)
              · exact .inl later
            · have above : top.streamSeq < row.streamSeq := by simpa using newer.2.2
              exact absurd (above.trans under) (lt_irrefl _)
        · subst taken
          refine ⟨bounded,?_⟩
          rcases reached with inside | already
          · rcases List.mem_cons.mp inside with rfl | later
            · right
              cases latest with
              | none => exact absurd ⟨own.1,own.2,rfl⟩ newer
              | some held =>
                rcases bounded held rfl with same | under
                · rw [same]
                · exact absurd ⟨own.1,own.2,by simpa using under⟩ newer
            · exact .inl later
          · exact .inr already
      obtain ⟨bounded',reached'⟩ := step _ rfl
      exact ih (fun other inside => below other (List.mem_cons_of_mem _ inside)) _ bounded' reached'
  exact loop none (fun row found => nomatch found) (.inl member)

theorem laterDeadline_mem {rows : List ActionDeadline} {row : ActionDeadline}
    (found : rows.foldl laterDeadline none = some row) : row ∈ rows := by
  induction rows using List.reverseRecOn generalizing row with
  | nil => cases found
  | append_singleton rows last ih =>
    rw [List.foldl_append,List.foldl_cons,List.foldl_nil] at found
    cases before : rows.foldl laterDeadline none with
    | none =>
      rw [before] at found
      cases found
      simp
    | some held =>
      rw [before,laterDeadline] at found
      split_ifs at found
      · cases found
        simp
      · cases found
        exact List.mem_append_left _ (ih before)

theorem latestOpenDeadline_of_top {store : Store} {tournamentID tableID : String} (id : String) {top : ActionDeadline}
    (held : store.deadlines.get? id = some top) (opened : top.status = .opened)
    (own : top.tournamentID = tournamentID ∧ top.tableID = tableID)
    (beyond : ∀ other row, other ≠ id → store.deadlines.get? other = some row → row.status = .opened →
      row.tournamentID = tournamentID ∧ row.tableID = tableID → row.deadlineAt < top.deadlineAt) :
    latestOpenDeadline store tournamentID tableID = some top := by
  unfold latestOpenDeadline listActionDeadlinesByTournament
  set listed := ((store.deadlines.entries.map Prod.snd).filter fun deadline =>
    deadline.tournamentID = tournamentID).insertionSort
      fun a b => a.deadlineAt < b.deadlineAt ∨ a.deadlineAt = b.deadlineAt ∧ a.createdAt ≤ b.createdAt with listing
  have sorted : listed.Pairwise fun a b => a.deadlineAt ≤ b.deadlineAt := by
    have total : Std.Total fun a b : ActionDeadline =>
        a.deadlineAt < b.deadlineAt ∨ a.deadlineAt = b.deadlineAt ∧ a.createdAt ≤ b.createdAt :=
      ⟨fun a b => by omega⟩
    have trans : IsTrans ActionDeadline fun a b =>
        a.deadlineAt < b.deadlineAt ∨ a.deadlineAt = b.deadlineAt ∧ a.createdAt ≤ b.createdAt :=
      ⟨fun a b c ab bc => by omega⟩
    refine (List.pairwise_insertionSort _ _).imp ?_
    intro a b order
    omega
  have members (row : ActionDeadline) : row ∈ listed ↔
      row ∈ store.deadlines.entries.map Prod.snd ∧ row.tournamentID = tournamentID := by
    rw [listing,List.mem_insertionSort,List.mem_filter]
    simp
  set rows := listed.filter fun deadline => deadline.status = .opened ∧ deadline.tableID = tableID with rowing
  have ordered : rows.Pairwise fun a b => a.deadlineAt ≤ b.deadlineAt := sorted.filter _
  have member : top ∈ rows := by
    rw [rowing,List.mem_filter,members]
    exact ⟨⟨List.mem_map.mpr ⟨_,OrdMap.get?_eq_some_iff.mp held,rfl⟩,own.1⟩,by simp [opened,own.2]⟩
  have below : ∀ row ∈ rows, row = top ∨ row.deadlineAt < top.deadlineAt := by
    intro row inside
    rw [rowing,List.mem_filter,members] at inside
    obtain ⟨⟨stored,tournament⟩,rest⟩ := inside
    obtain ⟨status,table⟩ := of_decide_eq_true rest
    obtain ⟨⟨other,_⟩,entry,rfl⟩ := List.mem_map.mp stored
    have found := OrdMap.get?_eq_some_iff.mpr entry
    by_cases same : other = id
    · subst same
      exact .inl (Option.some.inj (found.symm.trans held))
    · exact .inr (beyond other _ same found status ⟨tournament,table⟩)
  clear_value rows
  cases rows using List.reverseRecOn with
  | nil => cases member
  | append_singleton front last =>
    -- In the order of the times the top comes last.
    have same : last = top := by
      rcases List.mem_append.mp member with inside | final
      · rcases below last (by simp) with same | under
        · exact same
        · have above := (List.pairwise_append.mp ordered).2.2 top inside last (by simp)
          exact absurd (lt_of_lt_of_le under above) (lt_irrefl _)
      · exact (List.mem_singleton.mp final).symm
    subst same
    rw [List.foldl_append,List.foldl_cons,List.foldl_nil]
    cases before : front.foldl laterDeadline none with
    | none => rfl
    | some row =>
      rw [laterDeadline]
      split_ifs with later
      · rfl
      · rcases below row (List.mem_append_left _ (laterDeadline_mem before)) with same | under
        · rw [same]
        · exact absurd (.inl under) later

def Later (world before : World) : Prop := before.store = world.store ∧ world.now ≤ before.now

theorem Later.refl (world : World) : Later world world := ⟨rfl,le_refl _⟩

/-- A run of one table without a failure of the store. After a turn or the start of a hand comes the
opening of a phase, 30 seconds long; a hand starts when the last one is closed, or else later than the
open phase did. A run remembers when the phase was opened whose deadline no turn has resolved, and
whether a phase may be opened now. -/
inductive Driven (initial : Actor) (origin : World) : Actor → World → Option Int → Bool → Prop where
  | start : Driven initial origin initial origin none true
  | unmoved {actor : Actor} {world before : World} {waiting : Option Int} {due : Bool} {envelope : CommandEnvelope}
    {result : Except HandleError Result} (run : Driven initial origin actor world waiting due)
    (later : Later world before) (done : actor.handle envelope before = (result,actor,before)) :
    Driven initial origin actor before waiting due
  | turn {actor after : Actor} {world before next : World} {waiting : Option Int} {due : Bool}
    {envelope : CommandEnvelope} {result : Result} (run : Driven initial origin actor world waiting due)
    (later : Later world before) (resolves : resolvesDeadline envelope.command = true)
    (fresh : actor.results.get? envelope.requestID = none)
    (done : actor.handle envelope before = (.ok result,after,next)) : Driven initial origin after next none true
  | deal {actor after : Actor} {world before next : World} {waiting : Option Int} {due : Bool}
    {envelope : CommandEnvelope} {cmd : StartHand} {result : Result} (run : Driven initial origin actor world waiting due)
    (later : Later world before) (command : envelope.command = .startHand cmd)
    (fresh : actor.results.get? envelope.requestID = none)
    (idle : actor.state.table.handClosed = true ∨ ∀ time, waiting = some time → time < before.now)
    (done : actor.handle envelope before = (.ok result,after,next)) : Driven initial origin after next waiting true
  | opened {actor after : Actor} {world before next : World} {waiting : Option Int} {phase : PhaseDefinition}
    (run : Driven initial origin actor world waiting true) (later : Later world before) (named : phase.id ≠ "")
    (timed : phase.deadlineAt = some (before.now + 30))
    (done : actor.openPhase phase before = (.ok (),after,next)) :
    Driven initial origin after next (some before.now) false

def ownDeadline (actor : Actor) (row : ActionDeadline) : Prop :=
  row.status = .opened ∧ row.tournamentID = actor.state.tournamentID ∧ row.tableID = actor.state.tableID

/-- What a run keeps: no snapshot is ahead of the actor, and an open deadline is that of the open phase or earlier. -/
structure Followed (actor : Actor) (world : World) (waiting : Option Int) (due : Bool) : Prop where
  snapshots : ∀ id row, world.store.tableSnapshots.get? id = some row →
    ofTable actor.state.tournamentID actor.state.tableID row → row.streamSeq ≤ actor.streamSeq
  resolved : waiting = none → ∀ id row, world.store.deadlines.get? id = some row → ownDeadline actor row →
    row.deadlineAt < world.now + 30
  unresolved : ∀ time, waiting = some time → ∀ id row, world.store.deadlines.get? id = some row →
    ownDeadline actor row → row.deadlineAt ≤ time + 30 ∧
      (id ≠ deadlineID actor.state.phaseID → row.deadlineAt < time + 30)
  past : ∀ time, waiting = some time → time ≤ world.now ∧ actor.state.phaseID ≠ "" ∧
    actor.state.table.handClosed = false ∧ (due = true → time < world.now)

section Run
variable {actor after : Actor} {world before next : World} {waiting : Option Int} {due : Bool}
variable {envelope : CommandEnvelope}

theorem Followed.later (followed : Followed actor world waiting due) (later : Later world before) :
    Followed actor before waiting due := by
  obtain ⟨store,now⟩ := later
  constructor
  · rw [store]
    exact followed.snapshots
  · intro none_ id row found own
    rw [store] at found
    exact lt_of_lt_of_le (followed.resolved none_ id row found own) (by omega)
  · rw [store]
    exact followed.unresolved
  · intro time waits
    obtain ⟨passed,named,open_,strict⟩ := followed.past time waits
    exact ⟨passed.trans now,named,open_,fun due => lt_of_lt_of_le (strict due) now⟩

theorem Followed.snapshots_committed (followed : Followed actor before waiting due) {table : State}
    {events : List Event} (stored : Stored actor envelope table events before next) :
    ∀ id row, next.store.tableSnapshots.get? id = some row →
      ofTable actor.state.tournamentID actor.state.tableID row →
        row.streamSeq ≤ (actor.committed envelope.requestID table events).streamSeq := by
  have ahead : actor.streamSeq ≤ (actor.committed envelope.requestID table events).streamSeq ∧
      finalStreamSeq actor events ≤ (actor.committed envelope.requestID table events).streamSeq := by
    unfold Actor.committed finalStreamSeq
    simp only
    split_ifs <;> omega
  intro id row found own
  rcases stored.tableSnapshots with same | ⟨taken,pictures,same⟩
  · rw [same] at found
    exact (followed.snapshots id row found own).trans ahead.1
  · rw [same,OrdMap.get?_insert] at found
    split_ifs at found
    · cases found
      rw [pictures.streamSeq]
      exact ahead.2
    · exact (followed.snapshots id row found own).trans ahead.1

theorem Followed.turn (followed : Followed actor before waiting due) {envelope : CommandEnvelope}
    {table : State} {events : List Event} (stored : Stored actor envelope table events before next)
    (resolves : resolvesDeadline envelope.command = true) :
    Followed (actor.committed envelope.requestID table events) next none true := by
  refine ⟨followed.snapshots_committed stored,?_,nofun,nofun⟩
  intro _ id row found own
  rw [stored.now]
  rcases stored.deadlines with ⟨unnamed,same⟩ | ⟨_,closing,closingID,status,same⟩
  · rw [same] at found
    have idle : waiting = none := by
      cases waits : waiting with
      | none => rfl
      | some time =>
        have named := (followed.past time waits).2.1
        simp [resolves,named] at unnamed
    exact followed.resolved idle id row found own
  · rw [same,OrdMap.get?_insert] at found
    split_ifs at found with closed
    · cases found
      exact absurd (status.symm.trans own.1) nofun
    · cases waits : waiting with
      | none => exact followed.resolved waits id row found own
      | some time =>
        have passed := (followed.past time waits).1
        have earlier := (followed.unresolved time waits id row found own).2 (closingID ▸ closed)
        omega

theorem Followed.deal (followed : Followed actor before waiting due) {cmd : StartHand} {table : State}
    {events : List Event} (stored : Stored actor envelope table events before next)
    (command : envelope.command = .startHand cmd)
    (applied : apply actor.state.table envelope.command = .ok (table,events))
    (idle : actor.state.table.handClosed = true ∨ ∀ time, waiting = some time → time < before.now) :
    Followed (actor.committed envelope.requestID table events) next waiting true := by
  have same : next.store.deadlines = before.store.deadlines := by
    rcases stored.deadlines with ⟨_,same⟩ | ⟨resolves,_⟩
    · exact same
    · simp [command,resolvesDeadline] at resolves
  have dealt : table.handClosed = false := by
    rw [command] at applied
    cases applied
    exact (applyStartHand_frame actor.state.table cmd).2.1
  constructor
  · exact followed.snapshots_committed stored
  · rw [same,stored.now]
    exact followed.resolved
  · rw [same]
    exact followed.unresolved
  · intro time waits
    obtain ⟨passed,named,open_,_⟩ := followed.past time waits
    rw [stored.now]
    refine ⟨passed,named,dealt,fun _ => ?_⟩
    rcases idle with closed | earlier
    · exact absurd (closed.symm.trans open_) nofun
    · exact earlier time waits

theorem Followed.earlier (followed : Followed actor before waiting true) {id : String} {row : ActionDeadline}
    (found : before.store.deadlines.get? id = some row) (own : ownDeadline actor row) :
    row.deadlineAt < before.now + 30 := by
  cases waits : waiting with
  | none => exact followed.resolved waits id row found own
  | some time =>
    have strict := (followed.past time waits).2.2.2 rfl
    have bound := (followed.unresolved time waits id row found own).1
    omega

theorem Followed.opened (followed : Followed actor before waiting true) {phase : PhaseDefinition}
    (named : phase.id ≠ "") (timed : phase.deadlineAt = some (before.now + 30))
    (done : actor.openPhase phase before = (.ok (),after,next)) : Followed after next (some before.now) false := by
  obtain ⟨rfl,stored⟩ := openPhase_stored done
  obtain ⟨deadline,deadlineID_,status,tournament,table,hand,phaseID_,_,time,deadlines⟩ := stored.deadlines _ timed
  obtain ⟨snapshot,pictures,snapshots⟩ := stored.tableSnapshots
  constructor
  · intro id row found own
    rw [snapshots,OrdMap.get?_insert] at found
    split_ifs at found
    · cases found
      exact pictures.streamSeq.le
    · exact (followed.snapshots id row found own).trans (by simp)
  · exact nofun
  · intro _ waits id row found own
    cases waits
    rw [deadlines,OrdMap.get?_insert] at found
    split_ifs at found with same
    · cases found
      exact ⟨time.le,fun other => absurd (same.trans deadlineID_) other⟩
    · have earlier := followed.earlier found own
      exact ⟨earlier.le,fun _ => earlier⟩
  · intro _ waits
    cases waits
    exact ⟨stored.now.ge,named,rfl,nofun⟩

def Rebuilt (actor : Actor) (store : Store) : Prop :=
  ∃ snapshot, latestTableSnapshot store actor.state.tournamentID actor.state.tableID = some snapshot ∧
    (newRecoveredActor (recoveredState snapshot
      (latestOpenDeadline store actor.state.tournamentID actor.state.tableID)) snapshot.streamSeq).state = actor.state ∧
    (newRecoveredActor (recoveredState snapshot
      (latestOpenDeadline store actor.state.tournamentID actor.state.tableID)) snapshot.streamSeq).streamSeq =
        actor.streamSeq

theorem Followed.rebuilt (followed : Followed actor before waiting true) {phase : PhaseDefinition}
    (timed : phase.deadlineAt = some (before.now + 30))
    (done : actor.openPhase phase before = (.ok (),after,next)) : Rebuilt after next.store := by
  obtain ⟨rfl,stored⟩ := openPhase_stored done
  obtain ⟨deadline,_,status,tournament,table,hand,phaseID_,_,time,deadlines⟩ := stored.deadlines _ timed
  obtain ⟨snapshot,pictures,snapshots⟩ := stored.tableSnapshots
  have topSnapshot : latestTableSnapshot next.store actor.state.tournamentID actor.state.tableID = some snapshot := by
    apply latestTableSnapshot_of_top snapshot.id
    · rw [snapshots,OrdMap.get?_insert_self]
    · exact ⟨pictures.tournamentID,pictures.tableID⟩
    · intro other row differ found own
      rw [snapshots,OrdMap.get?_insert_of_ne _ _ differ] at found
      have bound := followed.snapshots other row found own
      rw [pictures.streamSeq]
      omega
  have topDeadline : latestOpenDeadline next.store actor.state.tournamentID actor.state.tableID = some deadline := by
    apply latestOpenDeadline_of_top deadline.deadlineID
    · rw [deadlines,OrdMap.get?_insert_self]
    · exact status
    · exact ⟨tournament,table⟩
    · intro other row differ found opened own
      rw [deadlines,OrdMap.get?_insert_of_ne _ _ differ] at found
      rw [time]
      exact followed.earlier found ⟨opened,own⟩
  refine ⟨snapshot,topSnapshot,?_,pictures.streamSeq⟩
  have rebuilt : recoveredState snapshot (some deadline) =
      { openedState actor.state phase with stateSeq := actor.state.stateSeq + 1 } := by
    simp only [recoveredState,Option.map_some,Option.getD_some,pictures.tableID,pictures.tournamentID,hand,phaseID_,
      pictures.stateSeq,pictures.payload]
    rfl
  change recoveredState snapshot (latestOpenDeadline next.store actor.state.tournamentID actor.state.tableID) = _
  rw [topDeadline]
  exact rebuilt

theorem handle_taken {result : Result} (fresh : actor.results.get? envelope.requestID = none)
    (done : actor.handle envelope before = (.ok result,after,next)) : ∃ table events,
      apply actor.state.table envelope.command = .ok (table,events) ∧
        after = actor.committed envelope.requestID table events ∧ Stored actor envelope table events before next := by
  rcases handle_cases actor envelope before with
    ⟨_,cached,_⟩ | ⟨_,e,_,same,_⟩ | ⟨_,_,table,events,_,applied,stored,same⟩
  · rw [fresh] at cached
    cases cached
  · cases done.symm.trans same
  · cases done.symm.trans same
    exact ⟨table,events,applied,rfl,persist_ok stored⟩

end Run

/-- Right after a phase was opened the table that a restart rebuilds from its latest snapshot and its latest open
deadline is the live one. -/
theorem restart_parity (initial : Actor) (origin : World)
    (behind : ∀ id row, origin.store.tableSnapshots.get? id = some row →
      ofTable initial.state.tournamentID initial.state.tableID row → row.streamSeq ≤ initial.streamSeq)
    (quiet : ∀ id row, origin.store.deadlines.get? id = some row → ¬ownDeadline initial row)
    {actor : Actor} {world : World} {waiting : Option Int} (run : Driven initial origin actor world waiting false) :
    Rebuilt actor world.store := by
  have start : Followed initial origin none true :=
    ⟨behind,fun _ id row found own => absurd own (quiet id row found),nofun,nofun⟩
  have followed {actor : Actor} {world : World} {waiting : Option Int} {due : Bool}
      (run : Driven initial origin actor world waiting due) : Followed actor world waiting due := by
    induction run with
    | start => exact start
    | unmoved _ later _ ih => exact ih.later later
    | turn _ later resolves fresh done ih =>
      obtain ⟨table,events,_,rfl,stored⟩ := handle_taken fresh done
      exact (ih.later later).turn stored resolves
    | deal _ later command fresh idle done ih =>
      obtain ⟨table,events,applied,rfl,stored⟩ := handle_taken fresh done
      exact (ih.later later).deal stored command applied idle
    | opened _ later named timed done ih => exact (ih.later later).opened named timed done
  generalize none_ : false = due at run
  induction run with
  | start => cases none_
  | unmoved _ later _ ih =>
    rw [later.1]
    exact ih none_
  | turn => cases none_
  | deal => cases none_
  | opened run later named timed done => exact ((followed run).later later).rebuilt timed done

/-! Two phases of a table, with a turn between them. -/

def unopenedActor : Actor := newActor { signalActor.state with phaseID := "" }

def firstOpened : Except StoreError Unit × Actor × World :=
  unopenedActor.openPhase ⟨"phase:1","hand:1",.signal,1,0,some 30⟩ {}

def turnTaken : Except HandleError Result × Actor × World :=
  firstOpened.2.1.handle ⟨"r1",1,.submitArenaAction ⟨1,.signalNone,0⟩⟩ firstOpened.2.2

def secondOpened : Except StoreError Unit × Actor × World :=
  turnTaken.2.1.openPhase ⟨"phase:2","hand:1",.signal,2,0,some 30⟩ turnTaken.2.2

theorem restart_parity_secondOpened : Rebuilt secondOpened.2.1 secondOpened.2.2.store := by
  have opening : unopenedActor.openPhase ⟨"phase:1","hand:1",.signal,1,0,some 30⟩ {} =
      (.ok (),firstOpened.2.1,firstOpened.2.2) := by decide +kernel
  have taking : firstOpened.2.1.handle ⟨"r1",1,.submitArenaAction ⟨1,.signalNone,0⟩⟩ firstOpened.2.2 =
      (.ok ⟨"evt:table:tbl:tour:w1:01:01:000000000002",2⟩,turnTaken.2.1,turnTaken.2.2) := by decide +kernel
  have reopening : turnTaken.2.1.openPhase ⟨"phase:2","hand:1",.signal,2,0,some 30⟩ turnTaken.2.2 =
      (.ok (),secondOpened.2.1,secondOpened.2.2) := by decide +kernel
  have fresh : firstOpened.2.1.results.get? "r1" = none := by decide +kernel
  have clock : turnTaken.2.2.now = 0 := by decide +kernel
  have first := Driven.opened .start (Later.refl {}) (by decide) rfl opening
  have turn := Driven.turn first (Later.refl _) rfl fresh taking
  have second := Driven.opened turn (Later.refl _) (by decide) (by rw [clock]; rfl) reopening
  exact restart_parity unopenedActor {} (fun _ _ found => nomatch found) (fun _ _ found => nomatch found) second

end Clawchain.Arena.Table
