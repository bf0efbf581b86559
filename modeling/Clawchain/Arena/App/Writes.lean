import Clawchain.Arena.App.Runtime

/-! What a call may write, said once: a call is a sequence of single writes to the
rows, the actors, the wave and the tournament it is about, and every invariant of
the runtime is derived from these. -/
namespace Clawchain.Arena.App
open Clawchain.Lib Clawchain.Arena.Table Clawchain.Arena.Hub Relation

/-- How a call of the play or of the seating may change an entrant; only a part that `syncs` the field with
the tables disqualifies. -/
inductive Change (syncs : Prop) (runtime : RuntimeService) (waveID tournamentID minerID : String) :
    (Entrant → Entrant) → Prop where
  | seated (assignment : SeatAssignment) (plan : String) : Change syncs runtime waveID tournamentID minerID
    (seatedAt plan assignment)
  | cleared : Change syncs runtime waveID tournamentID minerID fun entrant => { entrant with tableID := "", seatID := "" }
  | removed : Change syncs runtime waveID tournamentID minerID removedBeforeStart
  | playing (assignment : SeatAssignment) : Change syncs runtime waveID tournamentID minerID (playingAt assignment)
  | eliminated : Change syncs runtime waveID tournamentID minerID (leftField false)
  | disqualified (barrier : syncs)
    (carriedOut : pendingAt runtime tournamentID minerID = false ∨
      ∃ entrant, entrantOf runtime waveID minerID = some entrant ∧ entrant.registrationState = .disqualified) :
    Change syncs runtime waveID tournamentID minerID (leftField true)
  | finished (ranks : OrdMap String Int) (stages : OrdMap String String) (champion : Option String) :
    Change syncs runtime waveID tournamentID minerID (completedEntrant ranks stages champion minerID)

/-- A single write of a call about one wave and its tournament. -/
inductive Write (syncs : Prop) (waveID tournamentID : String) (runtime : RuntimeService) : RuntimeService → Prop where
  | rows (world : World) (seats : OrdMap String SeatRow) (eliminations : OrdMap String EliminationEvent) :
    Write syncs waveID tournamentID runtime { runtime with world := world, seats := seats, eliminations := eliminations }
  | actors (actors : OrdMap String Actor) : Write syncs waveID tournamentID runtime { runtime with actors := actors }
  | wave (f : WaveRuntime → WaveRuntime)
    (kept : ∀ wave, (f wave).entrants = wave.entrants ∧ (f wave).tournamentID = wave.tournamentID) :
    Write syncs waveID tournamentID runtime { runtime with waves := runtime.waves.modifyAt waveID f }
  | entrant (minerID : String) (f : Entrant → Entrant) (change : Change syncs runtime waveID tournamentID minerID f) :
    Write syncs waveID tournamentID runtime { runtime with waves := runtime.waves.modifyAt waveID fun wave =>
      { wave with entrants := wave.entrants.insert minerID (f ((wave.entrants.get? minerID).getD {})) } }
  | tournament (f : TournamentRuntime → TournamentRuntime)
    (kept : ∀ entry, (f entry).ref = entry.ref ∧ (f entry).waveID = entry.waveID ∧
      ∀ minerID, (f entry).pendingDisqualifications.get? minerID ≠ none →
        entry.pendingDisqualifications.get? minerID ≠ none) :
    Write syncs waveID tournamentID runtime { runtime with tournaments := runtime.tournaments.modifyAt tournamentID f }
  | pend (minerID : String) (intervention : OperatorIntervention) (entrant : Entrant)
    (found : entrantOf runtime waveID minerID = some entrant) (active : entrant.registrationState ≠ .disqualified)
    (f : TournamentRuntime → TournamentRuntime)
    (kept : ∀ entry, (f entry).ref = entry.ref ∧ (f entry).waveID = entry.waveID ∧
      (f entry).pendingDisqualifications = entry.pendingDisqualifications.insert minerID intervention) :
    Write syncs waveID tournamentID runtime { runtime with tournaments := runtime.tournaments.modifyAt tournamentID f }

/-- What a whole call of the play or of the seating writes. -/
def Writes (syncs : Prop) (waveID tournamentID : String) : RuntimeService → RuntimeService → Prop :=
  ReflTransGen (Write syncs waveID tournamentID)

section Calls
variable {syncs : Prop} {waveID tournamentID : String} {α β : Type}
variable {minerID : String}

theorem Writes.one {before after : RuntimeService} (write : Write syncs waveID tournamentID before after) :
    Writes syncs waveID tournamentID before after := ReflTransGen.single write

theorem writes_pure (a : α) : Faulty.Moves (Writes syncs waveID tournamentID) (pure a : RuntimeM α) :=
  Faulty.Moves.pure (fun _ => ReflTransGen.refl) a

theorem writes_fail (e : RuntimeError) : Faulty.Moves (Writes syncs waveID tournamentID) (Faulty.fail e : RuntimeM α) :=
  Faulty.Moves.fail (fun _ => ReflTransGen.refl) e

theorem writes_bind {x : RuntimeM α} {f : α → RuntimeM β} (first : Faulty.Moves (Writes syncs waveID tournamentID) x)
    (next : ∀ a, Faulty.Moves (Writes syncs waveID tournamentID) (f a)) :
    Faulty.Moves (Writes syncs waveID tournamentID) (x >>= f) :=
  Faulty.Moves.bind (fun _ _ _ => ReflTransGen.trans) first next

theorem writes_each {f : β → RuntimeM Unit} {list : List β}
    (one : ∀ b ∈ list, Faulty.Moves (Writes syncs waveID tournamentID) (f b)) :
    Faulty.Moves (Writes syncs waveID tournamentID) (Faulty.each f list) :=
  Faulty.Moves.each (fun _ => ReflTransGen.refl) (fun _ _ _ => ReflTransGen.trans) one

theorem writes_storeCall (call : StoreM α) : Faulty.Moves (Writes syncs waveID tournamentID) (storeCall call) :=
  fun runtime => .one (.rows (call runtime.world).2 runtime.seats runtime.eliminations)

theorem writes_upsertRow : Faulty.Moves (Writes syncs waveID tournamentID) upsertRow := writes_storeCall _

theorem writes_findTournament (name : String) : Faulty.Moves (Writes syncs waveID tournamentID) (findTournament name) := by
  intro runtime
  unfold findTournament
  split <;> exact ReflTransGen.refl

theorem writes_hubCall (result : Except HubError Service) :
    Faulty.Moves (Writes syncs waveID tournamentID) (hubCall result) := fun _ => ReflTransGen.refl

theorem writes_updateWave {f : WaveRuntime → WaveRuntime}
    (kept : ∀ wave, (f wave).entrants = wave.entrants ∧ (f wave).tournamentID = wave.tournamentID) :
    Faulty.Moves (Writes syncs waveID tournamentID) (updateWave waveID f) := fun _ => .one (.wave f kept)

theorem writes_updateTournament {f : TournamentRuntime → TournamentRuntime}
    (kept : ∀ entry, (f entry).ref = entry.ref ∧ (f entry).waveID = entry.waveID ∧
      (f entry).pendingDisqualifications = entry.pendingDisqualifications) :
    Faulty.Moves (Writes syncs waveID tournamentID) (updateTournament tournamentID f) := by
  intro _
  refine .one (.tournament f fun entry => ?_)
  obtain ⟨ref,wave,pending⟩ := kept entry
  exact ⟨ref,wave,fun minerID present => pending ▸ present⟩

theorem writes_updateEntrant {f : Entrant → Entrant}
    (change : ∀ runtime, Change syncs runtime waveID tournamentID minerID f) :
    Faulty.Moves (Writes syncs waveID tournamentID) (updateEntrant waveID minerID f) :=
  fun runtime => .one (.entrant minerID f (change runtime))

theorem writes_setActor (tableID : String) (actor : Actor) :
    Faulty.Moves (Writes syncs waveID tournamentID) (setActor tableID actor) := fun _ => .one (.actors _)

theorem writes_removeActors (name : String) : Faulty.Moves (Writes syncs waveID tournamentID) (removeActors name) :=
  fun _ => .one (.actors _)

theorem writes_upsertSeat (row : SeatRow) : Faulty.Moves (Writes syncs waveID tournamentID) (upsertSeat row) :=
  writes_bind writes_upsertRow fun _ runtime => .one (.rows runtime.world _ runtime.eliminations)

theorem writes_appendElimination (event : EliminationEvent) :
    Faulty.Moves (Writes syncs waveID tournamentID) (appendElimination event) :=
  writes_bind writes_upsertRow fun _ runtime => .one (.rows runtime.world runtime.seats _)

theorem writes_openDealt (state : ActorState) (streamSeq : Int) :
    Faulty.Moves (Writes syncs waveID tournamentID) (openDealt state streamSeq) := by
  intro runtime
  unfold openDealt
  split <;> exact .one (.rows _ runtime.seats runtime.eliminations)

theorem writes_resetLiveHub (playersRemaining : Nat) (assignments : List SeatAssignment) (name : String) :
    Faulty.Moves (Writes syncs waveID tournamentID) (resetLiveHub waveID name playersRemaining assignments) :=
  Faulty.Moves.read fun _ => writes_updateWave fun _ => ⟨rfl,rfl⟩

theorem writes_persistRoundBarrier (name : String) :
    Faulty.Moves (Writes syncs waveID tournamentID) (persistRoundBarrier name) := by
  intro runtime
  unfold persistRoundBarrier
  split
  · exact writes_upsertRow runtime
  · exact ReflTransGen.refl

theorem writes_seatEntrant (plan : String) (assignment : SeatAssignment) :
    Faulty.Moves (Writes syncs waveID tournamentID) (seatEntrant waveID plan assignment) := by
  refine writes_bind writes_upsertRow fun _ => writes_bind ?_ fun _ => writes_bind ?_ fun _ => writes_upsertRow
  · exact writes_updateEntrant fun _ => .seated assignment plan
  · exact Faulty.Moves.read fun _ => writes_upsertSeat _

theorem writes_assignPublicSeats (assignments : List SeatAssignment) :
    Faulty.Moves (Writes syncs waveID tournamentID) (assignPublicSeats tournamentID assignments) :=
  writes_updateTournament fun _ => ⟨rfl,rfl,rfl⟩

theorem writes_seatTableOf (plan : TournamentPlan) (snapshots : Store) (tableID : String) :
    Faulty.Moves (Writes syncs waveID tournamentID) (seatTableOf waveID tournamentID plan snapshots tableID) := by
  refine writes_bind writes_upsertRow fun _ => writes_bind ?_ fun _ => writes_bind (writes_openDealt _ _) fun actor =>
    writes_bind writes_upsertRow fun _ => writes_bind (writes_setActor _ actor) fun _ => writes_assignPublicSeats _
  exact writes_each fun assignment _ => writes_seatEntrant _ assignment

theorem writes_clearRemoved (plan : TournamentPlan) (minerID : String) :
    Faulty.Moves (Writes syncs waveID tournamentID) (clearRemoved waveID plan minerID) := by
  refine Faulty.Moves.read fun runtime => ?_
  split
  · exact writes_pure ()
  · split
    · exact writes_pure ()
    · exact writes_bind writes_upsertRow fun _ => writes_updateEntrant fun _ => .cleared

theorem writes_applySeatingPlan (plan : TournamentPlan) :
    Faulty.Moves (Writes syncs waveID tournamentID) (applySeatingPlan waveID tournamentID plan) := by
  refine writes_bind (writes_storeCall _) fun snapshots => writes_bind (writes_removeActors _) fun _ =>
    writes_bind (writes_updateTournament fun _ => ⟨rfl,rfl,rfl⟩) fun _ => writes_bind ?_ fun _ => ?_
  · exact writes_each fun tableID _ => writes_seatTableOf plan snapshots tableID
  · exact Faulty.Moves.read fun _ => writes_each fun minerID _ => writes_clearRemoved plan minerID

theorem writes_appendFieldExitEvent (name : String) (entrant : Entrant) (stageReached : String) :
    Faulty.Moves (Writes syncs waveID tournamentID) (appendFieldExitEvent name entrant stageReached) := by
  unfold appendFieldExitEvent
  split
  · exact writes_pure ()
  · exact Faulty.Moves.read fun _ => writes_appendElimination _

theorem writes_recordExit (minerID : String) (disqualified : Bool) (entrant : Entrant) :
    Faulty.Moves (Writes syncs waveID tournamentID) (recordExit tournamentID minerID disqualified entrant) := by
  unfold recordExit
  split
  · exact writes_pure ()
  · refine writes_bind (writes_appendFieldExitEvent _ _ _) fun _ => ?_
    split
    · refine writes_bind writes_upsertRow fun _ runtime => .one (.tournament _ fun entry => ⟨rfl,rfl,?_⟩)
      intro other present
      rw [OrdMap.get?_erase] at present
      split_ifs at present
      · exact absurd rfl present
      · exact present
    · exact writes_pure ()

theorem upsertRow_cases (runtime : RuntimeService) : ∃ world, upsertRow runtime = (.ok (),{ runtime with world := world }) ∨
    ∃ e, upsertRow runtime = (.error e,{ runtime with world := world }) := by
  refine ⟨(upsertRow runtime).2.world,?_⟩
  have same : upsertRow runtime = ((upsertRow runtime).1,{ runtime with world := (upsertRow runtime).2.world }) := rfl
  cases outcome : (upsertRow runtime).1 with
  | ok _ => exact .inl (same.trans (congrArg (·,_) outcome))
  | error e => exact .inr ⟨e,same.trans (congrArg (·,_) outcome)⟩

theorem upsertRow_steady {runtime : RuntimeService} (steady : runtime.world.outcomes = []) : upsertRow runtime = (.ok (),runtime) := by
  obtain ⟨⟨store,outcomes,now⟩,waves,tournaments,actors,seats,eliminations,allocated⟩ := runtime
  cases steady
  rfl

theorem appendFieldExitEvent_frame (name : String) (entrant : Entrant) (stageReached : String) :
    Faulty.Moves (fun before after : RuntimeService => after.waves = before.waves ∧
      after.tournaments = before.tournaments) (appendFieldExitEvent name entrant stageReached) := by
  unfold appendFieldExitEvent
  split
  · exact fun _ => ⟨rfl,rfl⟩
  · refine Faulty.Moves.read fun _ => Faulty.Moves.bind ?_ (fun _ => ⟨rfl,rfl⟩) fun _ _ => ⟨rfl,rfl⟩
    intro a b c first second
    exact ⟨second.1.trans first.1,second.2.trans first.2⟩

theorem recordExit_ok {disqualified : Bool} {entrant : Entrant} {before after : RuntimeService}
    (done : recordExit tournamentID minerID disqualified entrant before = (.ok (),after)) :
    after.waves = before.waves ∧ (disqualified = true → entrant.registrationState ≠ .disqualified →
      pendingAt after tournamentID minerID = false) := by
  unfold recordExit at done
  by_cases already : entrant.registrationState = (leftField disqualified entrant).registrationState
  · rw [if_pos already] at done
    cases done
    exact ⟨rfl,fun leaves active => absurd (by simpa [leftField,leaves] using already) active⟩
  · rw [if_neg already] at done
    obtain ⟨_,middle,exited,rest⟩ := Faulty.bind_ok done
    have frame := appendFieldExitEvent_frame tournamentID entrant (leftField disqualified entrant).stageReached before
    rw [exited] at frame
    cases disqualified with
    | false =>
      cases rest
      exact ⟨frame.1,fun leaves => absurd leaves (by decide)⟩
    | true =>
      obtain ⟨world,written | ⟨e,failed⟩⟩ := upsertRow_cases middle
      · rw [if_pos rfl,Faulty.bind_of_ok _ written] at rest
        cases rest
        refine ⟨frame.1,fun _ _ => ?_⟩
        change ((middle.tournaments.modifyAt tournamentID _).get? tournamentID).any _ = false
        rw [OrdMap.get?_modifyAt,if_pos rfl]
        cases middle.tournaments.get? tournamentID with
        | none => rfl
        | some entry => simp [OrdMap.get?_erase]
      · rw [if_pos rfl,Faulty.bind_of_error _ failed] at rest
        cases rest

theorem putEntrant_writes {change : Entrant → Entrant} {runtime : RuntimeService} (entrant : Entrant)
    (allowed : ∀ world, Change syncs { runtime with world := world } waveID tournamentID minerID change) :
    Writes syncs waveID tournamentID runtime (putEntrant waveID minerID entrant change runtime).2 := by
  unfold putEntrant
  split
  · exact ReflTransGen.refl
  · have row : Writes syncs waveID tournamentID runtime _ := writes_upsertRow runtime
    obtain ⟨world,done | ⟨e,failed⟩⟩ := upsertRow_cases runtime
    · rw [done] at row
      rw [Faulty.bind_of_ok _ done]
      exact row.trans (Writes.one (.entrant minerID change (allowed world)))
    · rw [failed] at row
      rw [Faulty.bind_of_error _ failed]
      exact row

theorem writes_syncEntrant (active : OrdMap String SeatAssignment) (minerID : String) :
    Faulty.Moves (Writes True waveID tournamentID) (syncEntrant waveID tournamentID active minerID) := by
  intro runtime
  unfold syncEntrant Faulty.read
  dsimp only
  cases found : entrantOf runtime waveID minerID with
  | none => exact ReflTransGen.refl
  | some entrant =>
    dsimp only
    split_ifs with foreign
    · exact ReflTransGen.refl
    · cases seat : active.get? minerID with
      | some assignment => exact putEntrant_writes entrant fun _ => .playing assignment
      | none =>
        have exited : Writes True waveID tournamentID runtime _ :=
          writes_recordExit minerID (pendingAt runtime tournamentID minerID) entrant runtime
        cases run : recordExit tournamentID minerID (pendingAt runtime tournamentID minerID) entrant runtime with
        | mk outcome middle =>
          rw [run] at exited
          cases outcome with
          | error e =>
            dsimp only
            rw [Faulty.bind_of_error _ run]
            exact exited
          | ok _ =>
            dsimp only
            rw [Faulty.bind_of_ok _ run]
            obtain ⟨waves,unpended⟩ := recordExit_ok run
            refine exited.trans (putEntrant_writes entrant fun world => ?_)
            cases waiting : pendingAt runtime tournamentID minerID with
            | false => exact .eliminated
            | true =>
              refine .disqualified trivial ?_
              by_cases gone : entrant.registrationState = .disqualified
              · refine .inr ⟨entrant,?_,gone⟩
                unfold entrantOf at found ⊢
                rw [waves]
                exact found
              · exact .inl (unpended waiting gone)

theorem writes_syncActiveEntrants (assignments : List SeatAssignment) :
    Faulty.Moves (Writes True waveID tournamentID) (syncActiveEntrants waveID tournamentID assignments) := by
  refine writes_bind (writes_updateTournament fun _ => ⟨rfl,rfl,rfl⟩) fun _ => Faulty.Moves.read fun _ => ?_
  exact writes_each fun minerID _ => writes_syncEntrant _ minerID

theorem writes_finishEntrant (ranks : OrdMap String Int) (stages : OrdMap String String) (champion : Option String)
    (minerID : String) : Faulty.Moves (Writes syncs waveID tournamentID)
      (finishEntrant waveID tournamentID ranks stages champion minerID) := by
  refine Faulty.Moves.read fun runtime => ?_
  split
  · exact writes_pure ()
  · split
    · exact writes_pure ()
    · exact writes_bind writes_upsertRow fun _ => writes_updateEntrant fun _ => .finished ranks stages champion

theorem writes_buildTournamentCompletion (assignments : List SeatAssignment) (reason : CompletionReason) :
    Faulty.Moves (Writes syncs waveID tournamentID)
      (buildTournamentCompletion waveID tournamentID assignments reason) := by
  refine Faulty.Moves.read fun runtime => ?_
  dsimp only
  split
  · exact writes_pure _
  · exact writes_bind (writes_storeCall _) fun _ => writes_bind (writes_storeCall _) fun _ =>
      writes_bind (writes_storeCall _) fun _ => writes_pure _

theorem writes_given {p : Prop} [Decidable p] {x : RuntimeM Unit} (moved : Faulty.Moves (Writes syncs waveID tournamentID) x) :
    Faulty.Moves (Writes syncs waveID tournamentID) (Faulty.given p x) :=
  Faulty.Moves.given (fun _ => ReflTransGen.refl) moved

theorem writes_completeTournament (assignments : List SeatAssignment) (currentRoundNo : Nat) (reason : CompletionReason) :
    Faulty.Moves (Writes syncs waveID tournamentID)
      (completeTournament waveID tournamentID assignments currentRoundNo reason) := by
  refine writes_bind writes_upsertRow fun _ => writes_bind ?_ fun _ =>
    writes_bind (writes_buildTournamentCompletion _ _) fun completion => writes_bind writes_upsertRow fun _ =>
    writes_bind (writes_given writes_upsertRow) fun _ => writes_bind (writes_updateTournament fun _ => ⟨rfl,rfl,rfl⟩)
    fun _ => writes_bind ?_ fun _ => writes_bind (writes_given writes_upsertRow) fun _ =>
    writes_bind (writes_removeActors _) fun _ => writes_updateWave fun _ => ⟨rfl,rfl⟩
  · exact Faulty.Moves.read fun _ => writes_updateTournament fun _ => ⟨rfl,rfl,rfl⟩
  · exact Faulty.Moves.read fun _ => writes_each fun minerID _ => writes_finishEntrant _ _ _ minerID

theorem writes_handleActor (tableID : String) (envelope : CommandEnvelope) :
    Faulty.Moves (Writes syncs waveID tournamentID) (handleActor tableID envelope) := by
  intro runtime
  unfold handleActor
  split
  · exact ReflTransGen.refl
  · exact (Writes.one (.rows _ runtime.seats runtime.eliminations)).trans (Writes.one (.actors _))

theorem writes_openActorPhase (tableID : String) (phase : ActorState → Int → PhaseDefinition) :
    Faulty.Moves (Writes syncs waveID tournamentID) (openActorPhase tableID phase) := by
  intro runtime
  unfold openActorPhase
  split
  · exact ReflTransGen.refl
  · exact (Writes.one (.rows _ runtime.seats runtime.eliminations)).trans (Writes.one (.actors _))

theorem writes_startNextHand (name tableID : String) (roundNo : Nat) :
    Faulty.Moves (Writes syncs waveID tournamentID) (startNextHand name tableID roundNo) := by
  refine writes_bind (Faulty.Moves.read fun _ => ?_) fun _ => writes_bind (writes_openActorPhase _ _) fun _ =>
    writes_upsertRow
  split
  · exact writes_pure ()
  · exact writes_handleActor _ _

theorem writes_startNextRound (name : String) (nextRoundNo : Nat) :
    Faulty.Moves (Writes syncs waveID tournamentID) (startNextRound name nextRoundNo) :=
  Faulty.Moves.read fun _ => writes_each fun tableID _ => writes_startNextHand _ tableID _

theorem writes_carryEntrant (carried : OrdMap String Seat) (assignment : SeatAssignment) :
    Faulty.Moves (Writes syncs waveID tournamentID) (carryEntrant waveID tournamentID carried assignment) := by
  unfold carryEntrant
  split
  · exact writes_fail _
  · split
    · exact writes_fail _
    · exact writes_bind writes_upsertRow fun _ => writes_bind (writes_updateEntrant fun _ => .playing assignment)
        fun _ => writes_bind (Faulty.Moves.read fun _ => writes_upsertSeat _) fun _ => writes_assignPublicSeats _

theorem writes_rebuildTable (carried : Carried) (plan : TransitionPlan) (nextRoundNo : Nat) (tableID : String) :
    Faulty.Moves (Writes syncs waveID tournamentID)
      (rebuildTable waveID tournamentID carried plan nextRoundNo tableID) := by
  refine writes_bind ?_ fun _ => writes_bind (writes_openDealt _ _) fun actor =>
    writes_bind (writes_setActor _ actor) fun _ => writes_upsertRow
  exact writes_each fun assignment _ => writes_carryEntrant _ assignment

theorem writes_applyTransitionPlan (plan : TransitionPlan) (nextRoundNo : Nat) :
    Faulty.Moves (Writes syncs waveID tournamentID) (applyTransitionPlan waveID tournamentID plan nextRoundNo) := by
  refine writes_bind (writes_storeCall _) fun snapshots => writes_bind (Faulty.Moves.read fun _ => ?_) fun _ =>
    writes_resetLiveHub _ _ _
  refine writes_bind (writes_removeActors _) fun _ => writes_bind (writes_updateTournament fun _ => ⟨rfl,rfl,rfl⟩)
    fun _ => ?_
  exact writes_each fun tableID _ => writes_rebuildTable _ plan _ tableID

theorem writes_startRound (plan : TransitionPlan) (nextRoundNo : Nat) :
    Faulty.Moves (Writes syncs waveID tournamentID) (startRound waveID tournamentID plan nextRoundNo) := by
  unfold startRound
  split
  · exact writes_startNextRound _ _
  · exact writes_applyTransitionPlan _ _

theorem writes_closeRound : Faulty.Moves (Writes True waveID tournamentID) (closeRound waveID tournamentID) := by
  refine Faulty.Moves.read fun _ => writes_bind (writes_syncActiveEntrants _) fun _ =>
    writes_bind (writes_resetLiveHub _ _ _) fun _ => Faulty.Moves.read fun _ => ?_
  dsimp only
  split
  · exact writes_bind (writes_completeTournament _ _ _) fun _ => writes_pure _
  · exact writes_bind writes_upsertRow fun _ => writes_bind (writes_updateTournament fun _ => ⟨rfl,rfl,rfl⟩) fun _ =>
      writes_bind (writes_startRound _ _) fun _ => writes_bind (writes_persistRoundBarrier _) fun _ => writes_pure _

theorem writes_advanceClosedTable (tableID : String) :
    Faulty.Moves (Writes True waveID tournamentID) (advanceClosedTable waveID tournamentID tableID) := by
  refine Faulty.Moves.read fun _ => ?_
  split
  · exact writes_pure _
  · refine writes_bind (writes_updateWave fun _ => ⟨rfl,rfl⟩) fun _ => writes_bind (writes_persistRoundBarrier _)
      fun _ => ?_
    split
    · exact writes_closeRound
    · exact writes_pure _

theorem writes_postActorMutation (tableID : String) (state : ActorState) :
    Faulty.Moves (Writes True waveID tournamentID) (postActorMutation waveID tournamentID tableID state) := by
  refine Faulty.Moves.read fun _ => ?_
  split
  · exact writes_pure _
  · split
    · refine writes_bind (writes_advanceClosedTable tableID) fun advance => Faulty.Moves.read fun _ => ?_
      split
      · exact writes_pure _
      · exact writes_bind writes_upsertRow fun _ => writes_pure _
    · exact writes_bind (writes_given (writes_openActorPhase _ _)) fun _ => writes_bind writes_upsertRow fun _ =>
        writes_pure _

end Calls

end Clawchain.Arena.App
