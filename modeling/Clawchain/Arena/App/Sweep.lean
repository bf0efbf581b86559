import Clawchain.Arena.App.Operations
import Clawchain.Arena.Hub.Draw
import Clawchain.Arena.Table.Stored
import Clawchain.Lib.Loops

/-! The sweep over the deadlines that have run out: which of them it comes to,
and what ends it. -/
namespace Clawchain.Arena.App
open Clawchain.Lib Clawchain.Arena.Table Clawchain.Arena.Hub

def storeFailed : RuntimeError → Bool
  | .store _ => true
  | .handle (.store _) => true
  | _ => false

variable {runtime after : RuntimeService} {e : RuntimeError}

theorem openActorPhase_error {tableID : String} {phase : ActorState → Int → PhaseDefinition}
    (failed : openActorPhase tableID phase runtime = (.error e,after)) : storeFailed e = true := by
  unfold openActorPhase at failed
  split at failed
  · cases failed
  · rename_i actor _
    have outcome := congrArg Prod.fst failed
    simp only at outcome
    cases result : (actor.openPhase (phase actor.state runtime.world.now) runtime.world).1 with
    | ok _ =>
      rw [result] at outcome
      cases outcome
    | error failure =>
      rw [result] at outcome
      cases outcome
      rfl

theorem openDealt_error {state : ActorState} {streamSeq : Int}
    (failed : openDealt state streamSeq runtime = (.error e,after)) : storeFailed e = true := by
  unfold openDealt at failed
  split at failed <;> cases failed
  rfl

/-! The errors of what follows a timeout. -/

def refused : RuntimeError → Bool
  | .handle (.rejected _) => true
  | _ => false

def Unrefused (e : RuntimeError) : Prop := refused e = false

theorem unrefused_of_storeFailed (failed : storeFailed e = true) : Unrefused e := by
  cases e with
  | handle error => cases error with
    | rejected reason => simp [storeFailed] at failed
    | _ => rfl
  | _ => rfl

section Walk
variable {α : Type} {waveID tournamentID : String}

theorem unrefused_storeCall (call : StoreM α) : Faulty.Fails Unrefused (storeCall call) := by
  intro runtime e after failed
  unfold storeCall at failed
  cases outcome : (call runtime.world).1 with
  | error failure =>
    simp only [outcome,Except.mapError,Prod.mk.injEq,Except.error.injEq] at failed
    rw [← failed.1]
    rfl
  | ok a => simp [outcome,Except.mapError] at failed

theorem unrefused_upsertRow : Faulty.Fails Unrefused upsertRow := unrefused_storeCall _

theorem unrefused_openActorPhase (tableID : String) (phase : ActorState → Int → PhaseDefinition) :
    Faulty.Fails Unrefused (openActorPhase tableID phase) :=
  fun _ _ _ failed => unrefused_of_storeFailed (openActorPhase_error failed)

theorem unrefused_openDealt (state : ActorState) (streamSeq : Int) :
    Faulty.Fails Unrefused (openDealt state streamSeq) :=
  fun _ _ _ failed => unrefused_of_storeFailed (openDealt_error failed)

theorem unrefused_startHand (tableID requestID : String) (expectedStateSeq : Int) (cmd : StartHand) :
    Faulty.Fails Unrefused (handleActor tableID ⟨requestID,expectedStateSeq,.startHand cmd⟩) := by
  intro runtime e after failed
  unfold handleActor at failed
  split at failed
  · cases failed
  · rename_i actor _
    rcases handle_cases actor ⟨requestID,expectedStateSeq,.startHand cmd⟩ runtime.world with
      ⟨_,_,same⟩ | ⟨fresh,error,_,same,_⟩ | ⟨_,_,_,_,_,_,_,same⟩ <;> rw [same] at failed <;> cases failed
    cases error with
    | rejected reason =>
      unfold Actor.handle at same
      simp only [fresh,apply] at same
      split_ifs at same
      · cases same
      · split at same <;> cases same
    | _ => rfl

theorem unrefused_startNextHand (tableID : String) (roundNo : Nat) :
    Faulty.Fails Unrefused (startNextHand tournamentID tableID roundNo) := by
  refine Faulty.Fails.bind (Faulty.Fails.read fun runtime => ?_) fun _ =>
    Faulty.Fails.bind (unrefused_openActorPhase _ _) fun _ => unrefused_upsertRow
  split
  · exact Faulty.Fails.pure ()
  · exact unrefused_startHand _ _ _ _

theorem unrefused_startNextRound (nextRoundNo : Nat) :
    Faulty.Fails Unrefused (startNextRound tournamentID nextRoundNo) :=
  Faulty.Fails.read fun _ => Faulty.Fails.each (fun _ => unrefused_startNextHand _ _) _

theorem unrefused_carryEntrant (carried : OrdMap String Seat) (assignment : SeatAssignment) :
    Faulty.Fails Unrefused (carryEntrant waveID tournamentID carried assignment) := by
  unfold carryEntrant
  split
  · exact Faulty.Fails.fail rfl
  · split
    · exact Faulty.Fails.fail rfl
    · refine Faulty.Fails.bind unrefused_upsertRow fun _ => Faulty.Fails.bind (Faulty.Fails.modify _) fun _ =>
        Faulty.Fails.bind (Faulty.Fails.read fun _ => ?_) fun _ => Faulty.Fails.modify _
      exact Faulty.Fails.bind unrefused_upsertRow fun _ => Faulty.Fails.modify _

theorem unrefused_rebuildTable (carried : Carried) (plan : TransitionPlan) (nextRoundNo : Nat) (tableID : String) :
    Faulty.Fails Unrefused (rebuildTable waveID tournamentID carried plan nextRoundNo tableID) :=
  Faulty.Fails.bind (Faulty.Fails.each (fun _ => unrefused_carryEntrant _ _) _) fun _ =>
    Faulty.Fails.bind (unrefused_openDealt _ _) fun _ => Faulty.Fails.bind (Faulty.Fails.modify _) fun _ =>
      unrefused_upsertRow

theorem unrefused_resetLiveHub (playersRemaining : Nat) (assignments : List SeatAssignment) :
    Faulty.Fails Unrefused (resetLiveHub waveID tournamentID playersRemaining assignments) :=
  Faulty.Fails.read fun _ => Faulty.Fails.modify _

theorem unrefused_applyTransitionPlan (plan : TransitionPlan) (nextRoundNo : Nat) :
    Faulty.Fails Unrefused (applyTransitionPlan waveID tournamentID plan nextRoundNo) :=
  Faulty.Fails.bind (unrefused_storeCall _) fun _ => Faulty.Fails.bind (Faulty.Fails.read fun _ =>
    Faulty.Fails.bind (Faulty.Fails.modify _) fun _ => Faulty.Fails.bind (Faulty.Fails.modify _) fun _ =>
      Faulty.Fails.each (fun _ => unrefused_rebuildTable _ _ _ _) _) fun _ => unrefused_resetLiveHub _ _

theorem unrefused_startRound (plan : TransitionPlan) (nextRoundNo : Nat) :
    Faulty.Fails Unrefused (startRound waveID tournamentID plan nextRoundNo) := by
  unfold startRound
  split
  · exact unrefused_startNextRound nextRoundNo
  · exact unrefused_applyTransitionPlan plan nextRoundNo

theorem unrefused_persistRoundBarrier : Faulty.Fails Unrefused (persistRoundBarrier waveID) := by
  intro runtime e after failed
  unfold persistRoundBarrier at failed
  split_ifs at failed
  · exact unrefused_upsertRow runtime e after failed
  · cases failed

theorem unrefused_recordExit (minerID : String) (disqualified : Bool) (entrant : Entrant) :
    Faulty.Fails Unrefused (recordExit tournamentID minerID disqualified entrant) := by
  unfold recordExit
  split
  · exact Faulty.Fails.pure ()
  · refine Faulty.Fails.bind ?_ fun _ => ?_
    · unfold appendFieldExitEvent
      split
      · exact Faulty.Fails.pure ()
      · exact Faulty.Fails.read fun _ => Faulty.Fails.bind unrefused_upsertRow fun _ => Faulty.Fails.modify _
    · split
      · exact Faulty.Fails.bind unrefused_upsertRow fun _ => Faulty.Fails.modify _
      · exact Faulty.Fails.pure ()

theorem unrefused_putEntrant (minerID : String) (entrant : Entrant) (change : Entrant → Entrant) :
    Faulty.Fails Unrefused (putEntrant waveID minerID entrant change) := by
  unfold putEntrant
  split
  · exact Faulty.Fails.pure ()
  · exact Faulty.Fails.bind unrefused_upsertRow fun _ => Faulty.Fails.modify _

theorem unrefused_syncEntrant (active : OrdMap String SeatAssignment) (minerID : String) :
    Faulty.Fails Unrefused (syncEntrant waveID tournamentID active minerID) := by
  refine Faulty.Fails.read fun runtime => ?_
  split
  · exact Faulty.Fails.pure ()
  · split
    · exact Faulty.Fails.pure ()
    · split
      · exact unrefused_putEntrant _ _ _
      · exact Faulty.Fails.bind (unrefused_recordExit _ _ _) fun _ => unrefused_putEntrant _ _ _

theorem unrefused_syncActiveEntrants (assignments : List SeatAssignment) :
    Faulty.Fails Unrefused (syncActiveEntrants waveID tournamentID assignments) :=
  Faulty.Fails.bind (Faulty.Fails.modify _) fun _ => Faulty.Fails.read fun _ =>
    Faulty.Fails.each (fun _ => unrefused_syncEntrant _ _) _

theorem unrefused_buildTournamentCompletion (assignments : List SeatAssignment) (reason : CompletionReason) :
    Faulty.Fails Unrefused (buildTournamentCompletion waveID tournamentID assignments reason) := by
  refine Faulty.Fails.read fun runtime => ?_
  dsimp only
  split
  · exact Faulty.Fails.pure _
  · exact Faulty.Fails.bind (unrefused_storeCall _) fun _ => Faulty.Fails.bind (unrefused_storeCall _) fun _ =>
      Faulty.Fails.bind (unrefused_storeCall _) fun _ => Faulty.Fails.pure _

theorem unrefused_finishEntrant (ranks : OrdMap String Int) (stages : OrdMap String String)
    (champion : Option String) (minerID : String) :
    Faulty.Fails Unrefused (finishEntrant waveID tournamentID ranks stages champion minerID) := by
  refine Faulty.Fails.read fun runtime => ?_
  split
  · exact Faulty.Fails.pure ()
  · split
    · exact Faulty.Fails.pure ()
    · exact Faulty.Fails.bind unrefused_upsertRow fun _ => Faulty.Fails.modify _

theorem unrefused_completeTournament (assignments : List SeatAssignment) (currentRoundNo : Nat)
    (reason : CompletionReason) :
    Faulty.Fails Unrefused (completeTournament waveID tournamentID assignments currentRoundNo reason) :=
  Faulty.Fails.bind unrefused_upsertRow fun _ => Faulty.Fails.bind
    (Faulty.Fails.read fun _ => Faulty.Fails.modify _) fun _ => Faulty.Fails.bind
    (unrefused_buildTournamentCompletion _ _) fun _ => Faulty.Fails.bind unrefused_upsertRow fun _ =>
    Faulty.Fails.bind (Faulty.Fails.given unrefused_upsertRow) fun _ => Faulty.Fails.bind (Faulty.Fails.modify _) fun _ =>
    Faulty.Fails.bind (Faulty.Fails.read fun _ => Faulty.Fails.each (fun _ => unrefused_finishEntrant _ _ _ _) _) fun _ =>
    Faulty.Fails.bind (Faulty.Fails.given unrefused_upsertRow) fun _ => Faulty.Fails.bind (Faulty.Fails.modify _) fun _ =>
    Faulty.Fails.modify _

theorem unrefused_closeRound : Faulty.Fails Unrefused (closeRound waveID tournamentID) := by
  refine Faulty.Fails.read fun _ => Faulty.Fails.bind (unrefused_syncActiveEntrants _) fun _ =>
    Faulty.Fails.bind (unrefused_resetLiveHub _ _) fun _ => Faulty.Fails.read fun _ => ?_
  dsimp only
  split
  · exact Faulty.Fails.bind (unrefused_completeTournament _ _ _) fun _ => Faulty.Fails.pure _
  · exact Faulty.Fails.bind unrefused_upsertRow fun _ => Faulty.Fails.bind (Faulty.Fails.modify _) fun _ =>
      Faulty.Fails.bind (unrefused_startRound _ _) fun _ => Faulty.Fails.bind unrefused_persistRoundBarrier fun _ =>
      Faulty.Fails.pure _

theorem unrefused_advanceClosedTable (tableID : String) :
    Faulty.Fails Unrefused (advanceClosedTable waveID tournamentID tableID) := by
  refine Faulty.Fails.read fun runtime => ?_
  split
  · exact Faulty.Fails.pure _
  · refine Faulty.Fails.bind (Faulty.Fails.modify _) fun _ =>
      Faulty.Fails.bind unrefused_persistRoundBarrier fun _ => ?_
    split
    · exact unrefused_closeRound
    · exact Faulty.Fails.pure _

theorem unrefused_postActorMutation (tableID : String) (state : ActorState) :
    Faulty.Fails Unrefused (postActorMutation waveID tournamentID tableID state) := by
  refine Faulty.Fails.read fun runtime => ?_
  split
  · exact Faulty.Fails.pure _
  · split
    · refine Faulty.Fails.bind (unrefused_advanceClosedTable _) fun _ => Faulty.Fails.read fun _ => ?_
      split
      · exact Faulty.Fails.pure _
      · exact Faulty.Fails.bind unrefused_upsertRow fun _ => Faulty.Fails.pure _
    · exact Faulty.Fails.bind (Faulty.Fails.given (unrefused_openActorPhase _ _)) fun _ =>
        Faulty.Fails.bind unrefused_upsertRow fun _ => Faulty.Fails.pure _

theorem unrefused_afterTimeout (tableID : String) : Faulty.Fails Unrefused (afterTimeout tournamentID tableID) := by
  refine Faulty.Fails.read fun runtime => ?_
  split
  · exact Faulty.Fails.pure ()
  · split
    · exact unrefused_upsertRow
    · exact Faulty.Fails.bind (unrefused_postActorMutation _ _) fun _ => Faulty.Fails.read fun _ =>
        Faulty.Fails.given unrefused_upsertRow

end Walk

def tableActor (runtime : RuntimeService) (tournamentID tableID : String) : Option Actor :=
  match runtime.actors.get? tableID with
  | some actor => some actor
  | none =>
    if (runtime.tournaments.get? tournamentID).any fun entry => !tournamentAcceptsPlay entry.tournament.state then none
    else (latestTableSnapshot runtime.world.store tournamentID tableID).map fun snapshot => newRecoveredActor
      (recoveredState snapshot (latestOpenDeadline runtime.world.store tournamentID tableID)) snapshot.streamSeq

def Live (deadline : ActionDeadline) (runtime : RuntimeService) : Prop :=
  ∃ actor, tableActor runtime deadline.tournamentID deadline.tableID = some actor ∧
    actor.state.table.actingSeatNo ≠ 0 ∧ expiredSeatNo deadline actor.state = actor.state.table.actingSeatNo

def Vacant (table : Table.State) (seatNo : Int) : Prop :=
  ∀ seat, table.seats.get? seatNo = some seat → seat.state = .eliminated

/-- The deadline is for a seat that is no longer acting, or that nobody can act for, and its timeout has not been
applied. -/
def Stale (deadline : ActionDeadline) (runtime : RuntimeService) : Prop :=
  ∃ actor, tableActor runtime deadline.tournamentID deadline.tableID = some actor ∧
    actor.results.get? (timeoutRequestID deadline) = none ∧ expiredSeatNo deadline actor.state ≠ 0 ∧
    (expiredSeatNo deadline actor.state ≠ actor.state.table.actingSeatNo ∨
      Vacant actor.state.table (expiredSeatNo deadline actor.state))

def giveTimeout (deadline : ActionDeadline) : RuntimeM Bool := do
  recoverActor deadline.tournamentID deadline.tableID
  Faulty.read fun runtime => match runtime.actors.get? deadline.tableID with
    | none => pure false
    | some actor =>
      if expiredSeatNo deadline actor.state = 0 then pure false
      else do
        handleActor deadline.tableID ⟨timeoutRequestID deadline,actor.state.stateSeq,
          .applyPhaseTimeout ⟨expiredSeatNo deadline actor.state⟩⟩
        return true

theorem readCall_ok {α : Type} {read : Store → α} {a : α} (done : storeCall (readCall read) runtime = (.ok a,after)) :
    a = read runtime.world.store ∧
      after = { runtime with world := { runtime.world with outcomes := runtime.world.outcomes.tail } } := by
  unfold storeCall readCall at done
  cases outcomes : runtime.world.outcomes with
  | nil =>
    simp only [outcomes] at done
    cases done
    exact ⟨rfl,rfl⟩
  | cons outcome rest =>
    cases outcome with
    | ok =>
      simp only [outcomes] at done
      cases done
      exact ⟨rfl,rfl⟩
    | failed rows =>
      simp only [outcomes] at done
      cases done

section Turn
variable {runtime after : RuntimeService} {deadline : ActionDeadline}

theorem expireDeadline_gives (deadline : ActionDeadline) : expireDeadline deadline = giveTimeout deadline >>= fun taken =>
    Faulty.given (taken = true) (afterTimeout deadline.tournamentID deadline.tableID) := by
  funext runtime
  cases recovered : recoverActor deadline.tournamentID deadline.tableID runtime with
  | mk outcome middle =>
    cases outcome with
    | error e =>
      have stopped : giveTimeout deadline runtime = (.error e,middle) := Faulty.bind_of_error _ recovered
      rw [Faulty.bind_of_error _ stopped]
      exact Faulty.bind_of_error _ recovered
    | ok done =>
      have whole : expireDeadline deadline runtime = _ := Faulty.bind_of_ok _ recovered
      have half : giveTimeout deadline runtime = _ := Faulty.bind_of_ok _ recovered
      rw [whole]
      rw [Faulty.read_run] at half ⊢
      cases found : middle.actors.get? deadline.tableID with
      | none =>
        rw [found] at half
        rw [Faulty.bind_of_ok _ half]
        rfl
      | some actor =>
        simp only [found] at half ⊢
        split_ifs at half ⊢ with unnamed
        · rw [Faulty.bind_of_ok _ half]
          rfl
        · cases handled : handleActor deadline.tableID ⟨timeoutRequestID deadline,actor.state.stateSeq,
              .applyPhaseTimeout ⟨expiredSeatNo deadline actor.state⟩⟩ middle with
          | mk answer last =>
            cases answer with
            | error e =>
              rw [Faulty.bind_of_error _ handled] at half ⊢
              rw [Faulty.bind_of_error _ half]
            | ok fine =>
              rw [Faulty.bind_of_ok _ handled] at half ⊢
              rw [Faulty.bind_of_ok _ half,Faulty.given_of rfl]

theorem recoverActor_cases (runtime : RuntimeService) (tournamentID tableID : String) :
    (∃ e after, recoverActor tournamentID tableID runtime = (.error e,after) ∧ Unrefused e) ∨
      ∃ after, recoverActor tournamentID tableID runtime = (.ok (),after) ∧
        after.actors.get? tableID = tableActor runtime tournamentID tableID := by
  unfold recoverActor
  rw [Faulty.read_run]
  unfold tableActor
  cases found : runtime.actors.get? tableID with
  | some actor =>
    right
    split
    · exact ⟨runtime,rfl,found⟩
    · exact ⟨runtime,rfl,found⟩
  | none =>
    by_cases past : (runtime.tournaments.get? tournamentID).any fun entry =>
        !tournamentAcceptsPlay entry.tournament.state
    · rw [if_pos past]
      exact .inr ⟨runtime,rfl,found.trans (if_pos past).symm⟩
    · rw [if_neg past]
      simp only [Option.isSome_none,Bool.false_eq_true,if_false]
      cases first : storeCall (readCall id) runtime with
      | mk outcome middle =>
        cases outcome with
        | error e => exact .inl ⟨e,middle,Faulty.bind_of_error _ first,unrefused_storeCall _ _ _ _ first⟩
        | ok store =>
          rw [Faulty.bind_of_ok _ first]
          obtain ⟨rfl,same⟩ := readCall_ok first
          cases second : storeCall (readCall fun _ => ()) middle with
          | mk outcome last =>
            cases outcome with
            | error e => exact .inl ⟨e,last,Faulty.bind_of_error _ second,unrefused_storeCall _ _ _ _ second⟩
            | ok done =>
              rw [Faulty.bind_of_ok _ second]
              obtain ⟨_,rfl⟩ := readCall_ok second
              subst same
              rw [if_neg past]
              right
              cases pictured : latestTableSnapshot runtime.world.store tournamentID tableID with
              | none =>
                simp only [id_eq,pictured]
                exact ⟨_,rfl,found⟩
              | some snapshot =>
                simp only [id_eq,pictured]
                exact ⟨_,rfl,OrdMap.get?_insert_self _ _ _⟩

theorem applyTimeout_error (table : Table.State) (seatNo : Int) :
    (∃ reason, apply table (.applyPhaseTimeout ⟨seatNo⟩) = .error reason) ↔
      seatNo ≠ table.actingSeatNo ∨ Vacant table seatNo := by
  unfold apply applyTimeout actingSeat Vacant
  by_cases acting : seatNo = table.actingSeatNo
  · simp only [acting,ne_eq,not_true_eq_false,if_false,false_or]
    cases held : table.seats.get? table.actingSeatNo with
    | none => simp [bind,Except.bind]
    | some seat =>
      by_cases gone : seat.state = .eliminated
      · simp [bind,Except.bind,gone]
      · simp [bind,Except.bind,pure,Except.pure,gone]
  · simp [bind,Except.bind,acting]

theorem handleTimeout_rejected (actor : Actor) (requestID : String) (seatNo : Int) (world : World) :
    (∃ reason, (actor.handle ⟨requestID,actor.state.stateSeq,.applyPhaseTimeout ⟨seatNo⟩⟩ world).1 =
      .error (.rejected reason)) ↔ actor.results.get? requestID = none ∧
        (seatNo ≠ actor.state.table.actingSeatNo ∨ Vacant actor.state.table seatNo) := by
  rw [← applyTimeout_error]
  unfold Actor.handle
  dsimp only
  cases actor.results.get? requestID with
  | some result => simp
  | none =>
    simp only [ne_eq,not_true_eq_false,if_false,true_and]
    cases outcome : apply actor.state.table (.applyPhaseTimeout ⟨seatNo⟩) with
    | error reason => simp
    | ok result =>
      obtain ⟨next,events⟩ := result
      dsimp only
      split
      · simp
      · simp

theorem giveTimeout_cases (deadline : ActionDeadline) (runtime : RuntimeService) :
    (∃ e after, giveTimeout deadline runtime = (.error e,after) ∧
        (Unrefused e ∨ refused e = true ∧ Stale deadline runtime)) ∨
      ∃ taken after, giveTimeout deadline runtime = (.ok taken,after) ∧ ¬Stale deadline runtime ∧
        (Live deadline runtime → taken = true) := by
  obtain ⟨e,after,failed,kind⟩ | ⟨middle,recovered,there⟩ :=
    recoverActor_cases runtime deadline.tournamentID deadline.tableID
  · exact .inl ⟨e,after,Faulty.bind_of_error _ failed,.inl kind⟩
  · have half : giveTimeout deadline runtime = _ := Faulty.bind_of_ok _ recovered
    rw [Faulty.read_run] at half
    cases found : middle.actors.get? deadline.tableID with
    | none =>
      rw [found] at half there
      refine .inr ⟨false,middle,half,?_,?_⟩
      · rintro ⟨actor,known,_⟩
        rw [← there] at known
        cases known
      · rintro ⟨actor,known,_⟩
        rw [← there] at known
        cases known
    | some actor =>
      rw [found] at half there
      dsimp only at half
      by_cases unnamed : expiredSeatNo deadline actor.state = 0
      · rw [if_pos unnamed] at half
        refine .inr ⟨false,middle,half,?_,?_⟩
        · rintro ⟨other,known,_,named,_⟩
          cases there.trans known
          exact absurd unnamed named
        · rintro ⟨other,known,acts,same⟩
          cases there.trans known
          exact absurd (same.symm.trans unnamed) acts
      · rw [if_neg unnamed] at half
        have answer := handleTimeout_rejected actor (timeoutRequestID deadline)
          (expiredSeatNo deadline actor.state) middle.world
        have stale : Stale deadline runtime ↔ actor.results.get? (timeoutRequestID deadline) = none ∧
            (expiredSeatNo deadline actor.state ≠ actor.state.table.actingSeatNo ∨
              Vacant actor.state.table (expiredSeatNo deadline actor.state)) := by
          constructor
          · rintro ⟨other,known,fresh,_,reason⟩
            cases there.trans known
            exact ⟨fresh,reason⟩
          · rintro ⟨fresh,reason⟩
            exact ⟨actor,there.symm,fresh,unnamed,reason⟩
        rw [← stale] at answer
        cases handled : actor.handle ⟨timeoutRequestID deadline,actor.state.stateSeq,
            .applyPhaseTimeout ⟨expiredSeatNo deadline actor.state⟩⟩ middle.world with
        | mk outcome rest =>
          rw [handled] at answer
          have run : handleActor deadline.tableID ⟨timeoutRequestID deadline,actor.state.stateSeq,
              .applyPhaseTimeout ⟨expiredSeatNo deadline actor.state⟩⟩ middle =
              ((outcome.map fun _ => ()).mapError .handle,{ middle with
                world := rest.2
                actors := middle.actors.insert deadline.tableID rest.1 }) := by
            unfold handleActor
            simp only [found,handled]
          cases outcome with
          | ok result =>
            refine .inr ⟨true,_,half.trans (Faulty.bind_of_ok _ run),fun refuses => ?_,fun _ => rfl⟩
            obtain ⟨reason,rejected⟩ := answer.mpr refuses
            cases rejected
          | error e =>
            refine .inl ⟨.handle e,_,half.trans (Faulty.bind_of_error _ run),?_⟩
            cases e with
            | rejected reason => exact .inr ⟨rfl,answer.mp ⟨reason,rfl⟩⟩
            | _ => exact .inl rfl

theorem giveTimeout_ends (deadline : ActionDeadline) (runtime : RuntimeService) :
    (giveTimeout deadline).Ends runtime ↔ ¬Stale deadline runtime ∧
      ∀ e after, giveTimeout deadline runtime = (.error e,after) → refused e = true := by
  rcases giveTimeout_cases deadline runtime with ⟨e,after,failed,kind⟩ | ⟨taken,after,done,fresh,_⟩
  · have stuck : ¬(giveTimeout deadline).Ends runtime := by
      rintro ⟨taken,done⟩
      rw [failed] at done
      cases done
    refine ⟨fun ended => absurd ended stuck,fun ⟨fresh,only⟩ => ?_⟩
    rcases kind with other | ⟨_,stale⟩
    · rw [Unrefused,only e after failed] at other
      cases other
    · exact absurd stale fresh
  · refine ⟨fun _ => ⟨fresh,fun e last failed => ?_⟩,fun _ => ⟨taken,by rw [done]⟩⟩
    cases done.symm.trans failed

theorem giveTimeout_taken (live : Live deadline runtime) :
    (∃ after, giveTimeout deadline runtime = (.ok true,after)) ↔ (giveTimeout deadline).Ends runtime := by
  constructor
  · rintro ⟨after,done⟩
    exact ⟨true,by rw [done]⟩
  · rintro ⟨taken,ended⟩
    rcases giveTimeout_cases deadline runtime with ⟨e,after,failed,_⟩ | ⟨answer,after,done,_,taken⟩
    · rw [failed] at ended
      cases ended
    · exact ⟨after,taken live ▸ done⟩

theorem expireDeadline_ends (deadline : ActionDeadline) (runtime : RuntimeService) :
    (expireDeadline deadline).Ends runtime ↔ ¬Stale deadline runtime ∧
      ∀ e after, expireDeadline deadline runtime = (.error e,after) → refused e = true := by
  constructor
  · rintro ⟨done,ended⟩
    constructor
    · have first : (giveTimeout deadline).Ends runtime := by
        rw [expireDeadline_gives] at ended
        obtain ⟨taken,middle,given,_⟩ := Faulty.ends_bind.mp ⟨done,ended⟩
        exact ⟨taken,by rw [given]⟩
      exact ((giveTimeout_ends deadline runtime).mp first).1
    · intro e after failed
      rw [failed] at ended
      cases ended
  · rintro ⟨fresh,only⟩
    cases run : expireDeadline deadline runtime with
    | mk outcome after =>
      cases outcome with
      | ok done => exact ⟨done,by rw [run]⟩
      | error e =>
        have refusal := only e after run
        rw [expireDeadline_gives] at run
        rcases giveTimeout_cases deadline runtime with ⟨e',middle,failed,kind⟩ | ⟨taken,middle,given,_⟩
        · rw [Faulty.bind_of_error _ failed] at run
          cases run
          rcases kind with other | ⟨_,stale⟩
          · rw [Unrefused,refusal] at other
            cases other
          · exact absurd stale fresh
        · rw [Faulty.bind_of_ok _ given] at run
          have other : Unrefused e := Faulty.Fails.given (unrefused_afterTimeout _) middle e after run
          rw [Unrefused,refusal] at other
          cases other

end Turn

def expiredDeadlines (runtime : RuntimeService) : List ActionDeadline :=
  listExpiredActionDeadlines runtime.world.store runtime.world.now

def listed (runtime : RuntimeService) : RuntimeService :=
  { runtime with world := { runtime.world with outcomes := runtime.world.outcomes.tail } }

def sweepTurns (runtime : RuntimeService) : List (ActionDeadline × RuntimeService) :=
  match storeCall (readCall id) runtime with
  | (.ok store,after) => Faulty.visits expireDeadline (listExpiredActionDeadlines store after.world.now) after
  | (.error _,_) => []

def atTurn (runtime : RuntimeService) (i : Nat) : RuntimeService :=
  Faulty.through expireDeadline ((expiredDeadlines runtime).take i) (listed runtime)

/-- Every deadline that is for the acting seat of its table when its turn comes has its timeout applied, whatever
the deadlines before it are. -/
def Unblocked (runtime : RuntimeService) : Prop :=
  ∀ i deadline, (expiredDeadlines runtime)[i]? = some deadline → Live deadline (atTurn runtime i) →
    (sweepTurns runtime)[i]? = some (deadline,atTurn runtime i) ∧
      ∃ after, giveTimeout deadline (atTurn runtime i) = (.ok true,after)

def Readable (runtime : RuntimeService) : Prop := ∀ outcome ∈ runtime.world.outcomes.take 1, outcome = .ok

def Passes (deadline : ActionDeadline) (runtime : RuntimeService) : Prop :=
  ¬Stale deadline runtime ∧ ∀ e after, expireDeadline deadline runtime = (.error e,after) → refused e = true

def Answered (deadline : ActionDeadline) (runtime : RuntimeService) : Prop :=
  ¬Stale deadline runtime ∧ ∀ e after, giveTimeout deadline runtime = (.error e,after) → refused e = true

theorem storeCall_read (runtime : RuntimeService) :
    Readable runtime ∧ storeCall (readCall id) runtime = (.ok runtime.world.store,listed runtime) ∨
      ¬Readable runtime ∧ ∃ e after, storeCall (readCall (id : Store → Store)) runtime = (.error e,after) := by
  unfold Readable storeCall readCall listed
  cases outcomes : runtime.world.outcomes with
  | nil => exact .inl ⟨by simp,rfl⟩
  | cons outcome rest =>
    cases outcome with
    | ok => exact .inl ⟨by simp,rfl⟩
    | failed rows => exact .inr ⟨by simp,_,_,rfl⟩

theorem sweepTurns_iff (runtime : RuntimeService) (i : Nat) (deadline : ActionDeadline)
    (found : (expiredDeadlines runtime)[i]? = some deadline) :
    (sweepTurns runtime)[i]? = some (deadline,atTurn runtime i) ↔ Readable runtime ∧
      ∀ j < i, ∀ earlier, (expiredDeadlines runtime)[j]? = some earlier → Passes earlier (atTurn runtime j) := by
  unfold sweepTurns
  rcases storeCall_read runtime with ⟨readable,read⟩ | ⟨unreadable,e,after,read⟩
  · simp only [read,readable,true_and]
    have visited : (Faulty.visits expireDeadline (expiredDeadlines runtime) (listed runtime))[i]? =
        some (deadline,atTurn runtime i) ↔ _ := Faulty.visits_iff
    refine visited.trans ?_
    rw [Faulty.inTurn_take]
    simp only [found,true_and,expireDeadline_ends]
    exact ⟨fun turns => turns.2,fun turns => ⟨rfl,turns⟩⟩
  · simp [read,unreadable]

/-- A sweep leaves no live deadline out exactly when it can read its list, no deadline that is stale in its turn
stands before a live one, and neither the repository nor a round fails on the way to it. -/
theorem sweep_unblocked (runtime : RuntimeService) : Unblocked runtime ↔
    ∀ i deadline, (expiredDeadlines runtime)[i]? = some deadline → Live deadline (atTurn runtime i) →
      Readable runtime ∧ Answered deadline (atTurn runtime i) ∧
        ∀ j < i, ∀ earlier, (expiredDeadlines runtime)[j]? = some earlier → Passes earlier (atTurn runtime j) := by
  unfold Unblocked
  refine forall_congr' fun i => forall_congr' fun deadline => forall_congr' fun found => forall_congr' fun live => ?_
  rw [sweepTurns_iff runtime i deadline found,giveTimeout_taken live,giveTimeout_ends]
  unfold Answered
  tauto

/-! Two tables whose first seats are to act. -/

def secondActor : Actor :=
  { signalActor with state := { signalActor.state with tableID := "tbl:tour:w1:01:02", phaseID := "phase:2" } }

def staleDeadline : ActionDeadline where
  deadlineID := "ddl:phase:0"
  tournamentID := "tour:w1:01"
  tableID := signalActor.state.tableID
  handID := signalActor.state.handID
  phaseID := "phase:0"
  seatID := seatID signalActor.state.tableID 2
  deadlineAt := 10
  status := .opened
  createdAt := 0
  updatedAt := 0

def liveDeadline : ActionDeadline where
  deadlineID := "ddl:phase:2"
  tournamentID := "tour:w1:01"
  tableID := secondActor.state.tableID
  handID := secondActor.state.handID
  phaseID := "phase:2"
  seatID := seatID secondActor.state.tableID 1
  deadlineAt := 20
  status := .opened
  createdAt := 0
  updatedAt := 0

def stalledRuntime : RuntimeService :=
  { world := { now := 30, store := { deadlines := (OrdMap.empty.insert "ddl:phase:0" staleDeadline).insert "ddl:phase:2" liveDeadline } }
    actors := (OrdMap.empty.insert signalActor.state.tableID signalActor).insert secondActor.state.tableID secondActor }

/-- The stale deadline ends the sweep before the other table is come to, and every sweep to come. -/
theorem sweep_blocked : ¬Unblocked stalledRuntime ∧
    processExpiredDeadlines stalledRuntime =
      (.error (.handle (.rejected (.illegalAction "not acting seat"))),stalledRuntime) := by
  constructor
  · intro unblocked
    have second : (expiredDeadlines stalledRuntime)[1]? = some liveDeadline := by decide +kernel
    have live : Live liveDeadline (atTurn stalledRuntime 1) :=
      ⟨secondActor,by decide +kernel,by decide +kernel,by decide +kernel⟩
    have missing : (sweepTurns stalledRuntime)[1]? = none := by decide +kernel
    rw [(unblocked 1 liveDeadline second live).1] at missing
    cases missing
  · decide +kernel

end Clawchain.Arena.App
