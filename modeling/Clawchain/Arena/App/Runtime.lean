import Clawchain.Arena.App.Barrier
import Mathlib.Logic.Relation

/-! The runtime as a whole: the calls it takes, in any order, at any time and
with any of their writes refused. -/
namespace Clawchain.Arena.App
open Clawchain.Lib Clawchain.Arena.Table Clawchain.Arena.Hub

def recoverActor (tournamentID tableID : String) : RuntimeM Unit := Faulty.read fun runtime =>
  if (runtime.tournaments.get? tournamentID).any fun entry => !tournamentAcceptsPlay entry.tournament.state then pure ()
  else if (runtime.actors.get? tableID).isSome then pure ()
  else do
    let store ← storeCall (readCall id)
    storeCall (readCall fun _ => ())
    match latestTableSnapshot store tournamentID tableID with
    | none => pure ()
    | some snapshot => setActor tableID (newRecoveredActor
        (recoveredState snapshot (latestOpenDeadline store tournamentID tableID)) snapshot.streamSeq)

inductive Call where
  | createWave (waveID mode : String)
  | registerMiner (waveID minerID : String)
  | unregisterMiner (waveID minerID : String)
  | lockWave (waveID : String)
  | publishSeats (waveID : String)
  | forceRemoveBeforeStart (waveID minerID : String)
  | disqualify (tournamentID minerID reason : String)
  | armTimeCap (tournamentID : String)
  | voidTournament (tournamentID : String)
  | handle (tableID : String) (envelope : CommandEnvelope)
  | observe (tournamentID tableID : String) (state : ActorState)
  | recover (tournamentID tableID : String)
  deriving DecidableEq

def Call.fieldWave : Call → Option String
  | .createWave waveID _ => some waveID
  | .registerMiner waveID _ => some waveID
  | .unregisterMiner waveID _ => some waveID
  | .lockWave waveID => some waveID
  | .publishSeats waveID => some waveID
  | .forceRemoveBeforeStart waveID _ => some waveID
  | _ => none

section Run
variable (sum256 : String → Nat)

def perform : Call → RuntimeM Advance
  | .createWave waveID mode => do
    createWave waveID mode
    return .waiting
  | .registerMiner waveID minerID => do
    registerMiner waveID minerID
    return .waiting
  | .unregisterMiner waveID minerID => do
    unregisterMiner waveID minerID
    return .waiting
  | .lockWave waveID => do
    lockWave sum256 waveID
    return .waiting
  | .publishSeats waveID => do
    publishSeats waveID
    return .waiting
  | .forceRemoveBeforeStart waveID minerID => do
    forceRemoveBeforeStart sum256 waveID minerID
    return .waiting
  | .disqualify tournamentID minerID reason => do
    disqualify tournamentID minerID reason
    return .waiting
  | .armTimeCap tournamentID => do
    armTimeCap tournamentID
    return .waiting
  | .voidTournament tournamentID => do
    voidTournament tournamentID
    return .waiting
  | .handle tableID envelope => do
    handleActor tableID envelope
    return .waiting
  | .observe tournamentID tableID state => onSubmitCommitted tournamentID tableID state
  | .recover tournamentID tableID => do
    recoverActor tournamentID tableID
    return .waiting

structure Moment where
  now : Int := 0
  outcomes : List Outcome := []

def RuntimeService.at (runtime : RuntimeService) (moment : Moment) : RuntimeService :=
  { runtime with world := { runtime.world with now := moment.now, outcomes := moment.outcomes } }

/-- One call after the other, whether they succeed or fail; `admits` says which calls are made in which states. -/
inductive Run (admits : RuntimeService → Call → Prop) (start : RuntimeService) : RuntimeService → Prop where
  | start : Run admits start start
  | call {runtime : RuntimeService} (run : Run admits start runtime) (moment : Moment) (call : Call)
    (admitted : admits (runtime.at moment) call) : Run admits start (perform sum256 call (runtime.at moment)).2

def performAll (calls : List Call) (runtime : RuntimeService) : RuntimeService :=
  calls.foldl (fun runtime call => (perform sum256 call (runtime.at {})).2) runtime

theorem performAll_run (calls : List Call) (start : RuntimeService) :
    Run sum256 (fun _ _ => True) start (performAll sum256 calls start) := by
  induction calls using List.reverseRecOn with
  | nil => exact .start
  | append_singleton calls call ih =>
    rw [performAll,List.foldl_append]
    exact ih.call {} call trivial

def timeOut (tournamentID : String) (runtime : RuntimeService) (tableID : String) : RuntimeService :=
  match runtime.actors.get? tableID with
  | none => runtime
  | some actor =>
    let after := (perform sum256 (.handle tableID ⟨"timeout:" ++ actor.state.phaseID,actor.state.stateSeq,
      .applyPhaseTimeout ⟨actor.state.table.actingSeatNo⟩⟩) (runtime.at {})).2
    match after.actors.get? tableID with
    | none => after
    | some actor => (perform sum256 (.observe tournamentID tableID actor.state) (after.at {})).2

def timeOuts (tournamentID : String) (tableIDs : List String) (runtime : RuntimeService) : RuntimeService :=
  tableIDs.foldl (timeOut sum256 tournamentID) runtime

theorem timeOuts_run {admits : RuntimeService → Call → Prop} (tournamentID : String) {start : RuntimeService}
    (handles : ∀ runtime tableID envelope, admits runtime (.handle tableID envelope))
    (observes : ∀ runtime tableID state, admits runtime (.observe tournamentID tableID state))
    (tableIDs : List String) {runtime : RuntimeService} (run : Run sum256 admits start runtime) :
    Run sum256 admits start (timeOuts sum256 tournamentID tableIDs runtime) := by
  induction tableIDs generalizing runtime with
  | nil => exact run
  | cons tableID rest ih =>
    refine ih ?_
    unfold timeOut
    split
    · exact run
    · dsimp only
      split
      · exact run.call {} _ (handles _ _ _)
      · exact (run.call {} _ (handles _ _ _)).call {} _ (observes _ _ _)

/-- The states of a runtime that was started empty. -/
def Reachable (runtime : RuntimeService) : Prop := Run sum256 (fun _ _ => True) {} runtime

end Run

end Clawchain.Arena.App
