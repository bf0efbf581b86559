import Clawchain.Arena.App.Calls

/-! Whole operations: a submit with its hook, and a sweep over the deadlines that
have run out. -/
namespace Clawchain.Arena.App
open Clawchain.Lib Clawchain.Arena.Table Clawchain.Arena.Hub

/-- The part of a submit that reaches the runtime: the table's actor takes the action and the observer looks at
the actor. The three rows are those of the ledger. -/
def submit (tournamentID tableID requestID : String) (expectedStateSeq : Int) (action : SubmitArenaAction) :
    RuntimeM Advance := Faulty.read fun runtime => match runtime.actors.get? tableID with
  | none => pure .waiting
  | some _ => do
    upsertRow
    handleActor tableID ⟨requestID,expectedStateSeq,.submitArenaAction action⟩
    upsertRow
    let advance ← Faulty.read fun runtime => match runtime.actors.get? tableID with
      | none => pure .waiting
      | some actor => onSubmitCommitted tournamentID tableID actor.state
    upsertRow
    return advance

def listExpiredActionDeadlines (store : Store) (asOf : Int) : List ActionDeadline :=
  ((store.deadlines.entries.map Prod.snd).filter fun deadline =>
    deadline.status = .opened ∧ deadline.deadlineAt ≤ asOf).insertionSort
    fun a b => a.deadlineAt < b.deadlineAt ∨ a.deadlineAt = b.deadlineAt ∧ a.createdAt ≤ b.createdAt

def timeoutRequestID (deadline : ActionDeadline) : String := "timeout:" ++ deadline.deadlineID

/-- The seat a deadline is for; one that names no seat is for the seat whose turn it is. -/
def expiredSeatNo (deadline : ActionDeadline) (state : ActorState) : Int :=
  if seatNoFromSeatID deadline.seatID = 0 then state.table.actingSeatNo else seatNoFromSeatID deadline.seatID

def afterTimeout (tournamentID tableID : String) : RuntimeM Unit := Faulty.read fun runtime =>
  match runtime.actors.get? tableID with
  | none => pure ()
  | some actor => match runtime.tournaments.get? tournamentID with
    | none => upsertRow
    | some entry => do
      let _ ← postActorMutation entry.waveID tournamentID tableID actor.state
      Faulty.read fun runtime => Faulty.given (¬(actor.state.table.handClosed = true ∧
        ((runtime.tournaments.get? tournamentID).any fun entry => entry.tournament.state = .completed) = true)) upsertRow

def expireDeadline (deadline : ActionDeadline) : RuntimeM Unit := do
  recoverActor deadline.tournamentID deadline.tableID
  Faulty.read fun runtime => match runtime.actors.get? deadline.tableID with
    | none => pure ()
    | some actor =>
      if expiredSeatNo deadline actor.state = 0 then pure ()
      else do
        handleActor deadline.tableID ⟨timeoutRequestID deadline,actor.state.stateSeq,
          .applyPhaseTimeout ⟨expiredSeatNo deadline actor.state⟩⟩
        afterTimeout deadline.tournamentID deadline.tableID

def processExpiredDeadlines : RuntimeM Unit := do
  let store ← storeCall (readCall id)
  Faulty.read fun runtime => Faulty.each expireDeadline (listExpiredActionDeadlines store runtime.world.now)

end Clawchain.Arena.App
