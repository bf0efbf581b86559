import Clawchain.Lib.OrdMap

/-! Data model of one arena table: phases, actions, seats and commands.
Go's string-typed enumerations admit any string, so the ones the engine
switches over with a default branch keep the remaining strings in `other`.
Chips are integers: every amount the engine computes is bounded by the chips
on the table, so the 64-bit width is never reached by a table that fits it. -/
namespace Clawchain.Arena.Table
open Clawchain.Lib

inductive Phase where
  | signal
  | probe
  | wager
  | other (name : String)
  deriving DecidableEq, Repr

def Phase.known : Phase → Bool
  | .other _ => false
  | _ => true

inductive ActionType where
  | signalNone
  | passProbe
  | check
  | call
  | fold
  | raise
  | allIn
  | autoCheck
  | autoFold
  | other (name : String)
  deriving DecidableEq, Repr

inductive EventType where
  | actionApplied
  | timeoutApplied
  | handClosed
  deriving DecidableEq, Repr

/-- A field the source leaves at its zero value is `none` or `0` here. -/
structure Event where
  type : EventType
  seatNo : Int := 0
  actionType : Option ActionType := none
  autoAction : Option ActionType := none
  amount : Int := 0
  deriving DecidableEq, Repr

inductive SeatState where
  | active
  | sitOut
  | eliminated
  | other (name : String)
  deriving DecidableEq, Repr

structure Seat where
  seatNo : Int := 0
  state : SeatState := .other ""
  stack : Int := 0
  committedThisHand : Int := 0
  wonThisHand : Int := 0
  showdownValue : Int := 0
  folded : Bool := false
  allInThisHand : Bool := false
  timedOutThisHand : Bool := false
  manualActionThisHand : Bool := false
  timeoutStreak : Int := 0
  sitOutWarningCount : Int := 0
  deriving DecidableEq, Repr

/-- Seat number 0 stands for "no seat" in `phaseStartSeatNo` and `actingSeatNo`. -/
structure State where
  currentPhase : Phase := .other ""
  phaseStartSeatNo : Int := 0
  actingSeatNo : Int := 0
  currentToCall : Int := 0
  minRaiseSize : Int := 0
  potMain : Int := 0
  handNumber : Nat := 0
  handClosed : Bool := false
  winnerSeatNos : List Int := []
  seats : OrdMap Int Seat := OrdMap.empty
  deriving DecidableEq

/-- Reading an absent key of a Go map gives the zero seat. -/
def State.seat (state : State) (seatNo : Int) : Seat := (state.seats.get? seatNo).getD {}

structure StartHand where
  (smallBlind bigBlind ante minRaiseTo : Int)
  deriving DecidableEq, Repr

structure SubmitArenaAction where
  seatNo : Int
  actionType : ActionType
  amount : Int := 0
  deriving DecidableEq, Repr

structure ApplyPhaseTimeout where
  seatNo : Int
  deriving DecidableEq, Repr

/-- `unknown` is any interface value that is none of the four commands. -/
inductive Command where
  | startHand (cmd : StartHand)
  | submitArenaAction (cmd : SubmitArenaAction)
  | applyPhaseTimeout (cmd : ApplyPhaseTimeout)
  | closeHand
  | unknown
  deriving DecidableEq, Repr

inductive ApplyError where
  | unknownCommand
  | illegalAction (detail : String)
  deriving DecidableEq, Repr

end Clawchain.Arena.Table
