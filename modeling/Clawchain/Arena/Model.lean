import Clawchain.Lib.Format
import Mathlib.Data.String.Basic

/-! Waves, tournaments and entrants as the hub and the runtime know them, and
the identifiers their parts go by. -/
namespace Clawchain.Arena
open Clawchain.Lib

inductive ArenaMode where
  | rated
  | practice
  deriving DecidableEq, Repr

inductive WaveState where
  | scheduled
  | registrationOpen
  | registrationFrozen
  | fieldLocked
  | eligibilityResolving
  | fieldFinalized
  | packing
  | tournamentsCreated
  | seatingGenerated
  | seatsPublished
  | startArmed
  | inProgress
  | completed
  | finalized
  | cancelled
  | voided
  deriving DecidableEq, Repr

inductive TournamentState where
  | scheduled
  | registrationConfirmed
  | seating
  | ready
  | liveMultiTable
  | rebalancing
  | finalTableTransition
  | liveFinalTable
  | completed
  | rated
  | settled
  | cancelled
  | voided
  deriving DecidableEq, Repr

inductive RegistrationState where
  | notRegistered
  | registered
  | waitlisted
  | confirmed
  | seated
  | playing
  | eliminated
  | champion
  | removedBeforeStart
  | disqualified
  deriving DecidableEq, Repr

structure Entrant where
  id : String := ""
  waveID : String := ""
  tournamentID : String := ""
  minerID : String := ""
  seatAlias : String := ""
  registrationState : RegistrationState := .notRegistered
  tableID : String := ""
  seatID : String := ""
  finishRank : Int := 0
  stageReached : String := ""
  deriving DecidableEq, Repr

structure Wave where
  id : String
  mode : ArenaMode
  state : WaveState
  deriving DecidableEq, Repr

structure Tournament where
  (id waveID : String)
  mode : ArenaMode
  state : TournamentState
  noMultiplier : Bool
  voided : Bool := false
  seatingRepublishCount : Nat := 0
  currentRoundNo : Nat := 0
  currentLevelNo : Nat := 0
  (playersRegistered playersConfirmed playersRemaining activeTableCount : Nat)
  finalTableTableID : String := ""
  timeCapAt : Option Int := none
  completedAt : Option Int := none
  deriving DecidableEq, Repr

namespace Model

def tournamentID (waveID : String) (shardNo : Nat) : String := "tour:" ++ waveID ++ ":" ++ Format.pad 2 shardNo

def tableID (tournamentID : String) (tableNo : Int) : String :=
  "tbl:" ++ tournamentID ++ ":" ++ Format.padInt 2 tableNo

def handID (tournamentID : String) (tableNo : Int) (handNo : Nat) : String :=
  "hand:" ++ tournamentID ++ ":" ++ Format.padInt 2 tableNo ++ ":" ++ Format.pad 4 handNo

theorem tournamentID_injective (shardNo : Nat) : Function.Injective fun waveID => tournamentID waveID shardNo := by
  intro first second same
  have chars := congrArg String.toList same
  simp only [tournamentID,String.toList_append,List.append_assoc] at chars
  have tail := List.append_cancel_left chars
  have same := List.append_cancel_right tail
  exact String.toList_inj.mp same

theorem tournamentID_ne_empty (waveID : String) (shardNo : Nat) : tournamentID waveID shardNo ≠ "" := by
  intro empty
  have chars := congrArg String.toList empty
  simp [tournamentID,String.toList_append] at chars

end Model

end Clawchain.Arena
