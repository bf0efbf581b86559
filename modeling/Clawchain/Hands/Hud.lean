import Clawchain.Hands.Consumer
import Clawchain.Hands.Converge
import Clawchain.Lib.Sorting
import Mathlib.Algebra.Group.Pi.Basic
import Mathlib.Algebra.BigOperators.Group.List.Basic
import Mathlib.Data.Prod.Lex
import Mathlib.Data.Fintype.Basic

/-! The counters of the HUD, which add up the hands that are projected, and the hands they are projected from. A hand is counted
when it is accepted first; what replaces it later is not counted. The HUD is what a replay of the stored hands gives as long as
nothing that replaces a hand says anything else of its players. -/
namespace Clawchain.Hands
open Clawchain.Lib

/-! What a hand's payload says. A miner without an address is passed over. -/

structure HandPlayer where
  minerAddress : Option String := none
  sourceUserID : SourceValue := .null
  deriving DecidableEq

structure HandAction where
  minerAddress : Option String := none
  sourceUserID : SourceValue := .null
  street : SourceValue := .null
  action : SourceValue := .null
  type : SourceValue := .null
  raiseNumber : SourceValue := .null
  deriving DecidableEq

structure HandShowdown where
  minerAddress : Option String := none
  won : SourceValue := .null
  deriving DecidableEq

structure HandPayload where
  players : List HandPlayer := []
  actions : List HandAction := []
  showdown : List HandShowdown := []
  deriving DecidableEq

abbrev PlayedHand := HandEvent Source HandPayload

inductive Counter where
  | handsSeen
  | vpip
  | pfr
  | threeBet
  | cbet
  | wentToShowdown
  | wonShowdown
  | unknownHand
  deriving DecidableEq, Repr

instance : Fintype Counter where
  elems := {.handsSeen,.vpip,.pfr,.threeBet,.cbet,.wentToShowdown,.wonShowdown,.unknownHand}
  complete counter := by cases counter <;> decide

structure HudRow where
  (tournamentID minerAddress : String)
  sourceUserID : SourceValue
  hudWindow : String
  counts : Counter → Nat
  deriving DecidableEq

namespace HandEvent
variable (event : PlayedHand)

def handPayload : HandPayload := event.payload.getD {}

def playersFromEvent : OrdMap String SourceValue :=
  event.handPayload.actions.foldl (fun players action => match orElse action.minerAddress none with
      | some minerAddress => if (players.get? minerAddress).isSome then players else players.insert minerAddress action.sourceUserID
      | none => players)
    (event.handPayload.players.foldl (fun players player => match orElse player.minerAddress none with
      | some minerAddress => players.insert minerAddress player.sourceUserID
      | none => players) OrdMap.empty)

def streetActionsFromEvent (street minerAddress : String) : List HandAction :=
  event.handPayload.actions.filter fun action =>
    PyText.lower action.street.printed = street && present action.minerAddress && action.minerAddress = some minerAddress

def showdownResultsFromEvent : OrdMap String Bool :=
  event.handPayload.showdown.foldl (fun results showdown => match orElse showdown.minerAddress none with
    | some minerAddress => results.insert minerAddress showdown.won.truth
    | none => results) OrdMap.empty

end HandEvent

def actionName (action : HandAction) : String := PyText.lower ((action.action.or action.type).or (.text "")).printed

def raises (fallback : Int) (test : Int → Bool) (action : HandAction) : Except String Bool :=
  if actionName action ≠ "raise" then .ok false
  else match optionalInt (action.raiseNumber.or (.number fallback)) with
    | some number => .ok (test number)
    | none => .error "raise_number is no integer"

def HandEvent.tally (event : PlayedHand) (minerAddress : String) : Except String (Counter → Nat) := do
  let preflop := event.streetActionsFromEvent "preflop" minerAddress
  let flop := event.streetActionsFromEvent "flop" minerAddress
  let showdown := event.showdownResultsFromEvent.get? minerAddress
  let count (condition : Bool) : Nat := if condition then 1 else 0
  let pfr ← preflop.anyM (raises 1 (· = 1))
  let threeBet ← preflop.anyM (raises 0 (3 ≤ ·))
  return fun
    | .handsSeen => 1
    | .vpip => count (preflop.any (actionName · ∈ ["bet","call","raise"]))
    | .pfr => count pfr
    | .threeBet => count threeBet
    | .cbet => count (preflop.any (actionName · = "raise") && flop.any (actionName · ∈ ["bet","raise"]))
    | .wentToShowdown => count showdown.isSome
    | .wonShowdown => count (showdown = some true)
    | .unknownHand => 0

structure HudProjectionSettings where
  enabled : Bool := false
  window : String := "short_term"

inductive HudProjectionState where
  | disabled
  | duplicate
  | conflict
  | projected
  deriving DecidableEq, Repr

structure HudProjectionResult where
  state : HudProjectionState
  projectedRows : Option (List HudRow) := none
  reason : Option String := none

structure HudHotStore where
  projectedHandChecksums : OrdMap String String := OrdMap.empty
  rows : OrdMap (Lex (String × String)) HudRow := OrdMap.empty

def HudHotStore.snapshotRows (tournamentID : String) (store : HudHotStore) : List HudRow :=
  Sorting.sortBy (fun a b => toLex (a.tournamentID,a.minerAddress) < toLex (b.tournamentID,b.minerAddress))
    ((store.rows.filter fun key _ => (ofLex key).1 = tournamentID).entries.map Prod.snd)

def HandEvent.tournament (event : PlayedHand) : String := event.identity.tournamentID.join.getD ""

section Projecting
variable (settings : HudProjectionSettings)

def emptyRow (tournamentID minerAddress : String) (sourceUserID : SourceValue) : HudRow where
  tournamentID := tournamentID
  minerAddress := minerAddress
  sourceUserID := sourceUserID
  hudWindow := settings.window
  counts := 0

def countPlayer (event : PlayedHand) (rows : OrdMap (Lex (String × String)) HudRow) (player : String × SourceValue) :
    Except String (OrdMap (Lex (String × String)) HudRow) :=
  (event.tally player.1).map fun counts =>
    let row := (rows.get? (toLex (event.tournament,player.1))).getD (emptyRow settings event.tournament player.1 player.2)
    rows.insert (toLex (event.tournament,player.1)) { row with counts := row.counts + counts }

/-- A call that fails half way leaves the store with what it has counted until then; it is not followed any further. -/
def projectHand (event : PlayedHand) (store : HudHotStore) : Except String (HudProjectionResult × HudHotStore) :=
  if settings.enabled = false then .ok ({ state := .disabled, reason := some "hud_projection_disabled" },store)
  else if event.tournament = "" ∨ event.identityHandID = "" ∨ event.checksum.getD "" = "" then
    .error "invalid hand event for hud projection"
  else
    let existing := store.projectedHandChecksums.get? event.identityHandID
    if existing = some (event.checksum.getD "") then
      .ok ({ state := .duplicate, projectedRows := some (store.snapshotRows event.tournament) },store)
    else if present existing then .ok ({ state := .conflict, reason := some "hand_checksum_mismatch" },store)
    else do
      let rows ← event.playersFromEvent.entries.foldlM (countPlayer settings event) store.rows
      let next : HudHotStore := {
        projectedHandChecksums := store.projectedHandChecksums.insert event.identityHandID (event.checksum.getD "")
        rows := rows }
      return ({ state := .projected, projectedRows := some (next.snapshotRows event.tournament) },next)

abbrev HandsAndHud := HotStore Source HandPayload × HudHotStore

def deliver (event : PlayedHand) (state : HandsAndHud) : Except String HandsAndHud := do
  let (result,hands) ← HotStore.ingest event state.1
  if result.state = .inserted ∨ result.state = .updated ∨ result.state = .duplicate then
    let (_,hud) ← projectHand settings event state.2
    return (hands,hud)
  else return (hands,state.2)

def deliverAll (events : List PlayedHand) : Except String HandsAndHud :=
  events.foldlM (fun state event => deliver settings event state) (OrdMap.empty,{})

def replay (events : List PlayedHand) : Except String HudHotStore :=
  events.foldlM (fun store event => (projectHand settings event store).map Prod.snd) {}

end Projecting

end Clawchain.Hands
