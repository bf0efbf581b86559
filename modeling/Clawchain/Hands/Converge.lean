import Clawchain.Hands.Model
import Clawchain.Lib.Fallible
import Clawchain.Lib.Register
import Mathlib.Logic.Function.Basic

/-! The three stores of hands do the same with the version and the checksum of what they hold, and so give the same state to
every delivery and end with the highest version of every hand, as long as the table in Postgres can hold the events. -/
namespace Clawchain.Hands
open Clawchain.Lib

/-! What every store does, seen from the stamps alone. -/

abbrev Stamps := String → Option Stamp

abbrev Arrival := String × Stamp

def Stamps.state (stamps : Stamps) (arriving : Arrival) : IngestState := (arrival (stamps arriving.1) arriving.2).1

def Stamps.take (stamps : Stamps) (arriving : Arrival) : Stamps :=
  if (stamps.state arriving).stores then Function.update stamps arriving.1 (some arriving.2) else stamps

def states : List Arrival → Stamps → List IngestState
  | [],_ => []
  | arriving :: rest,stamps => stamps.state arriving :: states rest (stamps.take arriving)

def versioned (entry : Int × String) : Stamp := (some entry.1,entry.2)

def entriesOf (hand : String) (arrivals : List Arrival) : List (Int × String) :=
  arrivals.filterMap fun arriving => if arriving.1 = hand then arriving.2.1.map fun version => (version,arriving.2.2) else none

theorem arrival_versioned (held : Option (Int × String)) (version : Int) (checksum : String) :
    (if (arrival (held.map versioned) (some version,checksum)).1.stores then some (some version,checksum)
      else held.map versioned) = (Register.write held (version,checksum)).map versioned := by
  cases held with
  | none => rfl
  | some old =>
    obtain ⟨known,sum⟩ := old
    simp only [arrival,versioned,Register.write,Option.map_some,Option.any_some,decide_eq_true_eq,Option.some.injEq]
    rcases lt_trichotomy version known with below | rfl | above
    · rw [if_pos below,if_neg (show ¬known < version by omega)]
      rfl
    · rw [if_neg (lt_irrefl version),if_pos rfl,if_neg (lt_irrefl version)]
      by_cases same : checksum = sum <;> simp [same,IngestState.stores,versioned]
    · rw [if_neg (show ¬version < known by omega),if_neg above.ne,if_pos above]
      rfl

theorem arrival_unversioned (held : Option Stamp) (checksum : String) :
    (arrival held (none,checksum)).1.stores = false := by
  cases held with
  | none => rfl
  | some old =>
    unfold arrival
    dsimp only
    split <;> rfl

theorem take_register {stamps : Stamps} {hand : String} {held : Option (Int × String)} (before : stamps hand = held.map versioned)
    (arriving : Arrival) :
    stamps.take arriving hand = ((entriesOf hand [arriving]).foldl Register.write held).map versioned := by
  obtain ⟨own,version,checksum⟩ := arriving
  unfold Stamps.take Stamps.state
  by_cases same : own = hand
  · subst same
    rw [before]
    cases version with
    | none =>
      rw [arrival_unversioned]
      simpa [entriesOf] using before
    | some version =>
      have step := arrival_versioned held version checksum
      simp only [entriesOf,List.filterMap_cons,List.filterMap_nil,if_pos,Option.map_some,List.foldl_cons,List.foldl_nil]
      rw [← step]
      split <;> simp [before]
  · have apart : hand ≠ own := fun equal => same equal.symm
    simp only [entriesOf,List.filterMap_cons,List.filterMap_nil,if_neg same,List.foldl_nil]
    split <;> simp [Function.update_of_ne apart,before]

theorem fold_register {arrivals : List Arrival} {stamps : Stamps} {hand : String} {held : Option (Int × String)}
    (before : stamps hand = held.map versioned) :
    arrivals.foldl Stamps.take stamps hand = ((entriesOf hand arrivals).foldl Register.write held).map versioned := by
  induction arrivals generalizing stamps held with
  | nil => exact before
  | cons arriving rest ih =>
    have split : entriesOf hand (arriving :: rest) = entriesOf hand [arriving] ++ entriesOf hand rest := by
      rw [entriesOf,entriesOf,entriesOf,← List.filterMap_append]
      rfl
    rw [List.foldl_cons,ih (take_register before arriving),split,List.foldl_append]

section Stores
variable {Source Payload : Type}

namespace HandEvent

/-- An event that the check lets through, of a hand that has an id. -/
structure Valid (event : HandEvent Source Payload) : Prop where
  checked : validateHandCompletedEvent event = .ok ()
  named : present event.identity.handID.join = true

def arriving (event : HandEvent Source Payload) : Arrival := (event.identityHandID,event.stamp)

end HandEvent

variable {Row State Delivery : Type}
variable {event : HandEvent Source Payload}

def run (ingest : Delivery → State → Except String (IngestResult Row × State)) :
    List Delivery → State → Except String (List IngestState × State)
  | [],state => .ok ([],state)
  | delivery :: rest,state => do
    let (result,next) ← ingest delivery state
    let (later,last) ← run ingest rest next
    return (result.state :: later,last)

/-- A store that does with an arriving event what the stamps do. -/
def Follows (ingest : Delivery → State → Except String (IngestResult Row × State)) (stamps : State → Stamps)
    (delivery : Delivery) (arriving : Arrival) : Prop :=
  ∀ state, ∃ result next, ingest delivery state = .ok (result,next) ∧ result.state = (stamps state).state arriving ∧
    stamps next = (stamps state).take arriving

theorem run_follows {ingest : Delivery → State → Except String (IngestResult Row × State)} {stamps : State → Stamps}
    {arriving : Delivery → Arrival} {deliveries : List Delivery}
    (follows : ∀ delivery ∈ deliveries, Follows ingest stamps delivery (arriving delivery)) (start : State) :
    ∃ last, run ingest deliveries start = .ok (states (deliveries.map arriving) (stamps start),last) ∧
      stamps last = (deliveries.map arriving).foldl Stamps.take (stamps start) := by
  induction deliveries generalizing start with
  | nil => exact ⟨start,rfl,rfl⟩
  | cons delivery rest ih =>
    obtain ⟨own,others⟩ := List.forall_mem_cons.mp follows
    obtain ⟨result,next,done,state,after⟩ := own start
    obtain ⟨last,later,ended⟩ := ih others next
    refine ⟨last,?_,?_⟩
    · rw [run,done]
      change (run ingest rest next >>= _) = _
      rw [later,List.map_cons,states,← state,← after]
      rfl
    · rw [ended,List.map_cons,List.foldl_cons,after]

theorem insert_stamps {row : Type} {stamp : row → Stamp} {table : OrdMap String row} {hand : String} {new : row} {own : Stamp}
    (stamped : stamp new = own) :
    (fun other => (((if (arrival ((table.get? hand).map stamp) own).1.stores then table.insert hand new else table).get? other).map
      stamp)) = Stamps.take (fun other => (table.get? other).map stamp) (hand,own) := by
  unfold Stamps.take Stamps.state
  funext other
  split
  · rw [OrdMap.get?_insert,Function.update_apply]
    split
    · rw [Option.map_some,stamped]
    · rfl
  · rfl

def HotStore.stamps (store : HotStore Source Payload) : Stamps := fun hand => (OrdMap.get? store hand).map HandEvent.stamp

def HandTable.stamps (table : HandTable Source Payload) : Stamps := fun hand => (OrdMap.get? table hand).map HandRow.stamp

theorem hot_follows (valid : event.Valid) :
    Follows HotStore.ingest HotStore.stamps event event.arriving := by
  intro store
  unfold HotStore.ingest
  rw [valid.checked]
  exact ⟨_,_,rfl,rfl,insert_stamps rfl⟩

theorem answer_state (row : HandRow Source Payload) (existing : Option (HandRow Source Payload)) (state : IngestState)
    (reason : Option ConflictReason) : (row.answer existing state reason).state = state := by cases state <;> rfl

theorem replacing_stamp (row : HandRow Source Payload) (existing : Option (HandRow Source Payload)) :
    (row.replacing existing).stamp = row.stamp := rfl

theorem normalize_valid (valid : event.Valid) :
    ∃ row, normalizePokerMttHandEvent event = .ok row ∧ (row.handID,row.stamp) = event.arriving := by
  have own : event.handIDOf = event.identity.handID.join := if_pos valid.named
  unfold normalizePokerMttHandEvent
  rw [own,if_neg (by rw [valid.named]; simp)]
  exact ⟨_,rfl,rfl⟩

theorem memory_follows (valid : event.Valid) :
    Follows (ingestInto savePokerMttHandEvent) HandTable.stamps event event.arriving := by
  obtain ⟨row,made,own⟩ := normalize_valid valid
  intro table
  unfold ingestInto savePokerMttHandEvent
  rw [valid.checked,made,← own]
  exact ⟨_,_,rfl,answer_state ..,insert_stamps (replacing_stamp ..)⟩

section Postgres
variable {jsonbSource : Source → Bool} {jsonbPayload : Payload → Bool}

def HandEvent.Fits (jsonbSource : Source → Bool) (jsonbPayload : Payload → Bool) (event : HandEvent Source Payload) : Prop :=
  ∃ row, normalizePokerMttHandEvent event = .ok row ∧ columnsHold jsonbSource jsonbPayload row = true

theorem postgres_follows {event : HandEvent Source Payload} (valid : event.Valid) (fits : event.Fits jsonbSource jsonbPayload)
    (now : Int) :
    Follows (ingestInto (savePokerMttHandEventPg jsonbSource jsonbPayload now)) HandTable.stamps event event.arriving := by
  obtain ⟨row,made,own⟩ := normalize_valid valid
  obtain ⟨row',made',holds⟩ := fits
  obtain rfl := Except.ok.inj (made.symm.trans made')
  have named : isText row.handID = true := by
    simp only [columnsHold,Bool.and_eq_true] at holds
    exact holds.1.1.1.1.1.1.1.1.1.1
  intro table
  unfold ingestInto savePokerMttHandEventPg pokerMttHandEventValues
  rw [valid.checked,made,← own]
  dsimp only [bind,Except.bind,pure,Except.pure]
  rw [if_neg (by rw [named]; simp),if_neg fun failed => absurd (holds.symm.trans failed.2) (by simp)]
  exact ⟨_,_,rfl,answer_state ..,insert_stamps (replacing_stamp ..)⟩

end Postgres

/-- The three runs: every delivery has the time at which the table in Postgres gets it. -/
structure Converged (jsonbSource : Source → Bool) (jsonbPayload : Payload → Bool)
    (deliveries : List (Int × HandEvent Source Payload)) where
  states : List IngestState
  hot : HotStore Source Payload
  (memory postgres : HandTable Source Payload)
  hotRun : run (fun delivery => HotStore.ingest delivery.2) deliveries OrdMap.empty = .ok (states,hot)
  memoryRun : run (fun delivery => ingestInto savePokerMttHandEvent delivery.2) deliveries OrdMap.empty = .ok (states,memory)
  postgresRun : run (fun delivery => ingestInto (savePokerMttHandEventPg jsonbSource jsonbPayload delivery.1) delivery.2)
    deliveries OrdMap.empty = .ok (states,postgres)

def Consistent (deliveries : List (Int × HandEvent Source Payload)) : Prop :=
  ∀ first ∈ deliveries, ∀ second ∈ deliveries, first.2.identityHandID = second.2.identityHandID →
    first.2.version = second.2.version → first.2.checksum = second.2.checksum

def Highest (deliveries : List (Int × HandEvent Source Payload)) (event : HandEvent Source Payload) : Prop :=
  ∃ version, event.version = some version ∧ ∀ other ∈ deliveries, other.2.identityHandID = event.identityHandID →
    ∀ known, other.2.version = some known → known ≤ version

theorem stamps_highest {deliveries : List (Int × HandEvent Source Payload)} (consistent : Consistent deliveries)
    {delivery : Int × HandEvent Source Payload} (inside : delivery ∈ deliveries) (highest : Highest deliveries delivery.2) :
    (deliveries.map fun other => other.2.arriving).foldl Stamps.take (fun _ => none) delivery.2.identityHandID =
      some delivery.2.stamp := by
  obtain ⟨version,own,above⟩ := highest
  have member {entry : Int × String}
      (listed : entry ∈ entriesOf delivery.2.identityHandID (deliveries.map fun other => other.2.arriving)) :
      ∃ other ∈ deliveries, other.2.identityHandID = delivery.2.identityHandID ∧ other.2.version = some entry.1 ∧
        other.2.checksum.getD "" = entry.2 := by
    obtain ⟨arriving,made,found⟩ := List.mem_filterMap.mp listed
    obtain ⟨other,known,rfl⟩ := List.mem_map.mp made
    split at found
    · rename_i hand
      obtain ⟨number,stamped,rfl⟩ := Option.map_eq_some_iff.mp found
      exact ⟨other,known,hand,stamped,rfl⟩
    · cases found
  have register : Register.writes (entriesOf delivery.2.identityHandID (deliveries.map fun other => other.2.arriving)) =
      some (version,delivery.2.checksum.getD "") := by
    apply Register.writes_eq
    · intro a first b second same
      obtain ⟨x,inX,handX,versionX,checksumX⟩ := member first
      obtain ⟨y,inY,handY,versionY,checksumY⟩ := member second
      rw [← checksumX,← checksumY,consistent x inX y inY (handX.trans handY.symm) (by rw [versionX,versionY,same])]
    · refine List.mem_filterMap.mpr ⟨delivery.2.arriving,List.mem_map.mpr ⟨delivery,inside,rfl⟩,?_⟩
      simp [HandEvent.arriving,HandEvent.stamp,own]
    · intro entry listed
      obtain ⟨other,known,hand,stamped,-⟩ := member listed
      exact above other known hand entry.1 stamped
  have before : (fun _ => none : Stamps) delivery.2.identityHandID = (none : Option (Int × String)).map versioned := rfl
  rw [fold_register before]
  change (Register.writes _).map versioned = _
  rw [register,Option.map_some,versioned,HandEvent.stamp,own]

def handEvent (version : Int) (checksum : String) : HandEvent Unit Unit where
  eventID := some ("poker_mtt.hand:mtt-1:table-1:7:" ++ checksum)
  checksum := some checksum
  version := some version
  identity := {
    tournamentID := some (some "mtt-1")
    tableID := some (some "table-1")
    handNo := some (some 7)
    handID := some (some "mtt-1:table-1:7") }

theorem handEvent_valid {version : Int} {checksum : String} (some_ : checksum ≠ "") : (handEvent version checksum).Valid := by
  refine ⟨?_,rfl⟩
  have whole : present (handEvent version checksum).checksum = true := by simp [handEvent,present,some_]
  unfold validateHandCompletedEvent
  rw [whole]
  rfl

end Stores

end Clawchain.Hands
