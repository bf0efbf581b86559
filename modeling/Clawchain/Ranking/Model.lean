import Clawchain.Lib.Format
import Clawchain.Lib.OrdMap
import Mathlib.Algebra.Order.Ring.Rat
import Mathlib.Data.String.Basic

/-! The final ranking of a poker tournament: live snapshots, the rows of a
finalization, and how values and members are read out of a snapshot. -/
namespace Clawchain.Ranking
open Clawchain.Lib Clawchain.Lib.Format

/-- `float64`. The sign of a zero is not kept: no comparison sees it. -/
inductive F64 where
  | finite (value : ℚ)
  | inf (negative : Bool)
  | nan
  deriving DecidableEq

namespace F64

def isFinite : F64 → Bool
  | finite _ => true
  | _ => false

def lt : F64 → F64 → Bool
  | finite a,finite b => decide (a < b)
  | finite _,inf negative => !negative
  | inf negative,finite _ => negative
  | inf true,inf false => true
  | _,_ => false

/-- `==` on floats: NaN equals nothing. -/
def eq : F64 → F64 → Bool
  | nan,_ => false
  | a,b => decide (a = b)

def abs : F64 → F64
  | finite a => finite |a|
  | inf _ => inf false
  | nan => nan

def neg : F64 → F64
  | finite a => finite (-a)
  | inf negative => inf !negative
  | nan => nan

end F64

/-- A decoded JSON value. Arrays and objects are kept as `fmt.Sprint` prints them and as they are encoded again. -/
inductive Value where
  | null
  | bool (value : Bool)
  | number (value : F64)
  | text (value : String)
  | other (printed encoded : String)
  deriving DecidableEq

def Value.isFinite : Value → Bool
  | .number value => value.isFinite
  | _ => true

abbrev Entry := OrdMap String Value

def Entry.field (entry : Entry) (name : String) : Value := (entry.get? name).getD .null

structure RedisKeys where
  userInfo : String := ""
  aliveScore : String := ""
  diedInfo : String := ""

structure ZMember where
  member : String
  score : F64
  deriving DecidableEq

/-- A Go map is given as the list of its entries, in the order in which it is walked. -/
structure LiveSnapshot where
  tournamentID : String
  sourceMTTID : String := ""
  gameType : String := ""
  runtimeState : String := ""
  quietPeriodSatisfied : Bool := false
  keys : RedisKeys := {}
  userInfo : List (String × String) := []
  alive : List ZMember := []
  died : List String := []

structure RegistrationSnapshot where
  tournamentID : String := ""
  sourceMTTID : String := ""
  userInfo : List (String × String) := []

inductive RankState where
  | ranked
  | waitingNoShow
  | unresolvedSnapshot
  | voided
  | duplicateEntryCollapsed
  deriving DecidableEq

def RankState.name : RankState → String
  | .ranked => "ranked"
  | .waitingNoShow => "waiting_no_show"
  | .unresolvedSnapshot => "unresolved_snapshot"
  | .voided => "voided"
  | .duplicateEntryCollapsed => "duplicate_entry_collapsed"

inductive StandingStatus where
  | alive
  | died
  | pending
  deriving DecidableEq

structure FinalRankingRow where
  (id tournamentID sourceMTTID sourceUserID minerAddress economicUnitID memberID : String)
  entryNumber : Int
  reentryCount : Nat
  (rank displayRank : Option Int)
  rankState : RankState
  rankBasis : String := ""
  rankTiebreaker : String := ""
  (chip chipDelta : F64)
  diedTime : String
  waitingOrNoShow : Bool
  bounty : F64
  defeatNum : Int
  (fieldSizePolicy standingSnapshotID standingSnapshotHash : String)
  evidenceRoot : String := ""
  evidenceState : String := ""
  policyBundleVersion : String
  snapshotFound : Bool
  status : StandingStatus
  (playerName roomID : String)
  startChip : F64
  standUpStatus : String
  sourceRank : String := ""
  sourceRankNumeric : Bool := false
  zSetScore : Option F64 := none
  deriving DecidableEq

structure Finalization where
  (tournamentID sourceMTTID snapshotID snapshotHash root policyBundleVersion : String)
  rows : List FinalRankingRow

structure CanonicalSnapshotPayload where
  (tournamentID sourceMTTID gameType runtimeState : String)
  quietPeriodSatisfied : Bool
  keys : RedisKeys
  (userInfo registration : List (String × Entry))
  alive : List ZMember
  died : List String

structure CanonicalRowsPayload where
  (tournamentID sourceMTTID policyBundleVersion : String)
  rows : List FinalRankingRow

/-- What the finalizer takes from Go's standard library, and is not read here. -/
structure Go where
  /-- `json.Unmarshal` into a map: an error, or the map; `null` leaves the map nil. -/
  unmarshal : String → Except String (Option Entry)
  /-- `fmt.Sprint` of a float. -/
  sprint : F64 → String
  /-- The value, and whether there was no error: out of range, it is an infinity with an error. -/
  parseFloat : String → F64 × Bool
  /-- The conversion `int(x)`. -/
  toInteger : F64 → Int
  toLower : String → String
  /-- The float nearest to an exact value. -/
  round : ℚ → F64
  /-- `%.6f` and `%q`. -/
  fixed : F64 → String
  quoted : String → String
  /-- SHA-256 of the encoded payload, in hexadecimal digits. -/
  snapshotDigest : CanonicalSnapshotPayload → String
  rowsDigest : CanonicalRowsPayload → String

inductive Refusal where
  | invalidLiveSnapshot
  | userSnapshot (memberID cause : String)
  | registrationSnapshot (memberID cause : String)
  | registrationMissingMember
  | diedEntry (cause : String)
  | notTerminal (runtimeState : String)
  | entrantCount (expected : Int) (actual : Nat)
  | statusCount (label : String) (expected : Int) (actual : Nat)
  | totalChipDrift (expected actual tolerance : F64)
  | nonRankedHasRank (memberID : String) (rankState : RankState) (rank : Int)
  | rankedMissingRank (memberID : String)
  | duplicateRank (rank : Int) (memberID existingMemberID : String)
  | nonContiguousRanks (expected actual : Int)
  | unsupportedValue
  deriving DecidableEq

section Values

variable (go : Go)

def Refusal.text : Refusal → String
  | .invalidLiveSnapshot => live
  | .userSnapshot memberID cause => live ++ ": user snapshot " ++ memberID ++ ": " ++ cause
  | .registrationSnapshot memberID cause => live ++ ": registration snapshot " ++ memberID ++ ": " ++ cause
  | .registrationMissingMember => live ++ ": registration snapshot missing member id"
  | .diedEntry cause => live ++ ": died entry: " ++ cause
  | .notTerminal runtimeState =>
    barrier ++ ": runtime state " ++ go.quoted runtimeState ++ " is not terminal and quiet period is not satisfied"
  | .entrantCount expected actual =>
    barrier ++ ": entrant count mismatch expected=" ++ toString expected ++ " actual=" ++ toString actual
  | .statusCount label expected actual =>
    barrier ++ ": " ++ label ++ " count mismatch expected=" ++ toString expected ++ " actual=" ++ toString actual
  | .totalChipDrift expected actual tolerance =>
    barrier ++ ": total chip drift expected=" ++ go.fixed expected ++ " actual=" ++ go.fixed actual ++
      " tolerance=" ++ go.fixed tolerance
  | .nonRankedHasRank memberID rankState rank =>
    barrier ++ ": non-ranked row has payout rank member_id=" ++ memberID ++ " rank_state=" ++ rankState.name ++
      " rank=" ++ toString rank
  | .rankedMissingRank memberID => barrier ++ ": ranked row missing payout rank member_id=" ++ memberID
  | .duplicateRank rank memberID existingMemberID =>
    barrier ++ ": duplicate payout rank rank=" ++ toString rank ++ " member_id=" ++ memberID ++
      " existing_member_id=" ++ existingMemberID
  | .nonContiguousRanks expected actual =>
    barrier ++ ": non-contiguous payout ranks expected=" ++ toString expected ++ " actual=" ++ toString actual
  | .unsupportedValue => "json: unsupported value"
where
  live := "invalid poker mtt live ranking snapshot"
  barrier := "poker mtt finalization barrier failed"

def sub : F64 → F64 → F64
  | .finite a,.finite b => go.round (a - b)
  | .inf negative,.inf other => if negative = other then .nan else .inf negative
  | .inf negative,.finite _ => .inf negative
  | .finite _,.inf negative => .inf !negative
  | _,_ => .nan

def add (a b : F64) : F64 := sub go a b.neg

def decodeJSONObject (raw : String) : Except String Entry :=
  match go.unmarshal raw with
  | .error cause => .error cause
  | .ok none => .error "expected JSON object"
  | .ok (some decoded) => .ok decoded

def sprint : Value → String
  | .null => "<nil>"
  | .bool value => if value then "true" else "false"
  | .number value => go.sprint value
  | .text value => value
  | .other printed _ => printed

def normalizeString : Value → String
  | .null => ""
  | value => trimSpace (sprint go value)

def firstString (values : List Value) : String := ((values.map (normalizeString go)).find? (· ≠ "")).getD ""

/-- `strconv.Atoi`, within the range of the machine's integers. -/
def atoi (text : String) : Option Int :=
  (Format.atoi text.toList).filter fun integer => decide (-2 ^ 63 ≤ integer ∧ integer < 2 ^ 63)

/-- The default case of `toInt`. -/
def textToInt (printed : String) : Option Int :=
  let text := trimSpace printed
  if text = "" then none
  else match atoi text with
    | some integer => some integer
    | none => if (go.parseFloat text).2 then some (go.toInteger (go.parseFloat text).1) else none

def toInt : Value → Option Int
  | .null => none
  | .bool value => some (if value then 1 else 0)
  | .number value => some (go.toInteger value)
  | value => textToInt go (sprint go value)

/-- The number, and whether there is one; after a failed parse the number is what the parse left. -/
def toNumber : Value → F64 × Bool
  | .null => (.finite 0,false)
  | .bool value => (.finite (if value then 1 else 0),true)
  | .number value => (value,true)
  | value =>
    let text := trimSpace (sprint go value)
    if text = "" then (.finite 0,false) else go.parseFloat text

def numberOrZero (value : Value) : F64 := if (toNumber go value).2 then (toNumber go value).1 else .finite 0

def intOrZero (values : List Value) : Int := (values.findSome? (toInt go)).getD 0

def parseMemberID (memberID : String) : String × Option Int :=
  let trimmed := (trimSpace memberID).toList
  let userID := normalizeString go (.text (String.ofList (trimmed.takeWhile (· ≠ ':'))))
  if ':' ∈ trimmed then (userID,toInt go (.text (String.ofList ((trimmed.dropWhile (· ≠ ':')).drop 1))))
  else (userID,none)

def memberIDOf (normalizedUserID : String) (normalizedEntryNumber : Option Int) : String :=
  match normalizedEntryNumber with
  | none => ""
  | some entryNumber => if normalizedUserID = "" then "" else normalizedUserID ++ ":" ++ toString entryNumber

def buildMemberID (userID entryNumber : Value) : String :=
  memberIDOf (normalizeString go userID) (toInt go entryNumber)

def normalizeMemberID (memberID : String) (entry : Entry) : String :=
  let normalized := trimSpace memberID
  if normalized ≠ "" then normalized else buildMemberID go (entry.field "userID") (entry.field "entryNumber")

def memberSortKeyLess (left right : String) : Bool :=
  let (leftUserID,leftEntry) := parseMemberID go left
  let (rightUserID,rightEntry) := parseMemberID go right
  let leftUser := toInt go (.text leftUserID)
  let rightUser := toInt go (.text rightUserID)
  if leftUser.isSome ∧ rightUser.isSome ∧ leftUser ≠ rightUser then decide (leftUser.getD 0 < rightUser.getD 0)
  else if leftUser.isSome ≠ rightUser.isSome then leftUser.isSome
  else if leftUserID ≠ rightUserID then decide (leftUserID < rightUserID)
  else if leftEntry.isSome ∧ rightEntry.isSome ∧ leftEntry ≠ rightEntry then
    decide (leftEntry.getD 0 < rightEntry.getD 0)
  else if leftEntry.isSome ≠ rightEntry.isSome then leftEntry.isSome
  else decide (left < right)

def isWaitingOrNoShow (status : String) : Bool :=
  ["waiting","wait","no_show","noshow","no-show","not_joined"].contains (go.toLower (trimSpace status))

def isTerminalRuntimeState (state : String) : Bool :=
  ["finished","complete","completed","closed","terminal","settled"].contains (go.toLower (trimSpace state))

def sourceRankText : Value → String
  | .null => ""
  | value => trimSpace (sprint go value)

def mergeEntries (snapshotEntry eventEntry : Entry) : Entry :=
  eventEntry.entries.foldl (fun merged field => merged.insert field.1 field.2) snapshotEntry

end Values

def rowID (tournamentID memberID : String) : String :=
  "poker_mtt_final_ranking:" ++ tournamentID ++ ":" ++ memberID

def snapshotID (tournamentID digest : String) : String :=
  "poker_mtt_standing_snapshot:" ++ tournamentID ++ ":" ++ String.ofList (digest.toList.take 16)

end Clawchain.Ranking
