import Clawchain.Lib.OrdMap
import Clawchain.Lib.Sorting
import Mathlib.Data.Prod.Lex
import Mathlib.Data.Multiset.Defs

/-! The replayer: the final hash of a tournament over its latest snapshots, its eliminations and its rating inputs, and
its comparison with an expected one. -/
namespace Clawchain.Arena.Replay
open Clawchain.Lib Clawchain.Lib.Sorting

variable {F : Type}

/-- A time is compared by its instant and shown in its location. -/
structure Time where
  instant : Int
  location : String := "UTC"
  deriving DecidableEq, Repr

structure TournamentSnapshot where
  id : String
  (streamSeq stateSeq : Int)
  (stateHash payloadHash payload : String)
  deriving DecidableEq, Repr

structure TableSnapshot where
  (id tableID : String)
  (streamSeq stateSeq : Int)
  (stateHash payloadHash payload : String)
  deriving DecidableEq, Repr

structure EliminationEvent where
  (id tableID seatID entrantID : String)
  finishRank : Int
  stageReached : String
  occurredAt : Time
  (stateHash payloadHash : String)
  deriving DecidableEq, Repr

structure RatingInput (F : Type) where
  (id entrantID minerAddress : String)
  finishRank : Int
  tournamentScore : F
  (stateHash payloadHash : String)

def tableLess (a b : TableSnapshot) : Bool :=
  if a.tableID ≠ b.tableID then a.tableID < b.tableID
  else if a.streamSeq ≠ b.streamSeq then a.streamSeq < b.streamSeq
  else a.id < b.id

def eliminationLess (a b : EliminationEvent) : Bool :=
  if a.occurredAt.instant ≠ b.occurredAt.instant then a.occurredAt.instant < b.occurredAt.instant
  else if a.entrantID ≠ b.entrantID then a.entrantID < b.entrantID
  else a.id < b.id

def ratingLess (a b : RatingInput F) : Bool :=
  if a.minerAddress ≠ b.minerAddress then a.minerAddress < b.minerAddress
  else if a.entrantID ≠ b.entrantID then a.entrantID < b.entrantID
  else a.id < b.id

structure TablePart where
  tableID : String
  (streamSeq stateSeq : Int)
  (stateHash payloadHash payload : String)

structure EliminationPart where
  (id tableID seatID entrantID : String)
  finishRank : Int
  (stageReached stateHash payloadHash : String)

structure RatingPart (F : Type) where
  (id entrantID minerAddress : String)
  finishRank : Int
  tournamentScore : F
  (stateHash payloadHash : String)

structure Parts (F : Type) where
  tournament : TournamentSnapshot
  tables : List TablePart
  eliminations : List EliminationPart
  ratings : List (RatingPart F)

def tablePart (snapshot : TableSnapshot) : TablePart :=
  ⟨snapshot.tableID,snapshot.streamSeq,snapshot.stateSeq,snapshot.stateHash,snapshot.payloadHash,snapshot.payload⟩

def eliminationPart (event : EliminationEvent) : EliminationPart :=
  ⟨event.id,event.tableID,event.seatID,event.entrantID,event.finishRank,event.stageReached,event.stateHash,event.payloadHash⟩

def ratingPart (input : RatingInput F) : RatingPart F :=
  ⟨input.id,input.entrantID,input.minerAddress,input.finishRank,input.tournamentScore,input.stateHash,input.payloadHash⟩

def partsOf (tournament : TournamentSnapshot) (tables : List TableSnapshot) (eliminations : List EliminationEvent)
    (ratings : List (RatingInput F)) : Parts F where
  tournament := tournament
  tables := (sortBy tableLess tables).map tablePart
  eliminations := (sortBy eliminationLess eliminations).map eliminationPart
  ratings := (sortBy ratingLess ratings).map ratingPart

structure Loader (F : Type) where
  loadLatestTournamentSnapshot : String → Except String TournamentSnapshot
  loadLatestTableSnapshots : String → Except String (List TableSnapshot)
  listEliminationEventsByTournament : String → Except String (List EliminationEvent)
  listRatingInputs : String → Except String (List (RatingInput F))

/-- The encoding of the parts, which fails on a float that is no number, and the hash of a text in hexadecimal digits. -/
structure Encoding (F : Type) where
  marshal : Parts F → Except String String
  sum256 : String → String

structure Replayer (F : Type) where
  expectedFinalHashes : OrdMap String String := OrdMap.empty
  computedFinalHashes : OrdMap String String := OrdMap.empty
  loader : Option (Loader F) := none

def Replayer.computeFinalHash (encoding : Encoding F) (replayer : Replayer F) (tournamentID : String) :
    Except String String :=
  match replayer.loader with
  | none => match replayer.computedFinalHashes.get? tournamentID with
    | some computed => .ok computed
    | none => .error "repository loader is required"
  | some loader => do
    let tournament ← loader.loadLatestTournamentSnapshot tournamentID
    let tables ← loader.loadLatestTableSnapshots tournamentID
    let eliminations ← loader.listEliminationEventsByTournament tournamentID
    let ratings ← loader.listRatingInputs tournamentID
    let payload ← encoding.marshal (partsOf tournament tables eliminations ratings)
    return encoding.sum256 payload

/-! Every order is total on rows with an id of their own. -/

def tableKey (a : TableSnapshot) : String ×ₗ Int ×ₗ String := toLex (a.tableID,toLex (a.streamSeq,a.id))

def eliminationKey (a : EliminationEvent) : Int ×ₗ String ×ₗ String :=
  toLex (a.occurredAt.instant,toLex (a.entrantID,a.id))

def ratingKey (a : RatingInput F) : String ×ₗ String ×ₗ String := toLex (a.minerAddress,toLex (a.entrantID,a.id))

section Keys
variable {α κ₁ κ₂ κ₃ : Type} [LinearOrder κ₁] [LinearOrder κ₂] [LinearOrder κ₃]

theorem less_iff (x x' : κ₁) (y y' : κ₂) (z z' : κ₃) :
    (if x ≠ x' then decide (x < x') else if y ≠ y' then decide (y < y') else decide (z < z')) = true ↔
      toLex (x,toLex (y,z)) < toLex (x',toLex (y',z')) := by
  rw [Prod.Lex.toLex_lt_toLex,Prod.Lex.toLex_lt_toLex]
  split_ifs with first second
  · simp [first]
  · simp [not_not.mp first,second]
  · simp [not_not.mp first,not_not.mp second]

theorem sortBy_reordered {less : α → α → Bool} {rows rows' : List α} (id : α → String) (key : α → κ₁ ×ₗ κ₂ ×ₗ String)
    (agrees : ∀ a b, less a b = true ↔ key a < key b) (ends : ∀ a, (ofLex (ofLex (key a)).2).2 = id a)
    (distinct : (rows.map id).Nodup) (same : (rows : Multiset α) = rows') : sortBy less rows = sortBy less rows' := by
  refine sortBy_eq_of_perm key (fun a _ b _ => agrees a b) ?_ (Multiset.coe_eq_coe.mp same)
  intro a first b second equal
  refine List.inj_on_of_nodup_map distinct first second ?_
  rw [← ends a,← ends b,equal]

end Keys

/-! The hash and the order of the rows. -/

structure Reordered (first next : Loader F) (tournamentID : String) : Prop where
  tournament : first.loadLatestTournamentSnapshot tournamentID = next.loadLatestTournamentSnapshot tournamentID
  tables : (first.loadLatestTableSnapshots tournamentID).map Multiset.ofList =
    (next.loadLatestTableSnapshots tournamentID).map Multiset.ofList
  eliminations : (first.listEliminationEventsByTournament tournamentID).map Multiset.ofList =
    (next.listEliminationEventsByTournament tournamentID).map Multiset.ofList
  ratings : (first.listRatingInputs tournamentID).map Multiset.ofList = (next.listRatingInputs tournamentID).map Multiset.ofList

structure DistinctIDs (loader : Loader F) (tournamentID : String) : Prop where
  tables : ∀ rows, loader.loadLatestTableSnapshots tournamentID = .ok rows → (rows.map TableSnapshot.id).Nodup
  eliminations : ∀ rows, loader.listEliminationEventsByTournament tournamentID = .ok rows →
    (rows.map EliminationEvent.id).Nodup
  ratings : ∀ rows, loader.listRatingInputs tournamentID = .ok rows → (rows.map RatingInput.id).Nodup

theorem reordered_cases {α : Type} {first next : Except String (List α)}
    (same : first.map Multiset.ofList = next.map Multiset.ofList) :
    (∃ e, first = .error e ∧ next = .error e) ∨
      ∃ rows rows', first = .ok rows ∧ next = .ok rows' ∧ (rows : Multiset α) = rows' := by
  cases first with
  | error e => cases next with
    | error e' => exact .inl ⟨e,rfl,(congrArg Except.error (Except.error.inj same)).symm⟩
    | ok rows' => cases same
  | ok rows => cases next with
    | error e' => cases same
    | ok rows' => exact .inr ⟨rows,rows',rfl,rfl,Except.ok.inj same⟩

theorem partsOf_reordered {tournament : TournamentSnapshot} {tables tables' : List TableSnapshot}
    {eliminations eliminations' : List EliminationEvent} {ratings ratings' : List (RatingInput F)}
    (tableIDs : (tables.map TableSnapshot.id).Nodup) (eliminationIDs : (eliminations.map EliminationEvent.id).Nodup)
    (ratingIDs : (ratings.map RatingInput.id).Nodup) (sameTables : (tables : Multiset TableSnapshot) = tables')
    (sameEliminations : (eliminations : Multiset EliminationEvent) = eliminations')
    (sameRatings : (ratings : Multiset (RatingInput F)) = ratings') :
    partsOf tournament tables eliminations ratings = partsOf tournament tables' eliminations' ratings' := by
  have tablesSorted : sortBy tableLess tables = sortBy tableLess tables' :=
    sortBy_reordered TableSnapshot.id tableKey (fun a b => less_iff _ _ _ _ _ _) (fun _ => rfl) tableIDs sameTables
  have eliminationsSorted : sortBy eliminationLess eliminations = sortBy eliminationLess eliminations' :=
    sortBy_reordered EliminationEvent.id eliminationKey (fun a b => less_iff _ _ _ _ _ _) (fun _ => rfl) eliminationIDs
      sameEliminations
  have ratingsSorted : sortBy ratingLess ratings = sortBy ratingLess ratings' :=
    sortBy_reordered RatingInput.id ratingKey (fun a b => less_iff _ _ _ _ _ _) (fun _ => rfl) ratingIDs sameRatings
  unfold partsOf
  rw [tablesSorted,eliminationsSorted,ratingsSorted]

/-- The final hash does not depend on the order in which the loader returns the rows. -/
theorem computeFinalHash_reordered (encoding : Encoding F) (replayer : Replayer F) {first next : Loader F}
    {tournamentID : String} (reordered : Reordered first next tournamentID) (distinct : DistinctIDs first tournamentID) :
    { replayer with loader := some first }.computeFinalHash encoding tournamentID =
      { replayer with loader := some next }.computeFinalHash encoding tournamentID := by
  unfold Replayer.computeFinalHash
  dsimp only
  rw [reordered.tournament]
  cases next.loadLatestTournamentSnapshot tournamentID with
  | error e => rfl
  | ok tournament =>
    obtain ⟨e,failed,failed'⟩ | ⟨tables,tables',loaded,loaded',sameTables⟩ := reordered_cases reordered.tables
    · rw [failed,failed']
      rfl
    obtain ⟨e,failed,failed'⟩ | ⟨eliminations,eliminations',listed,listed',sameEliminations⟩ :=
      reordered_cases reordered.eliminations
    · rw [loaded,loaded',failed,failed']
      rfl
    obtain ⟨e,failed,failed'⟩ | ⟨ratings,ratings',rated,rated',sameRatings⟩ := reordered_cases reordered.ratings
    · rw [loaded,loaded',listed,listed',failed,failed']
      rfl
    have parts := @partsOf_reordered F tournament tables tables' eliminations eliminations' ratings ratings'
      (distinct.tables _ loaded) (distinct.eliminations _ listed) (distinct.ratings _ rated) sameTables sameEliminations
      sameRatings
    rw [loaded,loaded',listed,listed',rated,rated']
    change (encoding.marshal (partsOf tournament tables eliminations ratings) >>= _) =
      (encoding.marshal (partsOf tournament tables' eliminations' ratings') >>= _)
    rw [parts]

def plainEncoding : Encoding Int where
  marshal parts := .ok (String.intercalate "," (parts.eliminations.map fun part => part.id ++ "=" ++ toString part.finishRank))
  sum256 payload := payload

def twoEliminations : List EliminationEvent :=
  [⟨"elim:2","table:1","seat:2","ent:2",3,"eliminated",⟨100,"UTC"⟩,"s2","p2"⟩,
    ⟨"elim:1","table:1","seat:1","ent:1",4,"eliminated",⟨100,"CET"⟩,"s1","p1"⟩]

def loaderOf (eliminations : List EliminationEvent) : Loader Int where
  loadLatestTournamentSnapshot _ := .ok ⟨"snap:1",1,1,"s","p","\x7b\x7d"⟩
  loadLatestTableSnapshots _ := .ok []
  listEliminationEventsByTournament _ := .ok eliminations
  listRatingInputs _ := .ok []

theorem computeFinalHash_twoEliminations :
    { loader := some (loaderOf twoEliminations) : Replayer Int }.computeFinalHash plainEncoding "tour:1" =
      { loader := some (loaderOf twoEliminations.reverse) : Replayer Int }.computeFinalHash plainEncoding "tour:1" :=
  computeFinalHash_reordered plainEncoding {}
    ⟨rfl,rfl,congrArg Except.ok (Multiset.coe_eq_coe.mpr (List.reverse_perm twoEliminations).symm),rfl⟩
    ⟨fun rows same => by cases same; decide,fun rows same => by cases same; decide,fun rows same => by cases same; decide⟩

end Clawchain.Arena.Replay
