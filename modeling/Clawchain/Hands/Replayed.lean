import Clawchain.Hands.Hud

/-! When the HUD is what a replay of the stored hands gives, in whatever order they are replayed: as long as every hand that is
new names its miners' users as the stored ones do, and every hand that replaces another says the same of its players. -/
namespace Clawchain.Hands
open Clawchain.Lib

/-- What a hand adds to a row: the user that the row would be made for, and the counts. -/
abbrev Line := SourceValue × (Counter → Nat)

namespace HandEvent
variable (event : PlayedHand)

def lineAmong (players : List (String × SourceValue)) (tournamentID minerAddress : String) : Option Line :=
  if event.tournament = tournamentID then
    (players.lookup minerAddress).bind fun sourceUserID =>
      (event.tally minerAddress).toOption.map fun counts => (sourceUserID,counts)
  else none

def lineAt (tournamentID minerAddress : String) : Option Line :=
  event.lineAmong event.playersFromEvent.entries tournamentID minerAddress

def Countable : Prop := ∀ player ∈ event.playersFromEvent.entries, ∃ counts, event.tally player.1 = .ok counts

structure Projectable : Prop where
  tournament : event.tournament ≠ ""
  hand : event.identityHandID ≠ ""
  checksum : event.checksum.getD "" ≠ ""

variable {event}

theorem tally_handsSeen {minerAddress : String} {counts : Counter → Nat} (made : event.tally minerAddress = .ok counts) :
    counts .handsSeen = 1 := by
  unfold tally at made
  obtain ⟨pfr,-,made⟩ := Fallible.bind_ok made
  obtain ⟨threeBet,-,made⟩ := Fallible.bind_ok made
  obtain rfl := Except.ok.inj made
  rfl

theorem lineAt_handsSeen {tournamentID minerAddress : String} {line : Line}
    (some_ : event.lineAt tournamentID minerAddress = some line) : line.2 .handsSeen = 1 := by
  unfold lineAt lineAmong at some_
  split_ifs at some_
  obtain ⟨sourceUserID,-,made⟩ := Option.bind_eq_some_iff.mp some_
  obtain ⟨counts,counted,rfl⟩ := Option.map_eq_some_iff.mp made
  cases tallied : event.tally minerAddress with
  | error reason => simp [tallied,Except.toOption] at counted
  | ok known =>
    obtain rfl : known = counts := by simpa [tallied,Except.toOption] using counted
    exact tally_handsSeen tallied

end HandEvent

section Rows
variable (settings : HudProjectionSettings) (tournamentID minerAddress : String)

def withLine (row : Option HudRow) (line : Option Line) : Option HudRow :=
  line.elim row fun line =>
    let held := row.getD (emptyRow settings tournamentID minerAddress line.1)
    some { held with counts := held.counts + line.2 }

def rowOf (lines : List Line) : Option HudRow :=
  lines.foldl (fun row line => withLine settings tournamentID minerAddress row (some line)) none

variable {settings tournamentID minerAddress}

theorem rowOf_append (lines : List Line) (line : Line) : rowOf settings tournamentID minerAddress (lines ++ [line]) =
    withLine settings tournamentID minerAddress (rowOf settings tournamentID minerAddress lines) (some line) := by
  simp [rowOf]

theorem rowOf_eq (lines : List Line) : rowOf settings tournamentID minerAddress lines = lines.head?.map fun first =>
    { emptyRow settings tournamentID minerAddress first.1 with counts := (lines.map Prod.snd).sum } := by
  induction lines using List.reverseRecOn with
  | nil => rfl
  | append_singleton lines last ih =>
    rw [rowOf_append,ih]
    cases lines with
    | nil => simp [withLine,emptyRow]
    | cons first rest => simp [withLine,emptyRow,add_assoc]

def countsOf (row : Option HudRow) : Counter → Nat := row.elim 0 (·.counts)

theorem countsOf_rowOf (lines : List Line) :
    countsOf (rowOf settings tournamentID minerAddress lines) = (lines.map Prod.snd).sum := by
  rw [rowOf_eq]
  cases lines <;> simp [countsOf]

theorem rowOf_perm {lines others : List Line} (perm : lines.Perm others)
    (uniform : ∀ a ∈ lines, ∀ b ∈ lines, a.1 = b.1) :
    rowOf settings tournamentID minerAddress lines = rowOf settings tournamentID minerAddress others := by
  rw [rowOf_eq,rowOf_eq,(perm.map Prod.snd).sum_eq]
  cases lines with
  | nil => rw [← List.nil_perm.mp perm]
  | cons first rest =>
    cases others with
    | nil => exact absurd perm.length_eq (by simp)
    | cons first' rest' =>
      have same : first.1 = first'.1 := uniform _ List.mem_cons_self _ (perm.mem_iff.mpr List.mem_cons_self)
      simp [same]

end Rows

/-! Which rows stored hands give in every order. -/
section Stored
variable (settings : HudProjectionSettings)

def SameUsers (event other : PlayedHand) : Prop := ∀ tournamentID minerAddress line line',
  event.lineAt tournamentID minerAddress = some line → other.lineAt tournamentID minerAddress = some line' → line.1 = line'.1

def linesOf (tournamentID minerAddress : String) (events : List PlayedHand) : List Line :=
  events.filterMap fun event => event.lineAt tournamentID minerAddress

def Agrees (stored : List PlayedHand) (rows : String → String → Option HudRow) : Prop :=
  ∀ order, order.Perm stored → ∀ tournamentID minerAddress,
    rowOf settings tournamentID minerAddress (linesOf tournamentID minerAddress order) = rows tournamentID minerAddress

variable {settings} {stored rest : List PlayedHand} {event old : PlayedHand} {rows : String → String → Option HudRow}

theorem agrees_iff : Agrees settings stored rows ↔
    (∀ tournamentID minerAddress,
      rowOf settings tournamentID minerAddress (linesOf tournamentID minerAddress stored) = rows tournamentID minerAddress) ∧
    ∀ a ∈ stored, ∀ b ∈ stored, SameUsers a b := by
  constructor
  · intro agrees
    refine ⟨agrees stored (.refl _),fun a first b second tournamentID minerAddress line line' here there => ?_⟩
    have headed {c : PlayedHand} {l : Line} (inside : c ∈ stored) (own : c.lineAt tournamentID minerAddress = some l) :
        (rows tournamentID minerAddress).map (·.sourceUserID) = some l.1 := by
      obtain ⟨before,after,rfl⟩ := List.append_of_mem inside
      rw [← agrees (c :: (before ++ after)) List.perm_middle.symm tournamentID minerAddress,rowOf_eq]
      simp [linesOf,own,emptyRow]
    exact Option.some.inj ((headed first here).symm.trans (headed second there))
  · rintro ⟨listed,uniform⟩ order perm tournamentID minerAddress
    rw [← listed]
    refine rowOf_perm (perm.filterMap _) fun a first b second => ?_
    obtain ⟨x,inX,here⟩ := List.mem_filterMap.mp first
    obtain ⟨y,inY,there⟩ := List.mem_filterMap.mp second
    exact uniform x (perm.mem_iff.mp inX) y (perm.mem_iff.mp inY) _ _ _ _ here there

theorem SameUsers.symm (same : SameUsers event old) : SameUsers old event :=
  fun tournamentID minerAddress line line' here there => (same tournamentID minerAddress line' line there here).symm

theorem agrees_cons (agrees : Agrees settings stored rows) :
    Agrees settings (event :: stored) (fun tournamentID minerAddress =>
      withLine settings tournamentID minerAddress (rows tournamentID minerAddress) (event.lineAt tournamentID minerAddress)) ↔
    ∀ other ∈ stored, SameUsers other event := by
  obtain ⟨listed,uniform⟩ := agrees_iff.mp agrees
  constructor
  · intro grown other inside
    exact (agrees_iff.mp grown).2 other (List.mem_cons_of_mem _ inside) event List.mem_cons_self
  · intro users
    have all : ∀ a ∈ event :: stored, ∀ b ∈ event :: stored, SameUsers a b := by
      intro a first b second
      rcases List.mem_cons.mp first with rfl | stored_
      · rcases List.mem_cons.mp second with rfl | other
        · intro tournamentID minerAddress line line' here there
          rw [Option.some.inj (here.symm.trans there)]
        · exact (users b other).symm
      · rcases List.mem_cons.mp second with rfl | other
        · exact users a stored_
        · exact uniform a stored_ b other
    refine agrees_iff.mpr ⟨fun tournamentID minerAddress => ?_,all⟩
    have last : rowOf settings tournamentID minerAddress (linesOf tournamentID minerAddress (event :: stored)) =
        rowOf settings tournamentID minerAddress (linesOf tournamentID minerAddress (stored ++ [event])) := by
      refine rowOf_perm ((List.perm_append_singleton event stored).symm.filterMap _) fun a first b second => ?_
      obtain ⟨x,inX,here⟩ := List.mem_filterMap.mp first
      obtain ⟨y,inY,there⟩ := List.mem_filterMap.mp second
      exact all x inX y inY _ _ _ _ here there
    rw [last,← listed]
    cases own : event.lineAt tournamentID minerAddress with
    | none => simp [linesOf,own,withLine]
    | some line =>
      have split : linesOf tournamentID minerAddress (stored ++ [event]) = linesOf tournamentID minerAddress stored ++ [line] := by
        simp [linesOf,own]
      rw [split,rowOf_append]

theorem agrees_replace (agrees : Agrees settings (old :: rest) rows) :
    Agrees settings (event :: rest) rows ↔
      ∀ tournamentID minerAddress, event.lineAt tournamentID minerAddress = old.lineAt tournamentID minerAddress := by
  obtain ⟨listed,uniform⟩ := agrees_iff.mp agrees
  constructor
  · intro replaced tournamentID minerAddress
    have same := ((agrees_iff.mp replaced).1 tournamentID minerAddress).trans (listed tournamentID minerAddress).symm
    have counts := (countsOf_rowOf _).symm.trans ((congrArg countsOf same).trans (countsOf_rowOf _))
    cases new : event.lineAt tournamentID minerAddress with
    | none =>
      cases before : old.lineAt tournamentID minerAddress with
      | none => rfl
      | some line =>
        have seen := congrFun counts .handsSeen
        simp [linesOf,new,before,HandEvent.lineAt_handsSeen before] at seen
    | some line =>
      cases before : old.lineAt tournamentID minerAddress with
      | none =>
        have seen := congrFun counts .handsSeen
        simp [linesOf,new,before,HandEvent.lineAt_handsSeen new] at seen
      | some line' =>
        have user : line.1 = line'.1 := by
          rw [rowOf_eq,rowOf_eq] at same
          simp only [linesOf,List.filterMap_cons,new,before,List.head?_cons,Option.map_some,Option.some.injEq] at same
          exact congrArg HudRow.sourceUserID same
        have added : line.2 = line'.2 := by simpa [linesOf,new,before] using counts
        rw [Prod.ext user added]
  · intro same
    have lines (tournamentID minerAddress : String) : linesOf tournamentID minerAddress (event :: rest) =
        linesOf tournamentID minerAddress (old :: rest) := by
      simp only [linesOf,List.filterMap_cons,same]
    refine agrees_iff.mpr ⟨fun tournamentID minerAddress => by rw [lines,listed],?_⟩
    have moved (other : PlayedHand) (inside : other ∈ event :: rest) : ∃ twin ∈ old :: rest, ∀ tournamentID minerAddress,
        other.lineAt tournamentID minerAddress = twin.lineAt tournamentID minerAddress := by
      rcases List.mem_cons.mp inside with rfl | inside
      · exact ⟨old,List.mem_cons_self,same⟩
      · exact ⟨other,List.mem_cons_of_mem _ inside,fun _ _ => rfl⟩
    intro a first b second tournamentID minerAddress line line' here there
    obtain ⟨x,inX,sameX⟩ := moved a first
    obtain ⟨y,inY,sameY⟩ := moved b second
    exact uniform x inX y inY _ _ _ _ ((sameX _ _).symm.trans here) ((sameY _ _).symm.trans there)

end Stored

/-! What projecting a hand does to the rows. -/
section Projecting
variable {settings : HudProjectionSettings} {event : PlayedHand} {store : HudHotStore}

theorem countPlayer_ok {rows next : OrdMap (Lex (String × String)) HudRow} {player : String × SourceValue}
    (counted : countPlayer settings event rows player = .ok next) : ∃ counts, event.tally player.1 = .ok counts := by
  cases tallied : event.tally player.1 with
  | error reason => simp [countPlayer,tallied,Except.map] at counted
  | ok counts => exact ⟨counts,rfl⟩

theorem countPlayers_countable {players : List (String × SourceValue)} {rows next : OrdMap (Lex (String × String)) HudRow}
    (counted : players.foldlM (countPlayer settings event) rows = .ok next) :
    ∀ player ∈ players, ∃ counts, event.tally player.1 = .ok counts := by
  induction players generalizing rows with
  | nil => simp
  | cons player players ih =>
    rw [List.foldlM_cons] at counted
    obtain ⟨middle,here,later⟩ := Fallible.bind_ok counted
    exact List.forall_mem_cons.mpr ⟨countPlayer_ok here,ih later⟩

theorem countPlayers_rows {players : List (String × SourceValue)} (distinct : (players.map Prod.fst).Nodup)
    (countable : ∀ player ∈ players, ∃ counts, event.tally player.1 = .ok counts)
    (rows : OrdMap (Lex (String × String)) HudRow) :
    ∃ next, players.foldlM (countPlayer settings event) rows = .ok next ∧ ∀ tournamentID minerAddress,
      next.get? (toLex (tournamentID,minerAddress)) = withLine settings tournamentID minerAddress
        (rows.get? (toLex (tournamentID,minerAddress))) (event.lineAmong players tournamentID minerAddress) := by
  induction players generalizing rows with
  | nil => exact ⟨rows,rfl,fun _ _ => by simp [HandEvent.lineAmong,withLine]⟩
  | cons player players ih =>
    obtain ⟨⟨counts,tallied⟩,others⟩ := List.forall_mem_cons.mp countable
    obtain ⟨fresh,apart⟩ := List.nodup_cons.mp distinct
    obtain ⟨own,sourceUserID⟩ := player
    obtain ⟨next,done,kept⟩ := ih apart others (rows.insert (toLex (event.tournament,own))
      { (rows.get? (toLex (event.tournament,own))).getD (emptyRow settings event.tournament own sourceUserID) with
        counts := ((rows.get? (toLex (event.tournament,own))).getD
          (emptyRow settings event.tournament own sourceUserID)).counts + counts })
    refine ⟨next,?_,fun tournamentID minerAddress => ?_⟩
    · rw [List.foldlM_cons,countPlayer,tallied]
      exact done
    · rw [kept,OrdMap.get?_insert]
      have absent : players.lookup own = none := by
        rw [List.lookup_eq_none_iff]
        intro other inside
        have differ : own ≠ other.1 := fun same => fresh (List.mem_map.mpr ⟨other,inside,same.symm⟩)
        simpa using differ
      by_cases here : tournamentID = event.tournament ∧ minerAddress = own
      · obtain ⟨rfl,rfl⟩ := here
        simp [HandEvent.lineAmong,absent,tallied,withLine,Except.toOption]
      · have elsewhere : toLex (tournamentID,minerAddress) ≠ toLex (event.tournament,own) := by simpa using here
        rw [if_neg elsewhere]
        congr 1
        unfold HandEvent.lineAmong
        by_cases tournament : event.tournament = tournamentID
        · have differ : (minerAddress == own) = false := by
            simpa using fun same => here ⟨tournament.symm,same⟩
          simp [tournament,List.lookup_cons,differ]
        · simp [tournament]

theorem projectHand_fresh (enabled : settings.enabled = true) (asked : event.Projectable)
    (fresh : store.projectedHandChecksums.get? event.identityHandID = none) :
    (∀ answer, projectHand settings event store = .ok answer → event.Countable) ∧
    (event.Countable → ∃ answer, projectHand settings event store = .ok answer ∧
      answer.2.projectedHandChecksums = store.projectedHandChecksums.insert event.identityHandID (event.checksum.getD "") ∧
      ∀ tournamentID minerAddress, answer.2.rows.get? (toLex (tournamentID,minerAddress)) =
        withLine settings tournamentID minerAddress (store.rows.get? (toLex (tournamentID,minerAddress)))
          (event.lineAt tournamentID minerAddress)) := by
  have asked_ : ¬(event.tournament = "" ∨ event.identityHandID = "" ∨ event.checksum.getD "" = "") := by
    simp [asked.tournament,asked.hand,asked.checksum]
  unfold projectHand
  simp only [enabled,Bool.true_eq_false,if_false,if_neg asked_,fresh,reduceCtorEq,present,Option.any_none]
  constructor
  · rintro answer done
    obtain ⟨rows,counted,-⟩ := Fallible.bind_ok done
    exact countPlayers_countable counted
  · intro countable
    obtain ⟨rows,counted,lines⟩ := @countPlayers_rows settings _ _ event.playersFromEvent.keys_nodup countable store.rows
    rw [counted]
    exact ⟨_,rfl,rfl,lines⟩

theorem projectHand_again (enabled : settings.enabled = true) {answer : HudProjectionResult × HudHotStore}
    (known : present (store.projectedHandChecksums.get? event.identityHandID) = true)
    (done : projectHand settings event store = .ok answer) : answer.2 = store := by
  unfold projectHand at done
  simp only [enabled,Bool.true_eq_false,if_false,known,if_true] at done
  split_ifs at done
  · rw [← Except.ok.inj done]
  · rw [← Except.ok.inj done]

theorem projectHand_asked (enabled : settings.enabled = true) {answer : HudProjectionResult × HudHotStore}
    (done : projectHand settings event store = .ok answer) : event.Projectable := by
  unfold projectHand at done
  simp only [enabled,Bool.true_eq_false,if_false] at done
  by_cases missing : event.tournament = "" ∨ event.identityHandID = "" ∨ event.checksum.getD "" = ""
  · rw [if_pos missing] at done
    cases done
  · simp only [not_or] at missing
    exact ⟨missing.1,missing.2.1,missing.2.2⟩

theorem replay_spec (enabled : settings.enabled = true) {events : List PlayedHand} (asked : ∀ event ∈ events, event.Projectable)
    (distinct : (events.map HandEvent.identityHandID).Nodup) :
    (∀ store, replay settings events = .ok store → ∀ event ∈ events, event.Countable) ∧
    ((∀ event ∈ events, event.Countable) → ∃ store, replay settings events = .ok store ∧
      (∀ hand, hand ∉ events.map HandEvent.identityHandID → store.projectedHandChecksums.get? hand = none) ∧
      ∀ tournamentID minerAddress, store.rows.get? (toLex (tournamentID,minerAddress)) =
        rowOf settings tournamentID minerAddress (linesOf tournamentID minerAddress events)) := by
  induction events using List.reverseRecOn with
  | nil => exact ⟨by simp,fun _ => ⟨{},rfl,fun _ _ => rfl,fun _ _ => rfl⟩⟩
  | append_singleton events last ih =>
    rw [List.map_append,List.nodup_append] at distinct
    obtain ⟨first,-,apart⟩ := distinct
    have outside : last.identityHandID ∉ events.map HandEvent.identityHandID := fun inside =>
      apart _ inside last.identityHandID (by simp) rfl
    obtain ⟨must,can⟩ := ih (fun event inside => asked event (by simp [inside])) first
    have split : replay settings (events ++ [last]) = (replay settings events >>= fun store =>
        (projectHand settings last store).map Prod.snd) := by
      simp [replay,List.foldlM_append]
    have own := asked last (by simp)
    constructor
    · intro store done
      rw [split] at done
      obtain ⟨middle,before,after⟩ := Fallible.bind_ok done
      have countable := must middle before
      obtain ⟨middle',before',untouched,-⟩ := can countable
      obtain rfl := Except.ok.inj (before.symm.trans before')
      intro event inside
      rcases List.mem_append.mp inside with earlier | final
      · exact countable event earlier
      · rw [List.mem_singleton.mp final]
        cases projected : projectHand settings last middle with
        | error reason => simp [projected,Except.map] at after
        | ok answer => exact (projectHand_fresh enabled own (untouched _ outside)).1 answer projected
    · intro countable
      obtain ⟨middle,before,untouched,rows⟩ := can fun event inside => countable event (by simp [inside])
      obtain ⟨answer,projected,checksums,lines⟩ :=
        (projectHand_fresh enabled own (untouched _ outside)).2 (countable last (by simp))
      refine ⟨answer.2,by rw [split,before]; change (projectHand settings last middle).map Prod.snd = _; rw [projected]; rfl,?_,?_⟩
      · intro hand absent
        rw [List.map_append,List.mem_append,not_or] at absent
        rw [checksums,OrdMap.get?_insert_of_ne _ _ fun same => absent.2 (by simp [same]),untouched hand absent.1]
      · intro tournamentID minerAddress
        rw [lines,rows]
        cases own : last.lineAt tournamentID minerAddress with
        | none => simp [linesOf,own,withLine]
        | some line =>
          have grown : linesOf tournamentID minerAddress (events ++ [last]) = linesOf tournamentID minerAddress events ++ [line] := by
            simp [linesOf,own]
          rw [grown,rowOf_append]

end Projecting

/-! Snapshots. -/

def HudHotStore.Keyed (store : HudHotStore) : Prop := ∀ key row, store.rows.get? key = some row →
  key = toLex (row.tournamentID,row.minerAddress)

variable {tournamentID : String}

theorem mem_snapshotRows {store : HudHotStore} {row : HudRow} :
    row ∈ store.snapshotRows tournamentID ↔ ∃ minerAddress, store.rows.get? (toLex (tournamentID,minerAddress)) = some row := by
  unfold HudHotStore.snapshotRows
  rw [Sorting.mem_sortBy,List.mem_map]
  constructor
  · rintro ⟨⟨key,_⟩,inside,rfl⟩
    have kept := OrdMap.get?_eq_some_iff.mpr inside
    rw [OrdMap.get?_filter,Option.filter_eq_some_iff,decide_eq_true_iff] at kept
    exact ⟨(ofLex key).2,kept.2 ▸ kept.1⟩
  · rintro ⟨minerAddress,found⟩
    refine ⟨(toLex (tournamentID,minerAddress),row),OrdMap.get?_eq_some_iff.mp ?_,rfl⟩
    rw [OrdMap.get?_filter,found]
    simp

theorem snapshots_iff {store other : HudHotStore} (keyed : store.Keyed) (keyed' : other.Keyed) :
    (∀ tournamentID, store.snapshotRows tournamentID = other.snapshotRows tournamentID) ↔
      ∀ tournamentID minerAddress, store.rows.get? (toLex (tournamentID,minerAddress)) =
        other.rows.get? (toLex (tournamentID,minerAddress)) := by
  constructor
  · intro same tournamentID minerAddress
    have moved {a b : HudHotStore} (own : a.Keyed) (other : b.Keyed)
        (same : a.snapshotRows tournamentID = b.snapshotRows tournamentID) {row : HudRow}
        (found : a.rows.get? (toLex (tournamentID,minerAddress)) = some row) :
        b.rows.get? (toLex (tournamentID,minerAddress)) = some row := by
      have listed : row ∈ b.snapshotRows tournamentID := same ▸ mem_snapshotRows.mpr ⟨minerAddress,found⟩
      obtain ⟨miner,there⟩ := mem_snapshotRows.mp listed
      rw [own _ _ found,← other _ _ there]
      exact there
    ext row
    exact ⟨moved keyed keyed' (same _),moved keyed' keyed (same _).symm⟩
  · intro same tournamentID
    have rows : store.rows = other.rows := OrdMap.ext_get? fun key => same (ofLex key).1 (ofLex key).2
    simp only [HudHotStore.snapshotRows,rows]

theorem rowOf_keyed {settings : HudProjectionSettings} {minerAddress : String} {lines : List Line} {row : HudRow}
    (made : rowOf settings tournamentID minerAddress lines = some row) :
    row.tournamentID = tournamentID ∧ row.minerAddress = minerAddress := by
  rw [rowOf_eq] at made
  obtain ⟨first,-,rfl⟩ := Option.map_eq_some_iff.mp made
  exact ⟨rfl,rfl⟩

theorem withLine_keyed {settings : HudProjectionSettings} {minerAddress : String} {row : Option HudRow}
    {line : Option Line} {next : HudRow} (made : withLine settings tournamentID minerAddress row line = some next)
    (keyed : ∀ known, row = some known → known.tournamentID = tournamentID ∧ known.minerAddress = minerAddress) :
    next.tournamentID = tournamentID ∧ next.minerAddress = minerAddress := by
  cases line with
  | none => exact keyed next made
  | some line =>
    obtain rfl := Option.some.inj made
    cases row with
    | none => exact ⟨rfl,rfl⟩
    | some known => exact keyed known rfl

/-! Runs. -/
section Runs
variable (settings : HudProjectionSettings)

def storedHands (hands : HotStore Source HandPayload) : List PlayedHand := hands.entries.map Prod.snd

/-- The rows are those of a replay of the stored hands, in any order. -/
def Replayable (state : HandsAndHud) : Prop := ∀ order, order.Perm (storedHands state.1) →
  ∃ fresh, replay settings order = .ok fresh ∧
    ∀ tournamentID, fresh.snapshotRows tournamentID = state.2.snapshotRows tournamentID

def storesIn (hands : HotStore Source HandPayload) (event : PlayedHand) : Bool :=
  (arrival ((OrdMap.get? hands event.identityHandID).map HandEvent.stamp) event.stamp).1.stores

/-- A hand that is new names the users of its miners as the stored hands do; one that replaces another says the same of every
player. -/
def Steady (hands : HotStore Source HandPayload) (event : PlayedHand) : Prop :=
  storesIn hands event = true →
    (OrdMap.get? hands event.identityHandID = none → ∀ other ∈ storedHands hands, SameUsers other event) ∧
    ∀ old, OrdMap.get? hands event.identityHandID = some old → event.Countable ∧ ∀ tournamentID minerAddress,
      event.lineAt tournamentID minerAddress = old.lineAt tournamentID minerAddress

structure Running (state : HandsAndHud) : Prop where
  keyed : ∀ hand event, OrdMap.get? state.1 hand = some event → event.identityHandID = hand
  asked : ∀ hand event, OrdMap.get? state.1 hand = some event → event.Projectable
  marked : ∀ hand, OrdMap.get? state.1 hand ≠ none → present (state.2.projectedHandChecksums.get? hand) = true
  unmarked : ∀ hand, OrdMap.get? state.1 hand = none → state.2.projectedHandChecksums.get? hand = none
  rows : state.2.Keyed

variable {settings} {state next : HandsAndHud} {event : PlayedHand}

theorem replayable_iff (enabled : settings.enabled = true) (running : Running state) : Replayable settings state ↔
    (∀ event ∈ storedHands state.1, event.Countable) ∧
      Agrees settings (storedHands state.1) fun tournamentID minerAddress =>
        state.2.rows.get? (toLex (tournamentID,minerAddress)) := by
  have names : (storedHands state.1).map HandEvent.identityHandID = OrdMap.keys state.1 := OrdMap.map_values running.keyed
  have spec {order : List PlayedHand} (perm : order.Perm (storedHands state.1)) :=
    @replay_spec settings enabled order
      (fun event inside => running.asked _ event ((OrdMap.mem_values running.keyed).mp (perm.mem_iff.mp inside)))
      ((perm.map _).nodup_iff.mpr (names ▸ OrdMap.keys_nodup _))
  have keyed {order : List PlayedHand} {store : HudHotStore} (rows : ∀ tournamentID minerAddress,
      store.rows.get? (toLex (tournamentID,minerAddress)) =
        rowOf settings tournamentID minerAddress (linesOf tournamentID minerAddress order)) : store.Keyed := by
    intro key row found
    obtain ⟨tournament,miner⟩ := rowOf_keyed ((rows (ofLex key).1 (ofLex key).2).symm.trans found)
    rw [tournament,miner]
    rfl
  constructor
  · intro replays
    have countable : ∀ event ∈ storedHands state.1, event.Countable := by
      obtain ⟨fresh,done,-⟩ := replays _ (.refl _)
      exact (spec (.refl _)).1 fresh done
    refine ⟨countable,fun order perm tournamentID minerAddress => ?_⟩
    obtain ⟨fresh,done,same⟩ := replays order perm
    obtain ⟨fresh',done',-,rows⟩ := (spec perm).2 fun event inside => countable event (perm.mem_iff.mp inside)
    obtain rfl := Except.ok.inj (done.symm.trans done')
    rw [← rows]
    exact (snapshots_iff (keyed rows) running.rows).mp same tournamentID minerAddress
  · rintro ⟨countable,agrees⟩ order perm
    obtain ⟨fresh,done,-,rows⟩ := (spec perm).2 fun event inside => countable event (perm.mem_iff.mp inside)
    refine ⟨fresh,done,(snapshots_iff (keyed rows) running.rows).mpr fun tournamentID minerAddress => ?_⟩
    rw [rows]
    exact agrees order perm tournamentID minerAddress

theorem ingest_ok {hands kept : HotStore Source HandPayload} {result : IngestResult PlayedHand}
    (done : HotStore.ingest event hands = .ok (result,kept)) :
    result.state = (arrival ((OrdMap.get? hands event.identityHandID).map HandEvent.stamp) event.stamp).1 ∧
      kept = if result.state.stores then OrdMap.insert hands event.identityHandID event else hands := by
  obtain ⟨_,-,rest⟩ := Fallible.bind_ok done
  cases rest
  exact ⟨rfl,rfl⟩

theorem deliver_cases (enabled : settings.enabled = true) (running : Running state)
    (done : deliver settings event state = .ok next) :
    (storesIn state.1 event = false ∧ next = state) ∨
    (storesIn state.1 event = true ∧ event.Projectable ∧ next.1 = OrdMap.insert state.1 event.identityHandID event ∧
      ((OrdMap.get? state.1 event.identityHandID = none ∧ event.Countable ∧
        next.2.projectedHandChecksums = state.2.projectedHandChecksums.insert event.identityHandID (event.checksum.getD "") ∧
        ∀ tournamentID minerAddress, next.2.rows.get? (toLex (tournamentID,minerAddress)) =
          withLine settings tournamentID minerAddress (state.2.rows.get? (toLex (tournamentID,minerAddress)))
            (event.lineAt tournamentID minerAddress)) ∨
      (∃ old, OrdMap.get? state.1 event.identityHandID = some old) ∧ next.2 = state.2)) := by
  obtain ⟨⟨result,hands⟩,ingested,rest⟩ := Fallible.bind_ok done
  obtain ⟨told,kept⟩ := ingest_ok ingested
  have stored : result.state.stores = storesIn state.1 event := by rw [told,storesIn]
  dsimp only at rest
  split_ifs at rest with accepted
  · obtain ⟨answer,projected,rest⟩ := Fallible.bind_ok rest
    obtain rfl := Except.ok.inj rest
    have asked := projectHand_asked enabled projected
    cases found : OrdMap.get? state.1 event.identityHandID with
    | none =>
      obtain ⟨must,can⟩ := projectHand_fresh enabled asked (running.unmarked _ found)
      obtain ⟨answer',projected',checksums,rows⟩ := can (must answer projected)
      obtain rfl := Except.ok.inj (projected.symm.trans projected')
      have fresh : result.state.stores = true := by
        rw [found] at told
        rcases accepted with state | state | state
        · rw [state]; rfl
        · rw [state]; rfl
        · cases version : event.stamp.1 <;> simp [told,arrival,version] at state
      refine .inr ⟨stored ▸ fresh,asked,?_,.inl ⟨rfl,must answer projected,checksums,rows⟩⟩
      rw [kept,if_pos fresh]
    | some old =>
      have same := projectHand_again enabled (running.marked _ (by simp [found])) projected
      cases held : result.state.stores with
      | false =>
        refine .inl ⟨stored ▸ held,Prod.ext ?_ same⟩
        rw [kept,held]
        rfl
      | true =>
        refine .inr ⟨stored ▸ held,asked,?_,.inr ⟨⟨old,rfl⟩,same⟩⟩
        rw [kept,if_pos held]
  · obtain rfl := Except.ok.inj rest
    have held : result.state.stores = false := by
      cases state : result.state with
      | inserted => simp [state] at accepted
      | updated => simp [state] at accepted
      | _ => rfl
    refine .inl ⟨stored ▸ held,Prod.ext ?_ rfl⟩
    rw [kept,held]
    rfl

theorem Running.step (enabled : settings.enabled = true) (running : Running state)
    (done : deliver settings event state = .ok next) : Running next := by
  rcases deliver_cases enabled running done with ⟨-,rfl⟩ | ⟨-,asked,hands,outcome⟩
  · exact running
  · have keyed : ∀ hand known, OrdMap.get? next.1 hand = some known → known.identityHandID = hand ∧ known.Projectable := by
      intro hand known found
      rw [hands,OrdMap.get?_insert] at found
      split_ifs at found with same
      · obtain rfl := Option.some.inj found
        exact ⟨same.symm,asked⟩
      · exact ⟨running.keyed hand known found,running.asked hand known found⟩
    have earlier (hand : String) (other : hand ≠ event.identityHandID) : OrdMap.get? next.1 hand = OrdMap.get? state.1 hand := by
      rw [hands,OrdMap.get?_insert_of_ne _ _ other]
    have own : OrdMap.get? next.1 event.identityHandID = some event := by
      rw [hands,OrdMap.get?_insert_self]
    rcases outcome with ⟨new,-,checksums,rows⟩ | ⟨⟨old,found⟩,hud⟩
    · refine ⟨fun hand known found => (keyed hand known found).1,fun hand known found => (keyed hand known found).2,?_,?_,?_⟩
      · intro hand held
        rw [checksums]
        by_cases same : hand = event.identityHandID
        · rw [same,OrdMap.get?_insert_self]
          simp [present,asked.checksum]
        · rw [OrdMap.get?_insert_of_ne _ _ same]
          exact running.marked hand (earlier hand same ▸ held)
      · intro hand absent
        have same : hand ≠ event.identityHandID := by
          rintro rfl
          cases own.symm.trans absent
        rw [checksums,OrdMap.get?_insert_of_ne _ _ same]
        exact running.unmarked hand (earlier hand same ▸ absent)
      · intro key row found
        obtain ⟨tournament,miner⟩ := withLine_keyed ((rows (ofLex key).1 (ofLex key).2).symm.trans found) fun known held => by
          have place := running.rows _ known held
          exact ⟨(congrArg (fun key => (ofLex key).1) place).symm,(congrArg (fun key => (ofLex key).2) place).symm⟩
        rw [tournament,miner]
        rfl
    · refine ⟨fun hand known found => (keyed hand known found).1,fun hand known found => (keyed hand known found).2,?_,?_,?_⟩
      · intro hand held
        rw [hud]
        by_cases same : hand = event.identityHandID
        · exact running.marked hand (by rw [same,found]; exact Option.some_ne_none _)
        · exact running.marked hand (earlier hand same ▸ held)
      · intro hand absent
        have same : hand ≠ event.identityHandID := by
          rintro rfl
          cases own.symm.trans absent
        rw [hud]
        exact running.unmarked hand (earlier hand same ▸ absent)
      · rw [hud]
        exact running.rows

theorem Agrees.perm {stored others : List PlayedHand} {rows : String → String → Option HudRow} (perm : stored.Perm others) :
    Agrees settings stored rows ↔ Agrees settings others rows :=
  ⟨fun agrees order same => agrees order (same.trans perm.symm),fun agrees order same => agrees order (same.trans perm)⟩

theorem step_replayable (enabled : settings.enabled = true) (running : Running state)
    (done : deliver settings event state = .ok next) (replays : Replayable settings state) :
    Replayable settings next ↔ Steady state.1 event := by
  obtain ⟨countable,agrees⟩ := (replayable_iff enabled running).mp replays
  rw [replayable_iff enabled (running.step enabled done)]
  rcases deliver_cases enabled running done with ⟨kept,rfl⟩ | ⟨stores,-,hands,outcome⟩
  · exact iff_of_true ⟨countable,agrees⟩ fun stores => absurd (kept.symm.trans stores) (by simp)
  · have values : (storedHands next.1).Perm
        (event :: storedHands (OrdMap.filter (fun hand _ => hand ≠ event.identityHandID) state.1)) := by
      rw [hands]
      exact OrdMap.values_insert ..
    rw [Agrees.perm values]
    rcases outcome with ⟨new,own,-,rows⟩ | ⟨⟨old,found⟩,hud⟩
    · rw [OrdMap.filter_ne_of_get?_none new] at values ⊢
      have cells : (fun tournamentID minerAddress => next.2.rows.get? (toLex (tournamentID,minerAddress))) =
          fun tournamentID minerAddress => withLine settings tournamentID minerAddress
            (state.2.rows.get? (toLex (tournamentID,minerAddress))) (event.lineAt tournamentID minerAddress) :=
        funext fun tournamentID => funext fun minerAddress => rows tournamentID minerAddress
      rw [cells,agrees_cons agrees]
      constructor
      · rintro ⟨-,users⟩ -
        exact ⟨fun _ => users,fun old held => absurd (new.symm.trans held) (by simp)⟩
      · intro steady
        refine ⟨fun other inside => ?_,(steady stores).1 new⟩
        rcases List.mem_cons.mp (values.mem_iff.mp inside) with rfl | earlier
        · exact own
        · exact countable other earlier
    · have before : (storedHands state.1).Perm
          (old :: storedHands (OrdMap.filter (fun hand _ => hand ≠ event.identityHandID) state.1)) := by
        have same : OrdMap.insert state.1 event.identityHandID old = state.1 := OrdMap.insert_of_get? found
        conv_lhs => rw [← same]
        exact OrdMap.values_insert ..
      rw [hud,agrees_replace ((Agrees.perm before).mp agrees)]
      constructor
      · rintro ⟨counted,same⟩ -
        refine ⟨fun absent => absurd (found.symm.trans absent) (by simp),fun known held => ?_⟩
        obtain rfl := Option.some.inj (found.symm.trans held)
        exact ⟨counted event (values.mem_iff.mpr List.mem_cons_self),same⟩
      · intro steady
        obtain ⟨own,same⟩ := (steady stores).2 old found
        refine ⟨fun other inside => ?_,same⟩
        rcases List.mem_cons.mp (values.mem_iff.mp inside) with rfl | earlier
        · exact own
        · exact countable other (before.mem_iff.mpr (List.mem_cons_of_mem _ earlier))

theorem running_empty : Running (OrdMap.empty,{}) where
  keyed _ _ found := by cases found
  asked _ _ found := by cases found
  marked _ held := absurd rfl held
  unmarked _ _ := rfl
  rows _ _ found := by cases found

theorem deliverAll_append {events : List PlayedHand} {last : PlayedHand} (done : deliverAll settings (events ++ [last]) = .ok next) :
    ∃ middle, deliverAll settings events = .ok middle ∧ deliver settings last middle = .ok next := by
  simp only [deliverAll,List.foldlM_append,List.foldlM_cons,List.foldlM_nil] at done
  obtain ⟨middle,before,rest⟩ := Fallible.bind_ok done
  obtain ⟨_,own,kept⟩ := Fallible.bind_ok rest
  obtain rfl := Except.ok.inj kept
  exact ⟨middle,before,own⟩

theorem deliverAll_running (enabled : settings.enabled = true) {events : List PlayedHand}
    (done : deliverAll settings events = .ok state) : Running state := by
  induction events using List.reverseRecOn generalizing state with
  | nil =>
    obtain rfl := Except.ok.inj done
    exact running_empty
  | append_singleton events last ih =>
    obtain ⟨middle,before,own⟩ := deliverAll_append done
    exact (ih before).step enabled own

/-- In a run of deliveries the snapshots are those of a replay after every one of them if and only if all of them are steady. -/
theorem hud_replayable_iff (enabled : settings.enabled = true) {events : List PlayedHand} {last : HandsAndHud}
    (finished : deliverAll settings events = .ok last) :
    (∀ delivered, delivered <+: events → ∀ state, deliverAll settings delivered = .ok state → Replayable settings state) ↔
      ∀ delivered event, delivered ++ [event] <+: events → ∀ state, deliverAll settings delivered = .ok state →
        Steady state.1 event := by
  induction events using List.reverseRecOn generalizing last with
  | nil =>
    refine iff_of_true (fun delivered early state done => ?_) (fun delivered event early => ?_)
    · obtain rfl := List.prefix_nil.mp early
      obtain rfl := Except.ok.inj done
      intro order perm
      obtain rfl := List.perm_nil.mp perm
      exact ⟨{},rfl,fun _ => rfl⟩
    · simp at early
  | append_singleton events final ih =>
    obtain ⟨middle,before,own⟩ := deliverAll_append finished
    have running := deliverAll_running enabled before
    have step := step_replayable enabled running own
    constructor
    · intro all delivered event early state done
      rcases List.prefix_concat_iff.mp early with whole | inner
      · obtain ⟨rfl,same⟩ := List.append_inj' whole rfl
        obtain rfl := Except.ok.inj (before.symm.trans done)
        rw [List.singleton_inj.mp same]
        exact (step (all delivered (List.prefix_append _ _) middle before)).mp (all _ List.prefix_rfl last finished)
      · exact (ih before).mp (fun delivered early => all delivered (early.trans (List.prefix_append _ _))) delivered event inner
          state done
    · intro steady
      have earlier := (ih before).mpr fun delivered event early =>
        steady delivered event (early.trans (List.prefix_append _ _))
      intro delivered early state done
      rcases List.prefix_concat_iff.mp early with rfl | inner
      · obtain rfl := Except.ok.inj (finished.symm.trans done)
        exact (step (earlier events List.prefix_rfl middle before)).mpr (steady events final List.prefix_rfl middle before)
      · exact earlier delivered inner state done

end Runs

/-! A hand with one player, who raises or calls before the flop. -/

def shortTerm : HudProjectionSettings := { enabled := true }

def played (version : Int) (checksum action : String) : PlayedHand where
  eventID := some "ev-1"
  checksum := some checksum
  version := some version
  identity := {
    tournamentID := some (some "mtt-1")
    tableID := some (some "table-1")
    handNo := some (some 7)
    handID := some (some "mtt-1:table-1:7") }
  payload := some {
    players := [{ minerAddress := some "claw1alice", sourceUserID := .text "7" }]
    actions := [{ minerAddress := some "claw1alice", street := .text "preflop", action := .text action }] }

def resent : List PlayedHand := [played 1 "sha256:a" "raise",played 2 "sha256:b" "raise"]

def corrected : List PlayedHand := [played 1 "sha256:a" "raise",played 2 "sha256:b" "call"]

theorem resent_countable : (played 2 "sha256:b" "raise").Countable := by
  have players : (played 2 "sha256:b" "raise").playersFromEvent.entries = [("claw1alice",.text "7")] := by decide +kernel
  have tallied : ((played 2 "sha256:b" "raise").tally "claw1alice").isOk = true := by decide +kernel
  intro player inside
  rw [players,List.mem_singleton] at inside
  rw [inside]
  cases done : (played 2 "sha256:b" "raise").tally "claw1alice" with
  | ok counts => exact ⟨counts,rfl⟩
  | error reason => simp [done,Except.isOk,Except.toBool] at tallied

theorem hud_replayable_iff_resent : (deliverAll shortTerm resent).isOk = true ∧
    ∀ delivered, delivered <+: resent → ∀ state, deliverAll shortTerm delivered = .ok state → Replayable shortTerm state := by
  have runs : (deliverAll shortTerm resent).isOk = true := by decide +kernel
  obtain ⟨last,finished⟩ : ∃ last, deliverAll shortTerm resent = .ok last := by
    cases done : deliverAll shortTerm resent with
    | ok last => exact ⟨last,rfl⟩
    | error reason => simp [done,Except.isOk,Except.toBool] at runs
  refine ⟨runs,(hud_replayable_iff rfl finished).mpr fun delivered event early state done _ => ?_⟩
  have two : resent = ([] ++ [played 1 "sha256:a" "raise"]) ++ [played 2 "sha256:b" "raise"] := rfl
  rw [two] at early
  rcases List.prefix_concat_iff.mp early with second | early
  · obtain ⟨rfl,same⟩ := List.append_inj' second rfl
    obtain rfl := List.singleton_inj.mp same
    have held : ((deliverAll shortTerm ([] ++ [played 1 "sha256:a" "raise"])).toOption.map fun state =>
        OrdMap.get? state.1 "mtt-1:table-1:7") = some (some (played 1 "sha256:a" "raise")) := by
      decide +kernel
    have found : OrdMap.get? state.1 "mtt-1:table-1:7" = some (played 1 "sha256:a" "raise") := by
      rw [done] at held
      exact Option.some.inj held
    refine ⟨fun absent => absurd (found.symm.trans absent) (by simp),fun old held => ⟨resent_countable,?_⟩⟩
    obtain rfl := Option.some.inj (found.symm.trans held)
    exact fun _ _ => rfl
  · rcases List.prefix_concat_iff.mp early with first | nothing
    · obtain ⟨rfl,-⟩ := List.append_inj' first rfl
      obtain rfl := Except.ok.inj done
      exact ⟨fun _ other inside => absurd inside List.not_mem_nil,fun old held => by cases held⟩
    · simp at nothing

/-- After the correction the HUD still counts the raise, and a replay of the stored hand does not. -/
theorem hud_not_replayed :
    ((deliverAll shortTerm corrected).toOption.bind fun state => (replay shortTerm (storedHands state.1)).toOption.map fun fresh =>
      ((state.2.snapshotRows "mtt-1").map fun row => row.counts .pfr,
        (fresh.snapshotRows "mtt-1").map fun row => row.counts .pfr)) = some ([1],[0]) ∧
    ¬∀ state, deliverAll shortTerm corrected = .ok state → Replayable shortTerm state := by
  have differ : ((deliverAll shortTerm corrected).toOption.bind fun state =>
      (replay shortTerm (storedHands state.1)).toOption.map fun fresh =>
        ((state.2.snapshotRows "mtt-1").map fun row => row.counts .pfr,
          (fresh.snapshotRows "mtt-1").map fun row => row.counts .pfr)) = some ([1],[0]) := by
    decide +kernel
  refine ⟨differ,fun replays => ?_⟩
  cases done : deliverAll shortTerm corrected with
  | error reason => simp [done,Except.toOption] at differ
  | ok state =>
    obtain ⟨fresh,replayed,same⟩ := replays state done _ (.refl _)
    simp only [done,replayed,Except.toOption,Option.bind_some,Option.map_some,Option.some.injEq,Prod.mk.injEq,same] at differ
    exact absurd (differ.1.symm.trans differ.2) (by decide)

end Clawchain.Hands
