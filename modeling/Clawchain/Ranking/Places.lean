import Clawchain.Lib.Fallible
import Clawchain.Ranking.Order

/-! The places rows are made with: members alive first, in the order of their
scores, then the died entries, and no place for the members left over. -/
namespace Clawchain.Ranking
open Clawchain.Lib Clawchain.Lib.Fallible

def FinalRankingRow.rankable (row : FinalRankingRow) : Bool :=
  row.status = .alive ∨ row.status = .died ∧ row.sourceRankNumeric

/-- Where a row stands among the members alive and the died entries. -/
inductive Stands (canonical : List ZMember) (row : FinalRankingRow) : Prop
  | alive (index : Nat) (member : ZMember) (listed : canonical[index]? = some member) (status : row.status = .alive)
      (displayed : row.displayRank = some (index + 1)) (score : row.zSetScore = some member.score)
  | died (displayRank : Int) (below : canonical.length < displayRank) (status : row.status = .died)
      (displayed : row.displayRank = some displayRank)
  | pending (status : row.status = .pending) (displayed : row.displayRank = none)

/-- A row as it is made, before duplicates are collapsed. -/
structure Entered (canonical : List ZMember) (row : FinalRankingRow) : Prop where
  stands : Stands canonical row
  state : row.rankState = .ranked ↔ row.rankable = true
  uncollapsed : row.rankState ≠ .duplicateEntryCollapsed
  placed : row.rank = row.displayRank

variable (go : Go) (sources : Sources)

section Fields

variable (index : Nat) (member : ZMember) (diedEntry : Entry) (memberID : String) (displayRank : Int)

@[simp] theorem aliveRow_status : (aliveRow go sources index member).status = .alive := rfl
@[simp] theorem aliveRow_rank : (aliveRow go sources index member).rank = some (index + 1 : Int) := rfl
@[simp] theorem aliveRow_displayRank : (aliveRow go sources index member).displayRank = some (index + 1 : Int) := rfl
@[simp] theorem aliveRow_zSetScore : (aliveRow go sources index member).zSetScore = some member.score := rfl
@[simp] theorem aliveRow_rankState : (aliveRow go sources index member).rankState = .ranked := rfl

@[simp] theorem diedRow_status : (diedRow go sources diedEntry memberID displayRank).status = .died := rfl
@[simp] theorem diedRow_rank : (diedRow go sources diedEntry memberID displayRank).rank = some displayRank := rfl
@[simp] theorem diedRow_displayRank : (diedRow go sources diedEntry memberID displayRank).displayRank = some displayRank := rfl
@[simp] theorem diedRow_sourceRankNumeric :
    (diedRow go sources diedEntry memberID displayRank).sourceRankNumeric = (toInt go (diedEntry.field "rank")).isSome := rfl
@[simp] theorem diedRow_rankState : (diedRow go sources diedEntry memberID displayRank).rankState =
    if (toInt go (diedEntry.field "rank")).isSome then .ranked else .unresolvedSnapshot := rfl

@[simp] theorem pendingRow_status : (pendingRow go sources memberID).status = .pending := rfl
@[simp] theorem pendingRow_rank : (pendingRow go sources memberID).rank = none := rfl
@[simp] theorem pendingRow_displayRank : (pendingRow go sources memberID).displayRank = none := rfl

theorem pendingRow_rankState : (pendingRow go sources memberID).rankState = .waitingNoShow ∨
    (pendingRow go sources memberID).rankState = .unresolvedSnapshot := by
  by_cases waiting : isWaitingOrNoShow go (standUpStatusOf go (sources.entry memberID)) = true
  · exact .inl (if_pos waiting)
  · exact .inr (if_neg waiting)

end Fields

variable {canonical : List ZMember}

theorem aliveRow_entered {index : Nat} {member : ZMember} (listed : canonical[index]? = some member)
    : Entered canonical (aliveRow go sources index member) := by
  constructor
  · exact .alive index member listed (aliveRow_status ..) (aliveRow_displayRank ..) (aliveRow_zSetScore ..)
  · simp [FinalRankingRow.rankable]
  · simp
  · simp

theorem diedRow_entered (diedEntry : Entry) (memberID : String) {displayRank : Int}
    (below : canonical.length < displayRank) : Entered canonical (diedRow go sources diedEntry memberID displayRank) := by
  constructor
  · exact .died displayRank below (diedRow_status ..) (diedRow_displayRank ..)
  · cases numeric : toInt go (diedEntry.field "rank") <;> simp [FinalRankingRow.rankable,numeric]
  · cases numeric : toInt go (diedEntry.field "rank") <;> simp [numeric]
  · simp

theorem pendingRow_entered (canonical : List ZMember) (memberID : String) :
    Entered canonical (pendingRow go sources memberID) := by
  have state := pendingRow_rankState go sources memberID
  constructor
  · exact .pending (pendingRow_status ..) (pendingRow_displayRank ..)
  · rcases state with same | same <;> simp [FinalRankingRow.rankable,same]
  · rcases state with same | same <;> simp [same]
  · simp

/-- The places left for died entries are all below the members alive. -/
structure DiedRanks.Below (ranks : DiedRanks) (count : Nat) : Prop where
  died : (count : Int) ≤ ranks.diedRank
  same : 1 ≤ ranks.sameCount
  fallback : (count : Int) ≤ ranks.fallbackRank
  last : ranks.lastInternalRank.isSome → (count : Int) < ranks.diedRank

theorem DiedRanks.next_below {ranks : DiedRanks} {count : Nat} (below : ranks.Below count) (internalRank : Option Int) :
    (count : Int) < (ranks.next internalRank).1 ∧ (ranks.next internalRank).2.Below count := by
  obtain ⟨died,same,fallback,last⟩ := below
  unfold DiedRanks.next
  cases internalRank with
  | none => exact ⟨by simp only; omega,died,same,by simp only; omega,last⟩
  | some rank =>
    by_cases repeated : ranks.lastInternalRank = some rank
    · simp only [if_pos repeated]
      exact ⟨last (by simp [repeated]),died,by simp only; omega,fallback,last⟩
    · simp only [if_neg repeated]
      exact ⟨by omega,by simp only; omega,le_refl _,by simp only; omega,fun _ => by simp only; omega⟩

theorem diedStep_cases {loop after : DiedLoop} {raw : String} (done : diedStep go sources loop raw = .ok after) :
    ∃ diedEntry, decodeJSONObject go raw = .ok diedEntry ∧
      ((diedMember go diedEntry ≠ "" ∧ diedMember go diedEntry ∈ loop.seenMembers) ∧ after = loop ∨
        ¬(diedMember go diedEntry ≠ "" ∧ diedMember go diedEntry ∈ loop.seenMembers) ∧
        after.ranks = (loop.ranks.next (toInt go (diedEntry.field "rank"))).2 ∧
        after.rows = loop.rows ++ [diedRow go sources diedEntry (diedMember go diedEntry)
          (loop.ranks.next (toInt go (diedEntry.field "rank"))).1] ∧
        after.seenMembers =
          if diedMember go diedEntry ≠ "" then loop.seenMembers ++ [diedMember go diedEntry] else loop.seenMembers) := by
  unfold diedStep at done
  cases decoded : decodeJSONObject go raw with
  | error cause =>
    rw [decoded] at done
    cases done
  | ok diedEntry =>
    rw [decoded] at done
    refine ⟨diedEntry,rfl,?_⟩
    by_cases seen : diedMember go diedEntry ≠ "" ∧ diedMember go diedEntry ∈ loop.seenMembers
    · simp only [if_pos seen] at done
      exact .inl ⟨seen,(Except.ok.inj done).symm⟩
    · simp only [if_neg seen] at done
      rw [← Except.ok.inj done]
      exact .inr ⟨seen,rfl,rfl,rfl⟩

theorem entrantRows_forall {P : FinalRankingRow → Prop} (alive' : ∀ index member, P (aliveRow go sources index member))
    (died' : ∀ entry memberID displayRank, P (diedRow go sources entry memberID displayRank))
    (pending' : ∀ memberID, P (pendingRow go sources memberID)) {alive : List ZMember} {died : List String}
    {rows : List FinalRankingRow} (done : entrantRows go sources alive died = .ok rows) : ∀ row ∈ rows, P row := by
  obtain ⟨loop,looped,rest⟩ := bind_ok done
  have kept := foldlM_ok (fun _ (loop : DiedLoop) => ∀ row ∈ loop.rows, P row) (by
      intro _ raw before after held stepped
      obtain ⟨diedEntry,-,⟨-,same⟩ | ⟨-,-,made,-⟩⟩ := diedStep_cases go sources stepped
      · rw [same]
        exact held
      · rw [made]
        intro row member
        rcases List.mem_append.mp member with old | new
        · exact held row old
        · rw [List.mem_singleton.mp new]
          exact died' ..) (by
      intro row member
      obtain ⟨index,_,rfl⟩ := List.mem_mapIdx.mp member
      exact alive' index _) looped
  cases rest
  intro row member
  rcases List.mem_append.mp member with earlier | pending
  · exact kept row earlier
  · obtain ⟨memberID,-,rfl⟩ := List.mem_map.mp pending
    exact pending' memberID

theorem diedStep_entered {loop after : DiedLoop} {raw : String} (rows : ∀ row ∈ loop.rows, Entered canonical row)
    (below : loop.ranks.Below canonical.length) (done : diedStep go sources loop raw = .ok after) :
    (∀ row ∈ after.rows, Entered canonical row) ∧ after.ranks.Below canonical.length := by
  obtain ⟨diedEntry,-,⟨-,same⟩ | ⟨-,ranks,made,-⟩⟩ := diedStep_cases go sources done
  · rw [same]
    exact ⟨rows,below⟩
  · obtain ⟨placed,kept⟩ := DiedRanks.next_below below (toInt go (diedEntry.field "rank"))
    rw [ranks,made]
    refine ⟨?_,kept⟩
    intro row member
    rcases List.mem_append.mp member with old | new
    · exact rows row old
    · rw [List.mem_singleton.mp new]
      exact diedRow_entered go sources diedEntry _ placed

theorem entrantRows_entered {alive : List ZMember} {died : List String} {rows : List FinalRankingRow}
    (done : entrantRows go sources alive died = .ok rows) :
    ∀ row ∈ rows, Entered (canonicalAliveRows go alive) row := by
  have length : (canonicalAliveRows go alive).length = alive.length := (canonicalAliveRows_perm go alive).length_eq
  obtain ⟨loop,looped,rest⟩ := bind_ok done
  have kept := foldlM_ok (fun _ (loop : DiedLoop) =>
    (∀ row ∈ loop.rows, Entered (canonicalAliveRows go alive) row) ∧
      loop.ranks.Below (canonicalAliveRows go alive).length)
    (fun _ _ _ _ before stepped => diedStep_entered go sources before.1 before.2 stepped) (by
      constructor
      · intro row member
        obtain ⟨index,inside,rfl⟩ := List.mem_mapIdx.mp member
        exact aliveRow_entered go sources (List.getElem?_eq_getElem inside)
      · rw [length]
        exact ⟨le_refl _,le_refl _,le_refl _,fun absent => by simp at absent⟩) looped
  cases rest
  intro row member
  rcases List.mem_append.mp member with earlier | pending
  · exact kept.1 row earlier
  · obtain ⟨memberID,-,rfl⟩ := List.mem_map.mp pending
    exact pendingRow_entered go sources _ memberID

end Clawchain.Ranking
