import Clawchain.Lib.Adjacent
import Clawchain.Ranking.Entrants

/-! The display ranks of died entries: where equal source ranks are listed together, an entry
stands behind everybody alive and behind the entries listed before its group. -/
namespace Clawchain.Ranking
open Clawchain.Lib Clawchain.Lib.Fallible Clawchain.Lib.Format

variable (go : Go)

def internalRank (entry : Entry) : Option Int := toInt go (entry.field "rank")

def internalRanks (died : List String) : List (Option Int) := (diedEntries go died).map (internalRank go)

/-- The place of a rank: behind those alive, and behind the entries listed before the first with this rank. -/
def competitionRank (alive : Nat) (ranks : List (Option Int)) (rank : Option Int) : Int := alive + 1 + ranks.idxOf rank

/-- Died entries with numeric ranks, equal ones together, of members that are not alive and not listed before. -/
structure DiedListed (alive : List ZMember) (died : List String) : Prop where
  adjacent : Adjacent (internalRanks go died)
  numeric : ∀ rank ∈ internalRanks go died, rank.isSome
  once : (diedNamed go died).Nodup
  gone : ∀ memberID ∈ diedNamed go died, memberID ∉ alive.map fun alive => trimSpace alive.member

def diedRowMember (sources : Sources) (entry : Entry) : String :=
  if diedMember go entry = "" then builtID go (mergeEntries (sources.entry "") entry) else diedMember go entry

variable {go} {sources : Sources} {alive : List ZMember}

variable {gone : List String} {raw : String}

theorem DiedListed.start {entry : Entry} (read : decodeJSONObject go raw = .ok entry)
    (listed : DiedListed go alive (gone ++ [raw])) : DiedListed go alive gone where
  adjacent := by
    have adjacent := listed.adjacent
    rw [internalRanks,diedEntries_concat gone read,List.map_append] at adjacent
    exact adjacent.start
  numeric rank inside := listed.numeric rank (by
    rw [internalRanks,diedEntries_concat gone read,List.map_append]
    exact List.mem_append_left _ inside)
  once := by
    have once := listed.once
    rw [diedNamed_concat gone read] at once
    exact (List.nodup_append.mp once).1
  gone memberID inside := listed.gone memberID (by
    rw [diedNamed_concat gone read]
    exact List.mem_append_left _ inside)

/-- What the counters of the loop say of the entries it has gone through. -/
structure DiedPlaces (go : Go) (count : Nat) (gone : List String) (ranks : DiedRanks) : Prop where
  next : ranks.diedRank + ranks.sameCount = count + 1 + (internalRanks go gone).length
  last : ranks.lastInternalRank = (internalRanks go gone).getLast?.join
  place : ∀ rank, ranks.lastInternalRank = some rank → ranks.diedRank = competitionRank count (internalRanks go gone) (some rank)

theorem DiedPlaces.step {count : Nat} {entry : Entry} {ranks : DiedRanks} (places : DiedPlaces go count gone ranks)
    (read : decodeJSONObject go raw = .ok entry) (adjacent : Adjacent (internalRanks go (gone ++ [raw])))
    (numeric : ∀ rank ∈ internalRanks go (gone ++ [raw]), rank.isSome) :
    (ranks.next (internalRank go entry)).1 =
        competitionRank count (internalRanks go (gone ++ [raw])) (internalRank go entry) ∧
      DiedPlaces go count (gone ++ [raw]) (ranks.next (internalRank go entry)).2 := by
  have grown : internalRanks go (gone ++ [raw]) = internalRanks go gone ++ [internalRank go entry] := by
    simp [internalRanks,diedEntries_concat gone read]
  rw [grown] at adjacent numeric
  obtain ⟨rank,known⟩ := Option.isSome_iff_exists.mp (numeric (internalRank go entry) (by simp))
  have last : (internalRanks go gone ++ [some rank]).getLast?.join = some rank := by simp
  rw [known] at adjacent
  unfold DiedRanks.next
  rw [grown,known]
  by_cases repeated : ranks.lastInternalRank = some rank
  · -- the group goes on: it has a first entry already
    have inside : some rank ∈ internalRanks go gone := by
      rw [places.last,Option.join_eq_some_iff] at repeated
      exact List.mem_of_getLast? repeated
    have same : competitionRank count (internalRanks go gone ++ [some rank]) (some rank) =
        competitionRank count (internalRanks go gone) (some rank) := by
      simp [competitionRank,List.idxOf_append_of_mem inside]
    have next := places.next
    simp only [if_pos repeated]
    refine ⟨by rw [same,places.place rank repeated],?_,?_,?_⟩
    · simp only [grown,known,List.length_append,List.length_singleton]
      omega
    · simp [grown,known,repeated]
    · intro other held
      obtain rfl := Option.some.inj (repeated.symm.trans held)
      rw [grown,known,same]
      exact places.place rank repeated
  · -- a new group: its rank is not among those gone
    have fresh : some rank ∉ internalRanks go gone := by
      apply adjacent.new
      intro held
      exact repeated (by rw [places.last,held]; rfl)
    have first : ranks.diedRank + ranks.sameCount = competitionRank count (internalRanks go gone ++ [some rank]) (some rank) := by
      rw [places.next,competitionRank,List.idxOf_append_of_notMem fresh]
      simp
    simp only [if_neg repeated]
    refine ⟨first,?_,?_,?_⟩
    · rw [grown,known,first,competitionRank,List.idxOf_append_of_notMem fresh]
      simp
      omega
    · simp [grown,known]
    · intro other held
      obtain rfl := Option.some.inj held
      rw [grown,known]
      exact first

structure DiedSoFar (go : Go) (sources : Sources) (alive : List ZMember) (first : List FinalRankingRow) (gone : List String)
    (loop : DiedLoop) : Prop where
  places : DiedPlaces go alive.length gone loop.ranks
  read : (diedEntries go gone).length = gone.length
  seen : ∀ memberID ∈ loop.seenMembers, memberID ∈ (alive.map fun alive => trimSpace alive.member) ∨ memberID ∈ diedNamed go gone
  rows : loop.rows = first ++ (diedEntries go gone).map fun entry => diedRow go sources entry (diedMember go entry)
    (competitionRank alive.length (internalRanks go gone) (internalRank go entry))

theorem DiedSoFar.step {first : List FinalRankingRow} {loop after : DiedLoop}
    (listed : DiedListed go alive (gone ++ [raw])) (soFar : DiedSoFar go sources alive first gone loop)
    (stepped : diedStep go sources loop raw = .ok after) : DiedSoFar go sources alive first (gone ++ [raw]) after := by
  obtain ⟨entry,read,⟨⟨named,known⟩,-⟩ | ⟨-,ranks,rows,seen⟩⟩ := diedStep_cases go sources stepped
  · have inside : diedMember go entry ∈ diedNamed go (gone ++ [raw]) := by
      simp [diedNamed_concat gone read,named]
    rcases soFar.seen _ known with living | before
    · exact absurd living (listed.gone _ inside)
    · have once := listed.once
      rw [diedNamed_concat gone read,if_neg named] at once
      exact absurd rfl ((List.nodup_append.mp once).2.2 _ before _ (List.mem_singleton_self _))
  · obtain ⟨placed,places⟩ := soFar.places.step read listed.adjacent listed.numeric
    refine ⟨by rw [ranks]; exact places,?_,?_,?_⟩
    · simp [diedEntries_concat gone read,soFar.read]
    · intro memberID inside
      rw [diedNamed_concat gone read]
      rw [seen] at inside
      by_cases named : diedMember go entry = ""
      · rw [if_neg (not_not_intro named)] at inside
        simpa [named] using soFar.seen memberID inside
      · rw [if_pos named,List.mem_append,List.mem_singleton] at inside
        rcases inside with old | rfl
        · simpa [named,or_assoc] using (soFar.seen memberID old).imp_right Or.inl
        · simp [named]
    · have kept : (diedEntries go gone).map (fun entry => diedRow go sources entry (diedMember go entry)
          (competitionRank alive.length (internalRanks go gone) (internalRank go entry))) =
          (diedEntries go gone).map fun entry => diedRow go sources entry (diedMember go entry)
            (competitionRank alive.length (internalRanks go (gone ++ [raw])) (internalRank go entry)) := by
        apply List.map_congr_left
        intro old inside
        have member : internalRank go old ∈ internalRanks go gone := List.mem_map_of_mem inside
        have grown : internalRanks go (gone ++ [raw]) = internalRanks go gone ++ [internalRank go entry] := by
          simp [internalRanks,diedEntries_concat gone read]
        simp [competitionRank,grown,List.idxOf_append_of_mem member]
      rw [rows,soFar.rows,kept,diedEntries_concat gone read,List.map_append,List.append_assoc,List.map_singleton]
      exact congrArg (fun rank => _ ++ (_ ++ [diedRow go sources entry (diedMember go entry) rank])) placed

theorem entrantRows_diedRanks {died : List String} {rows : List FinalRankingRow} (listed : DiedListed go alive died)
    (done : entrantRows go sources alive died = .ok rows) :
    (diedEntries go died).length = died.length ∧
      (rows.filter fun row => row.status = .died) = (diedEntries go died).map fun entry =>
        diedRow go sources entry (diedMember go entry)
          (competitionRank alive.length (internalRanks go died) (internalRank go entry)) := by
  obtain ⟨loop,looped,rest⟩ := bind_ok done
  have soFar := foldlM_ok (fun gone loop => DiedListed go alive gone →
      DiedSoFar go sources alive ((canonicalAliveRows go alive).mapIdx (aliveRow go sources)) gone loop)
    (fun gone raw _ _ before stepped listed => by
      obtain ⟨entry,read,-⟩ := diedStep_cases go sources stepped
      exact (before (listed.start read)).step listed stepped) (fun _ => by
      refine ⟨⟨by simp [internalRanks,diedEntries],by simp [internalRanks,diedEntries],fun _ none => by cases none⟩,rfl,?_,
        by simp [diedEntries]⟩
      intro memberID inside
      obtain ⟨member,canonical,same⟩ := List.mem_map.mp (List.mem_filter.mp inside).1
      exact .inl (List.mem_map.mpr ⟨member,(canonicalAliveRows_perm go alive).mem_iff.mp canonical,same⟩)) looped listed
  cases rest
  refine ⟨soFar.read,?_⟩
  have none_ : ((canonicalAliveRows go alive).mapIdx (aliveRow go sources)).filter (fun row => row.status = .died) = [] := by
    rw [List.filter_eq_nil_iff]
    intro row inside
    obtain ⟨index,_,rfl⟩ := List.mem_mapIdx.mp inside
    simp
  have pending : ((pendingMemberIDs go sources loop.seenMembers).map (pendingRow go sources)).filter
      (fun row => row.status = .died) = [] := by
    rw [List.filter_eq_nil_iff]
    intro row inside
    obtain ⟨memberID,-,rfl⟩ := List.mem_map.mp inside
    simp
  rw [List.filter_append,pending,soFar.rows,List.filter_append,none_,List.nil_append,List.append_nil,List.filter_eq_self]
  intro row inside
  obtain ⟨entry,-,rfl⟩ := List.mem_map.mp inside
  simp

variable {finalizer : Finalizer} {snapshot : LiveSnapshot} {registration : RegistrationSnapshot}

/-- Every died entry has a row, and its display rank is that of a competition. -/
theorem died_competitionRanks {finalization : Finalization}
    (accepted : finalizer.finalizeWithRegistration go snapshot registration = .ok finalization)
    (listed : DiedListed go snapshot.alive snapshot.died) :
    ∃ sources, finalizer.sourcesOf go snapshot registration = .ok sources ∧
      (diedEntries go snapshot.died).length = snapshot.died.length ∧
      ((finalization.rows.filter fun row => row.status = .died).map fun row => (row.memberID,row.displayRank)).Perm
        ((diedEntries go snapshot.died).map fun entry => (diedRowMember go sources entry,
          some (competitionRank snapshot.alive.length (internalRanks go snapshot.died) (internalRank go entry)))) := by
  obtain ⟨sources,entrants,decoded,made,rows,-⟩ := accepted_cases accepted
  obtain ⟨read,died⟩ := entrantRows_diedRanks listed made
  have perm := @finalRows_map_perm go _ entrants (fun row => (row.status,row.memberID,row.displayRank))
    (fun old row kept => by simp [kept.status,kept.memberID,kept.displayRank])
  have filtered (rows : List FinalRankingRow) :
      ((rows.map fun row => (row.status,row.memberID,row.displayRank)).filter fun row => row.1 = .died).map Prod.snd =
        (rows.filter fun row => row.status = .died).map fun row => (row.memberID,row.displayRank) := by
    rw [List.filter_map,List.map_map]
    rfl
  refine ⟨sources,decoded,read,?_⟩
  have same := (perm.filter fun row => row.1 = .died).map Prod.snd
  rw [filtered,filtered,died,List.map_map] at same
  rw [rows]
  refine same.trans (List.Perm.of_eq (List.map_congr_left fun entry _ => ?_))
  simp [diedRow_memberID,diedRowMember]

def leftText (user rank : String) : String :=
  object ("\"userID\":" ++ user ++ ",\"entryNumber\":1,\"rank\":" ++ rank)

def leftEntry (user rank : ℚ) : List (String × Value) :=
  [("userID",.number (.finite user)),("entryNumber",.number (.finite 1)),("rank",.number (.finite rank))]

def diedGo : Go := plainGo
  [(leftText "3" "3",leftEntry 3 3),(leftText "2" "3",leftEntry 2 3),(leftText "4" "1",leftEntry 4 1)]

def tied : LiveSnapshot where
  tournamentID := "mtt-tied-died"
  alive := [⟨"1:1",.finite 9000⟩]
  died := [leftText "3" "3",leftText "2" "3",leftText "4" "1"]

theorem tied_ranks : internalRanks diedGo tied.died = [some 3,some 3,some 1] := by decide +kernel

theorem tied_members : diedNamed diedGo tied.died = ["3:1","2:1","4:1"] := by decide +kernel

theorem tied_places : (Finalizer.finalizeWithRegistration diedGo {} tied {}).toOption.map
    (fun finalization => finalization.rows.map fun row => (row.memberID,row.displayRank)) =
      some [("1:1",some 1),("2:1",some 2),("3:1",some 2),("4:1",some 4)] := by
  decide +kernel

theorem tied_listed : DiedListed diedGo tied.alive tied.died where
  adjacent := by
    rw [tied_ranks]
    exact Adjacent.of_together (by decide)
  numeric := by
    rw [tied_ranks]
    decide
  once := by
    rw [tied_members]
    decide
  gone := by
    rw [tied_members]
    decide +kernel

theorem died_competitionRanks_tied : ∃ finalization sources,
    Finalizer.finalizeWithRegistration diedGo {} tied {} = .ok finalization ∧
      Finalizer.sourcesOf diedGo {} tied {} = .ok sources ∧
      ((finalization.rows.filter fun row => row.status = .died).map fun row => (row.memberID,row.displayRank)).Perm
        ((diedEntries diedGo tied.died).map fun entry => (diedRowMember diedGo sources entry,
          some (competitionRank 1 [some 3,some 3,some 1] (internalRank diedGo entry)))) := by
  have places := tied_places
  cases accepted : Finalizer.finalizeWithRegistration diedGo {} tied {} with
  | error refusal =>
    rw [accepted] at places
    cases places
  | ok finalization =>
    obtain ⟨sources,decoded,-,perm⟩ := died_competitionRanks accepted tied_listed
    rw [tied_ranks] at perm
    exact ⟨finalization,sources,rfl,decoded,perm⟩

end Clawchain.Ranking
