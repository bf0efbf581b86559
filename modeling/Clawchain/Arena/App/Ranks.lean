import Clawchain.Arena.App.Barrier
import Clawchain.Lib.Filling

/-! Finish ranks: survivors from the top, exits from the bottom, and the rest in between. -/
namespace Clawchain.Arena.App
open Clawchain.Lib Clawchain.Arena.Table Clawchain.Arena.Hub

def exitOf (entrants : List Entrant) (event : EliminationEvent) : Option String :=
  ((OrdMap.ofList (entrants.map fun entrant => (entrant.id,entrant))).get? event.entrantID).bind fun entrant =>
    if entrant.minerID = "" then none else some entrant.minerID

/-- Entrants with a miner and an id of their own, survivors among them, and events of which no two are of one entrant
and none is of a survivor. -/
structure Placing (entrants : List Entrant) (survivors : List RankedSurvivor) (events : List EliminationEvent) : Prop where
  miners : (entrants.map Entrant.minerID).Nodup
  ids : (entrants.map Entrant.id).Nodup
  distinct : (survivors.map RankedSurvivor.minerID).Nodup
  among : survivors.map RankedSurvivor.minerID ⊆ entrants.map Entrant.minerID
  once : events.Pairwise fun first second => first.entrantID = second.entrantID → first.entrantID ∉ entrants.map Entrant.id
  out : ∀ event ∈ events, ∀ entrant ∈ entrants, entrant.id = event.entrantID →
    entrant.minerID ∉ survivors.map RankedSurvivor.minerID

section Given
variable {entrants : List Entrant} {survivors : List RankedSurvivor} {events : List EliminationEvent} {minerID : String}
  {rank : Int}

theorem exitRanks_eq : exitRanks entrants events = events.zipIdx.filterMap fun e =>
    (exitOf entrants e.1).map fun minerID => (minerID,(entrants.length : Int) - e.2) := by
  unfold exitRanks
  refine List.filterMap_congr fun ⟨event,idx⟩ _ => ?_
  unfold exitOf
  dsimp only
  cases (OrdMap.ofList (entrants.map fun entrant => (entrant.id,entrant))).get? event.entrantID with
  | none => rfl
  | some entrant =>
    simp only [Option.bind_some]
    split_ifs <;> rfl

theorem exitOf_iff (ids : (entrants.map Entrant.id).Nodup) {event : EliminationEvent} :
    exitOf entrants event = some minerID ↔
      ∃ entrant ∈ entrants, entrant.id = event.entrantID ∧ entrant.minerID = minerID ∧ minerID ≠ "" := by
  have found (entrant : Entrant) : (OrdMap.ofList (entrants.map fun entrant => (entrant.id,entrant))).get? event.entrantID =
      some entrant ↔ entrant ∈ entrants ∧ entrant.id = event.entrantID := by
    rw [OrdMap.get?_ofList (by rwa [List.map_map]),List.mem_map]
    constructor
    · rintro ⟨other,inside,same⟩
      obtain ⟨own,rfl⟩ := Prod.mk.inj same
      exact ⟨inside,own⟩
    · rintro ⟨inside,own⟩
      exact ⟨entrant,inside,by rw [own]⟩
  unfold exitOf
  rw [Option.bind_eq_some_iff]
  constructor
  · rintro ⟨entrant,held,named⟩
    obtain ⟨inside,own⟩ := (found entrant).mp held
    split_ifs at named with blank
    cases named
    exact ⟨entrant,inside,own,rfl,blank⟩
  · rintro ⟨entrant,inside,own,rfl,named⟩
    exact ⟨entrant,(found entrant).mpr ⟨inside,own⟩,if_neg named⟩

theorem mem_exitRanks : (minerID,rank) ∈ exitRanks entrants events ↔
    ∃ (i : Nat) (event : EliminationEvent), events[i]? = some event ∧ exitOf entrants event = some minerID ∧ rank = (entrants.length : Int) - i := by
  rw [exitRanks_eq,List.mem_filterMap]
  constructor
  · rintro ⟨⟨event,i⟩,inside,same⟩
    obtain ⟨other,exits,same⟩ := Option.map_eq_some_iff.mp same
    cases same
    exact ⟨i,event,List.mem_zipIdx_iff_getElem?.mp inside,exits,rfl⟩
  · rintro ⟨i,event,found,exits,rfl⟩
    exact ⟨(event,i),List.mem_zipIdx_iff_getElem?.mpr found,by rw [exits]; rfl⟩

theorem mem_survivorRanks : (minerID,rank) ∈ survivorRanks survivors ↔
    ∃ (i : Nat) (survivor : RankedSurvivor), survivors[i]? = some survivor ∧ survivor.minerID = minerID ∧ rank = (i : Int) + 1 := by
  unfold survivorRanks
  rw [List.mem_map]
  constructor
  · rintro ⟨⟨survivor,i⟩,inside,same⟩
    cases same
    exact ⟨i,survivor,List.mem_zipIdx_iff_getElem?.mp inside,rfl,rfl⟩
  · rintro ⟨i,survivor,found,rfl,rfl⟩
    exact ⟨(survivor,i),List.mem_zipIdx_iff_getElem?.mpr found,rfl⟩

theorem survivorRanks_miners : (survivorRanks survivors).map Prod.fst = survivors.map RankedSurvivor.minerID := by
  unfold survivorRanks
  rw [List.map_map]
  conv_rhs => rw [← List.zipIdx_map_fst 0 survivors,List.map_map]
  rfl

theorem survivorRanks_ranks : (survivorRanks survivors).map Prod.snd = (List.range survivors.length).map fun i : Nat => (i : Int) + 1 := by
  unfold survivorRanks
  rw [List.map_map,List.range_eq_range',← List.zipIdx_map_snd 0 survivors,List.map_map]
  rfl

theorem exitRanks_descending : (exitRanks entrants events).Pairwise fun a b => b.2 < a.2 := by
  rw [exitRanks_eq,List.pairwise_filterMap]
  have ordered : events.zipIdx.Pairwise fun a b => a.2 < b.2 := by
    rw [← List.pairwise_map (f := Prod.snd) (R := (· < ·)),List.zipIdx_map_snd]
    exact List.pairwise_lt_range'
  refine ordered.imp ?_
  intro a b less x exits y exits'
  obtain ⟨_,_,rfl⟩ := Option.map_eq_some_iff.mp exits
  obtain ⟨_,_,rfl⟩ := Option.map_eq_some_iff.mp exits'
  dsimp only
  omega

theorem exitRanks_miners : (exitRanks entrants events).map Prod.fst = events.filterMap (exitOf entrants) := by
  rw [exitRanks_eq,List.map_filterMap]
  conv_rhs => rw [← List.zipIdx_map_fst 0 events,List.filterMap_map]
  refine List.filterMap_congr fun e _ => ?_
  rw [Option.map_map,Function.comp_apply]
  exact Option.map_id'

end Given

def rankOf (ranks : OrdMap String Int) (entrant : Entrant) : Int := (ranks.get? entrant.minerID).getD 0

def places (entrants : Nat) : List Int := (List.range entrants).map fun i : Nat => (i : Int) + 1

/-- Every place is taken once, survivors stand before the others, and of two exits the later one is the better. -/
structure Ranked (entrants : List Entrant) (survivors : List RankedSurvivor) (events : List EliminationEvent)
    (ranks : OrdMap String Int) : Prop where
  places : (entrants.map (rankOf ranks)).Perm (places entrants.length)
  survivors : ∀ first ∈ entrants, ∀ second ∈ entrants, first.minerID ∈ survivors.map RankedSurvivor.minerID →
    second.minerID ∉ survivors.map RankedSurvivor.minerID → rankOf ranks first < rankOf ranks second
  exits : events.Pairwise fun earlier later => ∀ first ∈ entrants, ∀ second ∈ entrants, first.id = earlier.entrantID →
    second.id = later.entrantID → rankOf ranks second < rankOf ranks first

def InPlace (entrants : List Entrant) (survivors : List RankedSurvivor) (events : List EliminationEvent) : Prop :=
  ∀ (i : Nat) (event : EliminationEvent), events[i]? = some event → ∀ entrant ∈ entrants, entrant.id = event.entrantID →
    entrant.minerID ≠ "" ∧ i + survivors.length < entrants.length

theorem mem_places {n : Nat} {rank : Int} : rank ∈ places n ↔ 1 ≤ rank ∧ rank ≤ n := by
  unfold places
  rw [List.mem_map]
  constructor
  · rintro ⟨i,inside,rfl⟩
    have := List.mem_range.mp inside
    omega
  · rintro ⟨least,most⟩
    exact ⟨(rank - 1).toNat,List.mem_range.mpr (by omega),by omega⟩

theorem places_nodup (n : Nat) : (places n).Nodup :=
  List.nodup_range.map fun i j same => by simpa using same

section Order
variable {entrants : List Entrant} {survivors : List RankedSurvivor} {events : List EliminationEvent} {minerID : String}
  {rank : Int}

theorem Placing.sorted (placing : Placing entrants survivors events) :
    Placing entrants survivors (events.insertionSort exitsBefore) := by
  have swap {first second : EliminationEvent} (apart : first.entrantID = second.entrantID →
      first.entrantID ∉ entrants.map Entrant.id) : second.entrantID = first.entrantID →
        second.entrantID ∉ entrants.map Entrant.id := fun same inside => apart same.symm (same ▸ inside)
  exact { placing with
    once := ((List.perm_insertionSort exitsBefore events).pairwise_iff swap).mpr placing.once
    out := fun event inside => placing.out event ((List.perm_insertionSort exitsBefore events).mem_iff.mp inside) }

variable (placing : Placing entrants survivors events)
include placing

theorem Placing.given_miners : ((survivorRanks survivors ++ exitRanks entrants events).map Prod.fst).Nodup := by
  rw [List.map_append,survivorRanks_miners,exitRanks_miners,List.nodup_append]
  refine ⟨placing.distinct,?_,?_⟩
  · refine List.pairwise_filterMap.mpr (placing.once.imp ?_)
    rintro first second apart miner exits _ exits' rfl
    obtain ⟨entrant,inside,own,named,-⟩ := (exitOf_iff placing.ids).mp exits
    obtain ⟨other,inside',own',named',-⟩ := (exitOf_iff placing.ids).mp exits'
    have same := List.inj_on_of_nodup_map placing.miners inside inside' (named.trans named'.symm)
    exact apart (by rw [← own,← own',same]) (own ▸ List.mem_map_of_mem inside)
  · rintro miner survives _ exits rfl
    obtain ⟨event,listed,exits⟩ := List.mem_filterMap.mp exits
    obtain ⟨entrant,inside,own,named,-⟩ := (exitOf_iff placing.ids).mp exits
    exact placing.out event listed entrant inside own (named ▸ survives)

theorem Placing.given_known : (survivorRanks survivors ++ exitRanks entrants events).map Prod.fst ⊆
    entrants.map Entrant.minerID := by
  rw [List.map_append,survivorRanks_miners,exitRanks_miners,List.append_subset]
  refine ⟨placing.among,fun miner exits => ?_⟩
  obtain ⟨event,-,exits⟩ := List.mem_filterMap.mp exits
  obtain ⟨entrant,inside,-,named,-⟩ := (exitOf_iff placing.ids).mp exits
  exact named ▸ List.mem_map_of_mem inside

theorem Placing.exitRanks_behind (inPlace : InPlace entrants survivors events) {e : String × Int}
    (exits : e ∈ exitRanks entrants events) : (survivors.length : Int) < e.2 ∧ e.2 ≤ entrants.length := by
  obtain ⟨miner,rank⟩ := e
  obtain ⟨i,event,found,recorded,rfl⟩ := mem_exitRanks.mp exits
  obtain ⟨entrant,inside,own,-⟩ := (exitOf_iff placing.ids).mp recorded
  have early := (inPlace i event found entrant inside own).2
  dsimp only
  omega

theorem Placing.survivors_fit : survivors.length ≤ entrants.length := by
  have fewer := (List.subperm_of_subset placing.distinct placing.among).length_le
  simpa using fewer

theorem Placing.given_ranks (inPlace : InPlace entrants survivors events) :
    ((survivorRanks survivors ++ exitRanks entrants events).map Prod.snd).Nodup ∧
      (survivorRanks survivors ++ exitRanks entrants events).map Prod.snd ⊆ places entrants.length := by
  have fit := placing.survivors_fit
  rw [List.map_append,survivorRanks_ranks,List.nodup_append,List.append_subset]
  have behind {rank : Int} (exits : rank ∈ (exitRanks entrants events).map Prod.snd) :
      (survivors.length : Int) < rank ∧ rank ≤ entrants.length := by
    obtain ⟨e,inside,rfl⟩ := List.mem_map.mp exits
    exact placing.exitRanks_behind inPlace inside
  refine ⟨⟨places_nodup _,?_,?_⟩,?_,?_⟩
  · rw [List.Nodup,List.pairwise_map]
    exact exitRanks_descending.imp fun less => (ne_of_lt less).symm
  · rintro rank survives _ exits rfl
    have := (mem_places.mp survives).2
    have := behind exits
    omega
  · intro rank survives
    have := mem_places.mp survives
    exact mem_places.mpr ⟨this.1,by omega⟩
  · intro rank exits
    have := behind exits
    exact mem_places.mpr ⟨by omega,this.2⟩

theorem Placing.filled (inPlace : InPlace entrants survivors events) : ∃ list : List (String × Int),
    finishRanks entrants survivors events = OrdMap.ofList list ∧ (list.map Prod.fst).Perm (entrants.map Entrant.minerID) ∧
      (list.map Prod.snd).Perm (places entrants.length) ∧
      (∀ e ∈ survivorRanks survivors ++ exitRanks entrants events, e ∈ list) ∧
      ∀ e ∈ list, e ∈ survivorRanks survivors ∨ (survivors.length : Int) < e.2 := by
  obtain ⟨distinct,inside⟩ := placing.given_ranks inPlace
  set given := survivorRanks survivors ++ exitRanks entrants events with gives
  have fewest {miner : String} : ((OrdMap.ofList given).get? miner).getD 0 = 0 ↔ miner ∉ given.map Prod.fst := by
    constructor
    · intro zero member
      obtain ⟨⟨_,rank⟩,listed,rfl⟩ := List.mem_map.mp member
      rw [(OrdMap.get?_ofList placing.given_miners).mpr listed,Option.getD_some] at zero
      have := (mem_places.mp (inside (List.mem_map_of_mem listed))).1
      dsimp only at this
      omega
    · intro absent
      rw [OrdMap.get?_ofList_eq_none absent]
      rfl
  set missing := ((entrants.map Entrant.minerID).filter fun miner =>
    ((OrdMap.ofList given).get? miner).getD 0 = 0).insertionSort (· ≤ ·) with misses
  set remaining := (places entrants.length).filter (· ∉ given.map Prod.snd) with remains
  have left : missing.Perm ((entrants.map Entrant.minerID).filter (· ∉ given.map Prod.fst)) := by
    refine (List.perm_insertionSort _ _).trans (List.Perm.of_eq ?_)
    exact List.filter_congr fun miner _ => by rw [decide_eq_decide]; exact fewest
  have filled := Filling.fill_perm placing.miners (places_nodup entrants.length) (by simp [places]) placing.given_miners
    placing.given_known distinct inside left (List.Perm.refl remaining)
  have builds : finishRanks entrants survivors events = OrdMap.ofList (given ++ missing.zip remaining) := by
    rw [remains,misses,gives]
    unfold finishRanks
    dsimp only
    congr 4
    simp [places,← List.map_eq_flatMap,Function.comp_def]
  refine ⟨given ++ missing.zip remaining,builds,filled.1,filled.2,fun e member => List.mem_append_left _ member,?_⟩
  intro e member
  rcases List.mem_append.mp member with given_ | late
  · rcases List.mem_append.mp given_ with survives | exits
    · exact .inl survives
    · exact .inr (placing.exitRanks_behind inPlace exits).1
  · right
    obtain ⟨placed,unused⟩ := List.mem_filter.mp (List.of_mem_zip late).2
    by_contra above
    have := mem_places.mp placed
    refine (of_decide_eq_true unused) ?_
    rw [gives,List.map_append,survivorRanks_ranks]
    exact List.mem_append_left _ (mem_places.mpr ⟨this.1,by omega⟩)

theorem Placing.ranked (inPlace : InPlace entrants survivors events) :
    Ranked entrants survivors events (finishRanks entrants survivors events) := by
  obtain ⟨list,same,miners,ranks,given,behind⟩ := placing.filled inPlace
  have distinct : (list.map Prod.fst).Nodup := miners.nodup_iff.mpr placing.miners
  have ranked {entrant : Entrant} {rank : Int} (listed : (entrant.minerID,rank) ∈ list) :
      rankOf (finishRanks entrants survivors events) entrant = rank := by
    unfold rankOf
    rw [same,(OrdMap.get?_ofList distinct).mpr listed,Option.getD_some]
  have listed {entrant : Entrant} (inside : entrant ∈ entrants) :
      (entrant.minerID,rankOf (finishRanks entrants survivors events) entrant) ∈ list := by
    obtain ⟨⟨miner,rank⟩,member,rfl⟩ := List.mem_map.mp (miners.mem_iff.mpr (List.mem_map_of_mem (f := Entrant.minerID) inside))
    rwa [ranked member]
  refine ⟨?_,?_,?_⟩
  · have values : (list.map Prod.fst).map (fun miner => ((finishRanks entrants survivors events).get? miner).getD 0) =
        list.map Prod.snd := by
      rw [List.map_map]
      refine List.map_congr_left fun e member => ?_
      rw [Function.comp_apply,same,(OrdMap.get?_ofList distinct).mpr member,Option.getD_some]
    have whole := (miners.map fun miner => ((finishRanks entrants survivors events).get? miner).getD 0).symm
    rw [values,List.map_map] at whole
    exact whole.trans ranks
  · intro first inside second inside' survives gone
    rw [← survivorRanks_miners] at survives gone
    obtain ⟨⟨_,rank⟩,survivor,own⟩ := List.mem_map.mp survives
    dsimp only at own
    subst own
    rw [ranked (given _ (List.mem_append_left _ survivor))]
    have top : rank ≤ survivors.length := by
      have place := List.mem_map_of_mem (f := Prod.snd) survivor
      rw [survivorRanks_ranks] at place
      exact (mem_places.mp place).2
    have below := (behind _ (listed inside')).resolve_left fun survivor' => gone (List.mem_map_of_mem survivor')
    dsimp only at below
    omega
  · rw [List.pairwise_iff_getElem]
    intro i j first_ second_ less first inside second inside' own own'
    have exit {k : Nat} {bound : k < events.length} {entrant : Entrant} (member : entrant ∈ entrants)
        (leaves : entrant.id = events[k].entrantID) :
        rankOf (finishRanks entrants survivors events) entrant = (entrants.length : Int) - k := by
      have found : events[k]? = some events[k] := List.getElem?_eq_getElem bound
      have named := (inPlace k _ found entrant member leaves).1
      refine ranked (given _ (List.mem_append_right _ (mem_exitRanks.mpr ⟨k,_,found,?_,rfl⟩)))
      exact (exitOf_iff placing.ids).mpr ⟨entrant,member,leaves,rfl,named⟩
    rw [exit inside own,exit inside' own']
    omega

theorem Placing.finishRanks_given (listed : (minerID,rank) ∈ survivorRanks survivors ++ exitRanks entrants events)
    (nonzero : rank ≠ 0) : (finishRanks entrants survivors events).get? minerID = some rank := by
  have held := (OrdMap.get?_ofList placing.given_miners).mpr listed
  unfold finishRanks
  dsimp only
  rw [OrdMap.get?_ofList_append,held,OrdMap.get?_ofList_eq_none,Option.none_or]
  intro late
  obtain ⟨e,zipped,rfl⟩ := List.mem_map.mp late
  have zero := (List.mem_filter.mp ((List.perm_insertionSort _ _).mem_iff.mp (List.of_mem_zip zipped).1)).2
  rw [decide_eq_true_eq,held,Option.getD_some] at zero
  exact nonzero zero

theorem Placing.in_place (ranked : Ranked entrants survivors events (finishRanks entrants survivors events)) {i : Nat}
    {event : EliminationEvent} (found : events[i]? = some event) {entrant : Entrant} (inside : entrant ∈ entrants)
    (own : entrant.id = event.entrantID) (named : entrant.minerID ≠ "") :
    i + survivors.length < entrants.length ∨ i = entrants.length := by
  have exit : rankOf (finishRanks entrants survivors events) entrant = (entrants.length : Int) - i ∨ i = entrants.length := by
    by_cases last : i = entrants.length
    · exact .inr last
    · have listed : (entrant.minerID,(entrants.length : Int) - i) ∈ survivorRanks survivors ++ exitRanks entrants events :=
        List.mem_append_right _ (mem_exitRanks.mpr ⟨i,event,found,(exitOf_iff placing.ids).mpr ⟨entrant,inside,own,rfl,named⟩,rfl⟩)
      left
      unfold rankOf
      rw [placing.finishRanks_given listed (by omega),Option.getD_some]
  rcases exit with exit | last
  · have placed := mem_places.mp (ranked.places.mem_iff.mp (List.mem_map_of_mem inside))
    rw [exit] at placed
    by_contra far
    rw [not_or] at far
    -- A survivor has the place of the exit.
    obtain ⟨survivor,there⟩ : ∃ survivor, survivors[entrants.length - i - 1]? = some survivor :=
      ⟨_,List.getElem?_eq_getElem (by omega)⟩
    obtain ⟨other,inside',same⟩ := List.mem_map.mp (placing.among (List.mem_map_of_mem (List.mem_of_getElem? there)))
    have survives : rankOf (finishRanks entrants survivors events) other = (entrants.length : Int) - i := by
      unfold rankOf
      rw [same,placing.finishRanks_given (List.mem_append_left _ (mem_survivorRanks.mpr ⟨_,survivor,there,rfl,rfl⟩)) (by omega),
        Option.getD_some]
      omega
    have one := List.inj_on_of_nodup_map (ranked.places.nodup_iff.mpr (places_nodup _)) inside inside' (exit.trans survives.symm)
    refine placing.out event (List.mem_of_getElem? found) entrant inside own ?_
    rw [one,same]
    exact List.mem_map_of_mem (List.mem_of_getElem? there)
  · exact .inr last

theorem Placing.inPlace_of_known (known : ∀ event ∈ events, ∃ entrant ∈ entrants, entrant.id = event.entrantID ∧
    entrant.minerID ≠ "") : InPlace entrants survivors events := by
  intro i event found entrant inside own
  have recorded : ∀ event ∈ events, ∃ miner, exitOf entrants event = some miner := fun event listed => by
    obtain ⟨entrant,inside,own,named⟩ := known event listed
    exact ⟨_,(exitOf_iff placing.ids).mpr ⟨entrant,inside,own,rfl,named⟩⟩
  have counted : (events.filterMap (exitOf entrants)).length = events.length := by
    rw [List.length_filterMap_eq_countP,List.countP_eq_length]
    intro event listed
    obtain ⟨miner,exits⟩ := recorded event listed
    rw [exits]
    rfl
  have fewer := (List.subperm_of_subset placing.given_miners placing.given_known).length_le
  rw [List.map_append,survivorRanks_miners,exitRanks_miners,List.length_append,counted,List.length_map,List.length_map] at fewer
  have bound := (List.getElem?_eq_some_iff.mp found).1
  obtain ⟨other,inside',own',named⟩ := known event (List.mem_of_getElem? found)
  have same := List.inj_on_of_nodup_map placing.ids inside inside' (own.trans own'.symm)
  exact ⟨same ▸ named,by omega⟩

end Order

section Completion
variable {waveID tournamentID : String} {runtime after : RuntimeService} {assignments : List SeatAssignment}
  {reason : CompletionReason} {completion : Completion}

def exitsOf (runtime : RuntimeService) (tournamentID : String) : List EliminationEvent :=
  (runtime.eliminations.entries.map Prod.snd).filter (·.tournamentID = tournamentID)

def survivorsOf (runtime : RuntimeService) (tournamentID : String) (assignments : List SeatAssignment) : List RankedSurvivor :=
  rankedSurvivors (runtime.seats.filter fun _ row => row.tournamentID = tournamentID) assignments

theorem buildTournamentCompletion_ranks (done : buildTournamentCompletion waveID tournamentID assignments reason runtime =
    (.ok completion,after)) : tournamentEntrantsForCompletion runtime waveID tournamentID = [] ∧ completion = {} ∨
      completion.ranks = finishRanks (tournamentEntrantsForCompletion runtime waveID tournamentID)
        (survivorsOf runtime tournamentID assignments) ((exitsOf runtime tournamentID).insertionSort exitsBefore) := by
  rw [buildTournamentCompletion,Faulty.read_run] at done
  dsimp only at done
  split_ifs at done with empty
  · cases done
    exact .inl ⟨empty,rfl⟩
  · obtain ⟨_,first,_,done⟩ := Faulty.bind_ok done
    obtain ⟨_,second,_,done⟩ := Faulty.bind_ok done
    obtain ⟨_,third,_,done⟩ := Faulty.bind_ok done
    cases done
    exact .inr rfl

def PlacingAt (runtime : RuntimeService) (waveID tournamentID : String) (assignments : List SeatAssignment) : Prop :=
  Placing (tournamentEntrantsForCompletion runtime waveID tournamentID) (survivorsOf runtime tournamentID assignments)
    (exitsOf runtime tournamentID)

def InPlaceAt (runtime : RuntimeService) (waveID tournamentID : String) (assignments : List SeatAssignment) : Prop :=
  InPlace (tournamentEntrantsForCompletion runtime waveID tournamentID) (survivorsOf runtime tournamentID assignments)
    ((exitsOf runtime tournamentID).insertionSort exitsBefore)

def RankedAt (runtime : RuntimeService) (waveID tournamentID : String) (assignments : List SeatAssignment)
    (ranks : OrdMap String Int) : Prop :=
  Ranked (tournamentEntrantsForCompletion runtime waveID tournamentID) (survivorsOf runtime tournamentID assignments)
    ((exitsOf runtime tournamentID).insertionSort exitsBefore) ranks

/-- The order of the finish is right when every exit is in place; otherwise only a rank of zero may have been made
good. -/
theorem finish_ranks (placing : PlacingAt runtime waveID tournamentID assignments)
    (done : buildTournamentCompletion waveID tournamentID assignments reason runtime = (.ok completion,after)) :
    (InPlaceAt runtime waveID tournamentID assignments →
      RankedAt runtime waveID tournamentID assignments completion.ranks) ∧
    (RankedAt runtime waveID tournamentID assignments completion.ranks →
      ∀ (i : Nat) (event : EliminationEvent), ((exitsOf runtime tournamentID).insertionSort exitsBefore)[i]? = some event →
        ∀ entrant ∈ tournamentEntrantsForCompletion runtime waveID tournamentID, entrant.id = event.entrantID →
          entrant.minerID ≠ "" →
          i + assignments.length < (tournamentEntrantsForCompletion runtime waveID tournamentID).length ∨
            i = (tournamentEntrantsForCompletion runtime waveID tournamentID).length) := by
  obtain ⟨empty,rfl⟩ | ranks := buildTournamentCompletion_ranks done
  · unfold RankedAt
    rw [empty]
    refine ⟨fun _ => ⟨List.Perm.refl _,fun _ inside => (by cases inside),?_⟩,fun _ _ _ _ _ inside => (by cases inside)⟩
    exact List.pairwise_of_forall fun _ _ _ inside => by cases inside
  · unfold RankedAt
    rw [ranks]
    have survivors : (survivorsOf runtime tournamentID assignments).length = assignments.length := by
      unfold survivorsOf rankedSurvivors
      rw [List.length_insertionSort,List.length_map]
    refine ⟨placing.sorted.ranked,fun ranked i event found entrant inside own named => ?_⟩
    rw [← survivors]
    exact placing.sorted.in_place ranked found inside own named

end Completion

def exitAt (entrantID : String) (occurredAt : Int) : EliminationEvent :=
  ⟨"field_exit:" ++ entrantID,"tour:w:01","tbl:tour:w:01:01","seat:tbl:tour:w:01:01:02",entrantID,"eliminated",occurredAt,occurredAt⟩

def twoMiners (exits : List EliminationEvent) : RuntimeService where
  waves := OrdMap.ofList [("w",{
    wave := ⟨"w",.rated,.seatsPublished⟩
    entrants := OrdMap.ofList [
      ("a",{ id := "ent:w:a", tournamentID := "tour:w:01", minerID := "a" }),
      ("b",{ id := "ent:w:b", tournamentID := "tour:w:01", minerID := "b" })] })]
  eliminations := OrdMap.ofList (exits.map fun event => (event.id,event))

def winnerSeat : SeatAssignment := ⟨"ent:w:a","a","tbl:tour:w:01:01",1,1⟩

theorem twoMiners_placing : ∀ exits ∈ [[exitAt "ent:w:b" 2],[exitAt "ent:w:c" 1,exitAt "ent:w:b" 2]],
    PlacingAt (twoMiners exits) "w" "tour:w:01" [winnerSeat] := by
  intro exits listed
  constructor <;> revert exits <;> decide +kernel

theorem buildTournamentCompletion_twoMiners : ∀ exits ∈ [[exitAt "ent:w:b" 2],[exitAt "ent:w:c" 1,exitAt "ent:w:b" 2]],
    ((buildTournamentCompletion "w" "tour:w:01" [winnerSeat] .naturalFinish (twoMiners exits)).1.toOption.any
      fun completion => decide (completion.ranks.get? "a" = some 1 ∧
        completion.ranks.get? "b" = some ((3 : Int) - exits.length))) = true := by
  decide +kernel

theorem ok_of_toOption {α : Type} {x : RuntimeM α} {s : RuntimeService} {a : α} (done : (x s).1.toOption = some a) :
    x s = (.ok a,(x s).2) := by
  cases run : (x s).1 with
  | error e =>
    rw [run] at done
    cases done
  | ok b =>
    rw [run] at done
    cases done
    exact Prod.ext run rfl

theorem finish_ranks_twoMiners : ∃ completion,
    (buildTournamentCompletion "w" "tour:w:01" [winnerSeat] .naturalFinish (twoMiners [exitAt "ent:w:b" 2])).1.toOption =
      some completion ∧ RankedAt (twoMiners [exitAt "ent:w:b" 2]) "w" "tour:w:01" [winnerSeat] completion.ranks := by
  obtain ⟨completion,built,-⟩ := (Option.any_eq_true _ _).mp (buildTournamentCompletion_twoMiners _ List.mem_cons_self)
  have placing := twoMiners_placing _ List.mem_cons_self
  exact ⟨completion,built,(finish_ranks placing (ok_of_toOption built)).1
    (placing.sorted.inPlace_of_known (by decide +kernel))⟩

/-- The exit of a miner that is no longer registered is skipped, but counted. -/
theorem foreign_exit_counts : ∃ completion,
    (buildTournamentCompletion "w" "tour:w:01" [winnerSeat] .naturalFinish
      (twoMiners [exitAt "ent:w:c" 1,exitAt "ent:w:b" 2])).1.toOption = some completion ∧
      PlacingAt (twoMiners [exitAt "ent:w:c" 1,exitAt "ent:w:b" 2]) "w" "tour:w:01" [winnerSeat] ∧
      ¬RankedAt (twoMiners [exitAt "ent:w:c" 1,exitAt "ent:w:b" 2]) "w" "tour:w:01" [winnerSeat] completion.ranks := by
  have listed : [exitAt "ent:w:c" 1,exitAt "ent:w:b" 2] ∈
      [[exitAt "ent:w:b" 2],[exitAt "ent:w:c" 1,exitAt "ent:w:b" 2]] := List.mem_cons_of_mem _ List.mem_cons_self
  obtain ⟨completion,built,ranks⟩ := (Option.any_eq_true _ _).mp (buildTournamentCompletion_twoMiners _ listed)
  obtain ⟨first,second⟩ := of_decide_eq_true ranks
  refine ⟨completion,built,twoMiners_placing _ listed,fun ranked => ?_⟩
  have better := ranked.survivors { id := "ent:w:a", tournamentID := "tour:w:01", minerID := "a" } (by decide +kernel)
    { id := "ent:w:b", tournamentID := "tour:w:01", minerID := "b" } (by decide +kernel) (by decide +kernel) (by decide +kernel)
  unfold rankOf at better
  rw [first,second] at better
  simp at better

end Clawchain.Arena.App
