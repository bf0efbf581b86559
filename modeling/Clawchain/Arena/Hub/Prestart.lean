import Clawchain.Arena.Hub.Draw
import Clawchain.Lib.Runs

/-! The field before the start: what the draw makes of it, and what removals and the republication make of the plan. -/
namespace Clawchain.Arena.Hub
open Clawchain.Lib

def named (entrant : Entrant) : String × String := (entrant.id,entrant.minerID)

def seatedAs (assignment : SeatAssignment) : String × String := (assignment.entrantID,assignment.minerID)

def Distinct (entrants : List Entrant) : Prop := (entrants.map named).Nodup

def inField (entrant : Entrant) : Bool := entrant.registrationState ≠ .removedBeforeStart

section Field
variable {entrants first next : List Entrant}

theorem minerBefore_total : Std.Total minerBefore where
  total a b := by
    unfold minerBefore
    rcases lt_trichotomy a.minerID b.minerID with less | same | greater
    · exact .inl (.inl less)
    · rcases le_total a.id b.id with below | above
      · exact .inl (.inr ⟨same,below⟩)
      · exact .inr (.inr ⟨same.symm,above⟩)
    · exact .inr (.inl greater)

theorem minerBefore_trans : IsTrans Entrant minerBefore where
  trans a b c first second := by
    rcases first with less | ⟨same,below⟩ <;> rcases second with less' | ⟨same',below'⟩
    · exact .inl (less.trans less')
    · exact .inl (same' ▸ less)
    · exact .inl (same ▸ less')
    · exact .inr ⟨same.trans same',below.trans below'⟩

theorem minerBefore_antisymm {a b : Entrant} (first : minerBefore a b) (second : minerBefore b a) : named a = named b := by
  rcases first with less | ⟨same,below⟩ <;> rcases second with less' | ⟨same',below'⟩
  · exact absurd (less.trans less') (lt_irrefl _)
  · exact absurd less (same' ▸ lt_irrefl _)
  · exact absurd less' (same ▸ lt_irrefl _)
  · exact Prod.ext (le_antisymm below below') same

theorem sortField_eq_of_perm (distinct : Distinct first) (perm : first.Perm next) :
    first.insertionSort minerBefore = next.insertionSort minerBefore := by
  have total := minerBefore_total
  have trans := minerBefore_trans
  refine ((List.perm_insertionSort _ first).trans (perm.trans (List.perm_insertionSort _ next).symm)).eq_of_pairwise ?_
    (List.pairwise_insertionSort _ _) (List.pairwise_insertionSort _ _)
  intro a b inFirst inNext below above
  exact List.inj_on_of_nodup_map distinct ((List.perm_insertionSort _ _).mem_iff.mp inFirst)
    (perm.mem_iff.mpr ((List.perm_insertionSort _ _).mem_iff.mp inNext)) (minerBefore_antisymm below above)

end Field

section Tables
variable {tournamentID : String}

theorem seatTable_named (tableNo : Nat) (entrants : List Entrant) :
    (seatTable tournamentID tableNo entrants).map seatedAs = entrants.map named := by
  unfold seatTable
  rw [List.map_map]
  conv_rhs => rw [← List.zipIdx_map_fst 0 entrants,List.map_map]
  rfl

theorem seatTables_named (sizes : List Nat) (tableNo : Nat) (draw : List Entrant) :
    (seatTables tournamentID tableNo sizes draw).map seatedAs = (draw.take sizes.sum).map named := by
  induction sizes generalizing tableNo draw with
  | nil => simp [seatTables]
  | cons size rest ih =>
    rw [seatTables,List.map_append,seatTable_named,ih,List.sum_cons,List.take_add,List.map_append]

theorem seatTable_seatNos (tableNo : Nat) (entrants : List Entrant) :
    (seatTable tournamentID tableNo entrants).map SeatAssignment.seatNo =
      (List.range entrants.length).map fun idx : Nat => (idx : Int) + 1 := by
  unfold seatTable
  rw [List.map_map,List.range_eq_range',← List.zipIdx_map_snd 0 entrants,List.map_map]
  rfl

theorem seatTable_group (tableNo other : Nat) (entrants : List Entrant) :
    tableGroup (seatTable tournamentID tableNo entrants) (Model.tableID tournamentID other) =
      if tableNo = other then seatTable tournamentID tableNo entrants else [] := by
  unfold tableGroup
  split_ifs with same
  · subst same
    rw [List.filter_eq_self]
    intro assignment inside
    exact decide_eq_true (seatTable_seat inside).1
  · rw [List.filter_eq_nil_iff]
    intro assignment inside
    rw [(seatTable_seat inside).1,decide_eq_true_eq]
    exact fun equal => same (tableID_injective equal)

theorem seatTables_group (tournamentID : String) (sizes : List Nat) (tableNo : Nat) (draw : List Entrant) (enough : sizes.sum ≤ draw.length)
    {i : Nat} (inside : i < sizes.length) :
    (tableGroup (seatTables tournamentID tableNo sizes draw) (Model.tableID tournamentID ↑(tableNo + i))).map
      SeatAssignment.seatNo = (List.range sizes[i]).map fun idx : Nat => (idx : Int) + 1 := by
  induction sizes generalizing tableNo draw i with
  | nil => simp at inside
  | cons size rest ih =>
    rw [List.sum_cons] at enough
    have split_ : tableGroup (seatTables tournamentID tableNo (size :: rest) draw) (Model.tableID tournamentID ↑(tableNo + i)) =
        tableGroup (seatTable tournamentID tableNo (draw.take size)) (Model.tableID tournamentID ↑(tableNo + i)) ++
          tableGroup (seatTables tournamentID (tableNo + 1) rest (draw.drop size)) (Model.tableID tournamentID ↑(tableNo + i)) :=
      List.filter_append _ _
    have taken : (draw.take size).length = size := by
      rw [List.length_take]
      omega
    rw [split_,seatTable_group]
    cases i with
    | zero =>
      have others : tableGroup (seatTables tournamentID (tableNo + 1) rest (draw.drop size))
          (Model.tableID tournamentID ↑(tableNo + 0)) = [] := by
        unfold tableGroup
        rw [List.filter_eq_nil_iff]
        intro assignment later
        obtain ⟨n,above,own,-⟩ := seatTables_seat later
        rw [own,decide_eq_true_eq]
        intro equal
        have := tableID_injective equal
        omega
      rw [if_pos (Nat.add_zero tableNo).symm,others,List.append_nil,seatTable_seatNos,taken]
      rfl
    | succ i =>
      rw [if_neg (by omega),List.nil_append]
      have later := ih (tableNo + 1) (draw.drop size) (by rw [List.length_drop]; omega) (Nat.lt_of_succ_lt_succ inside)
      rw [show tableNo + 1 + i = tableNo + (i + 1) by omega] at later
      exact later

theorem seatTables_tableNo {sizes : List Nat} {tableNo : Nat} {draw : List Entrant} {assignment : SeatAssignment}
    (inside : assignment ∈ seatTables tournamentID tableNo sizes draw) :
    ∃ i < sizes.length, assignment.tableNo = ↑(tableNo + i) ∧
      assignment.tableID = Model.tableID tournamentID ↑(tableNo + i) := by
  induction sizes generalizing tableNo draw with
  | nil => cases inside
  | cons size rest ih =>
    rcases List.mem_append.mp inside with here | later
    · obtain ⟨⟨entrant,idx⟩,-,rfl⟩ := List.mem_map.mp here
      exact ⟨0,by simp,rfl,rfl⟩
    · obtain ⟨i,bound,number,own⟩ := ih later
      rw [show tableNo + 1 + i = tableNo + (i + 1) by omega] at number own
      exact ⟨i + 1,by simpa using bound,number,own⟩

end Tables

section Draw
variable {sum256 : String → Nat} {tournamentID : String} {entrants : List Entrant}

/-- The assignments seat their tables from 1 on, and every table from its first seat on. -/
structure Seats (tournamentID : String) (sizes : List Nat) (assignments : List SeatAssignment) : Prop where
  tables : ∀ assignment ∈ assignments, ∃ tableNo : Nat, 1 ≤ tableNo ∧ tableNo ≤ sizes.length ∧
    assignment.tableNo = tableNo ∧ assignment.tableID = Model.tableID tournamentID tableNo
  seatNos : ∀ (i : Nat) (inside : i < sizes.length),
    (tableGroup assignments (Model.tableID tournamentID ↑(i + 1))).map SeatAssignment.seatNo =
      (List.range sizes[i]).map fun idx : Nat => (idx : Int) + 1

theorem assignSeats_named (sum256 : String → Nat) (tournamentID : String) (entrants : List Entrant) :
    ((assignSeats sum256 tournamentID entrants).map seatedAs).Perm (entrants.map named) := by
  unfold assignSeats
  split_ifs with empty
  · rw [empty]
    exact List.Perm.refl _
  · have some_ : 0 < (shuffledEntrants sum256 tournamentID entrants).length := by
      rw [length_shuffledEntrants]
      exact List.length_pos_iff.mpr empty
    dsimp only
    rw [seatTables_named,sum_balancedTargetSizes _ (targetTableCount_pos some_),List.take_length]
    exact (List.perm_insertionSort _ _).map _

theorem assignSeats_seats (sum256 : String → Nat) (tournamentID : String) (entrants : List Entrant) :
    Seats tournamentID (balancedTargetSizes entrants.length (targetTableCount entrants.length))
      (assignSeats sum256 tournamentID entrants) := by
  unfold assignSeats
  split_ifs with empty
  · subst empty
    exact ⟨fun _ inside => (by cases inside),fun i inside => (by simp [targetTableCount,seatsPerTable] at inside)⟩
  · have some_ : 0 < entrants.length := List.length_pos_iff.mpr empty
    have total := sum_balancedTargetSizes entrants.length (targetTableCount_pos some_)
    dsimp only
    rw [length_shuffledEntrants]
    refine ⟨fun assignment inside => ?_,fun i inside => ?_⟩
    · obtain ⟨i,bound,number,own⟩ := seatTables_tableNo inside
      exact ⟨1 + i,by omega,by omega,number,own⟩
    · have group := seatTables_group tournamentID _ 1 (shuffledEntrants sum256 tournamentID entrants)
        (by rw [total,length_shuffledEntrants]) inside
      rwa [Nat.add_comm 1 i] at group

theorem balancedTargetSizes_fair (players : Nat) : (balancedTargetSizes players (targetTableCount players)).length =
      targetTableCount players ∧
    ∀ size ∈ balancedTargetSizes players (targetTableCount players), size ≤ seatsPerTable ∧
      ∀ other ∈ balancedTargetSizes players (targetTableCount players), size ≤ other + 1 := by
  refine ⟨length_balancedTargetSizes _ _,fun size member => ?_⟩
  obtain ⟨-,most,few⟩ := balancedTargetSizes_even member
  refine ⟨few ?_,fun other member' => ?_⟩
  · unfold targetTableCount seatsPerTable
    omega
  · obtain ⟨least,-,-⟩ := balancedTargetSizes_even member'
    omega

end Draw

section Removal
variable {minerID : String} {entrants removed : List Entrant}

theorem removeEntrant_field (removes : removeEntrant minerID entrants = .ok removed) :
    removed.filter inField = (entrants.eraseP (·.minerID = minerID)).filter inField := by
  induction entrants generalizing removed with
  | nil => cases removes
  | cons entrant rest ih =>
    unfold removeEntrant at removes
    split_ifs at removes with other gone
    · cases later : removeEntrant minerID rest with
      | error e =>
        rw [later] at removes
        cases removes
      | ok removed' =>
        rw [later] at removes
        cases removes
        rw [List.eraseP_cons_of_neg (by simpa using other),List.filter_cons,List.filter_cons,ih later]
    · cases removes
      rw [List.eraseP_cons_of_pos (by simpa using other),List.filter_cons_of_neg (by simp [inField])]

def Removable (entrants : List Entrant) (minerID : String) : Prop :=
  ∃ entrant, entrants.find? (·.minerID = minerID) = some entrant ∧ inField entrant = true

theorem removeEntrant_iff : (∃ removed, removeEntrant minerID entrants = .ok removed) ↔ Removable entrants minerID := by
  unfold Removable
  induction entrants with
  | nil => simp [removeEntrant]
  | cons entrant rest ih =>
    unfold removeEntrant
    by_cases own : entrant.minerID = minerID
    · rw [if_neg (not_not.mpr own),List.find?_cons_of_pos (by simpa using own)]
      by_cases gone : entrant.registrationState = .removedBeforeStart
      · simp [gone,inField]
      · simp [gone,inField]
    · rw [if_pos own,List.find?_cons_of_neg (by simpa using own),← ih]
      cases removeEntrant minerID rest with
      | error e => simp [Except.map]
      | ok removed => simp [Except.map]

theorem removeEntrant_length (removes : removeEntrant minerID entrants = .ok removed) :
    (removed.filter inField).length + 1 = (entrants.filter inField).length := by
  induction entrants generalizing removed with
  | nil => cases removes
  | cons entrant rest ih =>
    unfold removeEntrant at removes
    split_ifs at removes with other gone
    · cases later : removeEntrant minerID rest with
      | error e =>
        rw [later] at removes
        cases removes
      | ok removed' =>
        rw [later] at removes
        cases removes
        have fewer := ih later
        rw [List.filter_cons,List.filter_cons]
        split_ifs
        · rw [List.length_cons,List.length_cons,fewer]
        · exact fewer
    · cases removes
      rw [List.filter_cons_of_neg (by simp [inField]),List.filter_cons_of_pos (by simpa [inField] using gone),List.length_cons]

theorem activeEntrants_eq (service : Service) :
    service.activeEntrants = (service.entrants.filter inField).insertionSort minerBefore := rfl

end Removal

def seatingOf (result : Except HubError Service) : Option (List SeatAssignment) :=
  result.toOption.bind fun service => service.tournaments.head?.map TournamentPlan.seatAssignments

section Plan
variable (sum256 : String → Nat) {service packed published removed republished : Service} {minerID : String}

theorem lockAndPack_seating (service : Service) : seatingOf (service.lockAndPack sum256) =
    if service.waveState = some .registrationOpen then
      some (assignSeats sum256 (Model.tournamentID service.waveID 1) service.activeEntrants) else none := by
  by_cases opened : service.waveState = some .registrationOpen
  · rw [if_pos opened]
    simp only [Service.lockAndPack,opened,ne_eq,not_true,if_false]
    rfl
  · rw [if_neg opened]
    simp only [Service.lockAndPack,opened,ne_eq,not_false_iff,if_true]
    rfl

theorem publishSeats_plan (publishes : packed.publishSeats = .ok published) :
    published.entrants = packed.entrants ∧ published.waveState = some .seatsPublished ∧
      published.tournaments = packed.tournaments.map fun plan => { plan with seatsWerePublished := true } := by
  unfold Service.publishSeats at publishes
  split_ifs at publishes
  cases publishes
  exact ⟨rfl,rfl,rfl⟩

theorem forceRemoveBeforeStart_plan (removes : published.forceRemoveBeforeStart minerID = .ok removed) :
    removeEntrant minerID published.entrants = .ok removed.entrants ∧
      removed = { published with entrants := removed.entrants, pendingRepublish := true } := by
  unfold Service.forceRemoveBeforeStart at removes
  split_ifs at removes
  cases found : removeEntrant minerID published.entrants with
  | error e =>
    rw [found] at removes
    cases removes
  | ok entrants =>
    rw [found] at removes
    cases removes
    exact ⟨rfl,rfl⟩

theorem republishSeats_plan (republishes : removed.republishSeats sum256 = .ok republished) :
    ∃ plan rest, removed.tournaments = plan :: rest ∧ republished = { removed with
      tournaments := { plan with
        seatAssignments := assignSeats sum256 plan.tournamentID removed.activeEntrants
        entrantIDs := removed.activeEntrants.map Entrant.id
        republishCount := plan.republishCount + 1
        seatsWerePublished := true } :: rest
      republishUsed := true
      pendingRepublish := false } := by
  unfold Service.republishSeats at republishes
  split_ifs at republishes
  cases plans : removed.tournaments with
  | nil =>
    rw [plans] at republishes
    cases republishes
  | cons plan rest =>
    rw [plans] at republishes
    cases republishes
    exact ⟨plan,rest,rfl,rfl⟩

theorem Distinct.field (distinct : Distinct service.entrants) : Distinct (service.entrants.filter inField) :=
  distinct.sublist (List.filter_sublist.map named)

/-- The draw does not see the order of the entrants, seats everybody once at tables as even as can be, and after a
removal and the republication is the draw without the removed entrant. -/
theorem seat_draw (service : Service) (distinct : Distinct service.entrants) :
    (∀ entrants, entrants.Perm service.entrants →
      seatingOf ({ service with entrants := entrants }.lockAndPack sum256) = seatingOf (service.lockAndPack sum256)) ∧
    (∀ packed, service.lockAndPack sum256 = .ok packed → ∃ plan sizes, packed.tournaments = [plan] ∧
      (plan.seatAssignments.map seatedAs).Perm ((service.entrants.filter inField).map named) ∧
      sizes.length = ((service.entrants.filter inField).length + 8) / 9 ∧
      (∀ size ∈ sizes, size ≤ 9 ∧ ∀ other ∈ sizes, size ≤ other + 1) ∧
      Seats plan.tournamentID sizes plan.seatAssignments) ∧
    ∀ minerID packed published removed republished, service.lockAndPack sum256 = .ok packed →
      packed.publishSeats = .ok published → published.forceRemoveBeforeStart minerID = .ok removed →
      removed.republishSeats sum256 = .ok republished →
      seatingOf (.ok republished) =
        seatingOf ({ service with entrants := service.entrants.eraseP (·.minerID = minerID) }.lockAndPack sum256) := by
  refine ⟨fun entrants perm => ?_,fun packed packs => ?_,?_⟩
  · have same : ({ service with entrants := entrants } : Service).activeEntrants = service.activeEntrants :=
      (sortField_eq_of_perm distinct.field (perm.symm.filter inField)).symm
    rw [lockAndPack_seating,lockAndPack_seating,same]
  · unfold Service.lockAndPack at packs
    split_ifs at packs
    cases packs
    have players : service.activeEntrants.length = (service.entrants.filter inField).length := List.length_insertionSort _ _
    obtain ⟨tables,fair⟩ := balancedTargetSizes_fair service.activeEntrants.length
    refine ⟨_,_,rfl,?_,?_,fair,assignSeats_seats sum256 _ _⟩
    · exact (assignSeats_named sum256 _ _).trans ((List.perm_insertionSort _ _).map named)
    · rw [tables,players]
      rfl
  · intro minerID packed published removed republished packs publishes removes republishes
    obtain ⟨kept,-,plans⟩ := publishSeats_plan publishes
    obtain ⟨found,same⟩ := forceRemoveBeforeStart_plan removes
    obtain ⟨plan,rest,held,done⟩ := republishSeats_plan sum256 republishes
    unfold Service.lockAndPack at packs
    split_ifs at packs with opened
    cases packs
    rw [not_not] at opened
    dsimp only at kept plans
    rw [same] at held
    dsimp only at held
    rw [plans] at held
    cases held
    have field : removed.activeEntrants =
        ({ service with entrants := service.entrants.eraseP (·.minerID = minerID) } : Service).activeEntrants := by
      rw [kept] at found
      rw [activeEntrants_eq,activeEntrants_eq,removeEntrant_field found]
    rw [lockAndPack_seating,if_pos opened,done,← field]
    rfl

end Plan

def threeMiners : Service where
  waveID := "w"
  waveState := some .registrationOpen
  entrants := [{ id := "1", minerID := "a" },{ id := "2", minerID := "b" },
    { id := "3", minerID := "c", registrationState := .removedBeforeStart }]

theorem seat_draw_threeMiners :
    seatingOf ({ threeMiners with entrants := threeMiners.entrants.reverse }.lockAndPack String.length) =
      seatingOf (threeMiners.lockAndPack String.length) :=
  (seat_draw String.length threeMiners (by simp [Distinct,threeMiners,named])).1 _ (List.reverse_perm _)

/-- The calls before the start. The rows of a call are written after its state, so that a refused write leaves the
state that a written one leaves. -/
inductive Prestart where
  | lockAndPack
  | publishSeats
  | forceRemoveBeforeStart (minerID : String)
  | republishSeats
  deriving DecidableEq, Repr

section Class
variable (sum256 : String → Nat)

def Service.prestart (service : Service) : Prestart → Except HubError Service
  | .lockAndPack => service.lockAndPack sum256
  | .publishSeats => service.publishSeats
  | .forceRemoveBeforeStart minerID => service.forceRemoveBeforeStart minerID
  | .republishSeats => service.republishSeats sum256

def prestartStep (service : Service) (command : Prestart) : Service :=
  match service.prestart sum256 command with
  | .ok after => after
  | .error _ => service

def Classified (service : Service) : Prop :=
  ∀ plan ∈ service.tournaments, (plan.ratedOrPractice,plan.noMultiplier) = classifyShard plan.entrantIDs.length

instance (service : Service) : Decidable (Classified service) :=
  inferInstanceAs (Decidable (∀ plan ∈ service.tournaments,
    (plan.ratedOrPractice,plan.noMultiplier) = classifyShard plan.entrantIDs.length))

def KeepsClass (service : Service) (command : Prestart) : Prop :=
  command = .republishSeats → service.waveState = some .seatsPublished → service.republishUsed = false →
    service.pendingRepublish = true → ∀ plan ∈ service.tournaments.head?,
      classifyShard service.activeEntrants.length = classifyShard plan.entrantIDs.length

variable {sum256} {start service after : Service}

theorem lockAndPack_plan (packs : service.lockAndPack sum256 = .ok after) : Classified after := by
  unfold Service.lockAndPack at packs
  split_ifs at packs
  cases packs
  intro plan inside
  cases List.mem_singleton.mp inside
  rw [List.length_map]
  rfl

theorem republishSeats_due (republishes : service.republishSeats sum256 = .ok after) :
    service.waveState = some .seatsPublished ∧ service.republishUsed = false ∧ service.pendingRepublish = true := by
  unfold Service.republishSeats at republishes
  split_ifs at republishes with closed used pending
  exact ⟨not_not.mp closed,Bool.not_eq_true _ ▸ used,Bool.not_eq_false _ ▸ pending⟩

theorem republishSeats_taken (sum256 : String → Nat) (published : service.waveState = some .seatsPublished) (unused : service.republishUsed = false)
    (pending : service.pendingRepublish = true) (plans : service.tournaments ≠ []) :
    ∃ after, service.republishSeats sum256 = .ok after := by
  unfold Service.republishSeats
  cases held : service.tournaments with
  | nil => exact absurd held plans
  | cons plan rest =>
    simp [published,unused,pending]

theorem classified_step (classified : Classified service) (command : Prestart) :
    Classified (prestartStep sum256 service command) ↔ KeepsClass service command := by
  unfold prestartStep
  cases command with
  | lockAndPack =>
    refine iff_of_true ?_ (fun other => by cases other)
    cases packs : service.prestart sum256 .lockAndPack with
    | error e => exact classified
    | ok after => exact lockAndPack_plan packs
  | publishSeats =>
    refine iff_of_true ?_ (fun other => by cases other)
    cases publishes : service.prestart sum256 .publishSeats with
    | error e => exact classified
    | ok after =>
      intro plan inside
      rw [(publishSeats_plan publishes).2.2] at inside
      obtain ⟨old,held,rfl⟩ := List.mem_map.mp inside
      exact classified old held
  | forceRemoveBeforeStart minerID =>
    refine iff_of_true ?_ (fun other => by cases other)
    cases removes : service.prestart sum256 (.forceRemoveBeforeStart minerID) with
    | error e => exact classified
    | ok after =>
      have same := (forceRemoveBeforeStart_plan removes).2
      unfold Classified
      rw [same]
      exact classified
  | republishSeats =>
    cases republishes : service.prestart sum256 .republishSeats with
    | error e =>
      refine iff_of_true classified fun _ published unused pending plan first => ?_
      obtain ⟨after,taken⟩ := republishSeats_taken sum256 published unused pending
        (fun none => by simp [none] at first)
      rw [Service.prestart,taken] at republishes
      cases republishes
    | ok after =>
      obtain ⟨published,unused,pending⟩ := republishSeats_due republishes
      obtain ⟨plan,rest,held,rfl⟩ := republishSeats_plan sum256 republishes
      have own := classified plan (held ▸ List.mem_cons_self)
      constructor
      · intro kept _ _ _ _ other first
        rw [held] at first
        cases first
        have now := kept _ List.mem_cons_self
        rw [List.length_map] at now
        exact now.symm.trans own
      · intro keeps other inside
        rcases List.mem_cons.mp inside with rfl | behind
        · have same := keeps rfl published unused pending plan (by rw [held]; rfl)
          rw [List.length_map,same]
          exact own
        · exact classified other (held ▸ List.mem_cons_of_mem _ behind)

/-- Along a run whose republications keep the class every plan is classified by its entrants. -/
theorem classification_follows (empty : start.tournaments = [])
    (run : Run (prestartStep sum256) KeepsClass start service) :
    Classified service ∧ ∀ command, Classified (prestartStep sum256 service command) ↔ KeepsClass service command := by
  have classified : Classified service :=
    run.invariant (fun plan inside => by simp [empty] at inside) fun state command before keeps =>
      (classified_step before command).mpr keeps
  exact ⟨classified,classified_step classified⟩

end Class

def thirtyThree : Service where
  waveID := "w"
  waveState := some .registrationOpen
  entrants := (List.range 33).map fun i => { id := toString i, minerID := toString i }

theorem classification_follows_thirtyThree :
    Classified (prestartStep String.length (prestartStep String.length thirtyThree .lockAndPack) .publishSeats) :=
  ((classification_follows rfl (.step .start .lockAndPack (fun other => by cases other))).2 .publishSeats).mpr
    (fun other => by cases other)

/-- A rated shard that republishes 32 entrants stays rated. -/
theorem republished_shard_stays_rated : ∃ hub,
    Run (prestartStep String.length) (fun _ _ => True) thirtyThree hub ∧ ¬ Classified hub :=
  ⟨_,(((Run.start.step .lockAndPack trivial).step .publishSeats trivial).step
    (.forceRemoveBeforeStart "7") trivial).step .republishSeats trivial,by decide +kernel⟩

end Clawchain.Arena.Hub
