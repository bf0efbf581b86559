import Clawchain.Arena.Hub.Service
import Clawchain.Lib.Groups
import Clawchain.Lib.Shares
import Mathlib.Algebra.BigOperators.Ring.Finset

/-! Transition plans keep the field and balance the tables: nobody is lost or
seated twice, the tables are as few and as even as they can be, and a plan
leaves nothing to plan. -/
namespace Clawchain.Arena.Hub
open Clawchain.Lib Clawchain.Lib.Groups

def tableIDs (assignments : List SeatAssignment) : List String := keysOf SeatAssignment.tableID assignments

def person (assignment : SeatAssignment) : String × String := (assignment.entrantID,assignment.minerID)

theorem balancedTargetSizes_perm (players tables : Nat) : (balancedTargetSizes players tables).Perm
    ((List.range tables).map fun i => players / tables + if i < players % tables then 1 else 0) :=
  List.perm_insertionSort _ _

@[simp] theorem length_balancedTargetSizes (players tables : Nat) :
    (balancedTargetSizes players tables).length = tables := by
  rw [(balancedTargetSizes_perm players tables).length_eq]
  simp

variable {tables : Nat} {assignments : List SeatAssignment}

theorem sum_balancedTargetSizes (players : Nat) (some_ : 0 < tables) :
    (balancedTargetSizes players tables).sum = players := by
  rw [(balancedTargetSizes_perm players tables).sum_eq]
  have whole := Shares.sum_share (players : Int) tables some_
  have same : ((((List.range tables).map fun i => players / tables + if i < players % tables then 1 else 0).sum : Nat) : Int) =
      ((List.range tables).map (Shares.share players tables)).sum := by
    rw [Nat.cast_list_sum,List.map_map]
    congr 1
    apply List.map_congr_left
    intro i _
    simp only [Function.comp_apply,Shares.share]
    push_cast
    congr 1
    norm_cast
  omega

theorem balancedTargetSizes_even {players size : Nat} (member : size ∈ balancedTargetSizes players tables) :
    players / tables ≤ size ∧ size ≤ players / tables + 1 ∧ (players ≤ seatsPerTable * tables → size ≤ seatsPerTable) := by
  obtain ⟨i,inside,rfl⟩ := List.mem_map.mp ((balancedTargetSizes_perm players tables).mem_iff.mp member)
  have some_ : 0 < tables := by
    have := List.mem_range.mp inside
    omega
  refine ⟨by omega,by split_ifs <;> omega,?_⟩
  intro room
  have quotient : players / tables ≤ seatsPerTable := Nat.div_le_of_le_mul (by rw [mul_comm]; exact room)
  split_ifs with odd
  · have rest := Nat.div_add_mod players tables
    have strict : players / tables < seatsPerTable := by
      rw [Nat.div_lt_iff_lt_mul some_]
      by_contra full
      have exact_ : players = seatsPerTable * tables := by omega
      rw [exact_,Nat.mul_mod_left] at odd
      omega
    omega
  · omega

def missing (table : KeptTable) : Nat := table.size - (table.seated.take table.size).length

def missingAll (tables : List KeptTable) : Nat := (tables.map missing).sum

def stayed (table : KeptTable) : List SeatAssignment := table.seated.take table.size

theorem fillTables_cons (table : KeptTable) (rest : List KeptTable) (pool : List SeatAssignment) :
    fillTables (table :: rest) pool =
      (table.tableID,stayed table ++ (pool.take (missing table)).map (moveTo table.tableID)) ::
        fillTables rest (pool.drop (missing table)) := rfl

theorem fillTables_sizes (tables : List KeptTable) {pool : List SeatAssignment}
    (enough : missingAll tables ≤ pool.length) :
    (fillTables tables pool).map (fun block => (block.1,block.2.length)) =
      tables.map fun table => (table.tableID,table.size) := by
  induction tables generalizing pool with
  | nil => rfl
  | cons table rest ih =>
    have total : missingAll (table :: rest) = missing table + missingAll rest := by simp [missingAll]
    have room : missingAll rest ≤ (pool.drop (missing table)).length := by
      rw [List.length_drop]
      omega
    have filled : (stayed table).length + min (missing table) pool.length = table.size := by
      have short : (stayed table).length ≤ table.size := List.length_take_le _ _
      rw [min_eq_left (by omega)]
      unfold missing
      unfold stayed at short ⊢
      omega
    rw [fillTables_cons,List.map_cons,List.map_cons,ih room]
    simp [filled]

theorem person_moveTo (tableID : String) (mover : SeatAssignment) : person (moveTo tableID mover) = person mover := rfl

theorem fillTables_persons (tables : List KeptTable) (pool : List SeatAssignment) :
    (((fillTables tables pool).flatMap Prod.snd).map person).Perm
      ((tables.flatMap stayed ++ pool.take (missingAll tables)).map person) := by
  induction tables generalizing pool with
  | nil => simp [fillTables,missingAll]
  | cons table rest ih =>
    have total : missingAll (table :: rest) = missing table + missingAll rest := by simp [missingAll]
    have moved : ((pool.take (missing table)).map (moveTo table.tableID)).map person =
        (pool.take (missing table)).map person := by
      rw [List.map_map]
      exact List.map_congr_left fun mover _ => person_moveTo _ mover
    have tail := ih (pool.drop (missing table))
    rw [fillTables_cons,List.flatMap_cons,List.flatMap_cons,total,List.take_add]
    simp only [List.map_append,moved] at tail ⊢
    rw [List.append_assoc,List.append_assoc]
    refine List.Perm.append_left _ ?_
    exact (tail.append_left _).trans (List.perm_append_comm_assoc _ _ _)

/-! The tables that stay and those that are broken. -/

section Kept
variable (assignments : List SeatAssignment) (targetTables : Nat)

def seatedAt (tableID : String) : List SeatAssignment := (tableGroup assignments tableID).insertionSort seatedBefore

def keep : List String := ((tablesBySize assignments).take targetTables).insertionSort (· ≤ ·)

theorem tablesBySize_perm : (tablesBySize assignments).Perm (tableIDs assignments) := List.perm_insertionSort _ _

theorem tablesBySize_nodup : (tablesBySize assignments).Nodup :=
  (tablesBySize_perm assignments).nodup_iff.mpr (keysOf_nodup _ _)

theorem keep_perm : (keep assignments targetTables).Perm ((tablesBySize assignments).take targetTables) :=
  List.perm_insertionSort _ _

theorem keep_nodup : (keep assignments targetTables).Nodup :=
  (keep_perm assignments targetTables).nodup_iff.mpr ((tablesBySize_nodup assignments).sublist (List.take_sublist _ _))

variable {assignments targetTables}

theorem length_keep (within : targetTables ≤ (tableIDs assignments).length) :
    (keep assignments targetTables).length = targetTables := by
  rw [(keep_perm assignments targetTables).length_eq,List.length_take,(tablesBySize_perm assignments).length_eq]
  omega

theorem keptTables_columns (within : targetTables ≤ (tableIDs assignments).length) :
    (keptTables assignments targetTables).map KeptTable.tableID = keep assignments targetTables ∧
      (keptTables assignments targetTables).map KeptTable.size = balancedTargetSizes assignments.length targetTables ∧
      (keptTables assignments targetTables).map KeptTable.seated =
        (keep assignments targetTables).map (seatedAt assignments) := by
  have same : (keep assignments targetTables).length = (balancedTargetSizes assignments.length targetTables).length := by
    rw [length_keep within,length_balancedTargetSizes]
  have listed : keptTables assignments targetTables = ((keep assignments targetTables).zip
      (balancedTargetSizes assignments.length targetTables)).map fun entry =>
        ⟨entry.1,entry.2,seatedAt assignments entry.1⟩ := rfl
  rw [listed,List.map_map,List.map_map,List.map_map]
  refine ⟨List.map_fst_zip same.le,List.map_snd_zip same.ge,?_⟩
  conv_rhs => rw [← List.map_fst_zip same.le,List.map_map]
  rfl

theorem stayed_surplus_perm (tables : List KeptTable) :
    (tables.flatMap stayed ++ tables.flatMap surplus).Perm (tables.flatMap KeptTable.seated) := by
  refine (List.flatMap_append_perm _ _ _).trans (List.Perm.flatMap_left _ fun table _ => ?_)
  unfold stayed surplus
  refine ((List.reverse_perm _).append_left _).trans ?_
  rw [List.take_append_drop]

theorem stayed_pool_perm (within : targetTables ≤ (tableIDs assignments).length) :
    ((keptTables assignments targetTables).flatMap stayed ++ moverPool assignments targetTables).Perm assignments := by
  have broken : (((tablesBySize assignments).drop targetTables).flatMap fun tableID =>
      (tableGroup assignments tableID).insertionSort movesBefore).Perm
        (((tablesBySize assignments).drop targetTables).flatMap (tableGroup assignments)) :=
    List.Perm.flatMap_left _ fun tableID _ => List.perm_insertionSort _ _
  have seated : ((keptTables assignments targetTables).flatMap KeptTable.seated).Perm
      (((tablesBySize assignments).take targetTables).flatMap (tableGroup assignments)) := by
    have columns := (keptTables_columns within).2.2
    rw [List.flatMap_def,columns,← List.flatMap_def]
    refine (List.Perm.flatMap_left _ fun tableID _ => List.perm_insertionSort _ _).trans ?_
    exact (keep_perm assignments targetTables).flatMap_right _
  have groups : ((tablesBySize assignments).flatMap (tableGroup assignments)).Perm assignments := by
    refine flatMap_group_perm SeatAssignment.tableID (tablesBySize_nodup assignments) ?_
    intro assignment inside
    rw [(tablesBySize_perm assignments).mem_iff]
    exact (mem_keysOf _).mpr ⟨assignment,inside,rfl⟩
  rw [← List.take_append_drop targetTables (tablesBySize assignments),List.flatMap_append] at groups
  refine ((List.perm_insertionSort _ _).append_left _).trans ?_
  refine (List.perm_append_comm_assoc _ _ _).trans ?_
  refine (broken.append ((stayed_surplus_perm _).trans seated)).trans ?_
  exact List.perm_append_comm.trans groups

theorem missing_pool (some_ : 0 < targetTables) (within : targetTables ≤ (tableIDs assignments).length) :
    missingAll (keptTables assignments targetTables) = (moverPool assignments targetTables).length := by
  have whole := (stayed_pool_perm within).length_eq
  have sizes : ((keptTables assignments targetTables).map KeptTable.size).sum = assignments.length := by
    rw [(keptTables_columns within).2.1,sum_balancedTargetSizes _ some_]
  have parts (tables : List KeptTable) :
      missingAll tables + (tables.flatMap stayed).length = (tables.map KeptTable.size).sum := by
    induction tables with
    | nil => rfl
    | cons table rest ih =>
      have short : (stayed table).length ≤ table.size := List.length_take_le _ _
      have own : missing table = table.size - (stayed table).length := rfl
      simp only [missingAll,List.map_cons,List.sum_cons,List.flatMap_cons,List.length_append] at ih ⊢
      omega
  have total := parts (keptTables assignments targetTables)
  rw [List.length_append] at whole
  omega

end Kept

theorem renumber_persons (tableID : String) (tableNo : Int) (seated : List SeatAssignment) :
    (renumber tableID tableNo seated).map person = seated.map person := by
  unfold renumber
  rw [List.map_map]
  conv_rhs => rw [← List.zipIdx_map_fst 0 seated,List.map_map]
  rfl

@[simp] theorem length_renumber (tableID : String) (tableNo : Int) (seated : List SeatAssignment) :
    (renumber tableID tableNo seated).length = seated.length := by simp [renumber]

theorem renumber_tableID {tableID : String} {tableNo : Int} {seated : List SeatAssignment} {assignment : SeatAssignment}
    (inside : assignment ∈ renumber tableID tableNo seated) : assignment.tableID = tableID := by
  obtain ⟨_,_,rfl⟩ := List.mem_map.mp inside
  rfl

theorem renumber_seatNos (tableID : String) (tableNo : Int) (seated : List SeatAssignment) :
    (renumber tableID tableNo seated).map SeatAssignment.seatNo =
      (List.range seated.length).map fun (idx : Nat) => (idx : Int) + 1 := by
  unfold renumber
  rw [List.map_map,List.range_eq_range',← List.zipIdx_map_snd 0 seated,List.map_map]
  rfl

/-- So many tables, none with more players than seats, as even as can be, with seats numbered from 1. -/
structure Balanced (tables : Nat) (assignments : List SeatAssignment) : Prop where
  count : (tableIDs assignments).length = tables
  bounded : ∀ tableID ∈ tableIDs assignments, (tableGroup assignments tableID).length ≤ seatsPerTable
  even : ∀ tableID ∈ tableIDs assignments, ∀ other ∈ tableIDs assignments,
    (tableGroup assignments tableID).length ≤ (tableGroup assignments other).length + 1
  seats : ∀ tableID ∈ tableIDs assignments, ((tableGroup assignments tableID).map SeatAssignment.seatNo).Perm
    ((List.range (tableGroup assignments tableID).length).map fun (idx : Nat) => (idx : Int) + 1)

theorem Balanced.perm {other : List SeatAssignment} (balanced : Balanced tables assignments)
    (same : assignments.Perm other) : Balanced tables other := by
  have ids : (tableIDs assignments).Perm (tableIDs other) := keysOf_perm _ same
  have groups (tableID : String) : (tableGroup assignments tableID).Perm (tableGroup other tableID) := group_perm _ same _
  have sizes (tableID : String) : (tableGroup other tableID).length = (tableGroup assignments tableID).length :=
    (groups tableID).length_eq.symm
  constructor
  · rw [← ids.length_eq]
    exact balanced.count
  · intro tableID member
    rw [sizes]
    exact balanced.bounded tableID (ids.mem_iff.mpr member)
  · intro tableID member another member'
    rw [sizes,sizes]
    exact balanced.even tableID (ids.mem_iff.mpr member) another (ids.mem_iff.mpr member')
  · intro tableID member
    rw [sizes]
    exact ((groups tableID).symm.map _).trans (balanced.seats tableID (ids.mem_iff.mpr member))

def planned (filled : String × List SeatAssignment) : String × List SeatAssignment :=
  (filled.1,renumber filled.1 (tableNoFromTableID filled.1) (filled.2.insertionSort seatedBefore))

theorem planned_balanced (filled : List (String × List SeatAssignment)) (base : Nat)
    (distinct : (filled.map Prod.fst).Nodup)
    (sizes : ∀ table ∈ filled, 0 < table.2.length ∧ base ≤ table.2.length ∧ table.2.length ≤ base + 1 ∧
      table.2.length ≤ seatsPerTable) :
    Balanced filled.length ((filled.map planned).flatMap Prod.snd) := by
  have firsts : (filled.map planned).map Prod.fst = filled.map Prod.fst := by
    rw [List.map_map]
    rfl
  have distinct' : ((filled.map planned).map Prod.fst).Nodup := firsts ▸ distinct
  have own : ∀ block ∈ filled.map planned, ∀ a ∈ block.2, a.tableID = block.1 := by
    intro block member a inside
    obtain ⟨table,_,rfl⟩ := List.mem_map.mp member
    exact renumber_tableID inside
  have length (table : String × List SeatAssignment) : (planned table).2.length = table.2.length := by
    simp [planned,List.length_insertionSort]
  have nonempty : ∀ block ∈ filled.map planned, block.2 ≠ [] := by
    intro block member empty
    obtain ⟨table,inside,rfl⟩ := List.mem_map.mp member
    have some_ := (sizes table inside).1
    rw [← length,empty] at some_
    cases some_
  have ids := keysOf_flatMap SeatAssignment.tableID _ distinct' own nonempty
  have found {tableID : String} (member : tableID ∈ tableIDs ((filled.map planned).flatMap Prod.snd)) :
      ∃ table ∈ filled, table.1 = tableID ∧
        tableGroup ((filled.map planned).flatMap Prod.snd) tableID = (planned table).2 := by
    have listed := ids.mem_iff.mp member
    rw [firsts] at listed
    obtain ⟨table,inside,rfl⟩ := List.mem_map.mp listed
    exact ⟨table,inside,rfl,group_flatMap SeatAssignment.tableID distinct' own (List.mem_map_of_mem inside)⟩
  constructor
  · rw [tableIDs,ids.length_eq]
    simp
  · intro tableID member
    obtain ⟨table,inside,_,same⟩ := found member
    rw [same,length]
    exact (sizes table inside).2.2.2
  · intro tableID member other member'
    obtain ⟨table,inside,_,same⟩ := found member
    obtain ⟨table',inside',_,same'⟩ := found member'
    have upper := (sizes table inside).2.2.1
    have lower := (sizes table' inside').2.1
    rw [same,same',length,length]
    omega
  · intro tableID member
    obtain ⟨table,inside,_,same⟩ := found member
    rw [same,length,planned,renumber_seatNos,List.length_insertionSort]

section Rebalance
variable {assignments : List SeatAssignment} {targetTables : Nat}

theorem rebalanceAssignments_perm (some_ : 0 < targetTables) (within : targetTables ≤ (tableIDs assignments).length) :
    (rebalanceAssignments assignments targetTables).Perm
      (((fillTables (keptTables assignments targetTables) (moverPool assignments targetTables)).map planned).flatMap
        Prod.snd) := by
  have tables : min targetTables (tablesBySize assignments).length = targetTables := by
    rw [(tablesBySize_perm assignments).length_eq]
    omega
  unfold rebalanceAssignments
  rw [if_neg (by omega)]
  simp only [tables]
  refine (List.perm_insertionSort _ _).trans ?_
  rw [List.flatMap_map]
  exact List.Perm.refl _

theorem planned_persons (filled : List (String × List SeatAssignment)) :
    (((filled.map planned).flatMap Prod.snd).map person).Perm ((filled.flatMap Prod.snd).map person) := by
  rw [List.flatMap_map,List.map_flatMap,List.map_flatMap]
  refine List.Perm.flatMap_left _ fun table _ => ?_
  rw [planned,renumber_persons]
  exact (List.perm_insertionSort _ _).map _

theorem rebalanceAssignments_persons (some_ : 0 < targetTables)
    (within : targetTables ≤ (tableIDs assignments).length) :
    ((rebalanceAssignments assignments targetTables).map person).Perm (assignments.map person) := by
  refine ((rebalanceAssignments_perm some_ within).map _).trans ?_
  refine (planned_persons _).trans ((fillTables_persons _ _).trans ?_)
  rw [missing_pool some_ within,List.take_length]
  exact (stayed_pool_perm within).map _

theorem fillTables_columns (some_ : 0 < targetTables) (within : targetTables ≤ (tableIDs assignments).length) :
    let filled := fillTables (keptTables assignments targetTables) (moverPool assignments targetTables)
    filled.map Prod.fst = keep assignments targetTables ∧
      filled.map (fun table => table.2.length) = balancedTargetSizes assignments.length targetTables := by
  have sizes := fillTables_sizes (keptTables assignments targetTables) (missing_pool some_ within).le
  obtain ⟨ids,counts,_⟩ := keptTables_columns within
  constructor
  · have firsts := congrArg (List.map Prod.fst) sizes
    rw [List.map_map,List.map_map] at firsts
    exact firsts.trans ids
  · have seconds := congrArg (List.map Prod.snd) sizes
    rw [List.map_map,List.map_map] at seconds
    exact seconds.trans counts

theorem rebalanceAssignments_balanced (some_ : 0 < targetTables)
    (within : targetTables ≤ (tableIDs assignments).length) (occupied : targetTables ≤ assignments.length)
    (room : assignments.length ≤ seatsPerTable * targetTables) :
    Balanced targetTables (rebalanceAssignments assignments targetTables) := by
  refine Balanced.perm ?_ (rebalanceAssignments_perm some_ within).symm
  obtain ⟨ids,counts⟩ := fillTables_columns some_ within
  set filled := fillTables (keptTables assignments targetTables) (moverPool assignments targetTables) with filling
  have length : filled.length = targetTables := by
    rw [← length_balancedTargetSizes assignments.length targetTables,← counts,List.length_map]
  have balanced := planned_balanced filled (assignments.length / targetTables)
    (by rw [ids]; exact keep_nodup assignments targetTables) ?_
  · rwa [length] at balanced
  · intro table inside
    have member : table.2.length ∈ balancedTargetSizes assignments.length targetTables :=
      counts ▸ List.mem_map_of_mem inside
    obtain ⟨lower,upper,bounded⟩ := balancedTargetSizes_even member
    have positive : 0 < assignments.length / targetTables := Nat.div_pos occupied some_
    exact ⟨by omega,lower,upper,bounded room⟩

end Rebalance

theorem reseatAssignments_persons (tableID : String) (tableNo : Int) (assignments : List SeatAssignment) :
    ((reseatAssignments tableID tableNo assignments).map person).Perm (assignments.map person) := by
  unfold reseatAssignments
  rw [renumber_persons]
  exact (List.perm_insertionSort _ _).map _

theorem reseatAssignments_balanced (tableID : String) (tableNo : Int) (some_ : assignments ≠ [])
    (room : assignments.length ≤ seatsPerTable) :
    Balanced 1 (reseatAssignments tableID tableNo assignments) := by
  set seated := reseatAssignments tableID tableNo assignments with seating
  have length : seated.length = assignments.length := by
    simp [seating,reseatAssignments,List.length_insertionSort]
  have own : ∀ a ∈ seated, a.tableID = tableID := fun a inside => renumber_tableID inside
  have positive : 0 < assignments.length := List.length_pos_iff.mpr some_
  have nonempty : seated ≠ [] := by
    intro empty
    rw [empty] at length
    simp at length
    omega
  have ids := keysOf_flatMap SeatAssignment.tableID [(tableID,seated)] (by simp)
    (by simpa using own) (by simpa using nonempty)
  have group_ : tableGroup seated tableID = seated := List.filter_eq_self.mpr fun a inside => by simpa using own a inside
  have only {other : String} (member : other ∈ tableIDs seated) : other = tableID := by
    have listed := ids.mem_iff.mp (by simpa [tableIDs] using member)
    simpa using listed
  constructor
  · have count := ids.length_eq
    simpa [tableIDs] using count
  · intro other member
    rw [only member,group_,length]
    exact room
  · intro other member another member'
    rw [only member,only member']
    omega
  · intro other member
    rw [only member,group_,length]
    have numbers := renumber_seatNos tableID tableNo (assignments.insertionSort seatedBefore)
    rw [List.length_insertionSort] at numbers
    exact List.Perm.of_eq numbers

theorem foldl_max_mem {α : Type} [LinearOrder α] (first : α) (rest : List α) : rest.foldl max first ∈ first :: rest ∧
    ∀ x ∈ first :: rest, x ≤ rest.foldl max first := by
  induction rest generalizing first with
  | nil => simp
  | cons second rest ih =>
    obtain ⟨member,above⟩ := ih (max first second)
    rw [List.foldl_cons]
    constructor
    · rcases List.mem_cons.mp member with same | inside
      · rw [same]
        rcases max_choice first second with left | right
        · simp [left]
        · simp [right]
      · simp [inside]
    · intro x inside
      have top := above _ List.mem_cons_self
      simp only [List.mem_cons] at inside
      rcases inside with rfl | rfl | later
      · exact (le_max_left _ _).trans top
      · exact (le_max_right _ _).trans top
      · exact above x (List.mem_cons_of_mem _ later)

theorem foldl_min_mem {α : Type} [LinearOrder α] (first : α) (rest : List α) : rest.foldl min first ∈ first :: rest ∧
    ∀ x ∈ first :: rest, rest.foldl min first ≤ x := foldl_max_mem (α := αᵒᵈ) first rest

theorem needsRebalance_iff (tables : List LiveTable) : needsRebalance tables = false ↔
    ∀ a ∈ tables, ∀ b ∈ tables, a.playerCount ≤ b.playerCount + 1 := by
  have counts : (∀ a ∈ tables, ∀ b ∈ tables, a.playerCount ≤ b.playerCount + 1) ↔
      ∀ x ∈ tables.map LiveTable.playerCount, ∀ y ∈ tables.map LiveTable.playerCount, x ≤ y + 1 := by
    simp
  rw [counts]
  unfold needsRebalance
  split
  · rename_i first second rest listed
    obtain ⟨topMember,above⟩ := foldl_max_mem first (second :: rest)
    obtain ⟨bottomMember,below⟩ := foldl_min_mem first (second :: rest)
    rw [listed,decide_eq_false_iff_not]
    constructor
    · intro even x member y member'
      have high := above x member
      have low := below y member'
      omega
    · intro even
      have bound := even _ topMember _ bottomMember
      omega
  · rename_i few
    simp only [true_iff]
    cases shape : tables.map LiveTable.playerCount with
    | nil => simp
    | cons first rest =>
      cases rest with
      | nil => simp
      | cons second rest => exact absurd shape (few first second rest)

structure Describes (service : Service) (assignments : List SeatAssignment) : Prop where
  current : service.currentAssignments.Perm assignments
  playersRemaining : service.playersRemaining = assignments.length
  liveTables : service.liveTables.Perm ((tableIDs assignments).map fun tableID =>
    ⟨tableID,(tableGroup assignments tableID).length⟩)

section Decision
variable {service : Service} {assignments : List SeatAssignment}

theorem Describes.tableCount (describes : Describes service assignments) :
    service.liveTables.length = (tableIDs assignments).length := by
  rw [describes.liveTables.length_eq,List.length_map]

theorem decision_none_iff (describes : Describes service assignments) : service.nextBarrierDecision = .none ↔
    (tableIDs assignments).length = 0 ∨
      ¬(assignments.length ≤ seatsPerTable ∧ 1 < (tableIDs assignments).length) ∧
      (tableIDs assignments).length ≤ targetTableCount assignments.length ∧
      ∀ tableID ∈ tableIDs assignments, ∀ other ∈ tableIDs assignments,
        (tableGroup assignments tableID).length ≤ (tableGroup assignments other).length + 1 := by
  have even : needsRebalance service.liveTables = false ↔ ∀ tableID ∈ tableIDs assignments,
      ∀ other ∈ tableIDs assignments,
        (tableGroup assignments tableID).length ≤ (tableGroup assignments other).length + 1 := by
    rw [needsRebalance_iff]
    simp only [describes.liveTables.mem_iff,List.mem_map,forall_exists_index,and_imp,forall_apply_eq_imp_iff₂]
  rw [← even,← describes.tableCount,← describes.playersRemaining]
  unfold Service.nextBarrierDecision
  simp only
  split_ifs with none_ final broken uneven
  · simp [none_]
  · simp only [false_iff]
    omega
  · simp only [false_iff]
    omega
  · simp [none_,uneven]
  · simp only [true_iff]
    exact .inr ⟨final,by omega,by simpa using uneven⟩

theorem Describes.perm {other : List SeatAssignment} (describes : Describes service assignments)
    (same : assignments.Perm other) : Describes service other := by
  refine ⟨describes.current.trans same,describes.playersRemaining.trans same.length_eq,describes.liveTables.trans ?_⟩
  have counts : (fun tableID => LiveTable.mk tableID (tableGroup assignments tableID).length) =
      fun tableID => LiveTable.mk tableID (tableGroup other tableID).length := by
    funext tableID
    have size : (tableGroup assignments tableID).length = (tableGroup other tableID).length :=
      (group_perm SeatAssignment.tableID same tableID).length_eq
    rw [size]
  rw [counts]
  exact (keysOf_perm _ same).map _

theorem tableIDs_nil_iff : (tableIDs assignments).length = 0 ↔ assignments = [] := by
  rw [List.length_eq_zero_iff]
  constructor
  · intro none_
    cases assignments with
    | nil => rfl
    | cons assignment rest =>
      have member : assignment.tableID ∈ tableIDs (assignment :: rest) :=
        (mem_keysOf _).mpr ⟨assignment,List.mem_cons_self,rfl⟩
      rw [none_] at member
      cases member
  · rintro rfl
    rfl

theorem Balanced.decision_none (balanced : Balanced (max 1 (targetTableCount assignments.length)) assignments)
    (describes : Describes service assignments) : service.nextBarrierDecision = .none := by
  rw [decision_none_iff describes]
  have count := balanced.count
  by_cases empty : assignments = []
  · exact .inl (tableIDs_nil_iff.mpr empty)
  · have some_ : 0 < assignments.length := List.length_pos_iff.mpr empty
    have target : targetTableCount assignments.length = (assignments.length + 8) / 9 := rfl
    refine .inr ⟨?_,by omega,balanced.even⟩
    unfold seatsPerTable
    omega

theorem targetTableCount_within (seated : ∀ tableID, (tableGroup assignments tableID).length ≤ seatsPerTable) :
    targetTableCount assignments.length ≤ (tableIDs assignments).length := by
  have groups : ((tableIDs assignments).flatMap (tableGroup assignments)).Perm assignments :=
    flatMap_group_perm SeatAssignment.tableID (keysOf_nodup _ _) fun assignment inside =>
      (mem_keysOf _).mpr ⟨assignment,inside,rfl⟩
  have bound (ids : List String) :
      (ids.flatMap (tableGroup assignments)).length ≤ ids.length * seatsPerTable := by
    induction ids with
    | nil => simp
    | cons tableID rest ih =>
      have own := seated tableID
      rw [List.flatMap_cons,List.length_append,List.length_cons,Nat.succ_mul]
      omega
  have total := bound (tableIDs assignments)
  rw [groups.length_eq] at total
  unfold targetTableCount seatsPerTable at *
  omega

end Decision

theorem tableGroup_length {other : List SeatAssignment} (same : assignments.Perm other) (tableID : String) :
    (tableGroup assignments tableID).length = (tableGroup other tableID).length :=
  (group_perm SeatAssignment.tableID same tableID).length_eq

theorem buildTransitionPlan_cases {service : Service} (own : Describes service service.currentAssignments)
    (seated : ∀ tableID, (tableGroup service.currentAssignments tableID).length ≤ seatsPerTable) :
    service.buildTransitionPlan.decision = .none ∧
        service.buildTransitionPlan.seatAssignments = service.currentAssignments ∨
      service.buildTransitionPlan.decision ≠ .none ∧
        (service.buildTransitionPlan.seatAssignments.map person).Perm (service.currentAssignments.map person) ∧
        Balanced (max 1 (targetTableCount service.currentAssignments.length))
          service.buildTransitionPlan.seatAssignments ∧
        (service.buildTransitionPlan.decision = .finalTable →
          ∀ assignment ∈ service.buildTransitionPlan.seatAssignments,
            assignment.tableID = Model.tableID service.tournamentID 1) := by
  have players := own.playersRemaining
  have tables := own.tableCount
  have within := targetTableCount_within seated
  have target : targetTableCount service.currentAssignments.length = (service.currentAssignments.length + 8) / 9 := rfl
  by_cases idle : service.nextBarrierDecision = .none
  · refine .inl ⟨idle,?_⟩
    simp only [Service.buildTransitionPlan,idle,ite_self]
  have some_ : service.currentAssignments ≠ [] := by
    intro empty
    exact idle ((decision_none_iff own).mpr (.inl (tableIDs_nil_iff.mpr empty)))
  have positive : 0 < service.currentAssignments.length := List.length_pos_iff.mpr some_
  refine .inr ⟨idle,?_⟩
  have rebalanced (shape : service.buildTransitionPlan.seatAssignments =
      rebalanceAssignments service.currentAssignments (targetTableCount service.currentAssignments.length)) :
      (service.buildTransitionPlan.seatAssignments.map person).Perm (service.currentAssignments.map person) ∧
      Balanced (max 1 (targetTableCount service.currentAssignments.length))
        service.buildTransitionPlan.seatAssignments := by
    rw [shape,max_eq_right (by omega)]
    refine ⟨rebalanceAssignments_persons (by omega) within,
      rebalanceAssignments_balanced (by omega) within (by omega) ?_⟩
    unfold seatsPerTable
    omega
  cases decision : service.nextBarrierDecision with
  | none => exact absurd decision idle
  | finalTable =>
    have few : service.currentAssignments.length ≤ 9 := by
      unfold Service.nextBarrierDecision at decision
      simp only at decision
      split_ifs at decision with _ few
      rw [← players]
      exact few.1
    have shape : service.buildTransitionPlan.seatAssignments =
        reseatAssignments (Model.tableID service.tournamentID 1) 1 service.currentAssignments := by
      simp only [Service.buildTransitionPlan,decision,if_neg some_]
    rw [shape,max_eq_left (by omega)]
    exact ⟨reseatAssignments_persons _ _ _,reseatAssignments_balanced _ _ some_ few,
      fun _ assignment inside => renumber_tableID inside⟩
  | breakTable =>
    obtain ⟨persons,balanced⟩ := rebalanced (by
      simp only [Service.buildTransitionPlan,decision,if_neg some_,players])
    exact ⟨persons,balanced,fun final => absurd (decision.symm.trans final) (by decide)⟩
  | rebalance =>
    obtain ⟨persons,balanced⟩ := rebalanced (by
      simp only [Service.buildTransitionPlan,decision,if_neg some_,players])
    exact ⟨persons,balanced,fun final => absurd (decision.symm.trans final) (by decide)⟩

/-- A transition plan keeps the field. Unless there is nothing to do it seats it at as few tables as can hold
it, evenly and from the first seat on, the final table at table 1; and it leaves nothing to do. -/
theorem transition_plan_balances (service : Service) (assignments : List SeatAssignment)
    (describes : Describes service assignments)
    (seated : ∀ tableID, (tableGroup assignments tableID).length ≤ seatsPerTable) :
    (service.buildTransitionPlan.seatAssignments.map person).Perm (assignments.map person) ∧
    (service.buildTransitionPlan.decision ≠ .none →
      Balanced (max 1 ((assignments.length + 8) / 9)) service.buildTransitionPlan.seatAssignments ∧
      (service.buildTransitionPlan.decision = .finalTable → ∀ assignment ∈ service.buildTransitionPlan.seatAssignments,
        assignment.tableID = Model.tableID service.tournamentID 1)) ∧
    ∀ next, Describes next service.buildTransitionPlan.seatAssignments →
      next.buildTransitionPlan.decision = .none := by
  have current := describes.current
  have own := describes.perm current.symm
  have seatedNow (tableID : String) : (tableGroup service.currentAssignments tableID).length ≤ seatsPerTable := by
    rw [tableGroup_length current]
    exact seated tableID
  have target : (assignments.length + 8) / 9 = targetTableCount service.currentAssignments.length := by
    rw [current.length_eq]
    rfl
  rw [target]
  rcases buildTransitionPlan_cases own seatedNow with ⟨idle,same⟩ | ⟨moved,persons,balanced,final⟩
  · rw [same]
    refine ⟨current.map _,fun moved => absurd idle moved,fun next describes' => ?_⟩
    exact (decision_none_iff describes').mpr ((decision_none_iff own).mp idle)
  · refine ⟨persons.trans (current.map _),fun _ => ⟨balanced,final⟩,fun next describes' => ?_⟩
    have length : service.buildTransitionPlan.seatAssignments.length = service.currentAssignments.length := by
      simpa using persons.length_eq
    rw [← length] at balanced
    exact balanced.decision_none describes'

def threeLeft : List SeatAssignment :=
  [⟨"e1","m1","tbl:tour:w1:01:01",1,4⟩,⟨"e2","m2","tbl:tour:w1:01:02",2,1⟩,⟨"e3","m3","tbl:tour:w1:01:02",2,7⟩]

def threeLeftHub : Service where
  tournamentID := "tour:w1:01"
  tournaments := [{ tournamentID := "tour:w1:01", seatAssignments := threeLeft }]
  playersRemaining := 3
  liveTables := [⟨"tbl:tour:w1:01:01",1⟩,⟨"tbl:tour:w1:01:02",2⟩]

theorem transition_plan_balances_threeLeft : threeLeftHub.buildTransitionPlan.decision = .finalTable ∧
    Balanced 1 threeLeftHub.buildTransitionPlan.seatAssignments := by
  have decision : threeLeftHub.buildTransitionPlan.decision = .finalTable := by decide +kernel
  have describes : Describes threeLeftHub threeLeft :=
    ⟨List.Perm.of_eq (by decide +kernel),rfl,List.Perm.of_eq (by decide +kernel)⟩
  have seated (tableID : String) : (tableGroup threeLeft tableID).length ≤ seatsPerTable :=
    (List.length_filter_le _ _).trans (by decide)
  have plan := (transition_plan_balances threeLeftHub threeLeft describes seated).2.1
  exact ⟨decision,(plan (by rw [decision]; decide)).1⟩

end Clawchain.Arena.Hub
