import Clawchain.Arena.Hub.Transition

/-! Where a draw seats its entrants: at tables numbered from 1. -/
namespace Clawchain.Arena.Hub
open Clawchain.Lib Clawchain.Lib.Groups

theorem tableID_injective {tournamentID : String} {n m : Nat}
    (same : Model.tableID tournamentID n = Model.tableID tournamentID m) : n = m := by
  have trailing (k : Nat) : Format.trailingInt (Model.tableID tournamentID k) = k :=
    Format.trailingInt_padInt _ 2 (Int.natCast_nonneg k)
  have numbers := congrArg Format.trailingInt same
  rw [trailing,trailing] at numbers
  exact Int.ofNat_inj.mp numbers

section Tables
variable {tournamentID : String} {assignment : SeatAssignment}

theorem seatTable_seat {tableNo : Nat} {entrants : List Entrant}
    (inside : assignment ∈ seatTable tournamentID tableNo entrants) :
    assignment.tableID = Model.tableID tournamentID tableNo ∧ 1 ≤ assignment.seatNo := by
  obtain ⟨⟨entrant,idx⟩,_,rfl⟩ := List.mem_map.mp inside
  exact ⟨rfl,by change (1 : Int) ≤ (idx : Int) + 1; omega⟩

theorem seatTables_seat {sizes : List Nat} {tableNo : Nat} {draw : List Entrant}
    (inside : assignment ∈ seatTables tournamentID tableNo sizes draw) :
    ∃ n : Nat, tableNo ≤ n ∧ assignment.tableID = Model.tableID tournamentID n ∧ 1 ≤ assignment.seatNo := by
  induction sizes generalizing tableNo draw with
  | nil => cases inside
  | cons size rest ih =>
    rcases List.mem_append.mp inside with here | later
    · exact ⟨tableNo,le_refl _,seatTable_seat here⟩
    · obtain ⟨n,above,own⟩ := ih later
      exact ⟨n,by omega,own⟩

end Tables

section Draw
variable {sum256 : String → Nat} {tournamentID : String} {entrants : List Entrant} {assignment : SeatAssignment}

theorem targetTableCount_pos {players : Nat} (some_ : 0 < players) : 0 < targetTableCount players := by
  unfold targetTableCount seatsPerTable
  omega

theorem length_shuffledEntrants (sum256 : String → Nat) (tournamentID : String) (entrants : List Entrant) :
    (shuffledEntrants sum256 tournamentID entrants).length = entrants.length := List.length_insertionSort _ _

end Draw

end Clawchain.Arena.Hub
