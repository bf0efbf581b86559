import Clawchain.Lib.Texts
import Mathlib.Tactic.Basic

/-! Which texts are times in the layout `2006-01-02T15:04:05Z07:00`. The hour may
have one digit, a fraction of a second is accepted though the layout has none,
and an offset may reach 24 hours and 60 minutes. -/
namespace Clawchain.Lib.Rfc3339

def digit? (c : Char) : Option Nat := if '0' ≤ c ∧ c ≤ '9' then some (c.toNat - 48) else none

/-- A number of two digits, or of one where the field is not fixed. -/
def getnum (fixed : Bool) : List Char → Option (Nat × List Char)
  | [] => none
  | a :: rest => (digit? a).bind fun tens => match rest with
    | [] => if fixed then none else some (tens,[])
    | b :: more => match digit? b with
      | some ones => some (10 * tens + ones,more)
      | none => if fixed then none else some (tens,b :: more)

def getyear : List Char → Option (Nat × List Char)
  | a :: b :: c :: d :: rest => do
    let century ← (getnum true [a,b])
    let year ← (getnum true [c,d])
    return (100 * century.1 + year.1,rest)
  | _ => none

def skip (c : Char) : List Char → Option (List Char)
  | [] => none
  | a :: rest => if a = c then some rest else none

def isLeap (year : Nat) : Bool := year % 4 == 0 && (year % 100 != 0 || year % 400 == 0)

def daysIn (month year : Nat) : Nat :=
  if month = 2 then if isLeap year then 29 else 28
  else if month = 4 ∨ month = 6 ∨ month = 9 ∨ month = 11 then 30
  else 31

def skipFraction : List Char → List Char
  | mark :: first :: rest =>
    if (mark = '.' ∨ mark = ',') ∧ (digit? first).isSome then rest.dropWhile fun c => (digit? c).isSome
    else mark :: first :: rest
  | rest => rest

def isZone : List Char → Bool
  | ['Z'] => true
  | [sign,h,h',colon,m,m'] =>
    (sign == '+' || sign == '-') && colon == ':' &&
      ((getnum true [h,h']).any fun hours => hours.1 ≤ 24) && (getnum true [m,m']).any fun minutes => minutes.1 ≤ 60
  | _ => false

def parses (value : String) : Bool :=
  Option.getD (do
    let (year,rest) ← getyear value.toList
    let (month,rest) ← getnum true (← skip '-' rest)
    let (day,rest) ← getnum true (← skip '-' rest)
    let (hour,rest) ← getnum false (← skip 'T' rest)
    let (minute,rest) ← getnum true (← skip ':' rest)
    let (second,rest) ← getnum true (← skip ':' rest)
    return decide (1 ≤ month ∧ month ≤ 12 ∧ 1 ≤ day ∧ day ≤ daysIn month year ∧ hour < 24 ∧ minute < 60 ∧ second < 60) &&
      isZone (skipFraction rest)) false

example : parses "2026-02-28T9:04:05.25+08:00" = true := by decide +kernel

example : parses "2026-02-29T09:04:05Z" = false := by decide +kernel

end Clawchain.Lib.Rfc3339
