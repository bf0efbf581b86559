import Clawchain.Lib.Format
import Clawchain.Lib.Rfc3339
import Mathlib.Data.Nat.Find
import Mathlib.Data.List.Induction

/-! The Gregorian calendar. Days are counted from the first of January of the year 1, which is day 1, and times are seconds from
the beginning of 1970. The texts of days and of times of universal time sort as the days and the times do. -/
namespace Clawchain.Lib.Calendar
open Clawchain.Lib.Format Clawchain.Lib.Rfc3339

def daysBeforeYear (year : Nat) : Nat := (year - 1) * 365 + (year - 1) / 4 - (year - 1) / 100 + (year - 1) / 400

def daysBeforeMonth (year : Nat) : Nat → Nat
  | 0 => 0
  | month + 1 => daysBeforeMonth year month + if month = 0 then 0 else daysIn month year

structure Date where
  (year month day : Nat)
  yearFrom : 1 ≤ year
  monthFrom : 1 ≤ month
  monthTo : month ≤ 12
  dayFrom : 1 ≤ day
  dayTo : day ≤ daysIn month year
  deriving DecidableEq, Repr

/-- `toordinal` -/
def Date.ordinal (date : Date) : Nat := daysBeforeYear date.year + daysBeforeMonth date.year date.month + date.day

variable {first second : Date} {width n year number m : Nat}

theorem isLeap_iff : isLeap year = true ↔ 4 ∣ year ∧ (¬100 ∣ year ∨ 400 ∣ year) := by
  simp [isLeap,Nat.dvd_iff_mod_eq_zero]

theorem daysBeforeYear_succ (positive : 1 ≤ year) :
    daysBeforeYear (year + 1) = daysBeforeYear year + if isLeap year then 366 else 365 := by
  obtain ⟨before,rfl⟩ := Nat.exists_eq_add_of_le' positive
  have less : before / 100 ≤ before / 4 := Nat.div_le_div_left (by decide) (by decide)
  simp only [daysBeforeYear,Nat.add_sub_cancel,Nat.succ_div,isLeap_iff]
  by_cases century : 100 ∣ before + 1
  · have four : 4 ∣ before + 1 := Dvd.dvd.trans (by decide) century
    by_cases fourth : 400 ∣ before + 1
    · rw [if_pos four,if_pos century,if_pos fourth,if_pos ⟨four,.inr fourth⟩]
      omega
    · rw [if_pos four,if_pos century,if_neg fourth,if_neg (by tauto)]
      omega
  · have fourth : ¬400 ∣ before + 1 := fun divides => century (Dvd.dvd.trans (by decide) divides)
    by_cases four : 4 ∣ before + 1
    · rw [if_pos four,if_neg century,if_neg fourth,if_pos ⟨four,.inl century⟩]
      omega
    · rw [if_neg four,if_neg century,if_neg fourth,if_neg (by tauto)]
      omega

theorem daysBeforeMonth_succ (year : Nat) {month : Nat} (positive : 1 ≤ month) :
    daysBeforeMonth year (month + 1) = daysBeforeMonth year month + daysIn month year := by
  simp [daysBeforeMonth,Nat.ne_of_gt positive]

theorem daysBeforeMonth_thirteen (year : Nat) : daysBeforeMonth year 13 = if isLeap year then 366 else 365 := by
  by_cases leap : isLeap year = true
  · simp [daysBeforeMonth,daysIn,leap]
  · simp [daysBeforeMonth,daysIn,leap]

theorem daysBeforeYear_mono {first second : Nat} (le : first ≤ second) : daysBeforeYear first ≤ daysBeforeYear second := by
  have step (year : Nat) : daysBeforeYear year ≤ daysBeforeYear (year + 1) := by
    unfold daysBeforeYear
    omega
  exact monotone_nat_of_le_succ step le

theorem daysBeforeMonth_mono (year : Nat) {first second : Nat} (le : first ≤ second) :
    daysBeforeMonth year first ≤ daysBeforeMonth year second :=
  monotone_nat_of_le_succ (fun month => Nat.le_add_right (daysBeforeMonth year month) _) le

theorem Date.ordinal_le (date : Date) : date.ordinal ≤ daysBeforeYear (date.year + 1) := by
  have month := daysBeforeMonth_mono date.year (show date.month + 1 ≤ 13 from Nat.succ_le_succ date.monthTo)
  rw [daysBeforeMonth_succ _ date.monthFrom,daysBeforeMonth_thirteen] at month
  rw [daysBeforeYear_succ date.yearFrom,Date.ordinal]
  have day := date.dayTo
  omega

theorem Date.lt_ordinal (date : Date) : daysBeforeYear date.year + daysBeforeMonth date.year date.month < date.ordinal := by
  have day := date.dayFrom
  unfold Date.ordinal
  omega

theorem Date.ordinal_lt (earlier : first.year < second.year ∨ first.year = second.year ∧
      (first.month < second.month ∨ first.month = second.month ∧ first.day < second.day)) :
    first.ordinal < second.ordinal := by
  have bound := second.lt_ordinal
  rcases earlier with year | ⟨year,month | ⟨month,day⟩⟩
  · calc first.ordinal ≤ daysBeforeYear (first.year + 1) := first.ordinal_le
      _ ≤ daysBeforeYear second.year := daysBeforeYear_mono year
      _ < second.ordinal := by omega
  · have months := daysBeforeMonth_mono second.year (show first.month + 1 ≤ second.month from month)
    have day := first.dayTo
    rw [year] at day
    rw [daysBeforeMonth_succ _ first.monthFrom] at months
    rw [Date.ordinal,year]
    omega
  · rw [Date.ordinal,Date.ordinal,year,month]
    omega

theorem Date.ordinal_lt_iff : first.ordinal < second.ordinal ↔
    first.year < second.year ∨ first.year = second.year ∧
      (first.month < second.month ∨ first.month = second.month ∧ first.day < second.day) := by
  refine ⟨fun less => ?_,Date.ordinal_lt⟩
  by_contra other
  have back : second.year < first.year ∨ second.year = first.year ∧
      (second.month < first.month ∨ second.month = first.month ∧ second.day < first.day) ∨
      (second.year = first.year ∧ second.month = first.month ∧ second.day = first.day) := by
    omega
  rcases back with year | ⟨year,rest⟩ | ⟨year,month,day⟩
  · exact absurd (Date.ordinal_lt (.inl year)) (by omega)
  · exact absurd (Date.ordinal_lt (.inr ⟨year,rest⟩)) (by omega)
  · rw [Date.ordinal,Date.ordinal,year,month,day] at less
    omega

def yearOf (number : Nat) : Nat := Nat.findGreatest (fun year => daysBeforeYear year < number) (number / 365 + 1)

def monthOf (year left : Nat) : Nat := Nat.findGreatest (fun month => daysBeforeMonth year month < left) 12

theorem yearOf_spec (positive : 1 ≤ number) : 1 ≤ yearOf number ∧ daysBeforeYear (yearOf number) < number ∧
    number ≤ daysBeforeYear (yearOf number + 1) := by
  have first : daysBeforeYear 1 < number := by simpa [daysBeforeYear,Nat.lt_iff_add_one_le] using positive
  have later : 1 ≤ yearOf number := Nat.le_findGreatest (by omega) first
  refine ⟨later,Nat.findGreatest_of_ne_zero (P := fun year => daysBeforeYear year < number) rfl (by omega),?_⟩
  by_cases bound : yearOf number + 1 ≤ number / 365 + 1
  · exact not_lt.mp (Nat.findGreatest_is_greatest (P := fun year => daysBeforeYear year < number) (Nat.lt_succ_self _) bound)
  · unfold daysBeforeYear
    omega

theorem monthOf_spec {left : Nat} (positive : 1 ≤ left) (inside : left ≤ daysBeforeMonth year 13) :
    1 ≤ monthOf year left ∧ monthOf year left ≤ 12 ∧ daysBeforeMonth year (monthOf year left) < left ∧
      left ≤ daysBeforeMonth year (monthOf year left + 1) := by
  have first : daysBeforeMonth year 1 < left := by simpa [daysBeforeMonth,Nat.lt_iff_add_one_le] using positive
  have later : 1 ≤ monthOf year left := Nat.le_findGreatest (by omega) first
  have bound : monthOf year left ≤ 12 := Nat.findGreatest_le 12
  refine ⟨later,bound,
    Nat.findGreatest_of_ne_zero (P := fun month => daysBeforeMonth year month < left) rfl (by omega),?_⟩
  by_cases last : monthOf year left = 12
  · rw [last]
    exact inside
  · exact not_lt.mp (Nat.findGreatest_is_greatest (P := fun month => daysBeforeMonth year month < left)
      (Nat.lt_succ_self _) (by omega))

theorem left_spec (positive : 1 ≤ number) : 1 ≤ number - daysBeforeYear (yearOf number) ∧
    number - daysBeforeYear (yearOf number) ≤ daysBeforeMonth (yearOf number) 13 := by
  obtain ⟨later,after,before⟩ := yearOf_spec positive
  rw [daysBeforeYear_succ later,← daysBeforeMonth_thirteen] at before
  omega

/-- `fromordinal` -/
def Date.ofOrdinal (number : Nat) (positive : 1 ≤ number) : Date :=
  let left := number - daysBeforeYear (yearOf number)
  have months := monthOf_spec (left_spec positive).1 (left_spec positive).2
  { year := yearOf number
    month := monthOf (yearOf number) left
    day := left - daysBeforeMonth (yearOf number) (monthOf (yearOf number) left)
    yearFrom := (yearOf_spec positive).1
    monthFrom := months.1
    monthTo := months.2.1
    dayFrom := Nat.le_sub_of_add_le' months.2.2.1
    dayTo := by
      rw [Nat.sub_le_iff_le_add',← daysBeforeMonth_succ _ months.1]
      exact months.2.2.2 }

@[simp] theorem Date.ordinal_ofOrdinal (positive : 1 ≤ number) :
    (Date.ofOrdinal number positive).ordinal = number := by
  have months := monthOf_spec (left_spec positive).1 (left_spec positive).2
  simp only [Date.ordinal,Date.ofOrdinal]
  omega

theorem Date.ordinal_injective (same : first.ordinal = second.ordinal) : first = second := by
  have before := mt Date.ordinal_lt_iff.mpr (Nat.not_lt.mpr (Nat.le_of_eq same.symm))
  have after := mt Date.ordinal_lt_iff.mpr (Nat.not_lt.mpr (Nat.le_of_eq same))
  obtain ⟨year,month,day⟩ : first.year = second.year ∧ first.month = second.month ∧ first.day = second.day := by omega
  cases first
  cases second
  simp_all

theorem append_lt {as bs xs ys : List Char} (length : as.length = bs.length) :
    as ++ xs < bs ++ ys ↔ as < bs ∨ as = bs ∧ xs < ys := by
  induction as generalizing bs with
  | nil => simp [List.eq_nil_of_length_eq_zero length.symm]
  | cons a as ih =>
    cases bs with
    | nil => cases length
    | cons b bs =>
      rw [List.cons_append,List.cons_append,List.cons_lt_cons_iff,List.cons_lt_cons_iff,ih (Nat.succ.inj length),List.cons.injEq]
      tauto

theorem ofDigitChars_lt {as bs : List Char} (length : as.length = bs.length) (left : as.all Char.isDigit)
    (right : bs.all Char.isDigit) (x y : Nat) :
    Nat.ofDigitChars 10 as x < Nat.ofDigitChars 10 bs y ↔ x < y ∨ x = y ∧ as < bs := by
  induction as generalizing bs x y with
  | nil => simp [List.eq_nil_of_length_eq_zero length.symm,Nat.ofDigitChars_nil]
  | cons a as ih =>
    cases bs with
    | nil => cases length
    | cons b bs =>
      rw [List.all_cons,Bool.and_eq_true] at left right
      have digit {c : Char} (isDigit : c.isDigit = true) : 48 ≤ c.toNat ∧ c.toNat ≤ 57 := by
        simp only [Char.isDigit,Bool.and_eq_true,decide_eq_true_eq] at isDigit
        exact isDigit
      have small := digit left.1
      have small' := digit right.1
      have order : a < b ↔ a.toNat < b.toNat := Iff.rfl
      have same : a = b ↔ a.toNat = b.toNat := Char.toNat_inj.symm
      have zero : '0'.toNat = 48 := rfl
      rw [Nat.ofDigitChars_cons,Nat.ofDigitChars_cons,ih (Nat.succ.inj length) left.2 right.2,List.cons_lt_cons_iff,order,same,zero]
      by_cases rest : as < bs
      · simp only [rest,and_true]
        omega
      · simp only [rest,and_false,or_false]
        omega

theorem length_padded (positive : 0 < width) (fits : n < 10 ^ width) : (padded width n).length = width := by
  have digits := (Nat.length_toDigits_le_iff (by decide) positive).mpr fits
  simp [padded,digits]

theorem padded_lt (positive : 0 < width) (fits : n < 10 ^ width) (fits' : m < 10 ^ width) :
    padded width n < padded width m ↔ n < m := by
  have compared := ofDigitChars_lt ((length_padded positive fits).trans (length_padded positive fits').symm)
    (padded_digits width n) (padded_digits width m) 0 0
  rw [ofDigitChars_padded,ofDigitChars_padded] at compared
  simpa using compared.symm

theorem padded_inj : padded width n = padded width m ↔ n = m := by
  refine ⟨fun same => ?_,fun same => same ▸ rfl⟩
  rw [← ofDigitChars_padded width n,same,ofDigitChars_padded]

theorem field_lt (positive : 0 < width) (fits : n < 10 ^ width) (fits' : m < 10 ^ width) (mark : Char)
    (xs ys : List Char) : padded width n ++ mark :: xs < padded width m ++ mark :: ys ↔ n < m ∨ n = m ∧ xs < ys := by
  rw [append_lt ((length_padded positive fits).trans (length_padded positive fits').symm),padded_lt positive fits fits',padded_inj,
    List.cons_lt_cons_self]

def Date.chars (date : Date) : List Char :=
  padded 4 date.year ++ '-' :: (padded 2 date.month ++ '-' :: padded 2 date.day)

theorem Date.day_le (date : Date) : date.day ≤ 31 := by
  have day := date.dayTo
  unfold daysIn at day
  split_ifs at day <;> omega

theorem Date.length_chars {date : Date} (within : date.year ≤ 9999) : date.chars.length = 10 := by
  have month := date.monthTo
  have day := date.day_le
  simp [Date.chars,length_padded (show 0 < 4 by decide) (show date.year < 10 ^ 4 by omega),
    length_padded (show 0 < 2 by decide) (show date.month < 10 ^ 2 by omega),
    length_padded (show 0 < 2 by decide) (show date.day < 10 ^ 2 by omega)]

theorem Date.chars_lt (within : first.year ≤ 9999) (within' : second.year ≤ 9999) :
    first.chars < second.chars ↔ first.ordinal < second.ordinal := by
  have month := first.monthTo
  have month' := second.monthTo
  have day := first.day_le
  have day' := second.day_le
  rw [Date.ordinal_lt_iff,Date.chars,Date.chars,field_lt (by decide) (by omega) (by omega),
    field_lt (by decide) (by omega) (by omega),padded_lt (by decide) (by omega) (by omega)]

/-! Times, in the years that a text can tell. -/

def earliest : Int := -62135596800

def latest : Int := 253402300800

@[ext]
structure Moment where
  seconds : Int
  earliest_le : earliest ≤ seconds
  lt_latest : seconds < latest
  deriving DecidableEq

/-- 1970 begins with day 719163. -/
def dayOf (seconds : Int) : Int := seconds / 86400 + 719163

def clockChars (clock : Nat) : List Char :=
  padded 2 (clock / 3600) ++ ':' :: (padded 2 (clock / 60 % 60) ++ ':' :: padded 2 (clock % 60))

namespace Moment

theorem dayOf_pos (moment : Moment) : 1 ≤ (dayOf moment.seconds).toNat := by
  have bound := moment.earliest_le
  unfold earliest at bound
  unfold dayOf
  omega

def date (moment : Moment) : Date := Date.ofOrdinal (dayOf moment.seconds).toNat moment.dayOf_pos

def clock (moment : Moment) : Nat := (moment.seconds % 86400).toNat

def chars (moment : Moment) : List Char := moment.date.chars ++ 'T' :: (clockChars moment.clock ++ ['Z'])

/-- `astimezone(timezone.utc).replace(microsecond=0).isoformat().replace("+00:00", "Z")` -/
def isoformatZ (moment : Moment) : String := String.ofList moment.chars

theorem ordinal_date (moment : Moment) : (moment.date.ordinal : Int) = dayOf moment.seconds := by
  rw [date,Date.ordinal_ofOrdinal,Int.toNat_of_nonneg]
  have positive := moment.dayOf_pos
  omega

theorem year_le (moment : Moment) : moment.date.year ≤ 9999 := by
  by_contra later
  have bound := moment.lt_latest
  have number := moment.ordinal_date
  have before := moment.date.lt_ordinal
  have years : daysBeforeYear 10000 ≤ daysBeforeYear moment.date.year := daysBeforeYear_mono (by omega)
  have all_ : 3652059 ≤ daysBeforeYear 10000 := by
    unfold daysBeforeYear
    omega
  unfold latest at bound
  unfold dayOf at number
  omega

end Moment

theorem clockChars_lt {first second : Nat} (within : first < 86400) (within' : second < 86400) :
    clockChars first < clockChars second ↔ first < second := by
  rw [clockChars,clockChars,field_lt (by decide) (by omega) (by omega),field_lt (by decide) (by omega) (by omega),
    padded_lt (by decide) (by omega) (by omega)]
  omega

theorem length_clockChars {clock : Nat} (within : clock < 86400) : (clockChars clock).length = 8 := by
  simp [clockChars,length_padded (show 0 < 2 by decide) (show clock / 3600 < 10 ^ 2 by omega),
    length_padded (show 0 < 2 by decide) (show clock / 60 % 60 < 10 ^ 2 by omega),
    length_padded (show 0 < 2 by decide) (show clock % 60 < 10 ^ 2 by omega)]

namespace Moment

theorem isoformatZ_lt {first second : Moment} : first.isoformatZ < second.isoformatZ ↔ first.seconds < second.seconds := by
  have small : first.clock < 86400 := by unfold clock; omega
  have small' : second.clock < 86400 := by unfold clock; omega
  have number := first.ordinal_date
  have number' := second.ordinal_date
  have sameDay : first.date.chars = second.date.chars ↔ first.date.ordinal = second.date.ordinal := by
    have forth := Date.chars_lt first.year_le second.year_le
    have back := Date.chars_lt second.year_le first.year_le
    constructor
    · intro same
      rw [same] at forth back
      have not_ := lt_irrefl second.date.chars
      have before := mt forth.mpr not_
      have after := mt back.mpr not_
      omega
    · intro same
      rw [Date.ordinal_injective same]
  rw [isoformatZ,isoformatZ,String.lt_iff_toList_lt,String.toList_ofList,String.toList_ofList,chars,chars,
    append_lt ((Date.length_chars first.year_le).trans (Date.length_chars second.year_le).symm),
    Date.chars_lt first.year_le second.year_le,sameDay,List.cons_lt_cons_self,
    append_lt ((length_clockChars small).trans (length_clockChars small').symm),clockChars_lt small small']
  simp only [lt_irrefl,and_false,or_false]
  unfold dayOf at number number'
  unfold clock
  omega

theorem isoformatZ_injective {first second : Moment} (same : first.isoformatZ = second.isoformatZ) :
    first.seconds = second.seconds := by
  have before : ¬first.seconds < second.seconds := by
    rw [← isoformatZ_lt,same]
    exact lt_irrefl _
  have after : ¬second.seconds < first.seconds := by
    rw [← isoformatZ_lt,same]
    exact lt_irrefl _
  omega

end Moment

end Clawchain.Lib.Calendar
