import Clawchain.Lib.Calendar

/-! Times as Python reads them from a text: a day, and after any separating character the time of the day and how far it is from
universal time. A fraction of a second has three or six digits. What is written for a time is read back as it. -/
namespace Clawchain.Lib.PyTime
open Clawchain.Lib.Calendar Clawchain.Lib.Format Clawchain.Lib.Rfc3339

def number (width : Nat) (chars : List Char) : Option (Nat × List Char) :=
  if (chars.take width).length = width ∧ (chars.take width).all Char.isDigit then
    some (Nat.ofDigitChars 10 (chars.take width) 0,chars.drop width)
  else none

def dateOf (year month day : Nat) : Option Date :=
  if valid : 1 ≤ year ∧ 1 ≤ month ∧ month ≤ 12 ∧ 1 ≤ day ∧ day ≤ daysIn month year then
    some ⟨year,month,day,valid.1,valid.2.1,valid.2.2.1,valid.2.2.2.1,valid.2.2.2.2⟩
  else none

def readDate (chars : List Char) : Option (Date × List Char) := do
  let (year,rest) ← number 4 chars
  let (month,rest) ← number 2 (← skip '-' rest)
  let (day,rest) ← number 2 (← skip '-' rest)
  let date ← dateOf year month day
  return (date,rest)

structure Clock where
  hour : Nat
  minute : Nat := 0
  second : Nat := 0
  microsecond : Nat := 0
  deriving DecidableEq, Repr

def Clock.microseconds (clock : Clock) : Nat := ((clock.hour * 60 + clock.minute) * 60 + clock.second) * 1000000 + clock.microsecond

def readFraction : List Char → Option Nat
  | [] => some 0
  | point :: digits =>
    if point = '.' ∧ digits.all Char.isDigit then
      if digits.length = 6 then some (Nat.ofDigitChars 10 digits 0)
      else if digits.length = 3 then some (Nat.ofDigitChars 10 digits 0 * 1000)
      else none
    else none

/-- Minutes, seconds and a fraction may be missing. -/
def readClock (chars : List Char) : Option Clock := do
  let (hour,rest) ← number 2 chars
  if rest = [] then return { hour := hour }
  let (minute,rest) ← number 2 (← skip ':' rest)
  if rest = [] then return { hour := hour, minute := minute }
  let (second,rest) ← number 2 (← skip ':' rest)
  let microsecond ← readFraction rest
  return { hour := hour, minute := minute, second := second, microsecond := microsecond }

/-- Microseconds ahead of universal time, none inside when the text says nothing of it. An offset is shorter than a day. -/
def readOffset : List Char → Option (Option Int)
  | [] => some none
  | sign :: chars =>
    if chars.length = 5 ∨ chars.length = 8 ∨ chars.length = 15 then
      (readClock chars).bind fun clock =>
        if clock.microseconds < 86400000000 then
          some (some (if sign = '-' then -(clock.microseconds : Int) else clock.microseconds))
        else none
    else none

/-- What a text says: a day, the microseconds since it began, and the offset. -/
structure Stamp where
  date : Date
  clock : Nat
  offset : Option Int
  deriving DecidableEq, Repr

def isSign (c : Char) : Bool := c = '+' || c = '-'

def readTime (date : Date) (chars : List Char) : Option Stamp := do
  let clock ← readClock (chars.takeWhile fun c => !isSign c)
  let offset ← readOffset (chars.dropWhile fun c => !isSign c)
  if clock.hour < 24 ∧ clock.minute < 60 ∧ clock.second < 60 then return ⟨date,clock.microseconds,offset⟩ else none

/-- `datetime.fromisoformat` -/
def fromISOFormat (chars : List Char) : Option Stamp :=
  (readDate chars).bind fun (date,rest) =>
    match rest with
    | [] => some ⟨date,0,none⟩
    | _ :: time => readTime date time

def replaceZ (chars : List Char) : List Char := chars.flatMap fun c => if c = 'Z' then "+00:00".toList else [c]

/-- `datetime.fromisoformat(value.replace("Z", "+00:00"))` -/
def parse (text : String) : Option Stamp := fromISOFormat (replaceZ text.toList)

/-- Microseconds since the beginning of 1970. A text that says no offset is taken for the time of the place, which is
`offsetAt` ahead of universal time. -/
def Stamp.instant (offsetAt : Int → Int) (stamp : Stamp) : Int :=
  let local_ : Int := (stamp.date.ordinal - 719163 : Int) * 86400000000 + stamp.clock
  local_ - stamp.offset.getD (offsetAt local_)

example : ((parse "2026-03-01T00:30:00.5+01:00").map (Stamp.instant 0),(parse "2026-03-01T00:30:00.500+01:00").map (Stamp.instant 0),
    (parse "2026-02-28T23:30Z").map (Stamp.instant 0)) = (none,some 1772321400500000,some 1772321400000000) := by decide +kernel

/-! A text begins with the day that it says. -/

theorem number_padded {width n : Nat} (positive : 0 < width) (fits : n < 10 ^ width) (rest : List Char) :
    number width (padded width n ++ rest) = some (n,rest) := by
  have length := length_padded positive fits
  simp only [number,List.take_left' length,List.drop_left' length,length,padded_digits,ofDigitChars_padded,and_self,if_true]

@[simp] theorem skip_cons (mark : Char) (rest : List Char) : skip mark (mark :: rest) = some rest := if_pos rfl

theorem dateOf_date (date : Date) : dateOf date.year date.month date.day = some date :=
  dif_pos ⟨date.yearFrom,date.monthFrom,date.monthTo,date.dayFrom,date.dayTo⟩

theorem readDate_date {date : Date} (within : date.year ≤ 9999) (rest : List Char) :
    readDate (date.chars ++ rest) = some (date,rest) := by
  have month := date.monthTo
  have day := date.day_le
  simp only [readDate,Date.chars,List.append_assoc,List.cons_append,bind,pure,Option.bind_some,skip_cons,dateOf_date,
    number_padded (show 0 < 4 by decide) (show date.year < 10 ^ 4 by omega),
    number_padded (show 0 < 2 by decide) (show date.month < 10 ^ 2 by omega),
    number_padded (show 0 < 2 by decide) (show date.day < 10 ^ 2 by omega)]

theorem dateChars_plain (date : Date) : ∀ c ∈ date.chars, c ≠ '+' ∧ c ≠ 'Z' := by
  have digits (width n : Nat) : ∀ c ∈ padded width n, c ≠ '+' ∧ c ≠ 'Z' := by
    intro c inside
    have digit := List.all_eq_true.mp (padded_digits width n) c inside
    constructor <;> (rintro rfl; cases digit)
  simp only [Date.chars,List.mem_append,List.mem_cons]
  rintro c (year | rfl | month | rfl | day)
  · exact digits 4 _ c year
  · decide
  · exact digits 2 _ c month
  · decide
  · exact digits 2 _ c day

variable {chars : List Char}

theorem replaceZ_plain (plain : ∀ c ∈ chars, c ≠ 'Z') : replaceZ chars = chars := by
  induction chars with
  | nil => rfl
  | cons c chars ih =>
    have rest := ih fun c inside => plain c (List.mem_cons_of_mem _ inside)
    unfold replaceZ at rest ⊢
    rw [List.flatMap_cons,if_neg (plain c List.mem_cons_self),rest,List.singleton_append]

theorem readClock_clockChars {clock : Nat} (within : clock < 86400) :
    readClock (clockChars clock) = some ⟨clock / 3600,clock / 60 % 60,clock % 60,0⟩ := by
  have rest : padded 2 (clock % 60) = padded 2 (clock % 60) ++ [] := (List.append_nil _).symm
  simp only [readClock,clockChars,bind,pure,Option.bind_some,skip_cons,
    number_padded (show 0 < 2 by decide) (show clock / 3600 < 10 ^ 2 by omega),
    number_padded (show 0 < 2 by decide) (show clock / 60 % 60 < 10 ^ 2 by omega),
    show number 2 (padded 2 (clock % 60)) = some (clock % 60,[]) by
      rw [rest,number_padded (by decide) (by omega)]]
  rfl

theorem clockChars_plain (clock : Nat) : ∀ c ∈ clockChars clock, isSign c = false ∧ c ≠ 'Z' := by
  have digits (n : Nat) : ∀ c ∈ padded 2 n, isSign c = false ∧ c ≠ 'Z' := by
    intro c inside
    have digit := List.all_eq_true.mp (padded_digits 2 n) c inside
    constructor
    · by_contra sign
      simp only [isSign,Bool.not_eq_false,Bool.or_eq_true,decide_eq_true_eq] at sign
      rcases sign with rfl | rfl <;> cases digit
    · rintro rfl
      cases digit
  simp only [clockChars,List.mem_append,List.mem_cons]
  rintro c (hour | rfl | minute | rfl | second)
  · exact digits _ c hour
  · decide
  · exact digits _ c minute
  · decide
  · exact digits _ c second

theorem parse_isoformatZ (moment : Moment) :
    parse moment.isoformatZ = some ⟨moment.date,moment.clock * 1000000,some 0⟩ := by
  have small : moment.clock < 86400 := by
    unfold Moment.clock
    omega
  have zoned : replaceZ moment.chars = moment.date.chars ++ 'T' :: (clockChars moment.clock ++ "+00:00".toList) := by
    have plain : ∀ c ∈ moment.date.chars ++ 'T' :: clockChars moment.clock, c ≠ 'Z' := by
      simp only [List.mem_append,List.mem_cons]
      rintro c (date | rfl | clock)
      · exact (dateChars_plain _ c date).2
      · decide
      · exact (clockChars_plain _ c clock).2
    have same := replaceZ_plain plain
    unfold replaceZ at same ⊢
    rw [Moment.chars,← List.cons_append,← List.append_assoc,List.flatMap_append,same]
    simp
  have before : (clockChars moment.clock ++ "+00:00".toList).takeWhile (fun c => !isSign c) = clockChars moment.clock := by
    rw [List.takeWhile_append_of_pos fun c inside => by simp [(clockChars_plain _ c inside).1]]
    simp [isSign]
  have after : (clockChars moment.clock ++ "+00:00".toList).dropWhile (fun c => !isSign c) = "+00:00".toList := by
    rw [List.dropWhile_append_of_pos fun c inside => by simp [(clockChars_plain _ c inside).1]]
    simp [isSign]
  have zero : readOffset "+00:00".toList = some (some 0) := by decide
  have valid : moment.clock / 3600 < 24 ∧ moment.clock / 60 % 60 < 60 ∧ moment.clock % 60 < 60 := by omega
  have whole : ((moment.clock / 3600 * 60 + moment.clock / 60 % 60) * 60 + moment.clock % 60) * 1000000 = moment.clock * 1000000 := by
    omega
  rw [parse,Moment.isoformatZ,String.toList_ofList,zoned,fromISOFormat,readDate_date moment.year_le]
  simp only [Option.bind_some,readTime,before,after,readClock_clockChars small,zero,bind,pure,if_pos valid,Clock.microseconds,
    Nat.add_zero,whole]

theorem instant_isoformatZ (offsetAt : Int → Int) (moment : Moment) :
    (parse moment.isoformatZ).map (Stamp.instant offsetAt) = some (moment.seconds * 1000000) := by
  have number := moment.ordinal_date
  rw [parse_isoformatZ,Option.map_some,Stamp.instant,number,dayOf,Moment.clock]
  simp only [Option.getD_some,Option.some.injEq]
  omega

end Clawchain.Lib.PyTime
