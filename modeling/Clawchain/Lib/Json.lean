import Clawchain.Lib.Fallible
import Clawchain.Lib.PyText
import Clawchain.Lib.PyTime
import Clawchain.Lib.Sorting
import Mathlib.Data.Prod.Lex
import Mathlib.Data.List.Lex
import Mathlib.Logic.Equiv.List

/-! Documents as Python's dictionaries, lists and scalars, their canonical form, and the order in which they are sorted by some of
their fields. -/
namespace Clawchain.Lib

/-- A decimal number: its digits times a power of ten. A zero has a sign. -/
@[ext]
structure Decimal where
  negative : Bool
  digits : Nat
  exponent : Int
  deriving DecidableEq, Repr

def Decimal.value (d : Decimal) : ℚ := (if d.negative then -1 else 1) * d.digits * 10 ^ d.exponent

/-- Half a unit is rounded away from zero, and 28 digits are the most that there may be. -/
def Decimal.fixed6 (d : Decimal) : Except String String :=
  let shift := d.exponent + 6
  let unit := 10 ^ shift.natAbs
  let millionths := if 0 ≤ shift then d.digits * unit else (2 * d.digits + unit) / (2 * unit)
  if 10 ^ 28 ≤ millionths then .error "quantize result has too many digits for current context"
  else .ok ((if d.negative then "-" else "") ++ toString (millionths / 1000000) ++ "." ++ Format.pad 6 (millionths % 1000000))

/-- A finite float is the decimal that it prints as. -/
inductive Json where
  | null
  | bool (value : Bool)
  | int (value : Int)
  | float (value : Decimal)
  | nonFinite (printed : String)
  | text (value : String)
  | datetime (moment : Calendar.Moment)
  | array (items : List Json)
  | object (fields : List (String × Json))

namespace Json

/-- `dict.get` -/
def field (key : String) : Json → Json
  | object fields => ((fields.find? fun entry => entry.1 = key).map Prod.snd).getD null
  | _ => null

/-- `document[key] = value` -/
def set (document : Json) (key : String) (value : Json) : Json :=
  match document with
  | object fields =>
    if fields.any fun entry => entry.1 = key then
      object (fields.map fun entry => if entry.1 = key then (key,value) else entry)
    else object (fields ++ [(key,value)])
  | other => other

/-- `document[key] = value`, where there is a value -/
def setSome (document : Json) (key : String) (value : Json) : Json :=
  match value with
  | null => document
  | value => document.set key value

def truth : Json → Bool
  | null => false
  | bool value => value
  | int value => value ≠ 0
  | float value => value.digits ≠ 0
  | nonFinite _ => true
  | text value => value ≠ ""
  | datetime _ => true
  | array items => !items.isEmpty
  | object fields => !fields.isEmpty

/-- `a or b` -/
def or (a b : Json) : Json := if a.truth then a else b

/-- Which texts are taken for times: those with a `T` after the day, and an offset at the end. -/
def isZoned (text : String) : Bool :=
  let chars := text.toList
  let zone := chars.drop (chars.length - 6)
  (chars.drop 10).head? = some 'T' && (chars.getLast? = some 'Z' || zone.head?.any PyTime.isSign)

/-- A time is written in universal time. The years of the calendar end before some times with an offset. -/
def canonicalizeString (value : String) : Except String String :=
  if isZoned value then
    match PyTime.parse value with
    | none => .ok value
    | some stamp =>
      let seconds := stamp.instant 0 / 1000000
      if within : Calendar.earliest ≤ seconds ∧ seconds < Calendar.latest then
        .ok (Calendar.Moment.isoformatZ ⟨seconds,within.1,within.2⟩)
      else .error "date value out of range"
  else .ok value

def byName {α : Type} (fields : List (String × α)) : List (String × α) := fields.insertionSort fun a b => a.1 ≤ b.1

def collect (fields : List (String × Except String Json)) : Except String (List (String × Json)) :=
  fields.mapM fun entry => entry.2.map fun value => (entry.1,value)

mutual

/-- Times become texts, and the fields of a dictionary are gone through in the order of their names. -/
def canonicalize : Json → Except String Json
  | datetime moment => .ok (text moment.isoformatZ)
  | text value => (canonicalizeString value).map text
  | nonFinite _ => .error "non-finite floats are not canonical"
  | array items => ((canonicalizeItems items).mapM id).map array
  | object fields => (collect (byName (canonicalizeFields fields))).map object
  | value => .ok value

def canonicalizeItems : List Json → List (Except String Json)
  | [] => []
  | item :: items => canonicalize item :: canonicalizeItems items

def canonicalizeFields : List (String × Json) → List (String × Except String Json)
  | [] => []
  | (key,value) :: fields => (key,canonicalize value) :: canonicalizeFields fields

end

section Hashes
variable (digest : Json → String)

/-- What `digest` is of the canonical form. -/
def canonicalHash (payload : Json) : Except String String := (canonicalize payload).map digest

def hashSequence (items : List Json) : Except String String := canonicalHash digest (object [("items",array items)])

end Hashes

/-- The kind of a value, and its place among those of its kind. -/
abbrev Rank := Nat ×ₗ ℚ ×ₗ String

def rank : Json → Rank
  | null => toLex (0,toLex (0,""))
  | bool value => toLex (1,toLex (if value then 1 else 0,""))
  | int value => toLex (1,toLex ((value : ℚ),""))
  | float value => toLex (1,toLex (value.value,""))
  | text value => toLex (2,toLex (0,value))
  | _ => toLex (3,toLex (0,""))

/-- Numbers are compared with numbers and texts with texts, at the first place where two keys differ. -/
def comparable : List Rank → List Rank → Bool
  | a :: as,b :: bs => if a = b then (ofLex a).1 ≠ 3 && comparable as bs else (ofLex a).1 = (ofLex b).1 && 0 < (ofLex a).1
  | _,_ => true

def sortKey (keys : List String) (row : Json) : List Rank := keys.map fun key => (row.field key).rank

/-- `rows.sort(key=lambda row: tuple(row.get(key) for key in sort_keys))`, where there are keys -/
def sortRows (keys : List String) (rows : List Json) : Except String (List Json) :=
  if keys = [] then .ok rows
  else if rows.Pairwise fun a b => comparable (sortKey keys a) (sortKey keys b) then
    .ok (Sorting.sortBy (fun a b => sortKey keys a < sortKey keys b) rows)
  else .error "'<' not supported between instances"

def rowsRoot (digest : Json → String) (rows : List Json) (sortKeys : List String) : Except String String := do
  let normalizedRows ← rows.mapM canonicalize
  hashSequence digest (← sortRows sortKeys normalizedRows)

/-- `Decimal` of a text. -/
def readDecimal (value : String) : Option Decimal :=
  let chars := (PyText.strip value).toList.filter (· ≠ '_')
  let body := if chars.head?.any PyTime.isSign then chars.tail else chars
  let mantissa := body.takeWhile fun c => c ≠ 'e' && c ≠ 'E'
  let power := (body.dropWhile fun c => c ≠ 'e' && c ≠ 'E').tail
  let exponent := if mantissa.length = body.length then some 0 else Format.atoi power
  let whole := mantissa.takeWhile (· ≠ '.')
  let fraction := (mantissa.dropWhile (· ≠ '.')).tail
  if whole ++ fraction ≠ [] ∧ (whole ++ fraction).all Char.isDigit then
    exponent.map fun exponent => ⟨chars.head? = some '-',Nat.ofDigitChars 10 (whole ++ fraction) 0,exponent - fraction.length⟩
  else none

def fixedDecimal : Json → Except String String
  | int value => Decimal.fixed6 ⟨value < 0,value.natAbs,0⟩
  | float value => value.fixed6
  | text value => ((readDecimal value).map Decimal.fixed6).getD (.error "conversion syntax")
  | nonFinite printed => if printed = "nan" then .ok "NaN" else .error "quantize with one INF"
  | _ => .error "conversion syntax"

example : (fixedDecimal (float ⟨false,5,-7⟩)).toOption = some "0.000001" ∧
    (fixedDecimal (text "-12.5")).toOption = some "-12.500000" := by decide +kernel

/-- `int` -/
def toInt : Json → Except String Int
  | bool value => .ok (if value then 1 else 0)
  | int value => .ok value
  | float value =>
    let whole : Nat := if 0 ≤ value.exponent then value.digits * 10 ^ value.exponent.natAbs else value.digits / 10 ^ value.exponent.natAbs
    .ok (if value.negative then -(whole : Int) else whole)
  | text value => ((PyText.int value).map .ok).getD (.error "invalid literal for int()")
  | nonFinite _ => .error "cannot convert float to integer"
  | _ => .error "int() argument must be a string or a number"

theorem canonicalizeFields_eq (fields : List (String × Json)) :
    canonicalizeFields fields = fields.map fun entry => (entry.1,canonicalize entry.2) := by
  induction fields with
  | nil => rfl
  | cons entry fields ih => rw [canonicalizeFields,ih,List.map_cons]

theorem collect_ok {fields : List (String × Except String Json)} :
    (∃ done, collect fields = .ok done) ↔ ∀ entry ∈ fields, ∃ value, entry.2 = .ok value := by
  unfold collect
  rw [Fallible.mapM_ok]
  refine forall₂_congr fun entry _ => ?_
  cases entry.2 with
  | error e => simp [Except.map]
  | ok value => simp [Except.map]

theorem collect_names {fields : List (String × Except String Json)} {done : List (String × Json)} (collected : collect fields = .ok done) :
    done.map Prod.fst = fields.map Prod.fst := by
  have each := Fallible.forall₂_of_mapM collected
  clear collected
  induction each with
  | nil => rfl
  | @cons entry _ _ _ here _ ih =>
    cases made : entry.2 with
    | error e =>
      rw [made] at here
      cases here
    | ok value =>
      rw [made] at here
      rw [List.map_cons,List.map_cons,ih,← Except.ok.inj here]

variable {fields : List (String × Json)} {value : String}

theorem canonicalize_object_ok :
    (∃ done, canonicalize (object fields) = .ok done) ↔ ∀ entry ∈ fields, ∃ value, canonicalize entry.2 = .ok value := by
  have each : (∃ done, collect (byName (canonicalizeFields fields)) = .ok done) ↔
      ∀ entry ∈ fields, ∃ value, canonicalize entry.2 = .ok value := by
    have members (entry : String × Except String Json) :
        entry ∈ byName (canonicalizeFields fields) ↔ entry ∈ canonicalizeFields fields :=
      (List.perm_insertionSort _ _).mem_iff
    rw [collect_ok]
    simp only [members]
    rw [canonicalizeFields_eq,List.forall_mem_map]
  rw [← each,canonicalize]
  cases collect (byName (canonicalizeFields fields)) with
  | error e => simp [Except.map]
  | ok done => simp [Except.map]

theorem field_eq (distinct : (fields.map Prod.fst).Nodup) {key : String} {value : Json} (inside : (key,value) ∈ fields)
    : (object fields).field key = value := by
  induction fields with
  | nil => cases inside
  | cons entry fields ih =>
    rw [List.map_cons,List.nodup_cons] at distinct
    rcases List.mem_cons.mp inside with rfl | later
    · simp [field]
    · have apart : entry.1 ≠ key := fun same => distinct.1 (same ▸ List.mem_map.mpr ⟨_,later,rfl⟩)
      have rest := ih distinct.2 later
      simp only [field] at rest
      simpa [field,apart] using rest

theorem field_canonicalize {done : Json} (distinct : (fields.map Prod.fst).Nodup)
    (canonical : canonicalize (object fields) = .ok done) {key : String} {value : Json} (inside : (key,value) ∈ fields) :
    canonicalize value = .ok (done.field key) := by
  rw [canonicalize] at canonical
  cases collected : collect (byName (canonicalizeFields fields)) with
  | error e =>
    rw [collected] at canonical
    cases canonical
  | ok sorted =>
    rw [collected] at canonical
    obtain rfl := Except.ok.inj canonical
    have perm : (byName (canonicalizeFields fields)).Perm (fields.map fun entry => (entry.1,canonicalize entry.2)) := by
      rw [← canonicalizeFields_eq]
      exact List.perm_insertionSort _ _
    have names : (sorted.map Prod.fst).Nodup := by
      rw [collect_names collected,(perm.map Prod.fst).nodup_iff,List.map_map]
      exact distinct
    have member : (key,canonicalize value) ∈ byName (canonicalizeFields fields) :=
      perm.mem_iff.mpr (List.mem_map.mpr ⟨_,inside,rfl⟩)
    obtain ⟨entry,there,made⟩ := (Fallible.mem_of_mapM collected).1 _ member
    cases form : canonicalize value with
    | error e =>
      simp only [form] at made
      cases made
    | ok value' =>
      simp only [form] at made
      obtain rfl := Except.ok.inj made
      rw [field_eq names there]

theorem canonicalizeItems_eq (items : List Json) : canonicalizeItems items = items.map canonicalize := by
  induction items with
  | nil => rfl
  | cons item items ih => rw [canonicalizeItems,ih,List.map_cons]

theorem canonicalize_array {items : List Json} {done : Json} :
    canonicalize (array items) = .ok done ↔ ∃ values, items.mapM canonicalize = .ok values ∧ done = array values := by
  have each : (canonicalizeItems items).mapM id = items.mapM canonicalize := by
    rw [canonicalizeItems_eq,List.mapM_map]
    rfl
  rw [canonicalize,each]
  cases items.mapM canonicalize with
  | error e => simp [Except.map]
  | ok values => simp [Except.map,eq_comm]

/-! Texts that are their own canonical form. -/

/-- The second that a text tells, where it is taken for a time. -/
def timestamp (value : String) : Option Int :=
  if isZoned value then (PyTime.parse value).map fun stamp => stamp.instant 0 / 1000000 else none

theorem timestamp_isoformatZ (moment : Calendar.Moment) : timestamp moment.isoformatZ = some moment.seconds := by
  have zoned : isZoned moment.isoformatZ = true := by
    have mark : (moment.chars.drop 10).head? = some 'T' := by
      rw [Calendar.Moment.chars,List.drop_left' (Calendar.Date.length_chars moment.year_le)]
      rfl
    have last : moment.chars.getLast? = some 'Z' := by
      rw [Calendar.Moment.chars,← List.cons_append,← List.append_assoc,List.getLast?_concat]
    simp [isZoned,Calendar.Moment.isoformatZ,mark,last]
  have read := PyTime.instant_isoformatZ 0 moment
  rw [timestamp,if_pos zoned]
  cases parsed : PyTime.parse moment.isoformatZ with
  | none => simp [parsed] at read
  | some stamp =>
    rw [parsed] at read
    rw [Option.map_some,Option.some.inj read]
    simp

theorem canonicalizeString_untimed (untimed : timestamp value = none) : canonicalizeString value = .ok value := by
  unfold canonicalizeString timestamp at *
  split_ifs at untimed ⊢ with zoned
  · rw [Option.map_eq_none_iff.mp untimed]
  · rfl

theorem canonicalizeString_timed {seconds : Int} (timed : timestamp value = some seconds) :
    canonicalizeString value = if within : Calendar.earliest ≤ seconds ∧ seconds < Calendar.latest then
      .ok (Calendar.Moment.isoformatZ ⟨seconds,within.1,within.2⟩) else .error "date value out of range" := by
  unfold canonicalizeString timestamp at *
  split_ifs at timed ⊢ with zoned within
  all_goals
    obtain ⟨stamp,parsed,same⟩ := Option.map_eq_some_iff.mp timed
    subst same
    simp [parsed,within]

theorem canonicalizeString_isoformatZ (moment : Calendar.Moment) :
    canonicalizeString moment.isoformatZ = .ok moment.isoformatZ := by
  rw [canonicalizeString_timed (timestamp_isoformatZ moment)]
  exact dif_pos ⟨moment.earliest_le,moment.lt_latest⟩

/-! Documents are compared by their tokens. -/

def textTokens (value : String) : List Nat := value.toList.length :: value.toList.map Char.toNat

mutual

def tokens : Json → List Nat
  | null => [0]
  | bool value => [1,if value then 1 else 0]
  | int value => [2,Encodable.encode value]
  | float value => [3,Encodable.encode (value.negative,value.digits,value.exponent)]
  | nonFinite printed => 4 :: textTokens printed
  | text value => 5 :: textTokens value
  | datetime moment => [6,Encodable.encode moment.seconds]
  | array items => 7 :: items.length :: itemTokens items
  | object fields => 8 :: fields.length :: fieldTokens fields

def itemTokens : List Json → List Nat
  | [] => []
  | item :: items => tokens item ++ itemTokens items

def fieldTokens : List (String × Json) → List Nat
  | [] => []
  | (key,value) :: fields => textTokens key ++ (tokens value ++ fieldTokens fields)

end

theorem textTokens_append {first second : String} {x y : List Nat} (same : textTokens first ++ x = textTokens second ++ y) :
    first = second ∧ x = y := by
  obtain ⟨length,rest⟩ := List.cons.inj same
  obtain ⟨chars,later⟩ := List.append_inj rest (by simpa using length)
  exact ⟨String.toList_injective (List.map_injective_iff.mpr (fun _ _ => Char.toNat_inj.mp) chars),later⟩

mutual

theorem tokens_append (a b : Json) (x y : List Nat) (same : tokens a ++ x = tokens b ++ y) : a = b ∧ x = y := by
  cases a with
  | array items =>
    cases b <;> simp [tokens] at same
    obtain ⟨length,rest⟩ := same
    obtain ⟨rfl,rfl⟩ := itemTokens_append items _ x y length rest
    exact ⟨rfl,rfl⟩
  | object fields =>
    cases b <;> simp [tokens] at same
    obtain ⟨length,rest⟩ := same
    obtain ⟨rfl,rfl⟩ := fieldTokens_append fields _ x y length rest
    exact ⟨rfl,rfl⟩
  | null => cases b <;> simp_all [tokens]
  | bool value => cases b <;> simp [tokens] at same; cases value <;> simp_all
  | int value => cases b <;> simp_all [tokens]
  | float value =>
    cases b <;> simp [tokens] at same
    obtain ⟨parts,rfl⟩ := same
    exact ⟨by simp [Decimal.ext_iff,parts],rfl⟩
  | nonFinite printed =>
    cases b <;> simp [tokens] at same
    obtain ⟨rfl,rfl⟩ := textTokens_append same
    exact ⟨rfl,rfl⟩
  | text value =>
    cases b <;> simp [tokens] at same
    obtain ⟨rfl,rfl⟩ := textTokens_append same
    exact ⟨rfl,rfl⟩
  | datetime moment =>
    cases b <;> simp [tokens] at same
    exact ⟨by simp [Calendar.Moment.ext_iff,same.1],same.2⟩

theorem itemTokens_append (as bs : List Json) (x y : List Nat) (length : as.length = bs.length)
    (same : itemTokens as ++ x = itemTokens bs ++ y) : as = bs ∧ x = y := by
  cases as with
  | nil => simp_all [List.eq_nil_of_length_eq_zero length.symm]
  | cons a as =>
    cases bs with
    | nil => cases length
    | cons b bs =>
      rw [itemTokens,itemTokens,List.append_assoc,List.append_assoc] at same
      obtain ⟨rfl,rest⟩ := tokens_append a b _ _ same
      obtain ⟨rfl,rfl⟩ := itemTokens_append as bs x y (Nat.succ.inj length) rest
      exact ⟨rfl,rfl⟩

theorem fieldTokens_append (as bs : List (String × Json)) (x y : List Nat) (length : as.length = bs.length)
    (same : fieldTokens as ++ x = fieldTokens bs ++ y) : as = bs ∧ x = y := by
  cases as with
  | nil => simp_all [List.eq_nil_of_length_eq_zero length.symm]
  | cons a as =>
    cases bs with
    | nil => cases length
    | cons b bs =>
      obtain ⟨key,value⟩ := a
      obtain ⟨key',value'⟩ := b
      simp only [fieldTokens,List.append_assoc] at same
      obtain ⟨rfl,rest⟩ := textTokens_append same
      obtain ⟨rfl,later⟩ := tokens_append value value' _ _ rest
      obtain ⟨rfl,rfl⟩ := fieldTokens_append as bs x y (Nat.succ.inj length) later
      exact ⟨rfl,rfl⟩

end

theorem tokens_injective {a b : Json} (same : tokens a = tokens b) : a = b :=
  (tokens_append a b [] [] (by rw [same])).1

instance : DecidableEq Json := fun a b => decidable_of_iff (tokens a = tokens b) ⟨tokens_injective,congrArg tokens⟩

end Json
end Clawchain.Lib
