import Clawchain.Lib.Texts
import Mathlib.Data.List.Basic
import Mathlib.Tactic.Ring

/-! The wire format of protocol buffers: a message is a sequence of fields, each a key with the field's number and the type
of what follows. A reader takes varints of up to a limit of bytes, ten in the format's own rules. -/
namespace Clawchain.Lib.Wire

inductive Value where
  | varint (number : Nat)
  | fixed64 (content : List UInt8)
  | bytes (content : List UInt8)
  | fixed32 (content : List UInt8)
  deriving DecidableEq, Repr

structure Field where
  number : Nat
  value : Value
  deriving DecidableEq, Repr

def Value.wireType : Value → Nat
  | .varint _ => 0
  | .fixed64 _ => 1
  | .bytes _ => 2
  | .fixed32 _ => 5

def base128From : Nat → Nat → List UInt8
  | 0,_ => []
  | turns + 1,number =>
    if number < 128 then [UInt8.ofNat number] else UInt8.ofNat (number % 128 + 128) :: base128From turns (number / 128)

/-- Seven bits a byte, the lowest first; every byte but the last has its high bit set. The number gets smaller in every turn. -/
def base128 (number : Nat) : List UInt8 := base128From (number + 1) number

def Value.write : Value → List UInt8
  | .varint number => base128 number
  | .fixed64 content => content
  | .bytes content => base128 content.length ++ content
  | .fixed32 content => content

def Field.key (field : Field) : Nat := 8 * field.number + field.value.wireType

def Field.write (field : Field) : List UInt8 := base128 field.key ++ field.value.write

def write (fields : List Field) : List UInt8 := fields.flatMap Field.write

section Reading
variable (limit : Nat)

def readVarint : Nat → List UInt8 → Option (Nat × List UInt8)
  | 0,_ => none
  | _ + 1,[] => none
  | limit + 1,byte :: rest =>
    if byte.toNat < 128 then some (byte.toNat,rest)
    else (readVarint limit rest).map fun read => (byte.toNat - 128 + 128 * read.1,read.2)

def readBytes (count : Nat) (bytes : List UInt8) : Option (List UInt8 × List UInt8) :=
  if count ≤ bytes.length then some (bytes.splitAt count) else none

/-- Groups and the unassigned types are refused. -/
def readValue (wireType : Nat) (bytes : List UInt8) : Option (Value × List UInt8) :=
  match wireType with
  | 0 => (readVarint limit bytes).map fun read => (.varint read.1,read.2)
  | 1 => (readBytes 8 bytes).map fun read => (.fixed64 read.1,read.2)
  | 2 => do
    let (count,rest) ← readVarint limit bytes
    (readBytes count rest).map fun read => (.bytes read.1,read.2)
  | 5 => (readBytes 4 bytes).map fun read => (.fixed32 read.1,read.2)
  | _ => none

def readField (bytes : List UInt8) : Option (Field × List UInt8) := do
  let (key,rest) ← readVarint limit bytes
  if key / 8 = 0 then none
  else (readValue limit (key % 8) rest).map fun read => (⟨key / 8,read.1⟩,read.2)

/-- A field takes a byte at least, so as many fields as there are bytes are enough. -/
def readFields : Nat → List UInt8 → Option (List Field)
  | _,[] => some []
  | 0,_ :: _ => none
  | count + 1,byte :: bytes => do
    let (field,rest) ← readField limit (byte :: bytes)
    (readFields count rest).map (field :: ·)

def read (bytes : List UInt8) : Option (List Field) := readFields limit bytes.length bytes

end Reading

/-! A field that was not written has its default; where one was written twice the last one counts. -/

def Field.bytes? (number : Nat) (field : Field) : Option (List UInt8) :=
  match field.value with
  | .bytes content => if field.number = number then some content else none
  | _ => none

def Field.varint? (number : Nat) (field : Field) : Option Nat :=
  match field.value with
  | .varint value => if field.number = number then some value else none
  | _ => none

def allBytes (number : Nat) (fields : List Field) : List (List UInt8) := fields.filterMap (Field.bytes? number)

def lastBytes (number : Nat) (fields : List Field) : List UInt8 := ((allBytes number fields).getLast?).getD []

def lastVarint (number : Nat) (fields : List Field) : Nat := ((fields.filterMap (Field.varint? number)).getLast?).getD 0

/-- A message with a field that the reader does not know leaves something over. -/
def known (schema : List (Nat × Nat)) (fields : List Field) : Bool :=
  fields.all fun field => (field.number,field.value.wireType) ∈ schema

def text (bytes : List UInt8) : Option String := String.fromUTF8? ⟨bytes.toArray⟩

/-! A field with its default is not written. -/

def bytesField (number : Nat) (content : List UInt8) : List Field := if content = [] then [] else [⟨number,.bytes content⟩]

def varintField (number value : Nat) : List Field := if value = 0 then [] else [⟨number,.varint value⟩]

/-! Reading gives back what was written. -/

variable {limit : Nat}

variable {number : Nat} {fields : List Field} {schema : List (Nat × Nat)}

theorem readVarint_base128From {turns : Nat} (enough : number < turns) (positive : 0 < limit)
    (fits : number < 128 ^ limit) (rest : List UInt8) :
    readVarint limit (base128From turns number ++ rest) = some (number,rest) := by
  induction turns generalizing limit number with
  | zero => omega
  | succ turns ih =>
    obtain ⟨limit,rfl⟩ : ∃ fewer, limit = fewer + 1 := ⟨limit - 1,by omega⟩
    rw [base128From]
    split
    · rename_i small
      have byte : (UInt8.ofNat number).toNat = number := UInt8.toNat_ofNat_of_lt' (by change number < 256; omega)
      simp [readVarint,byte,small]
    · rename_i large
      have byte : (UInt8.ofNat (number % 128 + 128)).toNat = number % 128 + 128 :=
        UInt8.toNat_ofNat_of_lt' (by change _ < 256; omega)
      have less : number / 128 < 128 ^ limit := by
        rw [pow_succ] at fits
        exact Nat.div_lt_of_lt_mul (by omega)
      have more : 0 < limit := by
        rcases Nat.eq_zero_or_pos limit with rfl | more
        · omega
        · exact more
      rw [List.cons_append,readVarint,byte,if_neg (by omega),ih (by omega) more less]
      simp only [Option.map_some,Option.some.injEq,Prod.mk.injEq,and_true]
      omega

theorem readVarint_base128 (positive : 0 < limit) (fits : number < 128 ^ limit) (rest : List UInt8) :
    readVarint limit (base128 number ++ rest) = some (number,rest) :=
  readVarint_base128From (Nat.lt_succ_self number) positive fits rest

theorem base128_ne_nil (number : Nat) : base128 number ≠ [] := by
  rw [base128,base128From]
  split <;> simp

theorem readBytes_append (bytes rest : List UInt8) : readBytes bytes.length (bytes ++ rest) = some (bytes,rest) := by
  simp [readBytes]

/-- What can be written and read back within the limit. -/
def Value.Fits (limit : Nat) : Value → Prop
  | .varint number => number < 128 ^ limit
  | .fixed64 content => content.length = 8
  | .bytes content => content.length < 128 ^ limit
  | .fixed32 content => content.length = 4

structure Field.Fits (limit : Nat) (field : Field) : Prop where
  numbered : 0 < field.number
  key : field.key < 128 ^ limit
  value : field.value.Fits limit

theorem readValue_write (positive : 0 < limit) {value : Value} (fits : value.Fits limit) (rest : List UInt8) :
    readValue limit value.wireType (value.write ++ rest) = some (value,rest) := by
  cases value with
  | varint number => simp [readValue,Value.wireType,Value.write,readVarint_base128 positive (show number < 128 ^ limit from fits)]
  | fixed64 content =>
    have read := readBytes_append content rest
    rw [show content.length = 8 from fits] at read
    simp [readValue,Value.wireType,Value.write,read]
  | bytes content =>
    have counted := readVarint_base128 positive (show content.length < 128 ^ limit from fits) (content ++ rest)
    simp [readValue,Value.wireType,Value.write,counted,readBytes_append]
  | fixed32 content =>
    have read := readBytes_append content rest
    rw [show content.length = 4 from fits] at read
    simp [readValue,Value.wireType,Value.write,read]

theorem wireType_lt (value : Value) : value.wireType < 8 := by cases value <;> simp [Value.wireType]

theorem readField_write (positive : 0 < limit) {field : Field} (fits : field.Fits limit) (rest : List UInt8) :
    readField limit (field.write ++ rest) = some (field,rest) := by
  have type := wireType_lt field.value
  have number : field.key / 8 = field.number := by
    unfold Field.key
    omega
  have kind : field.key % 8 = field.value.wireType := by
    unfold Field.key
    omega
  have numbered : field.number ≠ 0 := fits.numbered.ne'
  unfold readField Field.write
  rw [List.append_assoc,readVarint_base128 positive fits.key]
  simp only [bind,Option.bind_some,number,kind,if_neg numbered,readValue_write positive fits.value,Option.map_some]

theorem write_ne_nil (field : Field) : field.write ≠ [] := by simp [Field.write,base128_ne_nil]

theorem readFields_write (positive : 0 < limit) (fits : ∀ field ∈ fields, field.Fits limit) {count : Nat}
    (enough : fields.length ≤ count) : readFields limit count (write fields) = some fields := by
  induction fields generalizing count with
  | nil => cases count <;> rfl
  | cons field fields ih =>
    obtain ⟨own,others⟩ := List.forall_mem_cons.mp fits
    obtain ⟨count,rfl⟩ : ∃ fewer, count = fewer + 1 := ⟨count - 1,by simp at enough; omega⟩
    have read := readField_write positive own (write fields)
    change readFields limit (count + 1) (field.write ++ write fields) = _
    cases bytes : field.write ++ write fields with
    | nil => exact absurd (List.append_eq_nil_iff.mp bytes).1 (write_ne_nil field)
    | cons byte rest =>
      rw [bytes] at read
      have rest : fields.length ≤ count := by simpa using enough
      simp [readFields,read,ih others rest]

theorem length_le_write (fields : List Field) : fields.length ≤ (write fields).length := by
  induction fields with
  | nil => simp
  | cons field fields ih =>
    have some_ := List.length_pos_iff.mpr (write_ne_nil field)
    simp only [write,List.flatMap_cons,List.length_append,List.length_cons] at ih ⊢
    omega

theorem read_write (positive : 0 < limit) (fits : ∀ field ∈ fields, field.Fits limit) :
    read limit (write fields) = some fields := readFields_write positive fits (length_le_write fields)

/-! What is in a message that was put together field by field. -/

@[simp] theorem write_append (first second : List Field) : write (first ++ second) = write first ++ write second :=
  List.flatMap_append

@[simp] theorem allBytes_append (number : Nat) (first second : List Field) :
    allBytes number (first ++ second) = allBytes number first ++ allBytes number second := List.filterMap_append

@[simp] theorem known_append (schema : List (Nat × Nat)) (first second : List Field) :
    known schema (first ++ second) = (known schema first && known schema second) := List.all_append

theorem allBytes_bytesField (number other : Nat) (content : List UInt8) :
    allBytes number (bytesField other content) = if other = number ∧ content ≠ [] then [content] else [] := by
  unfold bytesField
  by_cases empty : content = []
  · simp [empty,allBytes]
  · by_cases same : other = number <;> simp [empty,same,allBytes,Field.bytes?]

@[simp] theorem allBytes_varintField (number other value : Nat) : allBytes number (varintField other value) = [] := by
  unfold varintField
  split <;> rfl

theorem lastBytes_single (number : Nat) (content : List UInt8) (before after : List Field)
    (first : allBytes number before = []) (last : allBytes number after = []) :
    lastBytes number (before ++ bytesField number content ++ after) = content := by
  unfold lastBytes
  rw [allBytes_append,allBytes_append,first,last,allBytes_bytesField]
  by_cases empty : content = [] <;> simp [empty]

theorem allBytes_flatMap {α : Type} {l : List α} {fields : α → List Field}
    (absent : ∀ a ∈ l, allBytes number (fields a) = []) : allBytes number (l.flatMap fields) = [] := by
  induction l with
  | nil => rfl
  | cons a l ih =>
    obtain ⟨own,others⟩ := List.forall_mem_cons.mp absent
    rw [List.flatMap_cons,allBytes_append,own,ih others]
    rfl

theorem known_flatMap {α : Type} {l : List α} {fields : α → List Field} (each : ∀ a ∈ l, known schema (fields a) = true)
    : known schema (l.flatMap fields) = true := by
  induction l with
  | nil => rfl
  | cons a l ih =>
    obtain ⟨own,others⟩ := List.forall_mem_cons.mp each
    rw [List.flatMap_cons,known_append,own,ih others]
    rfl

theorem lastBytes_listed {values : List (Nat × List UInt8)} (distinct : (values.map Prod.fst).Nodup)
    {content : List UInt8} (listed : (number,content) ∈ values) {after : List Field} (last : allBytes number after = []) :
    lastBytes number ((values.flatMap fun value => bytesField value.1 value.2) ++ after) = content := by
  have absent (others : List (Nat × List UInt8)) (other : number ∉ others.map Prod.fst) :
      allBytes number (others.flatMap fun value => bytesField value.1 value.2) = [] := by
    refine allBytes_flatMap fun value inside => ?_
    rw [allBytes_bytesField,if_neg fun same => other (List.mem_map.mpr ⟨value,inside,same.1⟩)]
  obtain ⟨before,later,rfl⟩ := List.append_of_mem listed
  rw [List.map_append,List.map_cons,List.nodup_append,List.nodup_cons] at distinct
  obtain ⟨-,⟨below,-⟩,apart⟩ := distinct
  have above : number ∉ before.map Prod.fst := fun inside => apart number inside number List.mem_cons_self rfl
  rw [List.flatMap_append,List.flatMap_cons,List.append_assoc,List.append_assoc,← List.append_assoc]
  apply lastBytes_single number content _ _ (absent before above)
  rw [allBytes_append,absent later below,last]
  rfl

theorem lastVarint_listed (values : List (Nat × List UInt8)) (number value : Nat) :
    lastVarint number ((values.flatMap fun value => bytesField value.1 value.2) ++ varintField number value) = value := by
  have none_ : (values.flatMap fun value => bytesField value.1 value.2).filterMap (Field.varint? number) = [] := by
    refine List.filterMap_eq_nil_iff.mpr fun field inside => ?_
    obtain ⟨one,-,own⟩ := List.mem_flatMap.mp inside
    unfold bytesField at own
    split at own
    · cases own
    · rw [List.mem_singleton.mp own]
      rfl
  unfold lastVarint
  rw [List.filterMap_append,none_,List.nil_append]
  unfold varintField
  by_cases zero : value = 0 <;> simp [zero,Field.varint?]

theorem known_bytesField (listed : (number,2) ∈ schema) (content : List UInt8) :
    known schema (bytesField number content) = true := by
  unfold bytesField
  split <;> simp [known,Value.wireType,listed]

theorem known_varintField (listed : (number,0) ∈ schema) (value : Nat) :
    known schema (varintField number value) = true := by
  unfold varintField
  split <;> simp [known,Value.wireType,listed]

theorem length_le_of_mem (number : Nat) (content : List UInt8) (inside : ⟨number,.bytes content⟩ ∈ fields) :
    content.length ≤ (write fields).length := by
  obtain ⟨before,after,rfl⟩ := List.append_of_mem inside
  simp only [write,List.flatMap_append,List.flatMap_cons,Field.write,Value.write,List.length_append]
  omega

theorem fits_bytesField (numbered : 0 < number) (short : number < 16) (positive : 0 < limit) {content : List UInt8}
    (less : content.length < 128 ^ limit) : ∀ field ∈ bytesField number content, field.Fits limit := by
  have one : 128 ^ 1 ≤ 128 ^ limit := Nat.pow_le_pow_right (by decide) positive
  intro field inside
  unfold bytesField at inside
  split at inside
  · cases inside
  · obtain rfl := List.mem_singleton.mp inside
    refine ⟨numbered,?_,less⟩
    simp only [Field.key,Value.wireType]
    omega

theorem fits_varintField (numbered : 0 < number) (short : number < 16) (positive : 0 < limit) {value : Nat}
    (less : value < 128 ^ limit) : ∀ field ∈ varintField number value, field.Fits limit := by
  have one : 128 ^ 1 ≤ 128 ^ limit := Nat.pow_le_pow_right (by decide) positive
  intro field inside
  unfold varintField at inside
  split at inside
  · cases inside
  · obtain rfl := List.mem_singleton.mp inside
    refine ⟨numbered,?_,less⟩
    simp only [Field.key,Value.wireType]
    omega

theorem text_bytes (value : String) : text (Texts.bytes value) = some value := by
  have whole : (⟨(Texts.bytes value).toArray⟩ : ByteArray) = value.toByteArray := by simp [Texts.bytes]
  unfold text
  rw [whole]
  unfold String.fromUTF8?
  rw [dif_pos value.isValidUTF8]
  rfl

/-! A message made of texts, and of a number behind them, says what it was made of. -/

def laid (values : List (Nat × List UInt8)) (number value : Nat) : List Field :=
  (values.flatMap fun value => bytesField value.1 value.2) ++ varintField number value

theorem laid_fits {values : List (Nat × List UInt8)} {value : Nat}
    (short : ∀ n ∈ number :: values.map Prod.fst, 0 < n ∧ n < 16) (positive : 0 < limit) (small : value < 128 ^ limit)
    (less : (write (laid values number value)).length < 128 ^ limit) : ∀ field ∈ laid values number value, field.Fits limit := by
  obtain ⟨last,others⟩ := List.forall_mem_cons.mp short
  intro field inside
  rcases List.mem_append.mp inside with text | total
  · obtain ⟨one,listed,own⟩ := List.mem_flatMap.mp text
    obtain ⟨first,few⟩ := others one.1 (List.mem_map_of_mem listed)
    refine fits_bytesField first few positive ?_ field own
    by_cases empty : one.2 = []
    · rw [empty]
      exact Nat.pow_pos (by decide)
    · refine lt_of_le_of_lt (length_le_of_mem one.1 _ (List.mem_append_left _ (List.mem_flatMap.mpr ⟨one,listed,?_⟩))) less
      simp [bytesField,empty]
  · exact fits_varintField last.1 last.2 positive small field total

theorem laid_injective {values others : List (Nat × List UInt8)} {value other : Nat}
    (same : write (laid values number value) = write (laid others number other))
    (short : ∀ n ∈ number :: values.map Prod.fst, 0 < n ∧ n < 16) (distinct : (values.map Prod.fst).Nodup)
    (numbers : others.map Prod.fst = values.map Prod.fst) : values = others ∧ value = other := by
  obtain ⟨limit,positive,less,small,small'⟩ : ∃ limit, 0 < limit ∧ (write (laid values number value)).length < 128 ^ limit ∧
      value < 128 ^ limit ∧ other < 128 ^ limit := by
    generalize (write (laid values number value)).length = length
    have wide : length + value + other + 1 < 128 ^ (length + value + other + 1) := Nat.lt_pow_self (by decide)
    exact ⟨_,Nat.succ_pos _,lt_of_le_of_lt (by omega) wide,lt_of_le_of_lt (by omega) wide,lt_of_le_of_lt (by omega) wide⟩
  have read := read_write positive (laid_fits short positive small less)
  rw [same] at read less
  have fields := Option.some.inj ((read_write positive (laid_fits (numbers ▸ short) positive small' less)).symm.trans read)
  have told {list : List (Nat × List UInt8)} {last : Nat} (apart : (list.map Prod.fst).Nodup) :
      (list.map Prod.fst).map (fun n => (n,lastBytes n (laid list number last))) = list := by
    rw [List.map_map]
    refine (List.map_congr_left fun one listed => ?_).trans (List.map_id list)
    exact Prod.ext rfl (lastBytes_listed apart listed (allBytes_varintField ..))
  constructor
  · rw [← told distinct,← fields,← numbers]
    exact told (numbers ▸ distinct)
  · rw [← lastVarint_listed values number value,← lastVarint_listed others number other]
    exact congrArg (lastVarint number) fields.symm

end Clawchain.Lib.Wire
