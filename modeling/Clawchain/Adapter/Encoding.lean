import Clawchain.Chain.Settlement
import Clawchain.Lib.Fallible
import Clawchain.Lib.Wire

/-! The adapter encodes a transaction by hand; what it writes is read back by the rules of the wire format as the messages,
the memo and the timeout that it was given. -/
namespace Clawchain.Adapter
open Clawchain.Lib Clawchain.Chain.Settlement

abbrev Bytes := List UInt8

def futureMsgTypeURL : String := "/clawchain.settlement.v1.MsgAnchorSettlementBatch"

/-- The value of a message as a dictionary has it. -/
structure AnchorValue where
  submitter : Option String := none
  settlementBatchID : Option String := none
  anchorJobID : Option String := none
  lane : Option String := none
  schemaVersion : Option String := none
  policyBundleVersion : Option String := none
  canonicalRoot : Option String := none
  anchorPayloadHash : Option String := none
  rewardWindowIDsRoot : Option String := none
  taskRunIDsRoot : Option String := none
  minerRewardRowsRoot : Option String := none
  windowEndAt : Option String := none
  totalRewardAmount : Option Int := none
  deriving DecidableEq, Repr

structure TypedMessage where
  typeURL : Option String
  value : Option AnchorValue
  deriving DecidableEq, Repr

def varintLoop : Nat → Nat → Bytes
  | 0,_ => []
  | turns + 1,value =>
    let current := value &&& 0x7F
    let rest := value >>> 7
    if rest ≠ 0 then UInt8.ofNat (current ||| 0x80) :: varintLoop turns rest else [UInt8.ofNat current]

def encodeVarint (value : Int) : Except String Bytes :=
  if value < 0 then .error "varint only supports non-negative values" else .ok (varintLoop (value.toNat + 1) value.toNat)

def encodeFieldKey (fieldNumber wireType : Nat) : Except String Bytes :=
  encodeVarint ((fieldNumber <<< 3) ||| wireType : Nat)

def encodeBytesField (fieldNumber : Nat) (value : Option Bytes) : Except String Bytes :=
  match value with
  | none | some [] => .ok []
  | some bytes => do return (← encodeFieldKey fieldNumber 2) ++ (← encodeVarint bytes.length) ++ bytes

def encodeStringField (fieldNumber : Nat) (value : Option String) : Except String Bytes :=
  match value with
  | none => .ok []
  | some text => if text = "" then .ok [] else encodeBytesField fieldNumber (some (Texts.bytes text))

def encodeUint64Field (fieldNumber : Nat) (value : Option Int) : Except String Bytes :=
  match value with
  | none => .ok []
  | some int => if int = 0 then .ok [] else do return (← encodeFieldKey fieldNumber 0) ++ (← encodeVarint int)

def join (parts : List (Except String Bytes)) : Except String Bytes := do return (← parts.mapM id).flatten

def encodeAny (typeURL : String) (valueBytes : Bytes) : Except String Bytes :=
  join [encodeStringField 1 (some typeURL),encodeBytesField 2 (some valueBytes)]

def encodeAnchorSettlementMsg (value : AnchorValue) : Except String Bytes :=
  join [encodeStringField 1 value.submitter,
    encodeStringField 2 value.settlementBatchID,
    encodeStringField 3 value.anchorJobID,
    encodeStringField 4 value.lane,
    encodeStringField 5 value.schemaVersion,
    encodeStringField 6 value.policyBundleVersion,
    encodeStringField 7 value.canonicalRoot,
    encodeStringField 8 value.anchorPayloadHash,
    encodeStringField 9 value.rewardWindowIDsRoot,
    encodeStringField 10 value.taskRunIDsRoot,
    encodeStringField 11 value.minerRewardRowsRoot,
    encodeStringField 12 value.windowEndAt,
    encodeUint64Field 13 value.totalRewardAmount]

def encodeTypedMessage (message : TypedMessage) : Except String Bytes :=
  if message.typeURL ≠ some futureMsgTypeURL then .error ("unsupported typed message " ++ message.typeURL.getD "None")
  else do encodeAny futureMsgTypeURL (← encodeAnchorSettlementMsg (message.value.getD {}))

def encodeTxBody (messages : List TypedMessage) (memo : Option String) (timeoutHeight : Int) : Except String Bytes := do
  let encodedMessages ← messages.mapM fun message => do encodeBytesField 1 (some (← encodeTypedMessage message))
  join (encodedMessages.map .ok ++ [encodeStringField 2 memo,encodeUint64Field 3 (some timeoutHeight)])

section Decoding
variable (limit : Nat)

structure TxBody where
  messages : List (String × MsgAnchorSettlementBatch)
  memo : String
  timeoutHeight : UInt64
  deriving DecidableEq, Repr

def uint64 (number : Nat) (fields : List Wire.Field) : Option UInt64 :=
  if Wire.lastVarint number fields < 2 ^ 64 then some (UInt64.ofNat (Wire.lastVarint number fields)) else none

def text (number : Nat) (fields : List Wire.Field) : Option String := Wire.text (Wire.lastBytes number fields)

def fieldsOf (schema : List (Nat × Nat)) (bytes : Bytes) : Option (List Wire.Field) :=
  (Wire.read limit bytes).filter (Wire.known schema)

def anchorSchema : List (Nat × Nat) :=
  [(1,2),(2,2),(3,2),(4,2),(5,2),(6,2),(7,2),(8,2),(9,2),(10,2),(11,2),(12,2),(13,0)]

def decodeAnchor (bytes : Bytes) : Option MsgAnchorSettlementBatch := do
  let fields ← fieldsOf limit anchorSchema bytes
  return {
    submitter := ← text 1 fields
    settlementBatchId := ← text 2 fields
    anchorJobId := ← text 3 fields
    lane := ← text 4 fields
    schemaVersion := ← text 5 fields
    policyBundleVersion := ← text 6 fields
    canonicalRoot := ← text 7 fields
    anchorPayloadHash := ← text 8 fields
    rewardWindowIdsRoot := ← text 9 fields
    taskRunIdsRoot := ← text 10 fields
    minerRewardRowsRoot := ← text 11 fields
    windowEndAt := ← text 12 fields
    totalRewardAmount := ← uint64 13 fields }

/-- A message is packed with the URL of its type. -/
def decodeAny (bytes : Bytes) : Option (String × MsgAnchorSettlementBatch) := do
  let fields ← fieldsOf limit [(1,2),(2,2)] bytes
  return (← text 1 fields,← decodeAnchor limit (Wire.lastBytes 2 fields))

def decodeTxBody (bytes : Bytes) : Option TxBody := do
  let fields ← fieldsOf limit [(1,2),(2,2),(3,0)] bytes
  return { messages := ← (Wire.allBytes 1 fields).mapM (decodeAny limit), memo := ← text 2 fields, timeoutHeight := ← uint64 3 fields }

end Decoding

/-! What the encoder writes, field by field. -/

theorem varintLoop_eq (turns value : Nat) : varintLoop turns value = Wire.base128From turns value := by
  induction turns generalizing value with
  | zero => rfl
  | succ turns ih =>
    have low : value &&& 0x7F = value % 128 := Nat.and_two_pow_sub_one_eq_mod value 7
    have rest : value >>> 7 = value / 128 := Nat.shiftRight_eq_div_pow value 7
    have high : value % 128 ||| 0x80 = value % 128 + 128 := by
      have bit : 128 + value % 128 = 128 ||| value % 128 := Nat.two_pow_add_eq_or_of_lt (i := 7) (by omega) 1
      rw [Nat.or_comm,← bit,Nat.add_comm]
    rw [varintLoop,Wire.base128From]
    simp only [low,rest,high]
    by_cases small : value < 128
    · rw [if_pos small,if_neg (by omega),Nat.mod_eq_of_lt small]
    · rw [if_neg small,if_pos (by omega),ih (value / 128)]

theorem encodeVarint_ok (value : Nat) : encodeVarint value = .ok (Wire.base128 value) := by
  unfold encodeVarint
  rw [if_neg (by omega),Int.toNat_natCast,varintLoop_eq]
  rfl

theorem encodeFieldKey_ok {wireType : Nat} (small : wireType < 8) (fieldNumber : Nat) :
    encodeFieldKey fieldNumber wireType = .ok (Wire.base128 (8 * fieldNumber + wireType)) := by
  have key : (fieldNumber <<< 3) ||| wireType = 8 * fieldNumber + wireType := by
    have bits := Nat.two_pow_add_eq_or_of_lt (i := 3) (b := wireType) (by omega) fieldNumber
    rw [Nat.shiftLeft_eq,Nat.mul_comm]
    omega
  unfold encodeFieldKey
  rw [key,encodeVarint_ok]

theorem encodeBytesField_ok (fieldNumber : Nat) (bytes : Bytes) :
    encodeBytesField fieldNumber (some bytes) = .ok (Wire.write (Wire.bytesField fieldNumber bytes)) := by
  cases bytes with
  | nil => rfl
  | cons byte bytes =>
    simp only [encodeBytesField,encodeFieldKey_ok (show 2 < 8 by decide),encodeVarint_ok]
    simp [bind,Except.bind,pure,Except.pure,Wire.bytesField,Wire.write,Wire.Field.write,Wire.Field.key,Wire.Value.write,
      Wire.Value.wireType]

theorem encodeStringField_ok (fieldNumber : Nat) (value : Option String) :
    encodeStringField fieldNumber value = .ok (Wire.write (Wire.bytesField fieldNumber (Texts.bytes (value.getD "")))) := by
  have nothing : Texts.bytes "" = [] := rfl
  cases value with
  | none => simp [encodeStringField,nothing,Wire.bytesField,Wire.write]
  | some text =>
    by_cases empty : text = ""
    · simp [encodeStringField,empty,nothing,Wire.bytesField,Wire.write]
    · simp [encodeStringField,empty,encodeBytesField_ok]

theorem encodeUint64Field_ok (fieldNumber : Nat) (value : Option Int) (positive : 0 ≤ value.getD 0) :
    encodeUint64Field fieldNumber value = .ok (Wire.write (Wire.varintField fieldNumber (value.getD 0).toNat)) := by
  cases value with
  | none => rfl
  | some int =>
    obtain ⟨number,rfl⟩ := Int.eq_ofNat_of_zero_le positive
    by_cases zero : number = 0
    · subst zero
      rfl
    · simp only [encodeUint64Field,encodeFieldKey_ok (show 0 < 8 by decide),encodeVarint_ok]
      simp [zero,bind,Except.bind,pure,Except.pure,Wire.varintField,Wire.write,Wire.Field.write,Wire.Field.key,
        Wire.Value.write,Wire.Value.wireType]

theorem join_ok (parts : List Bytes) : join (parts.map .ok) = .ok parts.flatten := by
  have collected : (parts.map Except.ok : List (Except String Bytes)).mapM id = .ok parts := by
    apply Fallible.mapM_forall₂
    rw [List.forall₂_map_left_iff]
    exact List.forall₂_same.mpr fun _ _ => rfl
  unfold join
  rw [collected]
  rfl

namespace AnchorValue
variable (value : AnchorValue)

def message : MsgAnchorSettlementBatch where
  submitter := value.submitter.getD ""
  settlementBatchId := value.settlementBatchID.getD ""
  anchorJobId := value.anchorJobID.getD ""
  lane := value.lane.getD ""
  schemaVersion := value.schemaVersion.getD ""
  policyBundleVersion := value.policyBundleVersion.getD ""
  canonicalRoot := value.canonicalRoot.getD ""
  anchorPayloadHash := value.anchorPayloadHash.getD ""
  rewardWindowIdsRoot := value.rewardWindowIDsRoot.getD ""
  taskRunIdsRoot := value.taskRunIDsRoot.getD ""
  minerRewardRowsRoot := value.minerRewardRowsRoot.getD ""
  windowEndAt := value.windowEndAt.getD ""
  totalRewardAmount := UInt64.ofNat (value.totalRewardAmount.getD 0).toNat

def texts : List (Nat × Bytes) :=
  [(1,Texts.bytes (value.submitter.getD "")),(2,Texts.bytes (value.settlementBatchID.getD "")),
    (3,Texts.bytes (value.anchorJobID.getD "")),(4,Texts.bytes (value.lane.getD "")),
    (5,Texts.bytes (value.schemaVersion.getD "")),(6,Texts.bytes (value.policyBundleVersion.getD "")),
    (7,Texts.bytes (value.canonicalRoot.getD "")),(8,Texts.bytes (value.anchorPayloadHash.getD "")),
    (9,Texts.bytes (value.rewardWindowIDsRoot.getD "")),(10,Texts.bytes (value.taskRunIDsRoot.getD "")),
    (11,Texts.bytes (value.minerRewardRowsRoot.getD "")),(12,Texts.bytes (value.windowEndAt.getD ""))]

def fields : List Wire.Field :=
  (value.texts.flatMap fun text => Wire.bytesField text.1 text.2) ++ Wire.varintField 13 (value.totalRewardAmount.getD 0).toNat

/-- The total is a `uint64`. -/
def InRange : Prop := 0 ≤ value.totalRewardAmount.getD 0 ∧ value.totalRewardAmount.getD 0 < 2 ^ 64

end AnchorValue

variable {value : AnchorValue} {limit : Nat}

theorem encodeAnchorSettlementMsg_ok (range : value.InRange) :
    encodeAnchorSettlementMsg value = .ok (Wire.write value.fields) := by
  unfold encodeAnchorSettlementMsg
  simp only [encodeStringField_ok,encodeUint64Field_ok 13 _ range.1]
  refine (join_ok (value.texts.map (fun text => Wire.write (Wire.bytesField text.1 text.2)) ++ [_])).trans ?_
  simp [AnchorValue.fields,AnchorValue.texts,Wire.write_append]

theorem texts_distinct : (value.texts.map Prod.fst).Nodup := by
  change [1,2,3,4,5,6,7,8,9,10,11,12].Nodup
  decide

theorem texts_known : Wire.known anchorSchema value.fields = true := by
  unfold AnchorValue.fields
  rw [Wire.known_append,Bool.and_eq_true]
  refine ⟨?_,Wire.known_varintField (by decide) _⟩
  simp only [AnchorValue.texts,List.flatMap_cons,List.flatMap_nil,Wire.known_append,Bool.and_eq_true]
  refine ⟨?_,?_,?_,?_,?_,?_,?_,?_,?_,?_,?_,?_,rfl⟩ <;> exact Wire.known_bytesField (by decide) _

theorem fields_fit (enough : 10 ≤ limit) (range : value.InRange) (less : (Wire.write value.fields).length < 128 ^ limit) :
    ∀ field ∈ value.fields, field.Fits limit := by
  intro field inside
  rcases List.mem_append.mp inside with text | total
  · obtain ⟨⟨number,content⟩,listed,own⟩ := List.mem_flatMap.mp text
    have small : 0 < number ∧ number < 16 := by
      simp only [AnchorValue.texts,List.mem_cons,Prod.mk.injEq,List.not_mem_nil,or_false] at listed
      omega
    have short : content.length < 128 ^ limit := by
      refine lt_of_le_of_lt ?_ less
      by_cases empty : content = []
      · simp [empty]
      · refine Wire.length_le_of_mem number _ (List.mem_append_left _ (List.mem_flatMap.mpr ⟨_,listed,?_⟩))
        simp [Wire.bytesField,empty]
    exact Wire.fits_bytesField small.1 small.2 (by omega) short field own
  · have wide : 2 ^ 64 ≤ 128 ^ limit := le_trans (by decide : 2 ^ 64 ≤ 128 ^ 10) (Nat.pow_le_pow_right (by decide) enough)
    exact Wire.fits_varintField (by decide) (by decide) (by omega) (by have bound := range; unfold AnchorValue.InRange at bound; omega) field total

theorem text_fields {number place : Nat} {text : String} (listed : value.texts[place]? = some (number,Texts.bytes text)) :
    Adapter.text number value.fields = some text := by
  unfold Adapter.text AnchorValue.fields
  rw [Wire.lastBytes_listed texts_distinct (List.mem_of_getElem? listed) (Wire.allBytes_varintField ..),Wire.text_bytes]

theorem uint64_fields (range : value.InRange) :
    uint64 13 value.fields = some (UInt64.ofNat (value.totalRewardAmount.getD 0).toNat) := by
  obtain ⟨positive,less⟩ := range
  unfold uint64 AnchorValue.fields
  rw [Wire.lastVarint_listed,if_pos (by omega)]

theorem decodeAnchor_write (enough : 10 ≤ limit) (range : value.InRange)
    (less : (Wire.write value.fields).length < 128 ^ limit) :
    decodeAnchor limit (Wire.write value.fields) = some value.message := by
  have fields : fieldsOf limit anchorSchema (Wire.write value.fields) = some value.fields := by
    unfold fieldsOf
    rw [Wire.read_write (by omega) (fields_fit enough range less)]
    simp [texts_known]
  have listed (place : Nat) (number : Nat) (text : String) (inside : value.texts[place]? = some (number,Texts.bytes text)) :
      Adapter.text number value.fields = some text := text_fields inside
  unfold decodeAnchor
  rw [fields,Option.bind_eq_bind,Option.bind_some,listed 0 1 (value.submitter.getD "") rfl,
    listed 1 2 (value.settlementBatchID.getD "") rfl,listed 2 3 (value.anchorJobID.getD "") rfl,
    listed 3 4 (value.lane.getD "") rfl,listed 4 5 (value.schemaVersion.getD "") rfl,
    listed 5 6 (value.policyBundleVersion.getD "") rfl,listed 6 7 (value.canonicalRoot.getD "") rfl,
    listed 7 8 (value.anchorPayloadHash.getD "") rfl,listed 8 9 (value.rewardWindowIDsRoot.getD "") rfl,
    listed 9 10 (value.taskRunIDsRoot.getD "") rfl,listed 10 11 (value.minerRewardRowsRoot.getD "") rfl,
    listed 11 12 (value.windowEndAt.getD "") rfl,uint64_fields range]
  rfl

def AnchorValue.packed (value : AnchorValue) : List Wire.Field :=
  Wire.bytesField 1 (Texts.bytes futureMsgTypeURL) ++ Wire.bytesField 2 (Wire.write value.fields)

def TypedMessage.anchor (message : TypedMessage) : AnchorValue := message.value.getD {}

theorem encodeTypedMessage_ok {message : TypedMessage} (typed : message.typeURL = some futureMsgTypeURL)
    (range : message.anchor.InRange) : encodeTypedMessage message = .ok (Wire.write message.anchor.packed) := by
  have inner : encodeAnchorSettlementMsg (message.value.getD {}) = .ok (Wire.write message.anchor.fields) :=
    encodeAnchorSettlementMsg_ok range
  unfold encodeTypedMessage encodeAny
  rw [if_neg (not_not.mpr typed),inner]
  simp only [bind,Except.bind,encodeStringField_ok,encodeBytesField_ok]
  refine (join_ok [_,_]).trans ?_
  simp [AnchorValue.packed,Wire.write_append]

theorem content_fits {fields : List Wire.Field} {number : Nat} {content : Bytes} (less : (Wire.write fields).length < 128 ^ limit)
    (inside : ∀ field ∈ Wire.bytesField number content, field ∈ fields) : content.length < 128 ^ limit := by
  refine lt_of_le_of_lt ?_ less
  by_cases empty : content = []
  · simp [empty]
  · exact Wire.length_le_of_mem number _ (inside ⟨number,.bytes content⟩ (by simp [Wire.bytesField,empty]))

theorem decodeAny_write (enough : 10 ≤ limit) (range : value.InRange) (less : (Wire.write value.packed).length < 128 ^ limit) :
    decodeAny limit (Wire.write value.packed) = some (futureMsgTypeURL,value.message) := by
  have inner : (Wire.write value.fields).length < 128 ^ limit := content_fits less fun _ => List.mem_append_right _
  have outer : (Texts.bytes futureMsgTypeURL).length < 128 ^ limit := content_fits less fun _ => List.mem_append_left _
  have fit : ∀ field ∈ value.packed, field.Fits limit := by
    intro field inside
    rcases List.mem_append.mp inside with url | content
    · exact Wire.fits_bytesField (by decide) (by decide) (by omega) outer field url
    · exact Wire.fits_bytesField (by decide) (by decide) (by omega) inner field content
  have fields : fieldsOf limit [(1,2),(2,2)] (Wire.write value.packed) = some value.packed := by
    unfold fieldsOf
    rw [Wire.read_write (by omega) fit]
    simp [AnchorValue.packed,Wire.known_bytesField]
  have url : Wire.lastBytes 1 value.packed = Texts.bytes futureMsgTypeURL := by
    refine Wire.lastBytes_single 1 (Texts.bytes futureMsgTypeURL) [] (Wire.bytesField 2 (Wire.write value.fields)) rfl ?_
    rw [Wire.allBytes_bytesField,if_neg (by simp)]
  have content : Wire.lastBytes 2 value.packed = Wire.write value.fields := by
    have last := Wire.lastBytes_single 2 (Wire.write value.fields) (Wire.bytesField 1 (Texts.bytes futureMsgTypeURL)) []
      (by rw [Wire.allBytes_bytesField,if_neg (by simp)]) rfl
    rwa [List.append_nil] at last
  unfold decodeAny Adapter.text
  rw [fields,Option.bind_eq_bind,Option.bind_some,url,Wire.text_bytes,content,decodeAnchor_write enough range inner]
  rfl

def bodyFields (messages : List TypedMessage) (memo : Option String) (timeoutHeight : Int) : List Wire.Field :=
  (messages.flatMap fun message => Wire.bytesField 1 (Wire.write message.anchor.packed)) ++
    Wire.bytesField 2 (Texts.bytes (memo.getD "")) ++ Wire.varintField 3 timeoutHeight.toNat

variable {messages : List TypedMessage} {memo : Option String} {timeoutHeight : Int}

theorem encodeTxBody_ok (typed : ∀ message ∈ messages, message.typeURL = some futureMsgTypeURL)
    (ranges : ∀ message ∈ messages, message.anchor.InRange) (positive : 0 ≤ timeoutHeight) :
    encodeTxBody messages memo timeoutHeight = .ok (Wire.write (bodyFields messages memo timeoutHeight)) := by
  have each : messages.mapM (fun message => do encodeBytesField 1 (some (← encodeTypedMessage message))) =
      .ok (messages.map fun message => Wire.write (Wire.bytesField 1 (Wire.write message.anchor.packed))) := by
    apply Fallible.mapM_forall₂
    rw [List.forall₂_map_right_iff]
    refine List.forall₂_same.mpr fun message inside => ?_
    rw [encodeTypedMessage_ok (typed message inside) (ranges message inside)]
    exact encodeBytesField_ok 1 (Wire.write message.anchor.packed)
  unfold encodeTxBody
  rw [each]
  simp only [bind,Except.bind,encodeStringField_ok,encodeUint64Field_ok 3 (some timeoutHeight) positive]
  have whole : Wire.write (messages.flatMap fun message => Wire.bytesField 1 (Wire.write message.anchor.packed)) =
      (messages.map fun message => Wire.write (Wire.bytesField 1 (Wire.write message.anchor.packed))).flatten := by
    rw [Wire.write,List.flatMap_assoc,List.flatMap_def]
    rfl
  refine (by rw [List.map_append]; rfl : _ = join (List.map Except.ok (_ ++ [_,_]))).trans ((join_ok _).trans ?_)
  simp [bodyFields,whole]

theorem body_fits (enough : 10 ≤ limit) (range : 0 ≤ timeoutHeight ∧ timeoutHeight < 2 ^ 64)
    (less : (Wire.write (bodyFields messages memo timeoutHeight)).length < 128 ^ limit) :
    ∀ field ∈ bodyFields messages memo timeoutHeight, field.Fits limit := by
  intro field inside
  rcases List.mem_append.mp inside with front | timeout
  · rcases List.mem_append.mp front with message | note
    · obtain ⟨message,listed,own⟩ := List.mem_flatMap.mp message
      have short := content_fits less fun field member =>
        List.mem_append_left _ (List.mem_append_left _ (List.mem_flatMap.mpr ⟨message,listed,member⟩))
      exact Wire.fits_bytesField (by decide) (by decide) (by omega) short field own
    · have short := content_fits less fun field member => List.mem_append_left _ (List.mem_append_right _ member)
      exact Wire.fits_bytesField (by decide) (by decide) (by omega) short field note
  · have wide : 2 ^ 64 ≤ 128 ^ limit :=
      le_trans (by decide : 2 ^ 64 ≤ 128 ^ 10) (Nat.pow_le_pow_right (by decide) enough)
    exact Wire.fits_varintField (by decide) (by decide) (by omega) (by omega) field timeout

theorem packed_ne_nil : Wire.write value.packed ≠ [] := by
  have url : Texts.bytes futureMsgTypeURL ≠ [] := by decide
  rw [AnchorValue.packed,Wire.write_append,Wire.bytesField,if_neg url]
  intro empty
  exact Wire.write_ne_nil _ (by simpa [Wire.write] using (List.append_eq_nil_iff.mp empty).1)

theorem allBytes_body : Wire.allBytes 1 (bodyFields messages memo timeoutHeight) =
    messages.map fun message => Wire.write message.anchor.packed := by
  have each : Wire.allBytes 1 (messages.flatMap fun message => Wire.bytesField 1 (Wire.write message.anchor.packed)) =
      messages.map fun message => Wire.write message.anchor.packed := by
    induction messages with
    | nil => rfl
    | cons message messages ih =>
      rw [List.flatMap_cons,Wire.allBytes_append,ih,Wire.allBytes_bytesField,if_pos ⟨rfl,packed_ne_nil⟩]
      rfl
  unfold bodyFields
  rw [Wire.allBytes_append,Wire.allBytes_append,each,Wire.allBytes_varintField,Wire.allBytes_bytesField,if_neg (by simp)]
  simp

/-- The rules of the wire format give back all that the body was made of. Ten bytes are enough for a varint unless the body
is longer than seventy bits can say. -/
theorem encodeTxBody_decodes (typed : ∀ message ∈ messages, message.typeURL = some futureMsgTypeURL)
    (ranges : ∀ message ∈ messages, message.anchor.InRange) (range : 0 ≤ timeoutHeight ∧ timeoutHeight < 2 ^ 64) :
    ∃ body, encodeTxBody messages memo timeoutHeight = .ok body ∧ ∀ limit, 10 ≤ limit → body.length < 128 ^ limit →
      decodeTxBody limit body = some {
        messages := messages.map fun message => (futureMsgTypeURL,message.anchor.message)
        memo := memo.getD ""
        timeoutHeight := UInt64.ofNat timeoutHeight.toNat } := by
  refine ⟨_,encodeTxBody_ok typed ranges range.1,fun limit enough less => ?_⟩
  have fields : fieldsOf limit [(1,2),(2,2),(3,0)] (Wire.write (bodyFields messages memo timeoutHeight)) =
      some (bodyFields messages memo timeoutHeight) := by
    unfold fieldsOf
    rw [Wire.read_write (by omega) (body_fits enough range less)]
    have listed : Wire.known [(1,2),(2,2),(3,0)]
        (messages.flatMap fun message => Wire.bytesField 1 (Wire.write message.anchor.packed)) = true :=
      Wire.known_flatMap fun _ _ => Wire.known_bytesField (by decide) _
    simp [bodyFields,listed,Wire.known_bytesField,Wire.known_varintField]
  have inner : (messages.map fun message => Wire.write message.anchor.packed).mapM (decodeAny limit) =
      some (messages.map fun message => (futureMsgTypeURL,message.anchor.message)) := by
    have short (message : TypedMessage) (listed : message ∈ messages) :
        (Wire.write message.anchor.packed).length < 128 ^ limit := content_fits less fun field member =>
      List.mem_append_left _ (List.mem_append_left _ (List.mem_flatMap.mpr ⟨message,listed,member⟩))
    clear less fields
    induction messages with
    | nil => rfl
    | cons message messages ih =>
      have first := decodeAny_write enough (ranges message List.mem_cons_self) (short message List.mem_cons_self)
      have rest := ih (fun message listed => typed message (List.mem_cons_of_mem _ listed))
        (fun message listed => ranges message (List.mem_cons_of_mem _ listed))
        (fun message listed => short message (List.mem_cons_of_mem _ listed))
      rw [List.map_cons,List.mapM_cons,first,rest]
      rfl
  have note : Wire.lastBytes 2 (bodyFields messages memo timeoutHeight) = Texts.bytes (memo.getD "") := by
    refine Wire.lastBytes_single 2 _ _ _ (Wire.allBytes_flatMap fun message _ => ?_) (Wire.allBytes_varintField ..)
    rw [Wire.allBytes_bytesField,if_neg (by simp)]
  have timeout : uint64 3 (bodyFields messages memo timeoutHeight) = some (UInt64.ofNat timeoutHeight.toNat) := by
    have last := Wire.lastVarint_listed (messages.map (fun message => (1,Wire.write message.anchor.packed)) ++
      [(2,Texts.bytes (memo.getD ""))]) 3 timeoutHeight.toNat
    rw [List.flatMap_append,List.flatMap_map,List.flatMap_singleton] at last
    unfold uint64 bodyFields
    rw [last,if_pos (by omega)]
  unfold decodeTxBody Adapter.text
  rw [fields,Option.bind_eq_bind,Option.bind_some,allBytes_body,inner,note,Wire.text_bytes,timeout]
  rfl

def paidMessage : TypedMessage where
  typeURL := some futureMsgTypeURL
  value := some { settlementBatchID := some "batch-7", lane := some "fast", totalRewardAmount := some 300 }

theorem encodeTxBody_decodes_paid : ∃ body, encodeTxBody [paidMessage] (some "läuft") 128 = .ok body ∧ body.length = 84 ∧
    decodeTxBody 10 body = some {
      messages := [(futureMsgTypeURL,paidMessage.anchor.message)]
      memo := "läuft"
      timeoutHeight := 128 } := by
  obtain ⟨body,encoded,decodes⟩ := @encodeTxBody_decodes [paidMessage] (some "läuft") 128 (by simp [paidMessage])
    (by simp [paidMessage,TypedMessage.anchor,AnchorValue.InRange]) (by decide)
  have length : (encodeTxBody [paidMessage] (some "läuft") 128).toOption.map List.length = some 84 := by decide +kernel
  rw [encoded] at length
  have bytes : body.length = 84 := Option.some.inj length
  exact ⟨body,encoded,bytes,decodes 10 le_rfl (by rw [bytes]; decide)⟩

end Clawchain.Adapter
