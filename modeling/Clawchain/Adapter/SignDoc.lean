import Clawchain.Adapter.Encoding
import Clawchain.Lib.PyText

/-! What is signed of a transaction: the bytes of its body and of its fee and signer, with the chain and the account. -/
namespace Clawchain.Adapter
open Clawchain.Lib

/-- A key with its bytes, none when they are missing. -/
structure PublicKey where
  typeURL : Option String
  key : Option Bytes

/-- What `compile_typed_tx_intent` encodes, its messages resolved. -/
structure TypedTx where
  messages : List TypedMessage
  memo : Option String
  timeoutHeight : Int
  publicKey : PublicKey
  sequence : Int
  feeAmount : String
  gasLimit : Int
  chainID : String
  accountNumber : Int

structure Compiled where
  txBody : Bytes
  authInfo : Bytes
  signDoc : Bytes
  unsignedTx : Bytes

def publicKeyTypeURL : String := "/cosmos.crypto.secp256k1.PubKey"

def normalizePublicKey (publicKey : PublicKey) : Except String Bytes :=
  if publicKey.typeURL ≠ some publicKeyTypeURL then .error ("unsupported public key type " ++ publicKey.typeURL.getD "None")
  else match publicKey.key with
    | none => .error "missing public key bytes"
    | some bytes => encodeBytesField 1 (some bytes)

def encodeModeInfo (signMode : Nat) : Except String Bytes := do
  encodeBytesField 1 (some ((← encodeFieldKey 1 0) ++ (← encodeVarint signMode)))

/-- `^(?P<amount>\d+)(?P<denom>[a-zA-Z][a-zA-Z0-9/:._-]*)$` -/
def parseCoinAmount (coinAmount : String) : Except String (String × String) :=
  let chars := (PyText.strip coinAmount).toList
  let amount := chars.takeWhile Char.isDigit
  let denom := chars.dropWhile Char.isDigit
  if amount ≠ [] ∧ (denom.take 1).any Char.isAlpha ∧ denom.all fun c => c.isAlphanum || c ∈ ['/',':','.','_','-'] then
    .ok (String.ofList amount,String.ofList denom)
  else .error ("invalid coin amount '" ++ coinAmount ++ "'")

def encodeCoin (coinAmount : String) : Except String Bytes := do
  let coin ← parseCoinAmount coinAmount
  join [encodeStringField 1 (some coin.2),encodeStringField 2 (some coin.1)]

def encodeFee (coinAmount : String) (gasLimit : Int) : Except String Bytes := do
  join [encodeBytesField 1 (some (← encodeCoin coinAmount)),encodeUint64Field 2 (some gasLimit)]

def encodeSignerInfo (publicKey : PublicKey) (sequence : Int) (signMode : Nat) : Except String Bytes := do
  let valueBytes ← normalizePublicKey publicKey
  join [encodeBytesField 1 (some (← encodeAny publicKeyTypeURL valueBytes)),
    encodeBytesField 2 (some (← encodeModeInfo signMode)),encodeUint64Field 3 (some sequence)]

def encodeAuthInfo (publicKey : PublicKey) (sequence : Int) (signMode : Nat) (feeAmount : String) (gasLimit : Int) :
    Except String Bytes := do
  join [encodeBytesField 1 (some (← encodeSignerInfo publicKey sequence signMode)),
    encodeBytesField 2 (some (← encodeFee feeAmount gasLimit))]

def encodeSignDoc (bodyBytes authInfoBytes : Bytes) (chainID : String) (accountNumber : Int) : Except String Bytes :=
  join [encodeBytesField 1 (some bodyBytes),encodeBytesField 2 (some authInfoBytes),encodeStringField 3 (some chainID),
    encodeUint64Field 4 (some accountNumber)]

def encodeTxRaw (bodyBytes authInfoBytes : Bytes) : Except String Bytes :=
  join [encodeBytesField 1 (some bodyBytes),encodeBytesField 2 (some authInfoBytes)]

def compileTypedTxIntent (tx : TypedTx) : Except String Compiled := do
  let txBody ← encodeTxBody tx.messages tx.memo tx.timeoutHeight
  let authInfo ← encodeAuthInfo tx.publicKey tx.sequence 1 tx.feeAmount tx.gasLimit
  let signDoc ← encodeSignDoc txBody authInfo tx.chainID tx.accountNumber
  return ⟨txBody,authInfo,signDoc,← encodeTxRaw txBody authInfo⟩

/-! What the encoder writes of it. -/

section Written
variable {tx : TypedTx} {key : Bytes} {coin : String × String}

/-- A transaction that can be encoded. -/
structure TypedTx.Ready (tx : TypedTx) : Prop where
  body : ∃ bytes, encodeTxBody tx.messages tx.memo tx.timeoutHeight = .ok bytes
  typed : tx.publicKey.typeURL = some publicKeyTypeURL
  key : ∃ bytes, tx.publicKey.key = some bytes
  fee : ∃ coin, parseCoinAmount tx.feeAmount = .ok coin
  sequence : 0 ≤ tx.sequence
  gasLimit : 0 ≤ tx.gasLimit
  accountNumber : 0 ≤ tx.accountNumber

def feeFields (coin : String × String) (gasLimit : Int) : List Wire.Field :=
  Wire.laid [(1,Wire.write (Wire.laid [(1,Texts.bytes coin.2),(2,Texts.bytes coin.1)] 3 0))] 2 gasLimit.toNat

def signerFields (key : Bytes) (sequence : Int) : List Wire.Field :=
  Wire.laid [(1,Wire.write (Wire.laid [(1,Texts.bytes publicKeyTypeURL),(2,Wire.write (Wire.laid [(1,key)] 2 0))] 3 0)),
    (2,[10,2,8,1])] 3 sequence.toNat

def authFields (tx : TypedTx) (key : Bytes) (coin : String × String) : List Wire.Field :=
  Wire.laid [(1,Wire.write (signerFields key tx.sequence)),(2,Wire.write (feeFields coin tx.gasLimit))] 3 0

def docFields (tx : TypedTx) (body auth : Bytes) : List Wire.Field :=
  Wire.laid [(1,body),(2,auth),(3,Texts.bytes tx.chainID)] 4 tx.accountNumber.toNat

theorem encodeFee_ok (ready : tx.Ready) (parsed : parseCoinAmount tx.feeAmount = .ok coin) :
    encodeFee tx.feeAmount tx.gasLimit = .ok (Wire.write (feeFields coin tx.gasLimit)) := by
  have inner : encodeCoin tx.feeAmount = .ok (Wire.write (Wire.laid [(1,Texts.bytes coin.2),(2,Texts.bytes coin.1)] 3 0)) := by
    unfold encodeCoin
    rw [parsed]
    simp only [bind,Except.bind,encodeStringField_ok]
    exact (join_ok [_,_]).trans (by simp [Wire.laid,Wire.varintField])
  unfold encodeFee
  rw [inner]
  simp only [bind,Except.bind,encodeBytesField_ok,encodeUint64Field_ok 2 (some tx.gasLimit) ready.gasLimit]
  exact (join_ok [_,_]).trans (by simp [feeFields,Wire.laid])

theorem encodeSignerInfo_ok (ready : tx.Ready) (held : tx.publicKey.key = some key) :
    encodeSignerInfo tx.publicKey tx.sequence 1 = .ok (Wire.write (signerFields key tx.sequence)) := by
  have mode : encodeModeInfo 1 = .ok [10,2,8,1] := rfl
  have value : normalizePublicKey tx.publicKey = .ok (Wire.write (Wire.laid [(1,key)] 2 0)) := by
    unfold normalizePublicKey
    rw [if_neg (not_not.mpr ready.typed),held]
    simp [encodeBytesField_ok,Wire.laid,Wire.varintField]
  have packed : encodeAny publicKeyTypeURL (Wire.write (Wire.laid [(1,key)] 2 0)) = .ok (Wire.write
      (Wire.laid [(1,Texts.bytes publicKeyTypeURL),(2,Wire.write (Wire.laid [(1,key)] 2 0))] 3 0)) := by
    unfold encodeAny
    rw [encodeStringField_ok,encodeBytesField_ok]
    exact (join_ok [_,_]).trans (by simp [Wire.laid,Wire.varintField])
  unfold encodeSignerInfo
  rw [value]
  simp only [bind,Except.bind,packed,mode,encodeBytesField_ok,encodeUint64Field_ok 3 (some tx.sequence) ready.sequence]
  exact (join_ok [_,_,_]).trans (by simp [signerFields,Wire.laid])

theorem compileTypedTxIntent_ok (ready : tx.Ready) {body : Bytes}
    (encoded : encodeTxBody tx.messages tx.memo tx.timeoutHeight = .ok body) (held : tx.publicKey.key = some key)
    (parsed : parseCoinAmount tx.feeAmount = .ok coin) : ∃ signed, compileTypedTxIntent tx = .ok signed ∧
      signed.signDoc = Wire.write (docFields tx body (Wire.write (authFields tx key coin))) := by
  have auth : encodeAuthInfo tx.publicKey tx.sequence 1 tx.feeAmount tx.gasLimit = .ok (Wire.write (authFields tx key coin)) := by
    unfold encodeAuthInfo
    rw [encodeSignerInfo_ok ready held,encodeFee_ok ready parsed]
    simp only [bind,Except.bind,encodeBytesField_ok]
    exact (join_ok [_,_]).trans (by simp [authFields,Wire.laid,Wire.varintField])
  have doc (auth : Bytes) : encodeSignDoc body auth tx.chainID tx.accountNumber = .ok (Wire.write (docFields tx body auth)) := by
    unfold encodeSignDoc
    rw [encodeBytesField_ok,encodeBytesField_ok,encodeStringField_ok,encodeUint64Field_ok 4 (some tx.accountNumber) ready.accountNumber]
    exact (join_ok [_,_,_,_]).trans (by simp [docFields,Wire.laid])
  have raw (auth : Bytes) : ∃ bytes, encodeTxRaw body auth = .ok bytes := by
    unfold encodeTxRaw
    rw [encodeBytesField_ok,encodeBytesField_ok]
    exact ⟨_,join_ok [_,_]⟩
  obtain ⟨bytes,joined⟩ := raw (Wire.write (authFields tx key coin))
  unfold compileTypedTxIntent
  rw [encoded,auth]
  simp only [bind,Except.bind,doc,joined]
  exact ⟨_,rfl,rfl⟩

end Written

theorem signerFields_told {key key' : Bytes} {sequence sequence' : Int}
    (same : Wire.write (signerFields key sequence) = Wire.write (signerFields key' sequence')) :
    key = key' ∧ sequence.toNat = sequence'.toNat := by
  unfold signerFields at same
  have outer := Wire.laid_injective same (by simp) (by simp) (by simp)
  simp only [List.cons.injEq,Prod.mk.injEq,true_and,and_true] at outer
  have packed := (Wire.laid_injective outer.1 (by simp) (by simp) (by simp)).1
  simp only [List.cons.injEq,Prod.mk.injEq,true_and,and_true] at packed
  exact ⟨by simpa using (Wire.laid_injective packed (by simp) (by simp) (by simp)).1,outer.2⟩

theorem feeFields_told {coin coin' : String × String} {gasLimit gasLimit' : Int}
    (same : Wire.write (feeFields coin gasLimit) = Wire.write (feeFields coin' gasLimit')) :
    coin = coin' ∧ gasLimit.toNat = gasLimit'.toNat := by
  unfold feeFields at same
  have outer := Wire.laid_injective same (by simp) (by simp) (by simp)
  simp only [List.cons.injEq,Prod.mk.injEq,true_and,and_true] at outer
  have inner := (Wire.laid_injective outer.1 (by simp) (by simp) (by simp)).1
  simp only [List.cons.injEq,Prod.mk.injEq,true_and,and_true] at inner
  exact ⟨Prod.ext (Texts.bytes_injective.mp inner.2) (Texts.bytes_injective.mp inner.1),outer.2⟩

def TypedTx.content (tx : TypedTx) :=
  (encodeTxBody tx.messages tx.memo tx.timeoutHeight,tx.publicKey,tx.sequence,parseCoinAmount tx.feeAmount,tx.gasLimit,
    tx.chainID,tx.accountNumber)

/-- A signature stands for one transaction: what is signed of two of them is the same exactly when they have the same body,
key, sequence, fee and gas limit, and are for the same account of the same chain. -/
theorem signDoc_binds {first other : TypedTx} (ready : first.Ready) (ready' : other.Ready) :
    ∃ signed signed', compileTypedTxIntent first = .ok signed ∧ compileTypedTxIntent other = .ok signed' ∧
      (signed.signDoc = signed'.signDoc ↔ first.content = other.content) := by
  obtain ⟨⟨body,encoded⟩,typed,⟨key,held⟩,⟨coin,parsed⟩,sequence,gas,account⟩ := id ready
  obtain ⟨⟨body',encoded'⟩,typed',⟨key',held'⟩,⟨coin',parsed'⟩,sequence',gas',account'⟩ := id ready'
  obtain ⟨signed,compiled,doc⟩ := compileTypedTxIntent_ok ready encoded held parsed
  obtain ⟨signed',compiled',doc'⟩ := compileTypedTxIntent_ok ready' encoded' held' parsed'
  refine ⟨signed,signed',compiled,compiled',fun same => ?_,fun same => ?_⟩
  · rw [doc,doc'] at same
    unfold docFields at same
    have outer := Wire.laid_injective same (by simp) (by simp) (by simp)
    simp only [List.cons.injEq,Prod.mk.injEq,true_and,and_true] at outer
    obtain ⟨⟨bodies,auths,chains⟩,accounts⟩ := outer
    unfold authFields at auths
    have inner := Wire.laid_injective auths (by simp) (by simp) (by simp)
    simp only [List.cons.injEq,Prod.mk.injEq,true_and,and_true] at inner
    obtain ⟨signers,fees⟩ := inner
    obtain ⟨keys,sequences⟩ := signerFields_told signers
    obtain ⟨coins,gases⟩ := feeFields_told fees
    have publicKeys : first.publicKey = other.publicKey := by
      cases h : first.publicKey
      cases h' : other.publicKey
      simp_all
    simp only [TypedTx.content,encoded,encoded',bodies,publicKeys,parsed,parsed',coins,Texts.bytes_injective.mp chains,Prod.mk.injEq]
    exact ⟨trivial,trivial,by omega,trivial,by omega,trivial,by omega⟩
  · simp only [TypedTx.content,Prod.mk.injEq] at same
    obtain ⟨bodies,keys,sequences,coins,gases,chains,accounts⟩ := same
    have one : compileTypedTxIntent first = compileTypedTxIntent other := by
      simp only [compileTypedTxIntent,encodeAuthInfo,encodeFee,encodeCoin,bodies,keys,sequences,coins,gases,chains,accounts]
    rw [Except.ok.inj (compiled.symm.trans (one.trans compiled'))]

def paidTx (sequence : Int) : TypedTx where
  messages := [paidMessage]
  memo := some "läuft"
  timeoutHeight := 0
  publicKey := ⟨some publicKeyTypeURL,some [2,7]⟩
  sequence := sequence
  feeAmount := "10uclaw"
  gasLimit := 200000
  chainID := "clawchain-testnet-1"
  accountNumber := 4

theorem paidTx_ready {sequence : Int} (positive : 0 ≤ sequence) : (paidTx sequence).Ready where
  body := ⟨_,rfl⟩
  typed := rfl
  key := ⟨_,rfl⟩
  fee := ⟨("10","uclaw"),(by decide +kernel : parseCoinAmount "10uclaw" = _)⟩
  sequence := positive
  gasLimit := Int.natCast_nonneg 200000
  accountNumber := Int.natCast_nonneg 4

/-- A payment that is sent once more needs another signature. -/
theorem signDoc_binds_again : ∃ signed signed', compileTypedTxIntent (paidTx 0) = .ok signed ∧
    compileTypedTxIntent (paidTx 1) = .ok signed' ∧ signed.signDoc ≠ signed'.signDoc := by
  obtain ⟨signed,signed',compiled,compiled',same⟩ := signDoc_binds (paidTx_ready le_rfl) (paidTx_ready Int.one_nonneg)
  exact ⟨signed,signed',compiled,compiled',fun one => by simpa [TypedTx.content,paidTx] using same.mp one⟩

end Clawchain.Adapter
