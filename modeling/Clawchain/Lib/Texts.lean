import Mathlib.Data.String.Basic

/-! Texts are compared by their bytes. UTF-8 keeps the order of the characters, so the order is that of the texts; it is
decided without decoding them. -/
namespace Clawchain.Lib.Texts

def before : List UInt8 → List UInt8 → Bool
  | _,[] => false
  | [],_ :: _ => true
  | a :: as,b :: bs => if a.toNat.blt b.toNat then true else if a.toNat.beq b.toNat then before as bs else false

def same : List UInt8 → List UInt8 → Bool
  | [],[] => true
  | a :: as,b :: bs => if a.toNat.beq b.toNat then same as bs else false
  | _,_ => false

def bytes (text : String) : List UInt8 := text.toByteArray.data.toList

theorem same_iff {as bs : List UInt8} : same as bs = true ↔ as = bs := by
  induction as generalizing bs with
  | nil => cases bs <;> simp [same]
  | cons a as ih =>
    cases bs with
    | nil => simp [same]
    | cons b bs => simp [same,ih,UInt8.toNat_inj]

variable {first second : String}

theorem bytes_injective : bytes first = bytes second ↔ first = second := by
  rw [← String.toByteArray_inj]
  unfold bytes
  rw [Array.toList_inj]
  exact ⟨ByteArray.ext,fun equal => equal ▸ rfl⟩

theorem bytes_eq (text : String) : bytes text = text.toList.flatMap String.utf8EncodeChar := by
  unfold bytes
  rw [← String.utf8Encode_toList]
  exact List.toList_data_toByteArray

theorem before_append (common as bs : List UInt8) : before (common ++ as) (common ++ bs) = before as bs := by
  induction common with
  | nil => rfl
  | cons byte rest ih => simp [before,ih]

theorem before_asymm {as bs : List UInt8} (earlier : before as bs = true) : before bs as = false := by
  induction as generalizing bs with
  | nil => cases bs <;> simp [before]
  | cons a as ih =>
    cases bs with
    | nil => simp [before] at earlier
    | cons b bs =>
      simp only [before,Nat.blt_eq,Nat.beq_eq] at earlier ⊢
      split_ifs at earlier ⊢ <;> first | omega | rfl | exact ih earlier

theorem before_utf8EncodeChar {c d : Char} (smaller : c < d) (as bs : List UInt8) :
    before (String.utf8EncodeChar c ++ as) (String.utf8EncodeChar d ++ bs) = true := by
  have less : c.val.toNat < d.val.toNat := smaller
  have bound : d.val.toNat < 1114112 := by
    have valid := d.valid
    unfold UInt32.isValidChar Nat.isValidChar at valid
    omega
  unfold String.utf8EncodeChar
  generalize c.val.toNat = v at less
  generalize d.val.toNat = w at less bound
  dsimp only
  split_ifs <;> simp only [List.cons_append,List.nil_append,before,UInt8.toNat_ofNat',Nat.blt_eq,Nat.beq_eq] <;>
    split_ifs <;> first | rfl | omega

theorem before_encoded {as bs : List Char} :
    before (as.flatMap String.utf8EncodeChar) (bs.flatMap String.utf8EncodeChar) = true ↔ as < bs := by
  induction as generalizing bs with
  | nil =>
    cases bs with
    | nil => simp [before]
    | cons b bs =>
      cases encoded : String.utf8EncodeChar b with
      | nil => exact absurd encoded String.utf8EncodeChar_ne_nil
      | cons byte rest => simp [encoded,before]
  | cons a as ih =>
    cases bs with
    | nil => simp [before]
    | cons b bs =>
      rw [List.flatMap_cons,List.flatMap_cons,List.cons_lt_cons_iff]
      rcases lt_trichotomy a b with less | rfl | greater
      · simp [before_utf8EncodeChar less,less]
      · rw [before_append,ih]
        simp
      · have later := before_asymm (before_utf8EncodeChar greater (bs.flatMap String.utf8EncodeChar)
          (as.flatMap String.utf8EncodeChar))
        simp [later,greater.le,greater.ne']

theorem before_iff : before (bytes first) (bytes second) = true ↔ first < second := by
  rw [bytes_eq,bytes_eq,before_encoded,String.lt_iff_toList_lt]

theorem not_before_iff : (!before (bytes second) (bytes first)) = true ↔ first ≤ second := by
  rw [Bool.not_eq_true',← Bool.not_eq_true,before_iff,not_lt]

instance (priority := high) decidableEq : DecidableEq String := fun _ _ => decidable_of_iff _ (same_iff.trans bytes_injective)

instance (priority := high) lawfulBEq : @LawfulBEq String (@instBEqOfDecidableEq String decidableEq) := inferInstance

instance (priority := high) decidableLT : DecidableLT String := fun _ _ => decidable_of_iff _ before_iff

instance (priority := high) decidableLE : DecidableLE String := fun _ _ => decidable_of_iff _ not_before_iff

instance (priority := high) linearOrder : LinearOrder String where
  __ := String.instLinearOrder
  toDecidableLT := inferInstance
  toDecidableLE := inferInstance
  toDecidableEq := inferInstance
  min_def := fun first second => (min_def first second).trans (by congr)
  max_def := fun first second => (max_def first second).trans (by congr)
  compare_eq_compareOfLessAndEq := fun first second => (String.instLinearOrder.compare_eq_compareOfLessAndEq first second).trans (by
    unfold compareOfLessAndEq
    congr)

end Clawchain.Lib.Texts
