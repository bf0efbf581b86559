import Clawchain.Lib.Texts
import Mathlib.Data.Nat.Digits.Defs
import Mathlib.Data.List.DropRight
import Mathlib.Tactic.Push

/-! Decimal formatting with zero padding, reading the number at the end of an
identifier back, and trimming. -/
namespace Clawchain.Lib.Format

def padded (width n : Nat) : List Char :=
  List.replicate (width - (Nat.toDigits 10 n).length) '0' ++ Nat.toDigits 10 n

def pad (width n : Nat) : String := String.ofList (padded width n)

/-- Go's `%0<width>d` of an integer: the sign counts towards the width. -/
def padInt (width : Nat) (n : Int) : String :=
  if n < 0 then "-" ++ pad (width - 1) n.natAbs else pad width n.natAbs

/-- `strconv.Atoi`; the numbers read here are far from the limits of the machine's integers. -/
def atoi (text : List Char) : Option Int :=
  let digits (negative : Bool) (rest : List Char) : Option Int :=
    if rest = [] ∨ rest.all Char.isDigit = false then none
    else some (if negative then -(Nat.ofDigitChars 10 rest 0 : Int) else Nat.ofDigitChars 10 rest 0)
  match text with
  | '-' :: rest => digits true rest
  | '+' :: rest => digits false rest
  | _ => digits false text

/-- `unicode.IsSpace`. -/
def isSpace (c : Char) : Bool :=
  let code := c.toNat
  (9 ≤ code && code ≤ 13) || code == 0x20 || code == 0x85 || code == 0xA0 || code == 0x1680 ||
    (0x2000 ≤ code && code ≤ 0x200A) || code == 0x2028 || code == 0x2029 || code == 0x202F || code == 0x205F ||
    code == 0x3000

/-- `strings.TrimSpace`. -/
def trimSpace (text : String) : String :=
  String.ofList ((text.toList.dropWhile isSpace).reverse.dropWhile isSpace).reverse

/-- The number after the last colon, 0 when there is none. -/
def trailingInt (value : String) : Int :=
  if ':' ∈ value.toList then (atoi (value.toList.rtakeWhile (· ≠ ':'))).getD 0 else 0

theorem padded_digits (width n : Nat) : (padded width n).all Char.isDigit = true := by
  unfold padded
  rw [List.all_append,Bool.and_eq_true]
  constructor
  · rw [List.all_eq_true]
    intro c member
    rw [List.eq_of_mem_replicate member]
    rfl
  · rw [List.all_eq_true]
    intro c member
    exact Nat.isDigit_of_mem_toDigits (by omega) (by omega) member

theorem padded_ne_nil (width n : Nat) : padded width n ≠ [] := by
  unfold padded
  intro empty
  exact Nat.toDigits_ne_nil (List.append_eq_nil_iff.mp empty).2

theorem ofDigitChars_padded (width n : Nat) : Nat.ofDigitChars 10 (padded width n) 0 = n := by
  unfold padded
  rw [Nat.ofDigitChars_append,Nat.ofDigitChars_replicate_zero,Nat.mul_zero]
  exact Nat.ofDigitChars_toDigits (by omega) (by omega)

theorem atoi_padded (width n : Nat) : atoi (padded width n) = some (n : Int) := by
  have digits := padded_digits width n
  have some_ := padded_ne_nil width n
  have value := ofDigitChars_padded width n
  cases shape : padded width n with
  | nil => exact absurd shape some_
  | cons c rest =>
    rw [shape] at digits value
    have isDigit : c.isDigit = true := by
      rw [List.all_cons,Bool.and_eq_true] at digits
      exact digits.1
    -- A digit is no sign.
    have plain : atoi (c :: rest) = if c :: rest = [] ∨ (c :: rest).all Char.isDigit = false then none
        else some (Nat.ofDigitChars 10 (c :: rest) 0 : Int) := by
      unfold atoi
      split
      · rename_i same
        cases same
        exact absurd isDigit (by decide)
      · rename_i same
        cases same
        exact absurd isDigit (by decide)
      · rfl
    rw [plain,if_neg (by simp [digits]),value]

theorem trailingInt_pad (head : String) (width n : Nat) : trailingInt (head ++ ":" ++ pad width n) = n := by
  have chars : (head ++ ":" ++ pad width n).toList = head.toList ++ [':'] ++ padded width n := by
    simp [pad,String.toList_append]
  have tail : (head.toList ++ [':'] ++ padded width n).rtakeWhile (· ≠ ':') = padded width n := by
    rw [List.rtakeWhile,List.reverse_append,List.reverse_append,List.takeWhile_append_of_pos]
    · simp
    · intro c member
      have digit := List.all_eq_true.mp (padded_digits width n) c (List.mem_reverse.mp member)
      rw [decide_eq_true_iff]
      rintro rfl
      exact absurd digit (by decide)
  unfold trailingInt
  rw [chars,tail,atoi_padded,if_pos (by simp)]
  rfl

theorem trailingInt_padInt (head : String) (width : Nat) {n : Int} (nonneg : 0 ≤ n) :
    trailingInt (head ++ ":" ++ padInt width n) = n := by
  unfold padInt
  rw [if_neg (by omega),trailingInt_pad]
  omega

theorem pad_injective {width n m : Nat} {tail tail' : List Char} (ends : tail = [] ∨ ∃ rest, tail = ':' :: rest)
    (ends' : tail' = [] ∨ ∃ rest, tail' = ':' :: rest) (same : padded width n ++ tail = padded width m ++ tail') :
    n = m := by
  have front (k : Nat) {rest : List Char} (ended : rest = [] ∨ ∃ more, rest = ':' :: more) :
      (padded width k ++ rest).takeWhile (· ≠ ':') = padded width k := by
    rw [List.takeWhile_append_of_pos]
    · rcases ended with rfl | ⟨more,rfl⟩ <;> simp
    · intro c member
      have digit := List.all_eq_true.mp (padded_digits width k) c member
      rw [decide_eq_true_iff]
      rintro rfl
      exact absurd digit (by decide)
  have digits : padded width n = padded width m := by
    rw [← front n ends,same,front m ends']
  rw [← ofDigitChars_padded width n,digits,ofDigitChars_padded]

variable {c : Char}

theorem notMem_toString (other : c.isDigit = false) (unsigned : c ≠ '-') (n : Int) : c ∉ (toString n).toList := by
  have digits (m : Nat) : c ∉ (toString m).toList := by
    intro member
    have digit : c.isDigit = true := by
      apply Nat.isDigit_of_mem_toDigits (b := 10) (n := m) (by omega) (by omega)
      simpa [toString,Nat.repr] using member
    exact absurd digit (by simp [other])
  cases n with
  | ofNat m => exact digits m
  | negSucc m =>
    have signed : toString (Int.negSucc m) = "-" ++ toString (m + 1) := rfl
    rw [signed,String.toList_append,List.mem_append]
    rintro (sign | inside)
    · exact unsigned (by simpa using sign)
    · exact digits _ inside

theorem colon_notMem_toString (n : Int) : ':' ∉ (toString n).toList := notMem_toString (by decide) (by decide) n

theorem toString_injective {n m : Int} (same : toString n = toString m) : n = m := by
  have digits {k l : Nat} (same : (toString k).toList = (toString l).toList) : k = l := by
    have chars := congrArg (fun chars => Nat.ofDigitChars 10 chars 0) same
    simpa [toString,Nat.repr,Nat.ofDigitChars_toDigits] using chars
  have signed (k : Nat) : toString (Int.negSucc k) = "-" ++ toString (k + 1) := rfl
  have unsigned (k : Nat) : '-' ∉ (toString k).toList := by
    intro member
    have digit : Char.isDigit '-' = true := by
      apply Nat.isDigit_of_mem_toDigits (b := 10) (n := k) (by omega) (by omega)
      simpa [toString,Nat.repr] using member
    exact absurd digit (by decide)
  have apart (k l : Nat) : toString (Int.ofNat k) ≠ toString (Int.negSucc l) := by
    intro equal
    rw [signed] at equal
    exact unsigned k (by rw [show toString k = "-" ++ toString (l + 1) from equal]; simp)
  cases n with
  | ofNat k =>
    cases m with
    | ofNat l => exact congrArg Int.ofNat (digits (congrArg String.toList same))
    | negSucc l => exact absurd same (apart k l)
  | negSucc k =>
    cases m with
    | ofNat l => exact absurd same.symm (apart l k)
    | negSucc l =>
      rw [signed,signed] at same
      have chars := congrArg String.toList same
      rw [String.toList_append,String.toList_append] at chars
      exact congrArg Int.negSucc (Nat.succ.inj (digits (List.append_cancel_left chars)))

theorem firstField_injective {a b x y : List Char} (plainA : c ∉ a) (plainB : c ∉ b) (same : a ++ c :: x = b ++ c :: y)
    : a = b ∧ x = y := by
  have front (l rest : List Char) (plain : c ∉ l) : (l ++ c :: rest).takeWhile (· ≠ c) = l := by
    rw [List.takeWhile_append_of_pos]
    · simp
    · intro d member
      rw [decide_eq_true_iff]
      rintro rfl
      exact plain member
  have heads : a = b := by
    rw [← front _ x plainA,same,front _ _ plainB]
  rw [heads] at same
  exact ⟨heads,(List.cons.inj (List.append_cancel_left same)).2⟩

theorem fields_injective {a b x y : String} (plainA : ':' ∉ a.toList) (plainB : ':' ∉ b.toList)
    (same : a ++ ":" ++ x = b ++ ":" ++ y) : a = b ∧ x = y := by
  have chars : a.toList ++ ':' :: x.toList = b.toList ++ ':' :: y.toList := by
    simpa [String.toList_append] using congrArg String.toList same
  obtain ⟨heads,tails⟩ := firstField_injective plainA plainB chars
  exact ⟨String.toList_injective heads,String.toList_injective tails⟩

theorem notMem_padInt (other : c.isDigit = false) (unsigned : c ≠ '-') (width : Nat) (n : Int) :
    c ∉ (padInt width n).toList := by
  have digits (width m : Nat) : c ∉ (pad width m).toList := by
    intro member
    have inside : c ∈ padded width m := by simpa [pad] using member
    exact absurd (List.all_eq_true.mp (padded_digits width m) c inside) (by simp [other])
  unfold padInt
  split
  · rw [String.toList_append,List.mem_append]
    rintro (sign | inside)
    · exact unsigned (by simpa using sign)
    · exact digits _ _ inside
  · exact digits _ _

theorem colon_notMem_padInt (width : Nat) (n : Int) : ':' ∉ (padInt width n).toList :=
  notMem_padInt (by decide) (by decide) width n

theorem lastField_injective {a b x y : String} (plainX : ':' ∉ x.toList) (plainY : ':' ∉ y.toList)
    (same : a ++ ":" ++ x = b ++ ":" ++ y) : a = b ∧ x = y := by
  have chars : a.toList ++ ':' :: x.toList = b.toList ++ ':' :: y.toList := by
    simpa [String.toList_append] using congrArg String.toList same
  have back (l rest : List Char) (plain : ':' ∉ rest) : (l ++ ':' :: rest).rtakeWhile (· ≠ ':') = rest := by
    rw [List.rtakeWhile,List.reverse_append,List.reverse_cons,List.append_assoc,List.takeWhile_append_of_pos]
    · simp
    · intro c member
      rw [decide_eq_true_iff]
      rintro rfl
      exact plain (List.mem_reverse.mp member)
  have tails : x.toList = y.toList := by
    rw [← back a.toList _ plainX,chars,back _ _ plainY]
  rw [tails] at chars
  exact ⟨String.toList_injective (List.append_cancel_right chars),String.toList_injective tails⟩

theorem trimSpace_eq_empty_iff {text : String} : trimSpace text = "" ↔ ∀ c ∈ text.toList, isSpace c = true := by
  have chars : trimSpace text = "" ↔ (text.toList.dropWhile isSpace).reverse.dropWhile isSpace = [] := by
    rw [← String.toList_inj]
    simp [trimSpace]
  rw [chars,List.dropWhile_eq_nil_iff]
  constructor
  · intro spaces
    have nothing : text.toList.dropWhile isSpace = [] := by
      by_contra left
      have first := List.head_dropWhile_not isSpace left
      rw [spaces _ (List.mem_reverse.mpr (List.head_mem left))] at first
      cases first
    exact List.dropWhile_eq_nil_iff.mp nothing
  · intro spaces c member
    exact spaces c ((List.dropWhile_sublist _).subset (List.mem_reverse.mp member))

theorem trimSpace_trimSpace_eq_empty_iff {text : String} : trimSpace (trimSpace text) = "" ↔ trimSpace text = "" := by
  constructor
  · intro blank
    have spaces := trimSpace_eq_empty_iff.mp blank
    by_contra left
    have some_ : (text.toList.dropWhile isSpace).reverse.dropWhile isSpace ≠ [] := by
      intro nothing
      exact left (by rw [trimSpace,nothing]; rfl)
    have last := List.head_dropWhile_not isSpace some_
    rw [spaces _ (by simp only [trimSpace,String.toList_ofList]; exact List.mem_reverse.mpr (List.head_mem some_))] at last
    cases last
  · intro blank
    rw [blank]
    rfl

end Clawchain.Lib.Format
