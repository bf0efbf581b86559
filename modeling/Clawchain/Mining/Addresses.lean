import Clawchain.Lib.Fallible
import Mathlib.Data.Nat.Bitwise
import Mathlib.Data.Nat.Digits.Lemmas

/-! Addresses in bech32. A register of thirty bits, which is linear in exclusive or, makes the checksum, and bytes are
written in groups of five bits. An address reads back: its values leave 1 in the register and regroup to the bytes. -/
namespace Clawchain.Mining.Addresses

def charset : List Char := "qpzry9x8gf2tvdw0s3jn54khce6mua7l".toList

def gen : List Nat := [0x3b6a57b2,0x26508e6d,0x1ea119fa,0x3d4233dd,0x2a1462b3]

/-- What a bit that leaves the register is worth. -/
def tap (b : Nat) (generator : Nat × Nat) : Nat := if (b >>> generator.2) &&& 1 ≠ 0 then generator.1 else 0

def polymodStep (chk v : Nat) : Nat :=
  (gen.zipIdx.map (tap (chk >>> 25))).foldl (· ^^^ ·) (((chk &&& 0x1FFFFFF) <<< 5) ^^^ v)

def polymod (values : List Nat) : Nat := values.foldl polymodStep 1

def hrpExpand (hrp : String) : List Nat :=
  (hrp.toList.map fun x => x.toNat >>> 5) ++ [0] ++ hrp.toList.map fun x => x.toNat &&& 31

def createChecksum (hrp : String) (data : List Nat) : List Nat :=
  let polymod := polymod (hrpExpand hrp ++ data ++ [0,0,0,0,0,0]) ^^^ 1
  (List.range 6).map fun i => (polymod >>> (5 * (5 - i))) &&& 31

def takeGroups (tobits acc : Nat) : Nat → Nat → List Nat × Nat
  | 0,bits => ([],bits)
  | rounds + 1,bits =>
    if tobits ≤ bits then
      let rest := takeGroups tobits acc rounds (bits - tobits)
      (((acc >>> (bits - tobits)) &&& (1 <<< tobits - 1)) :: rest.1,rest.2)
    else ([],bits)

structure Grouping where
  acc : Nat := 0
  bits : Nat := 0
  ret : List Nat := []

def Grouping.push (frombits tobits : Nat) (grouping : Grouping) (value : Nat) : Grouping :=
  let acc := (grouping.acc <<< frombits) ||| value
  let bits := grouping.bits + frombits
  let taken := takeGroups tobits acc bits bits
  { acc := acc
    bits := taken.2
    ret := grouping.ret ++ taken.1 }

def convertbits (data : List Nat) (frombits tobits : Nat) (pad : Bool) : List Nat :=
  let grouping := data.foldl (Grouping.push frombits tobits) {}
  if pad ∧ grouping.bits ≠ 0 then
    grouping.ret ++ [(grouping.acc <<< (tobits - grouping.bits)) &&& (1 <<< tobits - 1)]
  else grouping.ret

def bech32Encode (hrp : String) (dataBytes : List UInt8) : Option String := do
  let data5 := convertbits (dataBytes.map UInt8.toNat) 8 5 true
  let chars ← (data5 ++ createChecksum hrp data5).mapM fun d => charset[d]?
  return hrp ++ "1" ++ String.ofList chars

def afterSeparator (address : String) : List Char := (address.toList.reverse.takeWhile (· ≠ '1')).reverse

def valuesOf (address : String) : List Nat := (afterSeparator address).map charset.idxOf

def dataPart (address : String) : List Nat := (valuesOf address).take ((valuesOf address).length - 6)

theorem xor_exchange (a b c d : Nat) : a ^^^ b ^^^ (c ^^^ d) = a ^^^ c ^^^ (b ^^^ d) := by
  rw [Nat.xor_assoc,Nat.xor_assoc,← Nat.xor_assoc b,Nat.xor_comm b c,Nat.xor_assoc c]

theorem tap_xor (a b : Nat) (generator : Nat × Nat) : tap (a ^^^ b) generator = tap a generator ^^^ tap b generator := by
  have bit (x : Nat) : (x >>> generator.2) &&& 1 ≠ 0 ↔ x.testBit generator.2 = true := by
    simp [Nat.testBit,Nat.and_comm]
  simp only [tap,bit,Nat.testBit_xor]
  cases a.testBit generator.2 <;> cases b.testBit generator.2 <;> simp

theorem taps_xor (a b x y : Nat) (generators : List (Nat × Nat)) :
    (generators.map (tap (a ^^^ b))).foldl (· ^^^ ·) (x ^^^ y) =
      (generators.map (tap a)).foldl (· ^^^ ·) x ^^^ (generators.map (tap b)).foldl (· ^^^ ·) y := by
  induction generators generalizing x y with
  | nil => rfl
  | cons generator generators ih =>
    simp only [List.map_cons,List.foldl_cons]
    rw [tap_xor,xor_exchange,ih]

theorem polymodStep_xor (a b v w : Nat) : polymodStep (a ^^^ b) (v ^^^ w) = polymodStep a v ^^^ polymodStep b w := by
  unfold polymodStep
  rw [Nat.shiftRight_xor_distrib,Nat.and_xor_distrib_right,Nat.shiftLeft_xor_distrib,xor_exchange,taps_xor]

theorem run_xor (a b : Nat) (values : List Nat) : values.foldl polymodStep (a ^^^ b) =
    (values.map fun _ => 0).foldl polymodStep a ^^^ values.foldl polymodStep b := by
  induction values generalizing a b with
  | nil => rfl
  | cons v values ih =>
    have step := polymodStep_xor a b 0 v
    rw [Nat.zero_xor] at step
    simp only [List.map_cons,List.foldl_cons]
    rw [step,ih]

theorem foldl_xor_lt {n start : Nat} {values : List Nat} (small : start < 2 ^ n) (all : ∀ v ∈ values, v < 2 ^ n) :
    values.foldl (· ^^^ ·) start < 2 ^ n := by
  induction values generalizing start with
  | nil => exact small
  | cons v values ih =>
    exact ih (Nat.xor_lt_two_pow small (all v List.mem_cons_self)) fun w inside => all w (List.mem_cons_of_mem _ inside)

theorem polymodStep_lt {chk v : Nat} (small : v < 32) : polymodStep chk v < 2 ^ 30 := by
  apply foldl_xor_lt
  · apply Nat.xor_lt_two_pow
    · have low : chk &&& 0x1FFFFFF < 2 ^ 25 := Nat.and_lt_two_pow _ (by decide)
      rw [Nat.shiftLeft_eq]
      omega
    · omega
  · have each : ∀ generator ∈ gen.zipIdx, generator.1 < 2 ^ 30 := by decide
    rintro v inside
    obtain ⟨generator,listed,rfl⟩ := List.mem_map.mp inside
    unfold tap
    split_ifs
    · exact each generator listed
    · decide

theorem polymodStep_low {chk v : Nat} (room : chk < 2 ^ 25) (small : v < 32) : polymodStep chk v = 32 * chk + v := by
  have none_ : chk >>> 25 = 0 := by rw [Nat.shiftRight_eq_div_pow]; omega
  have all_ : chk &&& 0x1FFFFFF = chk := by
    rw [show 0x1FFFFFF = 2 ^ 25 - 1 by decide,Nat.and_two_pow_sub_one_eq_mod,Nat.mod_eq_of_lt room]
  have zeros : gen.zipIdx.map (tap 0) = [0,0,0,0,0] := by decide
  have joined : chk <<< 5 ^^^ v = chk <<< 5 + v := by
    rw [Nat.shiftLeft_add_eq_or_of_lt (by omega)]
    apply Nat.eq_of_testBit_eq
    intro i
    rw [Nat.testBit_xor,Nat.testBit_or,Nat.testBit_shiftLeft]
    by_cases low : 5 ≤ i
    · have above : v < 2 ^ i := lt_of_lt_of_le small (Nat.pow_le_pow_right (show 0 < 2 by decide) low)
      simp [Nat.testBit_lt_two_pow above]
    · simp [low]
  rw [polymodStep,none_,all_,zeros,joined,Nat.shiftLeft_eq]
  simp
  omega

theorem polymodStep_digit {p : Nat} (small : p < 2 ^ 30) (k : Nat) :
    polymodStep (p / 2 ^ (k + 5)) (p / 2 ^ k % 32) = p / 2 ^ k := by
  have shifted : p / 2 ^ (k + 5) = p / 2 ^ k / 32 := by rw [Nat.pow_add,Nat.div_div_eq_div_mul]
  have room : p / 2 ^ k ≤ p := Nat.div_le_self _ _
  rw [shifted,polymodStep_low (by omega) (Nat.mod_lt _ (by decide)),Nat.div_add_mod]

theorem run_digits {p : Nat} (small : p < 2 ^ 30) :
    ((List.range 6).map fun i => (p >>> (5 * (5 - i))) &&& 31).foldl polymodStep 0 = p := by
  have digit (i : Nat) : (p >>> i) &&& 31 = p / 2 ^ i % 32 := by
    rw [show 31 = 2 ^ 5 - 1 by decide,Nat.and_two_pow_sub_one_eq_mod,Nat.shiftRight_eq_div_pow]
  have listed : (List.range 6).map (fun i => (p >>> (5 * (5 - i))) &&& 31) = [25,20,15,10,5,0].map fun i => (p >>> i) &&& 31 := rfl
  have step := polymodStep_digit small
  have empty : p / 2 ^ (25 + 5) = 0 := Nat.div_eq_of_lt small
  have first := step 25
  rw [empty] at first
  rw [listed]
  simp only [List.map_cons,List.map_nil,List.foldl_cons,List.foldl_nil,digit]
  rw [first,step 20,step 15,step 10,step 5,step 0,Nat.pow_zero,Nat.div_one]

theorem polymod_checksum (hrp : String) (data : List Nat) :
    polymod (hrpExpand hrp ++ (data ++ createChecksum hrp data)) = 1 := by
  have whole (rest : List Nat) : polymod (hrpExpand hrp ++ data ++ rest) = rest.foldl polymodStep (polymod (hrpExpand hrp ++ data)) := by
    simp [polymod,List.foldl_append]
  have last : polymod (hrpExpand hrp ++ data ++ [0,0,0,0,0,0]) < 2 ^ 30 := by
    rw [whole]
    exact polymodStep_lt (by decide)
  have small : polymod (hrpExpand hrp ++ data ++ [0,0,0,0,0,0]) ^^^ 1 < 2 ^ 30 := Nat.xor_lt_two_pow last (by decide)
  have zeros : (createChecksum hrp data).map (fun _ => 0) = [0,0,0,0,0,0] := rfl
  rw [← List.append_assoc,whole,← Nat.xor_zero (polymod (hrpExpand hrp ++ data)),run_xor,zeros,← whole]
  unfold createChecksum
  rw [run_digits small,← Nat.xor_assoc,Nat.xor_self,Nat.zero_xor]

theorem createChecksum_lt (hrp : String) (data : List Nat) : ∀ v ∈ createChecksum hrp data, v < 32 := by
  intro v inside
  obtain ⟨i,-,rfl⟩ := List.mem_map.mp inside
  exact Nat.and_lt_two_pow _ (show 31 < 2 ^ 5 by decide)

def number (bits : Nat) (values : List Nat) : Nat := Nat.ofDigits (2 ^ bits) values.reverse

theorem number_concat (bits : Nat) (values : List Nat) (v : Nat) :
    number bits (values ++ [v]) = number bits values * 2 ^ bits + v := by
  rw [number,List.reverse_append,List.reverse_singleton,List.singleton_append,Nat.ofDigits_cons,number]
  ring

variable {tobits bits frombits : Nat} {data : List Nat}

theorem number_injective (some_ : 0 < bits) {first second : List Nat} (length : first.length = second.length)
    (left : ∀ v ∈ first, v < 2 ^ bits) (right : ∀ v ∈ second, v < 2 ^ bits)
    (same : number bits first = number bits second) :
    first = second :=
  List.reverse_injective (Nat.ofDigits_inj_of_len_eq (Nat.one_lt_two_pow (Nat.ne_of_gt some_)) (by simpa using length)
    (by simpa using left) (by simpa using right) same)

/-- The groups are the highest bits of the accumulated number. -/
structure Groups (tobits acc bits : Nat) (ret : List Nat) : Prop where
  value : number tobits ret = acc / 2 ^ bits
  small : ∀ v ∈ ret, v < 2 ^ tobits

theorem Groups.take {acc : Nat} {ret : List Nat} (groups : Groups tobits acc bits ret) (enough : tobits ≤ bits) :
    Groups tobits acc (bits - tobits) (ret ++ [(acc >>> (bits - tobits)) &&& (1 <<< tobits - 1)]) := by
  have digit : (acc >>> (bits - tobits)) &&& (1 <<< tobits - 1) = acc / 2 ^ (bits - tobits) % 2 ^ tobits := by
    rw [Nat.one_shiftLeft,Nat.and_two_pow_sub_one_eq_mod,Nat.shiftRight_eq_div_pow]
  have high : acc / 2 ^ bits = acc / 2 ^ (bits - tobits) / 2 ^ tobits := by
    rw [Nat.div_div_eq_div_mul,← Nat.pow_add,Nat.sub_add_cancel enough]
  constructor
  · rw [number_concat,groups.value,digit,high,Nat.mul_comm,Nat.div_add_mod]
  · intro v inside
    rcases List.mem_append.mp inside with old | new
    · exact groups.small v old
    · rw [List.mem_singleton.mp new,digit]
      exact Nat.mod_lt _ (Nat.two_pow_pos tobits)

theorem takeGroups_groups {acc rounds : Nat} {ret : List Nat} (some_ : 0 < tobits) (enough : bits ≤ rounds)
    (groups : Groups tobits acc bits ret) :
    Groups tobits acc (takeGroups tobits acc rounds bits).2 (ret ++ (takeGroups tobits acc rounds bits).1) ∧
      (takeGroups tobits acc rounds bits).2 < tobits ∧
      tobits * (takeGroups tobits acc rounds bits).1.length + (takeGroups tobits acc rounds bits).2 = bits := by
  induction rounds generalizing bits ret with
  | zero =>
    obtain rfl := Nat.le_zero.mp enough
    simpa [takeGroups,some_] using groups
  | succ rounds ih =>
    unfold takeGroups
    by_cases full : tobits ≤ bits
    · obtain ⟨taken,left,all_⟩ := ih (by omega) (groups.take full)
      rw [if_pos full]
      refine ⟨by simpa using taken,left,?_⟩
      simp only [List.length_cons,Nat.mul_add]
      omega
    · rw [if_neg full]
      simpa using ⟨groups,Nat.lt_of_not_le full⟩

/-- What the loop keeps: the number of all values, their bits in groups, and fewer bits left than a group has. -/
structure Regrouped (frombits tobits : Nat) (data : List Nat) (grouping : Grouping) : Prop where
  acc : grouping.acc = number frombits data
  groups : Groups tobits grouping.acc grouping.bits grouping.ret
  left : grouping.bits < tobits
  length : tobits * grouping.ret.length + grouping.bits = frombits * data.length

theorem Regrouped.push {grouping : Grouping} (some_ : 0 < tobits) (regrouped : Regrouped frombits tobits data grouping)
    {value : Nat} (small : value < 2 ^ frombits) :
    Regrouped frombits tobits (data ++ [value]) (grouping.push frombits tobits value) := by
  have acc : (grouping.acc <<< frombits) ||| value = grouping.acc * 2 ^ frombits + value := by
    rw [← Nat.shiftLeft_add_eq_or_of_lt small,Nat.shiftLeft_eq]
  have before : Groups tobits ((grouping.acc <<< frombits) ||| value) (grouping.bits + frombits) grouping.ret := by
    refine ⟨?_,regrouped.groups.small⟩
    rw [regrouped.groups.value,acc,Nat.add_comm grouping.bits,Nat.pow_add,← Nat.div_div_eq_div_mul,
      Nat.mul_comm grouping.acc,Nat.mul_add_div (Nat.two_pow_pos _),Nat.div_eq_of_lt small,Nat.add_zero]
  obtain ⟨groups,left,taken⟩ := takeGroups_groups some_ (Nat.le_refl _) before
  have length := regrouped.length
  refine ⟨?_,groups,left,?_⟩
  · rw [number_concat,← regrouped.acc]
    exact acc
  · simp only [Grouping.push,List.length_append,List.length_singleton,Nat.mul_add]
    omega

theorem regrouped_all (some_ : 0 < tobits) (small : ∀ v ∈ data, v < 2 ^ frombits) :
    Regrouped frombits tobits data (data.foldl (Grouping.push frombits tobits) {}) := by
  induction data using List.reverseRecOn with
  | nil => exact ⟨rfl,⟨by simp [number],by simp⟩,some_,rfl⟩
  | append_singleton data value ih =>
    rw [List.foldl_append]
    exact (ih fun v inside => small v (List.mem_append_left _ inside)).push some_ (small value (by simp))

theorem convertbits_padded (some_ : 0 < tobits) (small : ∀ v ∈ data, v < 2 ^ frombits) :
    ∃ zeros < tobits, number tobits (convertbits data frombits tobits true) = number frombits data * 2 ^ zeros ∧
      tobits * (convertbits data frombits tobits true).length = frombits * data.length + zeros ∧
      ∀ v ∈ convertbits data frombits tobits true, v < 2 ^ tobits := by
  have regrouped := regrouped_all some_ small
  unfold convertbits
  generalize data.foldl (Grouping.push frombits tobits) {} = grouping at regrouped ⊢
  obtain ⟨acc,groups,left,length⟩ := regrouped
  by_cases even : grouping.bits = 0
  · refine ⟨0,some_,?_⟩
    have value := groups.value
    rw [even,Nat.pow_zero,Nat.div_one,acc] at value
    simp only [even,ne_eq,not_true_eq_false,and_false,if_false,Nat.pow_zero,Nat.mul_one]
    exact ⟨value,by omega,groups.small⟩
  · refine ⟨tobits - grouping.bits,by omega,?_⟩
    have digit : (grouping.acc <<< (tobits - grouping.bits)) &&& (1 <<< tobits - 1) =
        grouping.acc % 2 ^ grouping.bits * 2 ^ (tobits - grouping.bits) := by
      rw [Nat.one_shiftLeft,Nat.and_two_pow_sub_one_eq_mod,Nat.shiftLeft_eq,← Nat.mul_mod_mul_right,← Nat.pow_add,
        Nat.add_sub_cancel' left.le]
    have whole : 2 ^ tobits = 2 ^ grouping.bits * 2 ^ (tobits - grouping.bits) := by
      rw [← Nat.pow_add,Nat.add_sub_cancel' left.le]
    simp only [even,ne_eq,not_false_eq_true,and_true,if_true]
    refine ⟨?_,?_,?_⟩
    · rw [number_concat,groups.value,digit,whole,← acc,← Nat.mul_assoc,← Nat.add_mul,Nat.mul_comm _ (2 ^ grouping.bits),
        Nat.div_add_mod]
    · simp only [List.length_append,List.length_singleton,Nat.mul_add]
      omega
    · intro v inside
      rcases List.mem_append.mp inside with old | new
      · exact groups.small v old
      · rw [List.mem_singleton.mp new,Nat.one_shiftLeft,Nat.and_two_pow_sub_one_eq_mod]
        exact Nat.mod_lt _ (Nat.two_pow_pos tobits)

/-- Regrouped once more, the zeros are left over and the values come back. -/
theorem convertbits_back {bytes : List Nat} (small : ∀ v ∈ bytes, v < 2 ^ 8) :
    convertbits (convertbits bytes 8 5 true) 5 8 false = bytes := by
  obtain ⟨zeros,few,value,length,groups⟩ := convertbits_padded (show 0 < 5 by decide) small
  generalize convertbits bytes 8 5 true = data at value length groups ⊢
  have regrouped := regrouped_all (show 0 < 8 by decide) groups
  unfold convertbits
  generalize data.foldl (Grouping.push 5 8) {} = grouping at regrouped ⊢
  obtain ⟨acc,back,left,length'⟩ := regrouped
  obtain ⟨count,rest⟩ : grouping.ret.length = bytes.length ∧ grouping.bits = zeros := by omega
  have same : number 8 grouping.ret = number 8 bytes := by
    rw [back.value,acc,value,rest,Nat.mul_div_cancel _ (Nat.two_pow_pos zeros)]
  simpa using number_injective (by decide) count back.small small same

/-! What the register notices. -/

theorem polymodStep_silent {chk : Nat} (small : chk < 2 ^ 30) (silent : polymodStep chk 0 = 0) : chk = 0 := by
  have split_ := taps_xor 0 (chk >>> 25) ((chk &&& 0x1FFFFFF) <<< 5) 0 gen.zipIdx
  have zeros : gen.zipIdx.map (tap 0) = [0,0,0,0,0] := by decide
  rw [Nat.zero_xor,zeros] at split_
  rw [polymodStep,split_] at silent
  -- The five lowest bits come from the taps alone, and no two sums of taps agree in them.
  have taps : (gen.zipIdx.map (tap (chk >>> 25))).foldl (· ^^^ ·) 0 = (chk &&& 0x1FFFFFF) <<< 5 := by
    simpa using (Nat.xor_eq_zero_iff.mp silent).symm
  have low : ∀ top < 32, (gen.zipIdx.map (tap top)).foldl (· ^^^ ·) 0 % 32 = 0 → top = 0 := by decide
  have top : chk >>> 25 = 0 := low _ (by rw [Nat.shiftRight_eq_div_pow]; omega) (by rw [taps,Nat.shiftLeft_eq]; omega)
  have room : chk < 2 ^ 25 := by rw [Nat.shiftRight_eq_div_pow] at top; omega
  have appended := polymodStep_low room (show 0 < 32 by decide)
  rw [polymodStep,split_,silent] at appended
  omega

/-- What two registers differ by is carried along, and is never lost. -/
theorem run_injective (values : List Nat) {a b : Nat} (left : a < 2 ^ 30) (right : b < 2 ^ 30)
    (same : values.foldl polymodStep a = values.foldl polymodStep b) : a = b := by
  have lost : (values.map fun _ => 0).foldl polymodStep (a ^^^ b) = 0 := by
    have carried := run_xor (a ^^^ b) b values
    rw [Nat.xor_xor_cancel_right,same] at carried
    have cancelled := Nat.xor_xor_cancel_right ((values.map fun _ => 0).foldl polymodStep (a ^^^ b)) (values.foldl polymodStep b)
    rw [← carried,Nat.xor_self] at cancelled
    exact cancelled.symm
  have small : a ^^^ b < 2 ^ 30 := Nat.xor_lt_two_pow left right
  have none_ : a ^^^ b = 0 := by
    clear same
    generalize a ^^^ b = c at lost small
    induction values generalizing c with
    | nil => exact lost
    | cons v values ih => exact polymodStep_silent small (ih _ lost (polymodStep_lt (by decide)))
  exact Nat.xor_eq_zero_iff.mp none_

theorem run_held {values : List Nat} (few : values.length ≤ 6) (small : ∀ v ∈ values, v < 32) :
    values.foldl polymodStep 0 = number 5 values := by
  induction values using List.reverseRecOn with
  | nil => rfl
  | append_singleton values v ih =>
    have before : ∀ w ∈ values, w < 32 := fun w inside => small w (List.mem_append_left _ inside)
    have shorter : values.length ≤ 5 := by rw [List.length_append,List.length_singleton] at few; omega
    have room : number 5 values < 2 ^ 25 :=
      calc number 5 values < (2 ^ 5) ^ values.reverse.length := Nat.ofDigits_lt_base_pow_length' (by simpa using before)
        _ ≤ (2 ^ 5) ^ 5 := Nat.pow_le_pow_right (by decide) (by simpa using shorter)
        _ = 2 ^ 25 := by decide
    rw [List.foldl_append,ih (by omega) before,number_concat]
    simp only [List.foldl_cons,List.foldl_nil]
    rw [polymodStep_low room (small v (by simp))]
    omega

theorem run_window {x y : List Nat} (length : x.length = y.length) (few : x.length ≤ 6) (left : ∀ v ∈ x, v < 32)
    (right : ∀ v ∈ y, v < 32) (start : Nat) (same : x.foldl polymodStep start = y.foldl polymodStep start) : x = y := by
  have first := run_xor start 0 x
  have second := run_xor start 0 y
  have blank : (x.map fun _ => 0) = y.map fun _ => 0 := by simp [List.map_const',length]
  rw [Nat.xor_zero] at first second
  rw [first,second,blank,Nat.xor_right_inj,run_held few left,run_held (length ▸ few) right] at same
  exact number_injective (by decide) length left right same

/-- The checksum notices every change within six consecutive values, wherever they stand: what the register holds at the end is
another value, so that a changed address has another checksum and no longer leaves 1. -/
theorem polymod_noticesWindows (hrp : String) (before after : List Nat) {x y : List Nat} (length : x.length = y.length)
    (few : x.length ≤ 6) (left : ∀ v ∈ x, v < 32) (right : ∀ v ∈ y, v < 32)
    (changed : x ≠ y) :
    polymod (hrpExpand hrp ++ (before ++ x ++ after)) ≠ polymod (hrpExpand hrp ++ (before ++ y ++ after)) := by
  intro same
  have held {values : List Nat} (some_ : values ≠ []) (small : ∀ v ∈ values, v < 32) (start : Nat) :
      values.foldl polymodStep start < 2 ^ 30 := by
    obtain ⟨earlier,last,rfl⟩ := (List.eq_nil_or_concat' values).resolve_left some_
    rw [List.foldl_append]
    exact polymodStep_lt (small last (by simp))
  have left_ : x ≠ [] := by
    rintro rfl
    exact changed (List.length_eq_zero_iff.mp length.symm).symm
  have right_ : y ≠ [] := by
    rintro rfl
    exact changed (List.length_eq_zero_iff.mp length)
  simp only [polymod,List.foldl_append] at same
  exact changed (run_window length few left right _ (run_injective after (held left_ left _) (held right_ right _) same))

theorem polymod_noticesWindows_swap :
    polymod (hrpExpand "claw" ++ ([3] ++ [7,9] ++ [0])) ≠ polymod (hrpExpand "claw" ++ ([3] ++ [9,7] ++ [0])) :=
  polymod_noticesWindows "claw" [3] [0] rfl (by decide) (by decide) (by decide) (by decide)

/-! Reading an address. -/

theorem charset_get {d : Nat} (small : d < 32) : ∃ c, charset[d]? = some c ∧ charset.idxOf c = d ∧ c ≠ '1' := by
  have all_ : ((List.range 32).all fun d => (charset[d]?).any fun c => charset.idxOf c == d && c != '1') = true := by
    decide +kernel
  have here := List.all_eq_true.mp all_ d (List.mem_range.mpr small)
  cases found : charset[d]? with
  | none => simp [found] at here
  | some c =>
    simp only [found,Option.any_some,Bool.and_eq_true,beq_iff_eq,bne_iff_ne] at here
    exact ⟨c,rfl,here⟩

theorem charset_read {values : List Nat} (small : ∀ v ∈ values, v < 32) :
    ∃ chars : List Char, values.mapM (fun d => charset[d]?) = some chars ∧ chars.map charset.idxOf = values ∧
      ∀ c ∈ chars, c ∈ charset ∧ c ≠ '1' := by
  induction values with
  | nil => exact ⟨[],rfl,rfl,by simp⟩
  | cons v values ih =>
    obtain ⟨c,found,place,plain⟩ := charset_get (small v List.mem_cons_self)
    obtain ⟨chars,read,places,all_⟩ := ih fun w inside => small w (List.mem_cons_of_mem _ inside)
    refine ⟨c :: chars,by simp [found,read],by rw [List.map_cons,place,places],?_⟩
    intro other inside
    rcases List.mem_cons.mp inside with rfl | later
    · exact ⟨List.mem_of_getElem? found,plain⟩
    · exact all_ other later

theorem afterSeparator_append (hrp : String) {chars : List Char} (plain : ∀ c ∈ chars, c ≠ '1') :
    afterSeparator (hrp ++ "1" ++ String.ofList chars) = chars := by
  have all_ : ∀ c ∈ chars.reverse, decide (c ≠ '1') = true := fun c inside => decide_eq_true (plain c (by simpa using inside))
  simp only [afterSeparator,String.toList_append,String.toList_ofList,List.reverse_append]
  rw [List.takeWhile_append_of_pos all_]
  simp

/-- An address reads back: after its separator stand characters whose values leave 1 in the register, and the values before
the checksum regroup to the bytes, with fewer than five zero bits left over. -/
theorem bech32_readsBack (hrp : String) (dataBytes : List UInt8) :
    ∃ address, bech32Encode hrp dataBytes = some address ∧
      (∃ chars, address.toList = hrp.toList ++ '1' :: chars ∧ afterSeparator address = chars) ∧
      (∀ c ∈ afterSeparator address, c ∈ charset) ∧
      polymod (hrpExpand hrp ++ valuesOf address) = 1 ∧
      convertbits (dataPart address) 5 8 false = dataBytes.map UInt8.toNat ∧
      ∃ zeros < 5, 5 * (dataPart address).length = 8 * dataBytes.length + zeros ∧
        number 5 (dataPart address) % 2 ^ zeros = 0 := by
  have bytes : ∀ v ∈ dataBytes.map UInt8.toNat, v < 2 ^ 8 := by
    intro v inside
    obtain ⟨byte,-,rfl⟩ := List.mem_map.mp inside
    exact byte.toNat_lt
  obtain ⟨zeros,few,value,length,groups⟩ := convertbits_padded (show 0 < 5 by decide) bytes
  have back := convertbits_back bytes
  obtain ⟨data5,made⟩ : ∃ data5, data5 = convertbits (dataBytes.map UInt8.toNat) 8 5 true := ⟨_,rfl⟩
  rw [← made] at value length groups back
  have small : ∀ v ∈ data5 ++ createChecksum hrp data5, v < 32 := by
    intro v inside
    rcases List.mem_append.mp inside with data | checksum
    · exact groups v data
    · exact createChecksum_lt hrp data5 v checksum
  obtain ⟨chars,read,places,plain⟩ := charset_read small
  have encoded : bech32Encode hrp dataBytes = some (hrp ++ "1" ++ String.ofList chars) := by
    simp [bech32Encode,← made,read]
  have after := afterSeparator_append hrp fun c inside => (plain c inside).2
  have values : valuesOf (hrp ++ "1" ++ String.ofList chars) = data5 ++ createChecksum hrp data5 := by
    rw [valuesOf,after,places]
  have data : dataPart (hrp ++ "1" ++ String.ofList chars) = data5 := by
    have six : (createChecksum hrp data5).length = 6 := rfl
    rw [dataPart,values,List.length_append,six,Nat.add_sub_cancel,List.take_left]
  refine ⟨_,encoded,⟨chars,by simp,after⟩,?_,?_,?_,zeros,few,?_,?_⟩
  · rw [after]
    exact fun c inside => (plain c inside).1
  · rw [values]
    exact polymod_checksum hrp data5
  · rw [data,back]
  · rw [data,length,List.length_map]
  · rw [data,value,Nat.mul_mod_left]

end Clawchain.Mining.Addresses
