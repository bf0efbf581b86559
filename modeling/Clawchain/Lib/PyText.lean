import Clawchain.Lib.Format

/-! Texts as Python reads them: what counts as a blank, texts without the blanks around them, and integers. -/
namespace Clawchain.Lib.PyText

/-- `str.isspace` -/
def isSpace (c : Char) : Bool := Format.isSpace c || (0x1C ≤ c.toNat && c.toNat ≤ 0x1F)

/-- `str.strip` -/
def strip (text : String) : String :=
  String.ofList ((text.toList.dropWhile isSpace).reverse.dropWhile isSpace).reverse

/-- `str.lower`, as far as texts of ASCII letters are concerned. -/
def lower (text : String) : String := String.ofList (text.toList.map Char.toLower)

/-- `int` of a text, whose digits may be grouped by single underscores. Digits of other scripts are left out. -/
def int (text : String) : Option Int :=
  let number (negative : Bool) (digits : List Char) : Option Int :=
    let groups := digits.splitOn '_'
    if groups.all fun group => group ≠ [] && group.all Char.isDigit then
      some (if negative then -(Nat.ofDigitChars 10 groups.flatten 0 : Int) else Nat.ofDigitChars 10 groups.flatten 0)
    else none
  match (strip text).toList with
  | '-' :: digits => number true digits
  | '+' :: digits => number false digits
  | digits => number false digits

example : int " -1_024\n" = some (-1024) ∧ int "1__0" = none ∧ int "" = none := by decide +kernel

theorem strip_eq {text : String} (plain : ∀ c ∈ text.toList, isSpace c = false) : strip text = text := by
  have front : text.toList.dropWhile isSpace = text.toList :=
    List.dropWhile_eq_self_iff.mpr fun _ => by simp [plain _ (List.getElem_mem _)]
  have back : text.toList.reverse.dropWhile isSpace = text.toList.reverse :=
    List.dropWhile_eq_self_iff.mpr fun some_ => by rw [plain _ (List.mem_reverse.mp (List.getElem_mem some_))]; decide
  unfold strip
  rw [front,back,List.reverse_reverse,String.ofList_toList]

end Clawchain.Lib.PyText
