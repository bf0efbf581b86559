import Mathlib.Data.List.Basic

/-! Texts as the bytes that are stored. Read as UTF-8, bytes are runes, and a byte that is part of no rune stands alone.
Bytes that are runes throughout are told by them. -/
namespace Clawchain.Lib.Utf8

abbrev Bytes := List UInt8

/-- The code points that the first one, two, three or four bytes write, if they write one. -/
def codes (bytes : Bytes) : List Nat :=
  let part (i : Nat) := (bytes.getD i 0).toNat
  [part 0,part 0 % 32 * 64 + part 1 % 64,(part 0 % 16 * 64 + part 1 % 64) * 64 + part 2 % 64,
    ((part 0 % 8 * 64 + part 1 % 64) * 64 + part 2 % 64) * 64 + part 3 % 64]

/-- The rune that bytes begin with. -/
def runeAt (bytes : Bytes) : Option Char :=
  ((codes bytes).map Char.ofNat).find? fun c => (String.utf8EncodeChar c).isPrefixOf bytes

def runesOf : Nat → Bytes → List (Option Char)
  | 0,_ => []
  | _ + 1,[] => []
  | rounds + 1,byte :: bytes =>
    match runeAt (byte :: bytes) with
    | some c => some c :: runesOf rounds ((byte :: bytes).drop (String.utf8EncodeChar c).length)
    | none => none :: runesOf rounds bytes

def runes (bytes : Bytes) : List (Option Char) := runesOf bytes.length bytes

end Clawchain.Lib.Utf8
