import Mathlib.Data.String.Basic
import CloudAdmin.Text.Hex

/-!
# Texts of ASCII

The characters of ASCII are those that take a single byte, so a text of them is as long in bytes as
it is in characters. Hexadecimal digits are among them.
-/

namespace CloudAdmin.Text

section Sizes

theorem utf8Size_eq_one_iff {c : Char} : c.utf8Size = 1 ↔ c.toNat < 128 := by
  rw [Char.utf8Size_eq_one_iff, UInt32.le_iff_toNat_le]
  exact Nat.lt_succ_iff.symm

theorem length_le_utf8Len (text : List Char) : text.length ≤ String.utf8Len text := by
  induction text with
  | nil => exact Nat.le_refl _
  | cons c rest ih =>
      have atLeast := c.utf8Size_pos
      simp only [List.length_cons, String.utf8Len]
      omega

/-- A text takes one byte for each of its characters just if they all belong to ASCII. -/
theorem utf8ByteSize_eq_length_iff (text : List Char) :
    (String.ofList text).utf8ByteSize = text.length ↔ ∀ c ∈ text, c.toNat < 128 := by
  rw [String.utf8ByteSize_ofList]
  induction text with
  | nil => simp
  | cons c rest ih =>
      have atLeast := c.utf8Size_pos
      have others := length_le_utf8Len rest
      rw [List.forall_mem_cons, ← ih, ← utf8Size_eq_one_iff]
      simp only [List.length_cons, String.utf8Len]
      omega

end Sizes

section HexDigits

theorem toNat_lt_of_isHexDigit {c : Char} (digit : isHexDigit c = true) : c.toNat < 128 := by
  have below {last : Char} (atMost : c ≤ last) (inAscii : last.toNat < 128) : c.toNat < 128 :=
    Nat.lt_of_le_of_lt atMost inAscii
  unfold isHexDigit hexValue? at digit
  split at digit
  · rename_i range
    exact below range.2 (by decide)
  split at digit
  · rename_i range
    exact below range.2 (by decide)
  split at digit
  · rename_i range
    exact below range.2 (by decide)
  · cases digit

theorem isHexDigit_lowerHex {value : Nat} (small : value < 16) :
    isHexDigit (lowerHex value) = true := by
  have digits : ∀ value, value < 16 → isHexDigit (lowerHex value) = true := by decide
  exact digits value small

theorem isHexDigit_of_mem_hexByte {byte : UInt8} {c : Char} (member : c ∈ hexByte byte) :
    isHexDigit c = true := by
  have bound := byte.toNat_lt
  simp only [hexByte, List.mem_cons, List.not_mem_nil, or_false] at member
  rcases member with rfl | rfl
  · exact isHexDigit_lowerHex (by omega)
  · exact isHexDigit_lowerHex (by omega)

theorem length_flatMap_hexByte (bytes : List UInt8) :
    (bytes.flatMap hexByte).length = 2 * bytes.length := by
  induction bytes with
  | nil => rfl
  | cons byte rest ih =>
      rw [List.flatMap_cons, List.length_append, ih]
      simp only [hexByte, List.length_cons, List.length_nil]
      omega

end HexDigits

end CloudAdmin.Text
