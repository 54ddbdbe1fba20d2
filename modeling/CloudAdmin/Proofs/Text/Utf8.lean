import CloudAdmin.Text.Utf8

/-!
# Reading UTF-8 back

Main statement: a text is what its UTF-8 bytes are decoded to. The cases follow the number of bytes
of a character; that no surrogate is a character is used for those of three bytes, and that no
character lies beyond the last plane for those of four.
-/

namespace CloudAdmin.Text.Utf8

theorem isScalar_toNat (c : Char) :
    c.toNat < 0xD800 ∨ (0xDFFF < c.toNat ∧ c.toNat < 0x110000) := by
  simpa [UInt32.isValidChar, Nat.isValidChar] using c.valid

theorem lead?_ofNat {number : Nat} (isByte : number < 256) :
    lead? (UInt8.ofNat number) =
      if 0xC2 ≤ number ∧ number ≤ 0xDF then some (1, 0x80, 0xBF)
      else if number = 0xE0 then some (2, 0xA0, 0xBF)
      else if number = 0xED then some (2, 0x80, 0x9F)
      else if 0xE1 ≤ number ∧ number ≤ 0xEF then some (2, 0x80, 0xBF)
      else if number = 0xF0 then some (3, 0x90, 0xBF)
      else if 0xF1 ≤ number ∧ number ≤ 0xF3 then some (3, 0x80, 0xBF)
      else if number = 0xF4 then some (3, 0x80, 0x8F)
      else none := by
  have same : number % 256 = number := Nat.mod_eq_of_lt isByte
  simp [lead?, UInt8.le_iff_toNat_le, ← UInt8.toNat_inj, same]

theorem toNat_ofNat_of_lt (number : Nat) (isByte : number < 256) :
    (UInt8.ofNat number).toNat = number := by
  simp [Nat.mod_eq_of_lt isByte]

theorem decodeParts_one {number : Nat} (small : number < 0x80) (rest : List UInt8) :
    decodeParts (UInt8.ofNat number :: rest) = some (Char.ofNat number) :: decodeParts rest := by
  have byte := toNat_ofNat_of_lt number (by omega)
  rw [decodeParts, if_pos (by simp [UInt8.lt_iff_toNat_lt, byte]; omega), byte]

theorem decodeParts_two {high low : Nat} (isLead : 0xC2 ≤ high ∧ high ≤ 0xDF)
    (continues : 0x80 ≤ low ∧ low ≤ 0xBF) (rest : List UInt8) :
    decodeParts (UInt8.ofNat high :: UInt8.ofNat low :: rest) =
      some (Char.ofNat (high % 32 * 64 + low % 64)) :: decodeParts rest := by
  have first := toNat_ofNat_of_lt high (by omega)
  have second := toNat_ofNat_of_lt low (by omega)
  have large : ¬UInt8.ofNat high < 0x80 := by
    simp [UInt8.lt_iff_toNat_lt, first]
    omega
  have lead : lead? (UInt8.ofNat high) = some (1, 0x80, 0xBF) := by
    rw [lead?_ofNat (by omega), if_pos isLead]
  have inRange : (0x80 : UInt8) ≤ UInt8.ofNat low ∧ UInt8.ofNat low ≤ 0xBF := by
    simpa [UInt8.le_iff_toNat_le, second] using continues
  rw [decodeParts]
  simp [large, lead, inRange, first, second, payload]

theorem decodeParts_three {high middle low : Nat} {least greatest : UInt8} (isByte : high < 256)
    (large : 0x80 ≤ high)
    (lead : lead? (UInt8.ofNat high) = some (2, least, greatest))
    (isByte' : middle < 256) (continues : least.toNat ≤ middle ∧ middle ≤ greatest.toNat)
    (continues' : 0x80 ≤ low ∧ low ≤ 0xBF) (rest : List UInt8) :
    decodeParts (UInt8.ofNat high :: UInt8.ofNat middle :: UInt8.ofNat low :: rest) =
      some (Char.ofNat (high % 16 * 4096 + middle % 64 * 64 + low % 64)) :: decodeParts rest := by
  have first := toNat_ofNat_of_lt _ isByte
  have second := toNat_ofNat_of_lt _ isByte'
  have third := toNat_ofNat_of_lt low (by omega)
  have large' : ¬UInt8.ofNat high < 0x80 := by
    simp [UInt8.lt_iff_toNat_lt, first]
    omega
  have inRange : least ≤ UInt8.ofNat middle ∧ UInt8.ofNat middle ≤ greatest := by
    simpa [UInt8.le_iff_toNat_le, second] using continues
  have inRange' : (0x80 : UInt8) ≤ UInt8.ofNat low ∧ UInt8.ofNat low ≤ 0xBF := by
    simpa [UInt8.le_iff_toNat_le, third] using continues'
  rw [decodeParts]
  simp [large', lead, inRange, inRange', isContinuation, first, second, third, payload]

theorem decodeParts_four {high upper middle low : Nat} {least greatest : UInt8}
    (isByte : high < 256) (large : 0x80 ≤ high)
    (lead : lead? (UInt8.ofNat high) = some (3, least, greatest))
    (isByte' : upper < 256) (continues : least.toNat ≤ upper ∧ upper ≤ greatest.toNat)
    (continues' : 0x80 ≤ middle ∧ middle ≤ 0xBF) (continues'' : 0x80 ≤ low ∧ low ≤ 0xBF)
    (rest : List UInt8) :
    decodeParts (UInt8.ofNat high :: UInt8.ofNat upper :: UInt8.ofNat middle :: UInt8.ofNat low ::
        rest) =
      some (Char.ofNat (high % 8 * 262144 + upper % 64 * 4096 + middle % 64 * 64 + low % 64)) ::
        decodeParts rest := by
  have first := toNat_ofNat_of_lt _ isByte
  have second := toNat_ofNat_of_lt _ isByte'
  have third := toNat_ofNat_of_lt middle (by omega)
  have fourth := toNat_ofNat_of_lt low (by omega)
  have large' : ¬UInt8.ofNat high < 0x80 := by
    simp [UInt8.lt_iff_toNat_lt, first]
    omega
  have inRange : least ≤ UInt8.ofNat upper ∧ UInt8.ofNat upper ≤ greatest := by
    simpa [UInt8.le_iff_toNat_le, second] using continues
  have inRange' : (0x80 : UInt8) ≤ UInt8.ofNat middle ∧ UInt8.ofNat middle ≤ 0xBF := by
    simpa [UInt8.le_iff_toNat_le, third] using continues'
  have inRange'' : (0x80 : UInt8) ≤ UInt8.ofNat low ∧ UInt8.ofNat low ≤ 0xBF := by
    simpa [UInt8.le_iff_toNat_le, fourth] using continues''
  rw [decodeParts]
  simp [large', lead, inRange, inRange', inRange'', isContinuation, first, second, third, fourth,
    payload]

/-- The second of three bytes is in the range that the first one asks for, because a character of
three bytes is neither a smaller one nor a surrogate. -/
theorem lead?_three (number : Nat) (atLeast : 0x800 ≤ number) (atMost : number ≤ 0xFFFF)
    (scalar : number < 0xD800 ∨ 0xDFFF < number) :
    ∃ least greatest, lead? (UInt8.ofNat (number / 4096 % 16 + 224)) = some (2, least, greatest) ∧
      least.toNat ≤ number / 64 % 64 + 128 ∧ number / 64 % 64 + 128 ≤ greatest.toNat := by
  rw [lead?_ofNat (by omega), if_neg (by omega)]
  by_cases first : number / 4096 % 16 + 224 = 0xE0
  · exact ⟨0xA0, 0xBF, by rw [if_pos first], by simp; omega, by simp; omega⟩
  by_cases second : number / 4096 % 16 + 224 = 0xED
  · exact ⟨0x80, 0x9F, by rw [if_neg first, if_pos second], by simp, by simp; omega⟩
  · exact ⟨0x80, 0xBF, by rw [if_neg first, if_neg second, if_pos (by omega)], by simp,
      by simp; omega⟩

/-- The second of four bytes is in the range that the first one asks for, because a character of
four bytes is neither a smaller one nor beyond the last. -/
theorem lead?_four (number : Nat) (atLeast : 0x10000 ≤ number) (atMost : number < 0x110000) :
    ∃ least greatest, lead? (UInt8.ofNat (number / 262144 % 8 + 240)) = some (3, least, greatest) ∧
      least.toNat ≤ number / 4096 % 64 + 128 ∧ number / 4096 % 64 + 128 ≤ greatest.toNat := by
  rw [lead?_ofNat (by omega), if_neg (by omega), if_neg (by omega), if_neg (by omega),
    if_neg (by omega)]
  by_cases first : number / 262144 % 8 + 240 = 0xF0
  · exact ⟨0x90, 0xBF, by rw [if_pos first], by simp; omega, by simp; omega⟩
  by_cases second : number / 262144 % 8 + 240 = 0xF4
  · exact ⟨0x80, 0x8F, by rw [if_neg first, if_neg (by omega), if_pos second], by simp,
      by simp; omega⟩
  · exact ⟨0x80, 0xBF, by rw [if_neg first, if_pos (by omega)], by simp, by simp; omega⟩

/-- The bytes of a character are decoded to the character, whatever follows them. -/
theorem decodeParts_utf8EncodeChar (c : Char) (rest : List UInt8) :
    decodeParts (String.utf8EncodeChar c ++ rest) = some c :: decodeParts rest := by
  have scalar := isScalar_toNat c
  have back : Char.ofNat c.toNat = c := Char.ofNat_toNat c
  have number : c.val.toNat = c.toNat := rfl
  unfold String.utf8EncodeChar
  simp only [number]
  split
  · rw [List.singleton_append, decodeParts_one (by omega), back]
  split
  · rw [List.cons_append, List.singleton_append, decodeParts_two (by omega) (by omega)]
    rw [show (c.toNat / 64 % 32 + 192) % 32 * 64 + (c.toNat % 64 + 128) % 64 = c.toNat by omega,
      back]
  split
  · rcases lead?_three c.toNat (by omega) (by omega) (by omega) with ⟨least, greatest, lead, range⟩
    simp only [List.cons_append, List.nil_append]
    rw [decodeParts_three (by omega) (by omega) lead (by omega) range (by omega)]
    rw [show (c.toNat / 4096 % 16 + 224) % 16 * 4096 + (c.toNat / 64 % 64 + 128) % 64 * 64 +
      (c.toNat % 64 + 128) % 64 = c.toNat by omega, back]
  · rcases lead?_four c.toNat (by omega) (by omega) with ⟨least, greatest, lead, range⟩
    simp only [List.cons_append, List.nil_append]
    rw [decodeParts_four (by omega) (by omega) lead (by omega) range (by omega) (by omega)]
    rw [show (c.toNat / 262144 % 8 + 240) % 8 * 262144 + (c.toNat / 4096 % 64 + 128) % 64 * 4096 +
      (c.toNat / 64 % 64 + 128) % 64 * 64 + (c.toNat % 64 + 128) % 64 = c.toNat by omega, back]

theorem decodeParts_encode (text : List Char) :
    decodeParts (encode text) = text.map some := by
  induction text with
  | nil => rfl
  | cons c rest ih =>
      rw [encode, List.flatMap_cons, decodeParts_utf8EncodeChar, List.map_cons]
      exact congrArg _ ih

theorem decode?_encode (text : List Char) : decode? (encode text) = some text := by
  rw [decode?, decodeParts_encode]
  induction text with
  | nil => rfl
  | cons c rest ih =>
      rw [List.map_cons, List.mapM_cons, ih]
      rfl

/-- A text is what its bytes are decoded to. -/
theorem decodeLenient_encode (text : List Char) : decodeLenient (encode text) = text := by
  rw [decodeLenient, decodeParts_encode, List.map_map]
  exact List.map_id text

end CloudAdmin.Text.Utf8
