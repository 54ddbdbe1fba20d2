import CloudAdmin.Proofs.Text.Splitting
import CloudAdmin.Proofs.Text.Utf8
import CloudAdmin.Url.Form

/-!
# Reading forms back

Main statement: the pairs that a form was written for are read from it, whatever characters they
consist of. A written name or value holds none of the marks that separate names, values, pairs and
the parts of a URL, so that nothing but the marks between them cuts a form.
-/

namespace CloudAdmin.Url

section Bytes

theorem hexValue?_upperHex {value : Nat} (isDigit : value < 16) :
    Text.hexValue? (Text.upperHex value) = some value := by
  have all : ∀ value, value < 16 → Text.hexValue? (Text.upperHex value) = some value := by decide
  exact all value isDigit

theorem upperHex_mem {value : Nat} (isDigit : value < 16) :
    Text.upperHex value ∈ "0123456789ABCDEF".toList := by
  have all : ∀ value, value < 16 → Text.upperHex value ∈ "0123456789ABCDEF".toList := by decide
  exact all value isDigit

theorem percentDecode_percentByte (byte : UInt8) (rest : List Char) :
    percentDecode (percentByte byte ++ rest) = byte :: percentDecode rest := by
  have isByte := byte.toNat_lt
  simp only [percentByte, List.cons_append, List.nil_append, percentDecode]
  rw [hexValue?_upperHex (by omega), hexValue?_upperHex (by omega)]
  simp only
  rw [show byte.toNat / 16 * 16 + byte.toNat % 16 = byte.toNat by omega]
  simp

theorem percentDecode_flatMap_percentByte (bytes : List UInt8) (rest : List Char) :
    percentDecode (bytes.flatMap percentByte ++ rest) = bytes ++ percentDecode rest := by
  induction bytes with
  | nil => rfl
  | cons byte bytes ih =>
      rw [List.flatMap_cons, List.append_assoc, percentDecode_percentByte, ih]
      rfl

theorem percentDecode_cons_of_ne {c : Char} (different : c ≠ '%') (rest : List Char) :
    percentDecode (c :: rest) = String.utf8EncodeChar c ++ percentDecode rest := by
  rw [percentDecode]
  intro a b rest' same
  exact absurd same different

end Bytes

section Names

/-- A character of a written form as it is before it is decoded. -/
def unplus (c : Char) : Char :=
  if c = '+' then ' ' else c

/-- Whether a character may stand in a written name or value. -/
def isFormLetter (c : Char) : Bool :=
  isFormSafe c || c == '+' || c == '%'

theorem isFormLetter_of_mem_formEncodeChar {c letter : Char}
    (member : letter ∈ formEncodeChar c) : isFormLetter letter = true := by
  have digits : "0123456789ABCDEF".toList.all isFormLetter = true := by decide
  unfold formEncodeChar at member
  split at member
  · rcases List.mem_singleton.mp member with rfl
    rfl
  split at member
  · rename_i safe
    rcases List.mem_singleton.mp member with rfl
    simp [isFormLetter, safe]
  · rcases List.mem_flatMap.mp member with ⟨byte, -, inByte⟩
    have isByte := byte.toNat_lt
    simp only [percentByte, List.mem_cons, List.not_mem_nil, or_false] at inByte
    rcases inByte with rfl | rfl | rfl
    · rfl
    · exact List.all_eq_true.mp digits _ (upperHex_mem (by omega))
    · exact List.all_eq_true.mp digits _ (upperHex_mem (by omega))

theorem isFormLetter_of_mem_formEncode {text : String} {letter : Char}
    (member : letter ∈ formEncode text) : isFormLetter letter = true := by
  rcases List.mem_flatMap.mp member with ⟨c, -, inside⟩
  exact isFormLetter_of_mem_formEncodeChar inside

theorem formEncode_of_isFormSafe {text : String}
    (safe : ∀ c ∈ text.toList, isFormSafe c = true) : formEncode text = text.toList := by
  have kept : ∀ c ∈ text.toList, formEncodeChar c = [c] := by
    intro c member
    have notBlank : c ≠ ' ' := by
      rintro rfl
      exact absurd (safe _ member) (by decide)
    rw [formEncodeChar, if_neg notBlank, if_pos (safe c member)]
  rw [formEncode, List.flatMap_def, List.map_congr_left kept, ← List.flatMap_def,
    List.flatMap_singleton']

theorem not_mem_formEncode {mark : Char} (isMark : isFormLetter mark = false) (text : String) :
    mark ∉ formEncode text := by
  intro member
  rw [isFormLetter_of_mem_formEncode member] at isMark
  cases isMark

theorem map_unplus_percentByte (byte : UInt8) :
    (percentByte byte).map unplus = percentByte byte := by
  have isByte := byte.toNat_lt
  have digit : ∀ value, value < 16 → unplus (Text.upperHex value) = Text.upperHex value := by decide
  simp only [percentByte, List.map_cons, List.map_nil, digit _ (show byte.toNat / 16 < 16 by omega),
    digit _ (show byte.toNat % 16 < 16 by omega)]
  rfl

theorem percentDecode_formEncodeChar (c : Char) (rest : List Char) :
    percentDecode ((formEncodeChar c).map unplus ++ rest) =
      String.utf8EncodeChar c ++ percentDecode rest := by
  unfold formEncodeChar
  split
  · rename_i blank
    subst blank
    exact percentDecode_cons_of_ne (by decide) rest
  split
  · rename_i safe
    have notPlus : c ≠ '+' := by
      rintro rfl
      exact absurd safe (by decide)
    have notPercent : c ≠ '%' := by
      rintro rfl
      exact absurd safe (by decide)
    have same : unplus c = c := if_neg notPlus
    rw [List.map_singleton, same]
    exact percentDecode_cons_of_ne notPercent rest
  · have same : ((String.utf8EncodeChar c).flatMap percentByte).map unplus =
        (String.utf8EncodeChar c).flatMap percentByte := by
      rw [List.map_flatMap]
      simp only [map_unplus_percentByte]
    rw [same, percentDecode_flatMap_percentByte]

theorem percentDecode_formEncode (text : List Char) :
    percentDecode ((text.flatMap formEncodeChar).map unplus) = Text.Utf8.encode text := by
  induction text with
  | nil => rfl
  | cons c rest ih =>
      rw [List.flatMap_cons, List.map_append, percentDecode_formEncodeChar, ih]
      rfl

theorem formDecode_formEncode (text : String) : formDecode (formEncode text) = text := by
  have decoded := percentDecode_formEncode text.toList
  have read : Text.Utf8.decodeLenient (percentDecode ((formEncode text).map unplus)) =
      text.toList := by
    rw [formEncode, decoded, Text.Utf8.decodeLenient_encode]
  exact (congrArg String.ofList read).trans String.ofList_toList

end Names

section Forms

/-- Whether a character may stand in a written form. -/
def isFormCharacter (c : Char) : Bool :=
  isFormLetter c || c == '=' || c == '&'

theorem isFormCharacter_of_mem_formEncodePair {pair : String × String} {c : Char}
    (member : c ∈ formEncodePair pair) : isFormCharacter c = true ∧ c ≠ '&' := by
  have fromLetter (letter : isFormLetter c = true) : isFormCharacter c = true ∧ c ≠ '&' := by
    refine ⟨by simp [isFormCharacter, letter], ?_⟩
    rintro rfl
    exact absurd letter (by decide)
  rcases List.mem_append.mp member with inName | after
  · exact fromLetter (isFormLetter_of_mem_formEncode inName)
  rcases List.mem_cons.mp after with rfl | inValue
  · decide
  · exact fromLetter (isFormLetter_of_mem_formEncode inValue)

theorem formDecodePair_formEncodePair (pair : String × String) :
    formDecodePair (formEncodePair pair) = pair := by
  have noMark : ∀ c ∈ formEncode pair.1, c ≠ '=' :=
    fun c member same => not_mem_formEncode (by decide) pair.1 (same ▸ member)
  simp [formDecodePair, formEncodePair, splitFirst_append noMark, formDecode_formEncode]

theorem formEncodePair_ne_nil (pair : String × String) : formEncodePair pair ≠ [] := by
  simp [formEncodePair]

theorem parseForm_renderForm (pairs : Pairs) : parseForm (renderForm pairs).toList = pairs := by
  cases pairs with
  | nil => rfl
  | cons pair pairs =>
      have pieces : splitAll '&' (List.intercalate ['&'] ((pair :: pairs).map formEncodePair)) =
          (pair :: pairs).map formEncodePair := by
        apply splitAll_intercalate (by simp)
        intro piece member
        rcases List.mem_map.mp member with ⟨written, -, rfl⟩
        exact fun inside => (isFormCharacter_of_mem_formEncodePair inside).2 rfl
      have kept : ((pair :: pairs).map formEncodePair).filter (fun piece => !piece.isEmpty) =
          (pair :: pairs).map formEncodePair := by
        rw [List.filter_eq_self]
        intro piece member
        rcases List.mem_map.mp member with ⟨written, -, rfl⟩
        simp [formEncodePair_ne_nil]
      rw [parseForm, renderForm, String.toList_ofList, pieces, kept, List.map_map]
      exact (List.map_congr_left fun pair _ => formDecodePair_formEncodePair pair).trans
        (List.map_id _)

theorem parseForm_append (front back : List Char) :
    parseForm (front ++ '&' :: back) = parseForm front ++ parseForm back := by
  rw [parseForm, splitAll_append_separator, List.filter_append, List.map_append]
  rfl

theorem isFormCharacter_of_mem_renderForm {pairs : Pairs} {c : Char}
    (member : c ∈ (renderForm pairs).toList) : isFormCharacter c = true := by
  rw [renderForm, String.toList_ofList] at member
  induction pairs with
  | nil => cases member
  | cons pair pairs ih =>
      cases pairs with
      | nil =>
          rw [List.map_singleton, List.intercalate_singleton] at member
          exact (isFormCharacter_of_mem_formEncodePair member).1
      | cons next pairs =>
          simp only [List.map_cons, List.intercalate_cons_cons, List.mem_append,
            List.mem_singleton] at member ih
          rcases member with (inPair | rfl) | later
          · exact (isFormCharacter_of_mem_formEncodePair inPair).1
          · rfl
          · exact ih later

theorem not_mem_renderForm (pairs : Pairs) : '#' ∉ (renderForm pairs).toList :=
  fun member => absurd (isFormCharacter_of_mem_renderForm member) (by decide)

end Forms

end CloudAdmin.Url
