import CloudAdmin.Json.Printer
import CloudAdmin.Json.Token
import CloudAdmin.Proofs.Assoc

/-!
# The tokens of a written value

A value is written as the tokens of its parts, with punctuation between them. This file says which
tokens these are and shows that the scanner finds exactly them, whatever follows the value: behind
punctuation and strings anything may follow, and behind a number a comma, the end of a container or
the end of the text. For numbers the statement rests on the numeral alone, which has to denote the
number that was written.
-/

namespace CloudAdmin.Json

/-- Whether a number is written as a numeral that denotes it. -/
def Number.ReadsBack (number : Number) : Prop :=
  ∃ numeral, scanNumeral number.render = some (numeral, []) ∧ numeral.value? = some number

/-- Whether the text of a value denotes the value, where containers may be nested as deeply as
there is room: all numbers are written as numerals that denote them, and the keys of every object
ascend. -/
inductive Value.ReadsBack : Nat → Value → Prop where
  | null {room : Nat} : ReadsBack room .null
  | bool {room : Nat} (value : Bool) : ReadsBack room (.bool value)
  | number {room : Nat} {value : Number} (readsBack : value.ReadsBack) :
      ReadsBack room (.number value)
  | string {room : Nat} (text : String) : ReadsBack room (.string text)
  | array {room : Nat} {items : List Value}
      (readBack : ∀ item ∈ items, ReadsBack room item) : ReadsBack (room + 1) (.array items)
  | object {room : Nat} {fields : Fields} (ascending : Assoc.IsAscending fields)
      (readBack : ∀ field ∈ fields, ReadsBack room field.2) : ReadsBack (room + 1) (.object fields)

mutual

/-- The tokens that a value is written with. -/
def Value.tokens : Value → List Token
  | .null => [.null]
  | .bool value => [.bool value]
  | .number value => [.number (some value)]
  | .string text => [.string (some text)]
  | .array items =>
      .openBracket :: (List.intercalate [.comma] (itemTokens items) ++ [.closeBracket])
  | .object fields =>
      .openBrace :: (List.intercalate [.comma] (fieldTokens fields) ++ [.closeBrace])

/-- The tokens of each item of an array. -/
def itemTokens : List Value → List (List Token)
  | [] => []
  | item :: rest => item.tokens :: itemTokens rest

/-- The tokens of each member of an object. -/
def fieldTokens : List (String × Value) → List (List Token)
  | [] => []
  | (key, value) :: rest => (.string (some key) :: .colon :: value.tokens) :: fieldTokens rest

end

/-- What may follow a value: a comma, the end of a container, or nothing. -/
def MayFollow (rest : List Char) : Prop :=
  ∀ c ∈ rest.head?, c = ',' ∨ c = ']' ∨ c = '}'

@[simp]
theorem mayFollow_nil : MayFollow [] := by
  simp [MayFollow]

@[simp]
theorem mayFollow_comma (rest : List Char) : MayFollow (',' :: rest) := by
  simp [MayFollow]

@[simp]
theorem mayFollow_closeBracket (rest : List Char) : MayFollow (']' :: rest) := by
  simp [MayFollow]

@[simp]
theorem mayFollow_closeBrace (rest : List Char) : MayFollow ('}' :: rest) := by
  simp [MayFollow]

section Numerals

/-- A part of a numeral that is read in the same way whatever follows the numeral. -/
def Extends {Part : Type} (read : List Char → Option (Part × List Char)) : Prop :=
  ∀ text part after rest, MayFollow rest → read text = some (part, after) →
    read (text ++ rest) = some (part, after ++ rest)

theorem MayFollow.not_digit {rest : List Char} (follows : MayFollow rest) :
    rest.takeWhile Char.isDigit = [] ∧ rest.dropWhile Char.isDigit = rest := by
  cases rest with
  | nil => simp
  | cons c rest =>
      have : c.isDigit = false := by
        rcases follows c rfl with rfl | rfl | rfl <;> rfl
      simp [this]

theorem scanDigits_extends : Extends scanDigits := by
  intro text digits after rest follows read
  rcases follows.not_digit with ⟨noDigits, all⟩
  simp only [scanDigits, List.isEmpty_iff] at read
  split at read
  · cases read
  · rename_i some_
    simp only [Option.some.injEq, Prod.mk.injEq] at read
    rcases read with ⟨rfl, rfl⟩
    have taken : (text ++ rest).takeWhile Char.isDigit = text.takeWhile Char.isDigit := by
      rw [List.takeWhile_append, noDigits, List.append_nil]
      split
      · rename_i whole
        exact ((List.takeWhile_prefix _).eq_of_length whole).symm
      · rfl
    have dropped : (text ++ rest).dropWhile Char.isDigit = text.dropWhile Char.isDigit ++ rest := by
      rw [List.dropWhile_append, all]
      split
      · rename_i empty
        simp [List.isEmpty_iff.mp empty]
      · rfl
    simp [scanDigits, taken, dropped, some_]

theorem scanFraction_extends : Extends scanFraction := by
  intro text fraction after rest follows read
  unfold scanFraction at read
  split at read
  · rename_i digits
    rcases Option.map_eq_some_iff.mp read with ⟨⟨found, after'⟩, scanned, same⟩
    rcases Prod.mk.inj same with ⟨rfl, rfl⟩
    simp [scanFraction, scanDigits_extends _ _ _ _ follows scanned]
  · rename_i noPoint
    rcases Prod.mk.inj (Option.some.inj read) with ⟨rfl, rfl⟩
    unfold scanFraction
    split
    · rename_i digits same
      cases text with
      | nil => rcases follows '.' (by simp [show rest = _ from same]) with h | h | h <;> cases h
      | cons c text =>
          rcases List.cons.inj same with ⟨rfl, -⟩
          exact absurd rfl (noPoint text)
    · rfl

theorem scanExponentDigits_extends : Extends scanExponentDigits := by
  intro text exponent after rest follows read
  unfold scanExponentDigits at read
  split at read
  all_goals
    rcases Option.map_eq_some_iff.mp read with ⟨⟨found, after'⟩, scanned, same⟩
    rcases Prod.mk.inj same with ⟨rfl, rfl⟩
    have extended := scanDigits_extends _ _ _ _ follows scanned
  · simp [scanExponentDigits, extended]
  · simp [scanExponentDigits, extended]
  · rename_i noMinus noPlus
    unfold scanExponentDigits
    cases text with
    | nil => simp [scanDigits] at scanned
    | cons c text =>
        split
        · rename_i same
          exact absurd (by rw [(List.cons.inj same).1]) (noMinus text)
        · rename_i same
          exact absurd (by rw [(List.cons.inj same).1]) (noPlus text)
        · rw [extended]
          rfl

theorem scanExponent_extends : Extends scanExponent := by
  intro text exponent after rest follows read
  unfold scanExponent at read
  split at read
  · exact scanExponentDigits_extends _ _ _ _ follows read
  · exact scanExponentDigits_extends _ _ _ _ follows read
  · rename_i noSmall noLarge
    rcases Prod.mk.inj (Option.some.inj read) with ⟨rfl, rfl⟩
    cases text with
    | nil =>
        cases rest with
        | nil => rfl
        | cons c rest => rcases follows c rfl with rfl | rfl | rfl <;> rfl
    | cons c text =>
        unfold scanExponent
        split
        · rename_i same
          exact absurd (by rw [(List.cons.inj same).1]) (noSmall text)
        · rename_i same
          exact absurd (by rw [(List.cons.inj same).1]) (noLarge text)
        · rfl

theorem scanUnsigned_extends (negative : Bool) : Extends (scanUnsigned negative) := by
  intro text numeral after rest follows read
  simp only [scanUnsigned, Option.bind_eq_bind, Option.bind_eq_some_iff, Prod.exists] at read
  rcases read with ⟨whole, afterWhole, scanned, read⟩
  split at read
  · simp at read
  · rename_i noZero
    simp only [Option.bind_eq_some_iff, Prod.exists] at read
    rcases read
        with ⟨fraction, afterFraction, scannedFraction, exponent, left, scannedExponent, same⟩
    rcases Prod.mk.inj (Option.some.inj same) with ⟨rfl, rfl⟩
    simp [scanUnsigned, scanDigits_extends _ _ _ _ follows scanned,
      scanFraction_extends _ _ _ _ follows scannedFraction,
      scanExponent_extends _ _ _ _ follows scannedExponent, noZero]

theorem scanNumeral_extends : Extends scanNumeral := by
  intro text numeral after rest follows read
  unfold scanNumeral at read
  split at read
  · exact scanUnsigned_extends true _ _ _ _ follows read
  · rename_i noMinus
    have extended := scanUnsigned_extends false _ _ _ _ follows read
    cases text with
    | nil => simp [scanUnsigned, scanDigits] at read
    | cons c text =>
        unfold scanNumeral
        split
        · rename_i same
          exact absurd (by rw [(List.cons.inj same).1]) (noMinus text)
        · exact extended

/-- A text that begins with a numeral begins with no other token and with no blank. -/
theorem scanToken_of_scanNumeral {text rest : List Char} {numeral : Numeral}
    (scanned : scanNumeral text = some (numeral, rest)) :
    scanToken text = (.number numeral.value?, rest) := by
  unfold scanToken
  split <;> simp_all [scanNumeral, scanUnsigned, scanDigits]

theorem not_isSpace_of_scanNumeral {text rest : List Char} {numeral : Numeral}
    (scanned : scanNumeral text = some (numeral, rest)) :
    text ≠ [] ∧ text.dropWhile isSpace = text := by
  cases text with
  | nil => simp [scanNumeral, scanUnsigned, scanDigits] at scanned
  | cons c text =>
      by_cases space : isSpace c = true
      · simp only [isSpace, Bool.or_eq_true, beq_iff_eq] at space
        rcases space with ((rfl | rfl) | rfl) | rfl <;>
          simp [scanNumeral, scanUnsigned, scanDigits] at scanned
      · simp [space]

end Numerals

section Strings

theorem hexValue?_lowerHex (value : Nat) (small : value < 16) :
    Text.hexValue? (Text.lowerHex value) = some value := by
  revert value
  decide

/-- A character that was written inside a string is read as itself. -/
theorem scanString_escapeChar (read : List Char) (c : Char) (rest : List Char) :
    scanString ⟨read, true, none⟩ .plain (escapeChar c ++ rest) =
      scanString ⟨c :: read, true, none⟩ .plain rest := by
  unfold escapeChar
  split
  · subst_vars
    rfl
  split
  · subst_vars
    rfl
  split
  · subst_vars
    rfl
  split
  · subst_vars
    rfl
  split
  · subst_vars
    rfl
  split
  · subst_vars
    rfl
  split
  · subst_vars
    rfl
  split
  · rename_i control
    have high := hexValue?_lowerHex (c.toNat / 16) (by omega)
    have low := hexValue?_lowerHex (c.toNat % 16) (by omega)
    have zero : Text.hexValue? '0' = some 0 := rfl
    have whole : c.toNat / 16 * 16 + c.toNat % 16 = c.toNat := by omega
    have notHigh : isHighSurrogate c.toNat = false := by simp [isHighSurrogate]; omega
    have notLow : isLowSurrogate c.toNat = false := by simp [isLowSurrogate]; omega
    simp [scanString, high, low, zero, whole, StringContent.pushUnit, StringContent.pushFresh,
      notHigh, notLow, Char.ofNat_toNat]
  · rename_i noQuote noBackslash _ _ _ _ _ noControl
    simp [scanString, noQuote, noBackslash, noControl, StringContent.push]

theorem scanString_flatMap_escapeChar (read text rest : List Char) :
    scanString ⟨read, true, none⟩ .plain (text.flatMap escapeChar ++ '"' :: rest) =
      some (some (String.ofList (read.reverse ++ text)), rest) := by
  induction text generalizing read with
  | nil => simp [scanString, StringContent.text?]
  | cons c text ih =>
      simp only [List.flatMap_cons, List.append_assoc, scanString_escapeChar, ih]
      simp

theorem scanToken_renderString (text : String) (rest : List Char) :
    scanToken (renderString text ++ rest) = (.string (some text), rest) := by
  have read := scanString_flatMap_escapeChar [] text.toList rest
  simp only [List.reverse_nil, List.nil_append, String.ofList_toList] at read
  simp [renderString, scanToken, StringContent.start, read]

end Strings

section Values

theorem renderItems_eq_map (items : List Value) : renderItems items = items.map Value.render := by
  induction items with
  | nil => rfl
  | cons item rest ih => simp [renderItems, ih]

theorem itemTokens_eq_map (items : List Value) : itemTokens items = items.map Value.tokens := by
  induction items with
  | nil => rfl
  | cons item rest ih => simp [itemTokens, ih]

/-- A member as it is written. -/
def renderField (field : String × Value) : List Char :=
  renderString field.1 ++ ':' :: field.2.render

/-- The tokens of a member. -/
def tokensOfField (field : String × Value) : List Token :=
  .string (some field.1) :: .colon :: field.2.tokens

theorem renderFields_eq_map (fields : Fields) : renderFields fields = fields.map renderField := by
  induction fields with
  | nil => rfl
  | cons field rest ih => simp [renderFields, renderField, ih]

theorem fieldTokens_eq_map (fields : Fields) : fieldTokens fields = fields.map tokensOfField := by
  induction fields with
  | nil => rfl
  | cons field rest ih => simp [fieldTokens, tokensOfField, ih]

/-- Whether the scanner finds just some tokens in a piece of text, in front of everything that may
follow a value. -/
structure IsScannedAs (piece : List Char) (tokens : List Token) : Prop where
  atMost : tokens.length ≤ piece.length
  found : ∀ extra rest, MayFollow rest →
    scanUpTo (tokens.length + extra) (piece ++ rest) = tokens ++ scanUpTo extra rest

theorem scanUpTo_succ {text rest : List Char} {token : Token} (notEmpty : text ≠ [])
    (noBlank : text.dropWhile isSpace = text) (scanned : scanToken text = (token, rest))
    (bound : Nat) : scanUpTo (bound + 1) text = token :: scanUpTo bound rest := by
  cases text with
  | nil => exact absurd rfl notEmpty
  | cons first tail => simp [scanUpTo, noBlank, scanned]

/-- The characters that are a token each. -/
def marks : List (Char × Token) :=
  [('[', .openBracket), (']', .closeBracket), ('\x7b', .openBrace), ('\x7d', .closeBrace),
    (',', .comma), (':', .colon)]

theorem scanUpTo_mark {mark : Char} {token : Token} (entry : (mark, token) ∈ marks) (bound : Nat)
    (rest : List Char) : scanUpTo (bound + 1) (mark :: rest) = token :: scanUpTo bound rest := by
  simp only [marks, List.mem_cons, Prod.mk.injEq, List.not_mem_nil, or_false] at entry
  rcases entry with ⟨rfl, rfl⟩ | ⟨rfl, rfl⟩ | ⟨rfl, rfl⟩ | ⟨rfl, rfl⟩ | ⟨rfl, rfl⟩ | ⟨rfl, rfl⟩ <;>
    exact scanUpTo_succ (by simp) (by simp [isSpace]) rfl bound

/-- A piece that is one token wherever it stands. -/
theorem IsScannedAs.single {piece : List Char} {token : Token} (notEmpty : piece ≠ [])
    (noBlank : piece.dropWhile isSpace = piece)
    (scanned : ∀ rest, MayFollow rest → scanToken (piece ++ rest) = (token, rest)) :
    IsScannedAs piece [token] where
  atMost := List.length_pos_iff.mpr notEmpty
  found extra rest follows := by
    have noBlankThen : (piece ++ rest).dropWhile isSpace = piece ++ rest := by
      rw [List.dropWhile_append, noBlank]
      simp [notEmpty]
    rw [show [token].length + extra = extra + 1 from Nat.add_comm ..]
    rw [scanUpTo_succ (by simp [notEmpty]) noBlankThen (scanned rest follows)]
    rfl

theorem scanUpTo_renderString (text : String) (rest : List Char) (bound : Nat) :
    scanUpTo (bound + 1) (renderString text ++ rest) =
      .string (some text) :: scanUpTo bound rest :=
  scanUpTo_succ (by simp [renderString]) (by simp [renderString, isSpace])
    (scanToken_renderString text rest) bound

theorem Number.isScannedAs {number : Number} (readsBack : number.ReadsBack) :
    IsScannedAs number.render [.number (some number)] := by
  rcases readsBack with ⟨numeral, scanned, value⟩
  rcases not_isSpace_of_scanNumeral scanned with ⟨notEmpty, noBlank⟩
  refine .single notEmpty noBlank fun rest follows => ?_
  rw [scanToken_of_scanNumeral (scanNumeral_extends _ _ _ _ follows scanned), value]
  rfl

theorem IsScannedAs.field {field : String × Value}
    (scanned : IsScannedAs field.2.render field.2.tokens) :
    IsScannedAs (renderField field) (tokensOfField field) where
  atMost := by
    have := scanned.atMost
    simp [renderField, tokensOfField, renderString]
    omega
  found extra rest follows := by
    have colon : (':', Token.colon) ∈ marks := by simp [marks]
    have count : (tokensOfField field).length + extra =
        field.2.tokens.length + extra + 1 + 1 := by
      simp [tokensOfField]
      omega
    rw [count]
    simp only [renderField, tokensOfField, List.append_assoc, List.cons_append,
      scanUpTo_renderString, scanUpTo_mark colon, scanned.found extra rest follows]

theorem IsScannedAs.comma {piece piece' : List Char} {tokens tokens' : List Token}
    (first : IsScannedAs piece tokens) (second : IsScannedAs piece' tokens') :
    IsScannedAs (piece ++ [','] ++ piece') (tokens ++ [.comma] ++ tokens') where
  atMost := by
    have := first.atMost
    have := second.atMost
    simp
    omega
  found extra rest follows := by
    have comma : (',', Token.comma) ∈ marks := by simp [marks]
    have count : (tokens ++ [Token.comma] ++ tokens').length + extra =
        tokens.length + (tokens'.length + extra + 1) := by
      simp
      omega
    rw [count]
    simp only [List.append_assoc, List.cons_append, List.nil_append,
      first.found _ _ (mayFollow_comma _), scanUpTo_mark comma, second.found extra rest follows]

/-- Pieces between commas are scanned one after the other. -/
theorem IsScannedAs.separated {Item : Type} {render : Item → List Char}
    {tokens : Item → List Token} {items : List Item}
    (scanned : ∀ item ∈ items, IsScannedAs (render item) (tokens item)) :
    IsScannedAs (List.intercalate [','] (items.map render))
      (List.intercalate [.comma] (items.map tokens)) := by
  induction items with
  | nil => exact ⟨by simp, by simp⟩
  | cons item rest ih =>
      have first := scanned item (List.mem_cons_self ..)
      have others := ih fun later member => scanned later (List.mem_cons_of_mem _ member)
      cases rest with
      | nil => simpa using first
      | cons next rest =>
          simp only [List.map_cons, List.intercalate_cons_cons] at others ⊢
          exact first.comma others

theorem IsScannedAs.enclosed {first last : Char} {firstToken lastToken : Token}
    {piece : List Char} {tokens : List Token} (scanned : IsScannedAs piece tokens)
    (opens : (first, firstToken) ∈ marks) (closes : (last, lastToken) ∈ marks)
    (follows : ∀ rest, MayFollow (last :: rest)) :
    IsScannedAs (first :: (piece ++ [last])) (firstToken :: (tokens ++ [lastToken])) where
  atMost := by
    have := scanned.atMost
    simp
    omega
  found extra rest _ := by
    have count : (firstToken :: (tokens ++ [lastToken])).length + extra =
        tokens.length + (extra + 1) + 1 := by
      simp
      omega
    rw [count]
    simp only [List.cons_append, List.append_assoc, List.nil_append, scanUpTo_mark opens,
      scanned.found _ _ (follows rest), scanUpTo_mark closes]

/-- The scanner finds the tokens of a value in its text. -/
theorem Value.ReadsBack.isScannedAs {room : Nat} {value : Value}
    (readsBack : value.ReadsBack room) :
    IsScannedAs value.render value.tokens := by
  induction readsBack with
  | null => exact .single (by decide) (by decide) fun rest _ => rfl
  | bool value => cases value <;> exact .single (by decide) (by decide) fun rest _ => rfl
  | number readsBack => exact Number.isScannedAs readsBack
  | string text =>
      exact .single (by simp [Value.render, renderString])
        (by simp [Value.render, renderString, isSpace])
        fun rest _ => scanToken_renderString text rest
  | array readBack ih =>
      simp only [Value.render, Value.tokens, renderItems_eq_map, itemTokens_eq_map]
      exact (IsScannedAs.separated ih).enclosed (by simp [marks]) (by simp [marks])
        mayFollow_closeBracket
  | object ascending readBack ih =>
      simp only [Value.render, Value.tokens, renderFields_eq_map, fieldTokens_eq_map]
      exact (IsScannedAs.separated fun field member => (ih field member).field).enclosed
        (by simp [marks]) (by simp [marks]) mayFollow_closeBrace

/-- The text of a value is scanned as the tokens of the value. -/
theorem Value.ReadsBack.scan_text {room : Nat} {value : Value} (readsBack : value.ReadsBack room) :
    scan value.text = value.tokens := by
  have scanned := readsBack.isScannedAs
  have found := scanned.found (value.render.length - value.tokens.length) [] mayFollow_nil
  have nothing (bound : Nat) : scanUpTo bound [] = [] := by cases bound <;> rfl
  rw [Nat.add_sub_cancel' scanned.atMost, nothing] at found
  simpa [scan, Value.text] using found

end Values

end CloudAdmin.Json
