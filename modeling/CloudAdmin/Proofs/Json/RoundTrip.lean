import CloudAdmin.Json.Reader
import CloudAdmin.Proofs.Json.Scanning
import CloudAdmin.Proofs.Text.Numeral

/-!
# Reading values back

Main statement: the text of a value is read as the value itself, if its containers are not nested
more deeply than the limit, the keys of its objects ascend and its numbers are written as numerals
that denote them. Words are always written so; of a double it has to be known. From a blank
text nothing is read.
-/

namespace CloudAdmin.Json

section WholeNumbers

theorem head_toDigits_ne_zero {value : Nat} (positive : 0 < value) :
    (Nat.toDigits 10 value).head? ≠ some '0' := by
  induction value using Nat.strongRecOn with
  | ind value ih =>
      by_cases small : value < 10
      · rw [Nat.toDigits_of_lt_base small]
        have digits : ∀ digit, digit < 10 → 0 < digit → [digit.digitChar].head? ≠ some '0' := by
          decide
        exact digits value small positive
      · have front : 0 < value / 10 := by omega
        have split := Nat.toDigits_append_toDigits (b := 10) (n := value / 10) (d := value % 10)
          (by omega) front (by omega)
        rw [Nat.div_add_mod] at split
        rw [← split, List.head?_append, Option.or_of_isSome (by simp [Nat.toDigits_ne_nil])]
        exact ih _ (by omega) front

theorem hasLeadingZero_toDigits (value : Nat) :
    hasLeadingZero (Nat.toDigits 10 value) = false := by
  rcases Nat.eq_zero_or_pos value with rfl | positive
  · rfl
  · have head := head_toDigits_ne_zero positive
    unfold hasLeadingZero
    split
    · rename_i same
      simp [same] at head
    · rfl

theorem takeFitting_of_fits (significand taken : Nat) (digits : List Char)
    (fits : digits.foldl (fun value digit => 10 * value + Text.digitValue digit) significand <
      UInt64.size) :
    takeFitting significand taken digits =
      (digits.foldl (fun value digit => 10 * value + Text.digitValue digit) significand,
        taken + digits.length) := by
  induction digits generalizing significand taken with
  | nil => rfl
  | cons digit rest ih =>
      simp only [List.foldl_cons] at fits ⊢
      have extended := Nat.lt_of_le_of_lt (Text.le_foldl_digitValue _ _) fits
      simp only [takeFitting, extended, if_true, ih _ _ fits, List.length_cons]
      rw [Nat.add_assoc, Nat.add_comm 1]

theorem scanUnsigned_toDigits (negative : Bool) (value : Nat) :
    scanUnsigned negative (Nat.toDigits 10 value) =
      some (⟨negative, Nat.toDigits 10 value, none, none⟩, []) := by
  have digits : ∀ c ∈ Nat.toDigits 10 value, c.isDigit = true :=
    fun c => Text.isDigit_of_mem_toDigits
  have taken : (Nat.toDigits 10 value ++ []).takeWhile Char.isDigit = Nat.toDigits 10 value ++ [] :=
    List.takeWhile_append_of_pos digits
  have dropped : (Nat.toDigits 10 value ++ []).dropWhile Char.isDigit = [] :=
    List.dropWhile_append_of_pos digits
  rw [List.append_nil] at taken dropped
  simp [scanUnsigned, scanDigits, taken, dropped, Nat.toDigits_ne_nil, hasLeadingZero_toDigits,
    scanFraction, scanExponent]

theorem takeFitting_toDigits {value : Nat} (fits : value < UInt64.size) :
    takeFitting 0 0 (Nat.toDigits 10 value) = (value, (Nat.toDigits 10 value).length) := by
  have same : (Nat.toDigits 10 value).foldl
      (fun value digit => 10 * value + Text.digitValue digit) 0 = value :=
    Text.digitsValue_toDigits value
  rw [takeFitting_of_fits 0 0 _ (by rw [same]; exact fits), same, Nat.zero_add]

@[simp]
theorem Number.readsBack_unsigned (value : UInt64) : (unsigned value).ReadsBack := by
  refine ⟨⟨false, Nat.toDigits 10 value.toNat, none, none⟩, ?_, ?_⟩
  · have scanned := scanUnsigned_toDigits false value.toNat
    simp only [render]
    unfold scanNumeral
    split
    · rename_i same
      rw [same] at scanned
      simp [scanUnsigned, scanDigits] at scanned
    · exact scanned
  · simp [Numeral.value?, takeFitting_toDigits value.toNat_lt]

end WholeNumbers

section Building

/-- Where there is more room, a value is read back as well. -/
theorem Value.ReadsBack.succ {room : Nat} {value : Value} (readsBack : value.ReadsBack room) :
    value.ReadsBack (room + 1) := by
  induction readsBack with
  | null => exact .null
  | bool value => exact .bool value
  | number readsBack => exact .number readsBack
  | string text => exact .string text
  | array readBack ih => exact .array ih
  | object ascending readBack ih => exact .object ascending ih

theorem Value.ReadsBack.ofFields {room : Nat} {members : List (String × Value)}
    (readBack : ∀ member ∈ members, member.2.ReadsBack room) :
    (Value.ofFields members).ReadsBack (room + 1) :=
  .object (Assoc.isAscending_ofList members) fun member present =>
    readBack member (Assoc.mem_of_mem_ofList present)

theorem Value.ReadsBack.ofWord {room : Nat} (value : UInt64) :
    (Value.ofWord value).ReadsBack room :=
  .number (Number.readsBack_unsigned value)

theorem Value.isBlankText_array (items : List Value) :
    Text.isBlankText (Value.array items).text = false := by
  obtain ⟨rest, text⟩ : ∃ rest, (Value.array items).render = '[' :: rest :=
    ⟨_, by rw [Value.render]⟩
  have visible : Text.isBlank '[' = false := by decide
  simp [Text.isBlankText, Value.text, text, visible]

theorem Value.isBlankText_object (fields : Fields) :
    Text.isBlankText (Value.object fields).text = false := by
  obtain ⟨rest, text⟩ : ∃ rest, (Value.object fields).render = '\x7b' :: rest :=
    ⟨_, by rw [Value.render]⟩
  have visible : Text.isBlank '\x7b' = false := by decide
  simp [Text.isBlankText, Value.text, text, visible]

end Building

section Reading

variable {limit : Nat} {frames : List Frame}

/-- What is read after a step. -/
def resume (limit : Nat) (rest : List Token) : Progress → Option (Value × List Token)
  | .refused => none
  | .continues frames expecting => readFrom limit frames expecting rest
  | .complete value => some (value, rest)

@[simp]
theorem resume_continues (rest : List Token) (expecting : Expecting) :
    resume limit rest (.continues frames expecting) = readFrom limit frames expecting rest := rfl

@[simp]
theorem resume_complete (rest : List Token) (value : Value) :
    resume limit rest (.complete value) = some (value, rest) := rfl

theorem readFrom_cons (expecting : Expecting) (token : Token) (rest : List Token) :
    readFrom limit frames expecting (token :: rest) =
      resume limit rest (step limit frames expecting token) := by
  simp only [readFrom]
  cases step limit frames expecting token <;> rfl

/-- The first item of an array is read like any other, because no value begins with the end of an
array. -/
theorem readFrom_firstItem (value : Value) (rest : List Token) :
    readFrom limit frames .firstItem (value.tokens ++ rest) =
      readFrom limit (.array [] :: frames) .value (value.tokens ++ rest) := by
  cases value <;> simp only [Value.tokens, List.cons_append, readFrom_cons, step]

/-- Whether reading a value takes just its tokens and puts it into the open containers. -/
def IsReadInside (limit room : Nat) (value : Value) : Prop :=
  ∀ (frames : List Frame) (rest : List Token), frames.length + room ≤ limit →
    readFrom limit frames .value (value.tokens ++ rest) = resume limit rest (finish value frames)

theorem readFrom_items {room : Nat} (fits : frames.length + 1 + room ≤ limit) (read : List Value)
    {items : List Value} (notEmpty : items ≠ [])
    (isRead : ∀ item ∈ items, IsReadInside limit room item) (rest : List Token) :
    readFrom limit (.array read :: frames) .value
        (List.intercalate [.comma] (items.map Value.tokens) ++ .closeBracket :: rest) =
      resume limit rest (finish (.array (read.reverse ++ items)) frames) := by
  induction items generalizing read with
  | nil => exact absurd rfl notEmpty
  | cons item items ih =>
      have first := isRead item (List.mem_cons_self ..) (.array read :: frames)
      cases items with
      | nil =>
          simp only [List.map_cons, List.map_nil, List.intercalate_singleton]
          rw [first _ (by simpa using fits)]
          simp [finish, readFrom_cons, step]
      | cons next items =>
          have others := ih (item :: read) (by simp)
            fun later member => isRead later (List.mem_cons_of_mem _ member)
          simp only [List.map_cons, List.intercalate_cons_cons, List.append_assoc] at others ⊢
          rw [first _ (by simpa using fits)]
          simp only [resume_continues, finish, List.cons_append, List.nil_append, readFrom_cons,
            step]
          rw [others]
          simp [finish]

theorem readFrom_fields {room : Nat} (fits : frames.length + 1 + room ≤ limit) (read : Fields)
    {fields : Fields} (notEmpty : fields ≠ [])
    (isRead : ∀ field ∈ fields, IsReadInside limit room field.2) (rest : List Token) :
    readFrom limit frames (.key read)
        (List.intercalate [.comma] (fields.map tokensOfField) ++ .closeBrace :: rest) =
      resume limit rest (finish (.object
        (fields.foldl (fun read field => Assoc.insert field.1 field.2 read) read)) frames) := by
  induction fields generalizing read with
  | nil => exact absurd rfl notEmpty
  | cons field fields ih =>
      have first := isRead field (List.mem_cons_self ..) (.object read field.1 :: frames)
      cases fields with
      | nil =>
          simp only [List.map_cons, List.map_nil, List.intercalate_singleton, tokensOfField,
            List.cons_append, readFrom_cons, step, resume_continues]
          rw [first _ (by simpa using fits)]
          simp [finish, readFrom_cons, step]
      | cons next fields =>
          have others := ih (Assoc.insert field.1 field.2 read) (by simp)
            fun later member => isRead later (List.mem_cons_of_mem _ member)
          simp only [List.map_cons, List.intercalate_cons_cons, List.append_assoc] at others ⊢
          simp only [tokensOfField, List.cons_append, List.nil_append, readFrom_cons, step,
            resume_continues] at others ⊢
          rw [first _ (by simpa using fits)]
          simp only [resume_continues, finish, readFrom_cons, step]
          exact others

/-- The tokens of a value are read as the value, in whatever containers it stands. -/
theorem Value.ReadsBack.isReadInside {room : Nat} {value : Value}
    (readsBack : value.ReadsBack room) (limit : Nat) : IsReadInside limit room value := by
  induction readsBack with
  | null => exact fun frames rest _ => by simp [tokens, readFrom_cons, step, begin]
  | bool value => exact fun frames rest _ => by simp [tokens, readFrom_cons, step, begin]
  | number readsBack => exact fun frames rest _ => by simp [tokens, readFrom_cons, step, begin]
  | string text => exact fun frames rest _ => by simp [tokens, readFrom_cons, step, begin]
  | @array room items readBack ih =>
      intro frames rest fits
      have room' : frames.length < limit := by omega
      simp only [tokens, itemTokens_eq_map, List.cons_append, List.append_assoc, List.nil_append,
        readFrom_cons, step, begin, room', if_true, resume_continues]
      cases items with
      | nil => simp [List.intercalate, readFrom_cons, step]
      | cons item items =>
          have room'' : frames.length + 1 + room ≤ limit := by omega
          have inside := readFrom_items room'' [] (by simp) ih rest
          have split : List.intercalate [Token.comma] ((item :: items).map tokens) =
              item.tokens ++ (List.intercalate [Token.comma] ((item :: items).map tokens)).drop
                item.tokens.length := by
            cases items <;> simp
          rw [split, List.append_assoc] at inside ⊢
          rw [readFrom_firstItem, inside]
          simp
  | @object room fields ascending readBack ih =>
      intro frames rest fits
      have room' : frames.length < limit := by omega
      simp only [tokens, fieldTokens_eq_map, List.cons_append, List.append_assoc, List.nil_append,
        readFrom_cons, step, begin, room', if_true, resume_continues]
      cases fields with
      | nil => simp [List.intercalate, readFrom_cons, step]
      | cons field fields =>
          have room'' : frames.length + 1 + room ≤ limit := by omega
          have inside := readFrom_fields room'' [] (by simp) ih rest
          have same := Assoc.ofList_of_isAscending ascending
          rw [Assoc.ofList] at same
          rw [same] at inside
          rw [← inside]
          cases fields <;> simp [tokensOfField, readFrom_cons, step]

/-- The text of a value is read as the value. -/
theorem Value.ReadsBack.parse?_text {value : Value} (readsBack : value.ReadsBack nestingLimit) :
    parse? value.text = some value := by
  have inside := readsBack.isReadInside nestingLimit [] [] (by simp)
  rw [List.append_nil] at inside
  simp [parse?, readsBack.scan_text, readValue, inside, finish]

end Reading

section Blanks

/-- No token starts with a blank. -/
theorem scanToken_of_isBlank {c : Char} (blank : Text.isBlank c = true) (rest : List Char) :
    scanToken (c :: rest) = (.bad, []) := by
  have starts {mark : Char} {others : List Char} (visible : Text.isBlank mark = false)
      (same : c :: rest = mark :: others) : False := by
    rcases List.cons.inj same with ⟨rfl, -⟩
    rw [blank] at visible
    cases visible
  have notDigit : c.isDigit = false := by
    simp only [Text.isBlank, Bool.or_eq_true, Bool.and_eq_true, decide_eq_true_eq,
      beq_iff_eq] at blank
    simp only [Char.isDigit, Bool.and_eq_false_iff, decide_eq_false_iff_not, ge_iff_le,
      UInt32.le_iff_toNat_le]
    change ¬48 ≤ c.toNat ∨ ¬c.toNat ≤ 57
    omega
  have noNumeral : scanNumeral (c :: rest) = none := by
    unfold scanNumeral
    split
    · rename_i same
      exact (starts (by decide) same).elim
    · simp [scanUnsigned, scanDigits, notDigit]
  unfold scanToken
  split
  case h_11 => rw [noNumeral]
  all_goals
    rename_i same
    exact (starts (by decide) same).elim

theorem scanUpTo_of_isBlank {text : List Char} (blank : ∀ c ∈ text, Text.isBlank c = true)
    (bound : Nat) : scanUpTo bound text = [] ∨ ∃ rest, scanUpTo bound text = .bad :: rest := by
  cases bound with
  | zero => exact .inl rfl
  | succ bound =>
      rw [scanUpTo]
      cases left : text.dropWhile isSpace with
      | nil => exact .inl rfl
      | cons c rest =>
          have inText : c ∈ text :=
            (List.dropWhile_suffix isSpace).mem (left ▸ List.mem_cons_self ..)
          simp only [scanToken_of_isBlank (blank c inText)]
          exact .inr ⟨_, rfl⟩

/-- There is no value in a blank text. -/
theorem isBlankText_of_parse? {text : String} {value : Value} (parsed : parse? text = some value) :
    Text.isBlankText text = false := by
  apply Bool.eq_false_iff.mpr
  intro blank
  rw [Text.isBlankText, List.all_eq_true] at blank
  rw [parse?, scan] at parsed
  rcases scanUpTo_of_isBlank blank text.toList.length with none | ⟨rest, bad⟩
  · rw [none] at parsed
    cases parsed
  · rw [bad] at parsed
    cases parsed

end Blanks
end CloudAdmin.Json
