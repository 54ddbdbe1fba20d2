import CloudAdmin.Pagination
import CloudAdmin.Proofs.Result
import CloudAdmin.Text.Numeral

/-!
# Reading numerals back

Ids, page numbers and offsets are written in decimal by one side of a connection and read by the
other. Main statement: a word that is written in decimal is read back as the same word, also if
zeros were put in front of it, and the numeral consists of digits only, so it stands for itself
wherever it is put. The last digits of a numeral are those of the remainder by a power of ten.
-/

namespace CloudAdmin.Text

theorem isDigit_of_mem_toDigits {value : Nat} {c : Char} (member : c ∈ Nat.toDigits 10 value) :
    c.isDigit = true :=
  Nat.isDigit_of_mem_toDigits (by decide) (by decide) member

theorem digitsValue_toDigits (value : Nat) : digitsValue (Nat.toDigits 10 value) = value :=
  Nat.ofDigitChars_ten_toDigits

@[simp]
theorem natural?_toDigits (value : Nat) : natural? (Nat.toDigits 10 value) = some value := by
  have digits : (Nat.toDigits 10 value).all Char.isDigit = true := by
    simpa using fun c member => isDigit_of_mem_toDigits member
  simp [natural?, digits, digitsValue_toDigits]

theorem unsigned?_of_natural? {text : List Char} {value : Nat}
    (natural : natural? text = some value) : unsigned? text = some value := by
  cases text with
  | nil => simp [natural?] at natural
  | cons first rest =>
      by_cases sign : first = '+'
      · subst sign
        simp [natural?] at natural
      · rw [unsigned?]
        · exact natural
        · simpa using sign

/-- Digits are read as the word that they denote, with or without a plus sign. -/
theorem toWord64?_of_digits {text : String} {digits : List Char} {word : UInt64}
    (written : text.toList = digits ∨ text.toList = '+' :: digits) (notEmpty : digits ≠ [])
    (allDigits : ∀ c ∈ digits, c.isDigit = true) (denotes : digitsValue digits = word.toNat) :
    toWord64? text = some word := by
  have natural : natural? digits = some word.toNat := by
    simp [natural?, notEmpty, denotes, List.all_eq_true.mpr allDigits]
  have number : unsigned? text.toList = some word.toNat := by
    rcases written with plain | signed
    · rw [plain]
      exact unsigned?_of_natural? natural
    · rw [signed, unsigned?, natural]
  rw [toWord64?, number, Option.bind_some, word64?_eq_some_iff]

theorem toWord64?_decimal_of_lt {value : Nat} (fits : value < UInt64.size) :
    toWord64? (decimal value) = some (UInt64.ofNat value) := by
  have read : unsigned? (Nat.toDigits 10 value) = some value :=
    unsigned?_of_natural? (natural?_toDigits _)
  simp [toWord64?, decimal, read, word64?, fits]

theorem toWord32?_decimal_of_lt {value : Nat} (fits : value < UInt32.size) :
    toWord32? (decimal value) = some (UInt32.ofNat value) := by
  have read : unsigned? (Nat.toDigits 10 value) = some value :=
    unsigned?_of_natural? (natural?_toDigits _)
  simp [toWord32?, decimal, read, word32?, fits]

@[simp]
theorem toWord64?_decimal (word : UInt64) : toWord64? (decimal word.toNat) = some word := by
  rw [toWord64?_decimal_of_lt word.toNat_lt, UInt64.ofNat_toNat]

@[simp]
theorem toWord32?_decimalWord (word : UInt32) : toWord32? (decimalWord word) = some word := by
  rw [decimalWord, toWord32?_decimal_of_lt word.toNat_lt, UInt32.ofNat_toNat]

theorem toWord64?_of_toWord32? {text : String} {word : UInt32}
    (read : toWord32? text = some word) : toWord64? text = some word.toUInt64 := by
  rcases Option.bind_eq_some_iff.mp read with ⟨value, number, fits⟩
  unfold word32? at fits
  split at fits
  · rename_i small
    rcases Option.some.inj fits with rfl
    have large : value < UInt64.size := Nat.lt_trans small (by decide)
    simp only [toWord64?, number, Option.bind_some, word64?, large, if_true, Option.some.injEq]
    rw [← UInt64.toNat_inj, UInt64.toNat_ofNat_of_lt' large, UInt32.toNat_toUInt64,
      UInt32.toNat_ofNat_of_lt' small]
  · cases fits

theorem le_foldl_digitValue (value : Nat) (digits : List Char) :
    value ≤ digits.foldl (fun value digit => 10 * value + digitValue digit) value := by
  induction digits generalizing value with
  | nil => exact Nat.le_refl _
  | cons digit rest ih =>
      have := ih (10 * value + digitValue digit)
      simp only [List.foldl_cons]
      omega

theorem toOption_foldlM_pushDigit {value : Nat} (fits : value < UInt64.size) (text : List Char) :
    (text.foldlM pushDigit value).toOption =
      if text.all Char.isDigit then
        (word64? (text.foldl (fun value digit => 10 * value + digitValue digit) value)).map
          UInt64.toNat
      else none := by
  induction text generalizing value with
  | nil => simp [pure, Except.pure, Except.toOption, word64?, fits, UInt64.toNat_ofNat_of_lt' fits]
  | cons c rest ih =>
      rw [List.foldlM_cons, List.all_cons, List.foldl_cons]
      cases isDigit : c.isDigit with
      | false => simp [pushDigit, digit?, isDigit, bind, Except.bind, Except.toOption]
      | true =>
          by_cases extended : 10 * value + digitValue c < UInt64.size
          · simp [pushDigit, digit?, isDigit, extended, bind, Except.bind, ih extended]
          · have large := Nat.not_lt.mpr
              (Nat.le_trans (Nat.not_lt.mp extended) (le_foldl_digitValue _ rest))
            simp [pushDigit, digit?, isDigit, extended, bind, Except.bind, Except.toOption,
              word64?, large]

/-- The words that are read are the same whether or not a reason is given when there is none. -/
theorem toOption_parseWord64 (text : List Char) :
    (parseWord64 text).toOption = (unsigned? text).bind word64? := by
  have ofDigits {digits : List Char} (notEmpty : digits ≠ []) :
      (digits.foldlM pushDigit 0 >>= fun value => Except.ok (UInt64.ofNat value)).toOption =
        (natural? digits).bind word64? := by
    have start : 0 < UInt64.size := by decide
    have read := congrArg (Option.map UInt64.ofNat) (toOption_foldlM_pushDigit start digits)
    refine Eq.trans ?_ (Eq.trans read ?_)
    · cases digits.foldlM pushDigit 0 <;> rfl
    · unfold natural?
      cases allDigits : digits.all Char.isDigit with
      | false => simp
      | true => simp [notEmpty, digitsValue, Function.comp_def]
  cases text with
  | nil => rfl
  | cons first rest =>
      by_cases sign : first = '+'
      · subst sign
        cases rest with
        | nil => rfl
        | cons digit digits => exact ofDigits (List.cons_ne_nil digit digits)
      · have unsignedOnly : unsigned? (first :: rest) = natural? (first :: rest) := by
          simp [unsigned?, sign]
        have parsed : parseWord64 (first :: rest) =
            ((first :: rest).foldlM pushDigit 0 >>= fun value => .ok (UInt64.ofNat value)) := by
          simp [parseWord64, sign, bind, Except.bind, pure, Except.pure]
        rw [unsignedOnly, parsed, ofDigits (List.cons_ne_nil first rest)]

theorem decimal_ne_empty (value : Nat) : decimal value ≠ "" := by
  intro empty
  have : Nat.toDigits 10 value = [] := by simpa [decimal] using congrArg String.toList empty
  exact Nat.toDigits_ne_nil this

theorem digitValue_digitChar {digit : Nat} (small : digit < 10) :
    digitValue digit.digitChar = digit := by
  have all : ∀ digit < 10, digitValue (Nat.digitChar digit) = digit := by decide
  exact all digit small

/-- The last digit of a padded numeral stands behind the numeral of all digits before it. -/
theorem paddedDecimal_succ (width value : Nat) :
    paddedDecimal (width + 2) value =
      paddedDecimal (width + 1) (value / 10) ++ [(value % 10).digitChar] := by
  by_cases small : value < 10
  · have front : value / 10 = 0 := by omega
    have last : value % 10 = value := by omega
    have zero : Nat.toDigits 10 0 = ['0'] := rfl
    rw [front, last, paddedDecimal, paddedDecimal, Nat.toDigits_of_lt_base small, zero]
    simp [List.replicate_succ']
  · have split := Nat.toDigits_of_base_le (b := 10) (n := value) (by omega) (by omega)
    rw [paddedDecimal, paddedDecimal, split]
    simp

/-- The digits of a padded numeral, from the front. -/
theorem map_digitValue_paddedDecimal {width value : Nat} (fits : value < Nat.pow 10 (width + 1)) :
    (paddedDecimal (width + 1) value).map digitValue =
      (List.range (width + 1)).map fun place => value / Nat.pow 10 (width - place) % 10 := by
  induction width generalizing value with
  | zero =>
      have small : value < 10 := by simpa using fits
      simp [paddedDecimal, Nat.toDigits_of_lt_base small, digitValue_digitChar small,
        Nat.mod_eq_of_lt small]
  | succ width ih =>
      have shorter : value / 10 < Nat.pow 10 (width + 1) := by
        apply Nat.div_lt_of_lt_mul
        rw [Nat.mul_comm]
        exact fits
      have last : digitValue (value % 10).digitChar = value % 10 :=
        digitValue_digitChar (Nat.mod_lt _ (by omega))
      rw [paddedDecimal_succ, List.map_append, ih shorter, List.range_succ (n := width + 1),
        List.map_append]
      congr 1
      · apply List.map_congr_left
        intro place inRange
        have before := List.mem_range.mp inRange
        have power : 10 * Nat.pow 10 (width - place) = Nat.pow 10 (width + 1 - place) := by
          rw [Nat.succ_sub (by omega)]
          exact Nat.mul_comm ..
        rw [Nat.div_div_eq_div_mul, power]
      · simp [last]

theorem isDigit_of_mem_paddedDecimal {width value : Nat} {c : Char}
    (member : c ∈ paddedDecimal width value) : c.isDigit = true := by
  rcases List.mem_append.mp member with padding | digit
  · rw [List.eq_of_mem_replicate padding]
    rfl
  · exact isDigit_of_mem_toDigits digit

theorem digitsValue_paddedDecimal (width value : Nat) :
    digitsValue (paddedDecimal width value) = value := by
  have padding (zeros : Nat) :
      (List.replicate zeros '0').foldl (fun value digit => 10 * value + digitValue digit) 0 =
        0 := by
    induction zeros with
    | zero => rfl
    | succ zeros ih => exact ih
  rw [paddedDecimal, digitsValue, List.foldl_append, padding]
  exact digitsValue_toDigits value

/-- A padded numeral is read back as what it denotes. -/
theorem parseWord64_paddedDecimal (width : Nat) {value : Nat} (fits : value < UInt64.size) :
    parseWord64 (paddedDecimal width value) = .ok (UInt64.ofNat value) := by
  have notEmpty : paddedDecimal width value ≠ [] := by simp [paddedDecimal, Nat.toDigits_ne_nil]
  have natural : natural? (paddedDecimal width value) = some value := by
    have digits : (paddedDecimal width value).all Char.isDigit = true :=
      List.all_eq_true.mpr fun c => isDigit_of_mem_paddedDecimal
    simp [natural?, notEmpty, digits, digitsValue_paddedDecimal]
  apply eq_ok_of_toOption
  rw [toOption_parseWord64, unsigned?_of_natural? natural, Option.bind_some, word64?, if_pos fits]

/-- The last digits of a numeral that has as many at least are those of the remainder by a power of
ten. -/
theorem drop_paddedDecimal (width value : Nat) :
    (paddedDecimal (width + 1) value).drop
        ((paddedDecimal (width + 1) value).length - (width + 1)) =
      paddedDecimal (width + 1) (value % Nat.pow 10 (width + 1)) := by
  induction width generalizing value with
  | zero =>
      have remainder : paddedDecimal 1 (value % 10) = [(value % 10).digitChar] := by
        simp [paddedDecimal, Nat.toDigits_of_lt_base (Nat.mod_lt value (show 10 > 0 by decide))]
      change _ = paddedDecimal 1 (value % 10)
      by_cases small : value < 10
      · rw [Nat.mod_eq_of_lt small] at remainder ⊢
        rw [remainder]
        rfl
      · have split := Nat.toDigits_of_base_le (b := 10) (n := value) (by omega) (by omega)
        rw [remainder, paddedDecimal, split]
        simp
  | succ width ih =>
      have front : value % Nat.pow 10 (width + 2) / 10 = value / 10 % Nat.pow 10 (width + 1) :=
        Nat.mod_mul_left_div_self ..
      have last : value % Nat.pow 10 (width + 2) % 10 = value % 10 :=
        Nat.mod_mul_left_mod ..
      have long : (paddedDecimal (width + 1) (value / 10)).length + 1 - (width + 2) =
          (paddedDecimal (width + 1) (value / 10)).length - (width + 1) := by omega
      rw [paddedDecimal_succ, List.length_append, List.length_singleton, long,
        List.drop_append_of_le_length (Nat.sub_le ..), ih, paddedDecimal_succ, front, last]

theorem isDigit_of_mem_decimal {value : Nat} {c : Char} (member : c ∈ (decimal value).toList) :
    c.isDigit = true := by
  simp only [decimal, String.toList_ofList] at member
  exact isDigit_of_mem_toDigits member

end CloudAdmin.Text
