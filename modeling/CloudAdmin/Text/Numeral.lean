/-!
# Decimal numerals

Page numbers, lifetimes, timestamps and ids are read from text as machine words: a numeral is a
non-empty run of ASCII digits, optionally signed, whose value fits the word. Nothing else is
accepted, in particular no blanks, no digits of other scripts and no separators.
-/

namespace CloudAdmin.Text

/-- The magnitude of the least signed 64-bit integer; the greatest one is one less. -/
def int64Bound : Nat := 0x8000000000000000

/-- Whether a number is a signed 64-bit integer. -/
def fitsInt64 (value : Int) : Bool :=
  -(int64Bound : Int) ≤ value && value < (int64Bound : Int)

/-- The value of an ASCII digit. -/
def digitValue (c : Char) : Nat :=
  c.toNat - 48

/-- The value of a character, if it is an ASCII digit. -/
def digit? (c : Char) : Option Nat :=
  if c.isDigit then some (digitValue c) else none

/-- The number that a run of digits denotes. -/
def digitsValue (digits : List Char) : Nat :=
  digits.foldl (fun value digit => 10 * value + digitValue digit) 0

/-- The value of a text that consists of ASCII digits only. -/
def natural? (text : List Char) : Option Nat :=
  if text.isEmpty || !text.all Char.isDigit then none else some (digitsValue text)

/-- The value of a numeral with an optional plus sign. -/
def unsigned? : List Char → Option Nat
  | '+' :: digits => natural? digits
  | digits => natural? digits

/-- The value of a numeral with an optional sign. -/
def signed? : List Char → Option Int
  | '-' :: digits => (natural? digits).map fun value => -(value : Int)
  | numeral => (unsigned? numeral).map fun value => (value : Int)

/-- A number as a 64-bit word, if it fits. -/
def word64? (value : Nat) : Option UInt64 :=
  if value < UInt64.size then some (UInt64.ofNat value) else none

/-- A number as a 32-bit word, if it fits. -/
def word32? (value : Nat) : Option UInt32 :=
  if value < UInt32.size then some (UInt32.ofNat value) else none

/-- An unsigned numeral as a 64-bit word. -/
def toWord64? (text : String) : Option UInt64 :=
  (unsigned? text.toList).bind word64?

/-- An unsigned numeral as a 32-bit word. -/
def toWord32? (text : String) : Option UInt32 :=
  (unsigned? text.toList).bind word32?

/-- Why a text is not the numeral of a word. -/
inductive NumeralFault where
  | empty
  | invalidDigit
  | tooLarge
deriving DecidableEq, Repr

def NumeralFault.message : NumeralFault → String
  | .empty => "cannot parse integer from empty string"
  | .invalidDigit => "invalid digit found in string"
  | .tooLarge => "number too large to fit in target type"

/-- A number with one more digit behind it, as long as it fits a 64-bit word. -/
def pushDigit (value : Nat) (c : Char) : Except NumeralFault Nat :=
  match digit? c with
  | none => .error .invalidDigit
  | some digit =>
      if 10 * value + digit < UInt64.size then .ok (10 * value + digit) else .error .tooLarge

/-- An unsigned numeral as a 64-bit word, or what is wrong with it. A lone sign is a digit that is
none. -/
def parseWord64 (text : List Char) : Except NumeralFault UInt64 := do
  let digits ← match text with
    | [] => .error .empty
    | ['+'] => .error .invalidDigit
    | '+' :: digits => .ok digits
    | digits => .ok digits
  let value ← digits.foldlM pushDigit 0
  return UInt64.ofNat value

/-- A signed numeral as a 64-bit integer. -/
def toInt64? (text : String) : Option Int64 :=
  (signed? text.toList).bind fun value =>
    if fitsInt64 value then some (Int64.ofInt value) else none

/-- The word denoted by the digits with which a text begins. -/
def leadingWord64? (text : List Char) : Option UInt64 :=
  (natural? (text.takeWhile Char.isDigit)).bind word64?

/-- The decimal digits of a number. -/
def decimal (value : Nat) : String :=
  String.ofList (Nat.toDigits 10 value)

/-- The decimal digits of a number, with zeros in front up to a given width. -/
def paddedDecimal (width value : Nat) : List Char :=
  let digits := Nat.toDigits 10 value
  List.replicate (width - digits.length) '0' ++ digits

/-- The decimal numeral of a signed number. -/
def signedDecimal : Int → String
  | .ofNat value => decimal value
  | .negSucc value => String.ofList ('-' :: Nat.toDigits 10 (value + 1))

theorem word64?_eq_some_iff {value : Nat} {word : UInt64} :
    word64? value = some word ↔ word.toNat = value := by
  unfold word64?
  split
  · rename_i fits
    constructor
    · intro equal
      simp only [Option.some.injEq] at equal
      rw [← equal]
      exact UInt64.toNat_ofNat_of_lt fits
    · intro equal
      simp [← equal]
  · rename_i large
    constructor
    · intro equal
      simp at equal
    · intro equal
      exact absurd (equal ▸ word.toNat_lt) large

end CloudAdmin.Text
