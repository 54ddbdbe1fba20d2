import CloudAdmin.Decimal.Binary64
import CloudAdmin.Text.Hex
import CloudAdmin.Text.Numeral
import CloudAdmin.Toml.Value

/-!
# Numbers, truth values and points in time

What is not a string, an array or a table is written without blanks, apart from a date and a time
that a space may divide. Digits may be grouped by underscores, each between two digits. A whole
number has 64 bits and a sign; a fraction has to be small enough to be a double.
-/

namespace CloudAdmin.Toml

/-- Whether a character may be part of a number, a truth value or a point in time. -/
def isScalarCharacter (c : Char) : Bool :=
  c.isAlphanum || c == '_' || c == '+' || c == '-' || c == '.' || c == ':'

def isOctalDigit (c : Char) : Bool :=
  '0' ≤ c && c ≤ '7'

def isBinaryDigit (c : Char) : Bool :=
  c == '0' || c == '1'

/-- Digits without the underscores between them. -/
def ungroup? (isDigit : Char → Bool) : List Char → Option (List Char)
  | [] => none
  | [digit] => if isDigit digit then some [digit] else none
  | digit :: '_' :: rest =>
      if isDigit digit then (ungroup? isDigit rest).map (digit :: ·) else none
  | digit :: rest => if isDigit digit then (ungroup? isDigit rest).map (digit :: ·) else none

/-- The number that digits denote in some base. -/
def inBase (base : Nat) (digits : List Char) : Nat :=
  digits.foldl (fun value digit => base * value + (Text.hexValue? digit).getD 0) 0

/-- Digits of which the first is not a superfluous zero. -/
def plainDigits? (text : List Char) : Option (List Char) :=
  match ungroup? Char.isDigit text with
  | some ('0' :: _ :: _) => none
  | digits => digits

/-- A number, unless it needs more than 64 bits. -/
def boundedInteger? (value : Int) : Option Value :=
  if Text.fitsInt64 value then some (.integer value) else none

/-- A whole number. -/
def integer? : List Char → Option Value
  | '0' :: 'x' :: digits => based? 16 Text.isHexDigit digits
  | '0' :: 'o' :: digits => based? 8 isOctalDigit digits
  | '0' :: 'b' :: digits => based? 2 isBinaryDigit digits
  | '-' :: digits => (plainDigits? digits).bind fun digits =>
      boundedInteger? (-(Text.digitsValue digits : Int))
  | '+' :: digits => (plainDigits? digits).bind fun digits =>
      boundedInteger? (Text.digitsValue digits)
  | digits => (plainDigits? digits).bind fun digits => boundedInteger? (Text.digitsValue digits)
where
  /-- A whole number in another base. -/
  based? (base : Nat) (isDigit : Char → Bool) (digits : List Char) : Option Value :=
    (ungroup? isDigit digits).bind fun digits => boundedInteger? (inBase base digits)

/-- A text without its sign, and whether the sign is a minus. -/
def splitSign : List Char → Bool × List Char
  | '-' :: rest => (true, rest)
  | '+' :: rest => (false, rest)
  | text => (false, text)

/-- Whether a decimal number is too large for a double. -/
def exceedsDouble (digits : List Char) (exponent : Int) : Bool :=
  let significant := digits.dropWhile (· == '0')
  let magnitude : Int := significant.length + exponent
  if significant.isEmpty || magnitude < 300 then false
  else if 320 < magnitude then true
  else
    let value := Text.digitsValue significant
    let (numerator, denominator) :=
      if exponent < 0 then (value, Nat.pow 10 (-exponent).toNat)
      else (value * Nat.pow 10 exponent.toNat, 1)
    (Decimal.Binary64.roundRatio? numerator denominator).isNone

def exponent? (text : List Char) : Option Int :=
  let (negative, digits) := splitSign text
  (ungroup? Char.isDigit digits).map fun digits =>
    let value : Int := Text.digitsValue digits
    if negative then -value else value

/-- A number with a fraction, an exponent or both. -/
def fraction? (text : List Char) : Option Value := do
  let (negative, magnitude) := splitSign text
  let isMark := fun c : Char => c == 'e' || c == 'E'
  let mantissa := magnitude.takeWhile (!isMark ·)
  let whole := mantissa.takeWhile (· != '.')
  let wholeDigits ← plainDigits? whole
  let fractionDigits ← match mantissa.drop whole.length with
    | [] => some []
    | _ :: digits => ungroup? Char.isDigit digits
  let exponent ← match magnitude.drop mantissa.length with
    | [] => if fractionDigits.isEmpty then none else some 0
    | _ :: text => exponent? text
  if !negative &&
      exceedsDouble (wholeDigits ++ fractionDigits) (exponent - fractionDigits.length) then
    none
  else some .float

/-- A number that is not finite. -/
def notFinite? (text : List Char) : Option Value :=
  let name := (splitSign text).2
  if name == ['i', 'n', 'f'] || name == ['n', 'a', 'n'] then some .float else none

/-- The value of two digits, if it is in a range. -/
def twoDigits? (least greatest : Nat) (tens ones : Char) : Option Nat :=
  (Text.natural? [tens, ones]).bind fun value =>
    if least ≤ value ∧ value ≤ greatest then some value else none

/-- How many days a month has. -/
def daysInMonth (year month : Nat) : Nat :=
  if month = 2 then
    if year % 4 = 0 ∧ (year % 100 ≠ 0 ∨ year % 400 = 0) then 29 else 28
  else if [4, 6, 9, 11].contains month then 30 else 31

/-- The text after a date. -/
def afterDate? : List Char → Option (List Char)
  | y₁ :: y₂ :: y₃ :: y₄ :: '-' :: m₁ :: m₂ :: '-' :: d₁ :: d₂ :: rest => do
      let year ← Text.natural? [y₁, y₂, y₃, y₄]
      let month ← twoDigits? 1 12 m₁ m₂
      let _ ← twoDigits? 1 (daysInMonth year month) d₁ d₂
      return rest
  | _ => none

/-- The text after a time of day. -/
def afterTime? : List Char → Option (List Char)
  | h₁ :: h₂ :: ':' :: m₁ :: m₂ :: ':' :: s₁ :: s₂ :: rest => do
      let _ ← twoDigits? 0 23 h₁ h₂
      let _ ← twoDigits? 0 59 m₁ m₂
      let _ ← twoDigits? 0 60 s₁ s₂
      match rest with
      | '.' :: fraction =>
          if (fraction.takeWhile Char.isDigit).isEmpty then none
          else some (fraction.dropWhile Char.isDigit)
      | _ => some rest
  | _ => none

/-- Whether a text is the offset of a time zone, or nothing. -/
def isOffset : List Char → Bool
  | [] | ['Z'] | ['z'] => true
  | [sign, h₁, h₂, ':', m₁, m₂] =>
      (sign == '+' || sign == '-') && (twoDigits? 0 23 h₁ h₂).isSome &&
        (twoDigits? 0 59 m₁ m₂).isSome
  | _ => false

/-- Whether a text is a time of day with an offset. -/
def isTimeWithOffset (text : List Char) : Bool :=
  match afterTime? text with
  | some rest => isOffset rest
  | none => false

/-- Whether a text is a point in time. -/
def isTime (text : List Char) : Bool :=
  match afterDate? text with
  | some [] => true
  | some (mark :: rest) => (mark == 'T' || mark == 't') && isTimeWithOffset rest
  | none => afterTime? text == some []

/-- A value that is written without blanks. -/
def scalar? (text : List Char) : Option Value :=
  if text == ['t', 'r', 'u', 'e'] then some (.boolean true)
  else if text == ['f', 'a', 'l', 's', 'e'] then some (.boolean false)
  else if isTime text then some .time
  else (integer? text).or ((fraction? text).or (notFinite? text))

/-- Read a value that is not a string, an array or a table. -/
def readScalar? (text : List Char) : Option (Value × List Char) := do
  let token := text.takeWhile isScalarCharacter
  let rest := text.dropWhile isScalarCharacter
  let value ← scalar? token
  match rest with
  | ' ' :: digit :: more =>
      if afterDate? token == some [] && digit.isDigit then
        if isTimeWithOffset ((digit :: more).takeWhile isScalarCharacter) then
          some (.time, (digit :: more).dropWhile isScalarCharacter)
        else none
      else some (value, rest)
  | _ => some (value, rest)

end CloudAdmin.Toml
