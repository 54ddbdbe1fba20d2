import CloudAdmin.Json.Value
import CloudAdmin.Text.Hex
import CloudAdmin.Text.Numeral

/-!
# JSON tokens

A JSON text is split into tokens before it is read. A number or a string that is well written can
still have no value: a number whose magnitude no double has, and a string with half of a surrogate
pair. Such a token carries `none`, so that a reader may refuse it while a reader that skips a value
passes over it. A text that cannot be split any further ends with the token `bad`.

The value of a number follows its digits from left to right: digits are taken into the
significand as long as it fits a 64-bit word. Further digits before the point raise the exponent
and further digits after it are dropped.
-/

namespace CloudAdmin.Json

/-- The smallest meaningful pieces of a JSON text. -/
inductive Token where
  | openBracket
  | closeBracket
  | openBrace
  | closeBrace
  | comma
  | colon
  | null
  | bool (value : Bool)
  | number (value : Option Number)
  | string (text : Option String)
  | bad
deriving Repr

/-- The blanks of JSON. -/
def isSpace (c : Char) : Bool :=
  c == ' ' || c == '\t' || c == '\n' || c == '\r'

/-- The character that a backslash and one letter stand for. -/
def shortEscape? : Char → Option Char
  | '"' => some '"'
  | '\\' => some '\\'
  | '/' => some '/'
  | 'b' => some '\x08'
  | 'f' => some '\x0c'
  | 'n' => some '\n'
  | 'r' => some '\r'
  | 't' => some '\t'
  | _ => none

/-- Whether a code unit is the first half of a surrogate pair. -/
def isHighSurrogate (unit : Nat) : Bool :=
  0xD800 ≤ unit && unit ≤ 0xDBFF

/-- Whether a code unit is the second half of a surrogate pair. -/
def isLowSurrogate (unit : Nat) : Bool :=
  0xDC00 ≤ unit && unit ≤ 0xDFFF

/-- What has been read of a string: its characters in reverse, whether every surrogate so far had
its other half, and a first half that still waits for its second. -/
structure StringContent where
  read : List Char
  whole : Bool
  waiting : Option Nat
deriving Repr

namespace StringContent

/-- The content of a string of which nothing has been read. -/
def start : StringContent := ⟨[], true, none⟩

/-- Add a character; a first half before it stays alone. -/
def push (c : Char) (content : StringContent) : StringContent :=
  ⟨c :: content.read, content.whole && content.waiting.isNone, none⟩

/-- Add a code unit that follows no first half. -/
def pushFresh (unit : Nat) (content : StringContent) : StringContent :=
  if isHighSurrogate unit then { content with waiting := some unit }
  else if isLowSurrogate unit then { content with whole := false, waiting := none }
  else { content with read := Char.ofNat unit :: content.read, waiting := none }

def pushUnit (unit : Nat) (content : StringContent) : StringContent :=
  match content.waiting with
  | none => content.pushFresh unit
  | some first =>
      if isLowSurrogate unit then
        let code := 0x10000 + (first - 0xD800) * 1024 + (unit - 0xDC00)
        { content with read := Char.ofNat code :: content.read, waiting := none }
      else { content with whole := false }.pushFresh unit

/-- The text of the whole string, unless it holds half of a surrogate pair. -/
def text? (content : StringContent) : Option String :=
  if content.whole && content.waiting.isNone then some (String.ofList content.read.reverse)
  else none

end StringContent

/-- Where in a string the scanner is: between characters, after a backslash, or after some of the
four digits of a code unit. -/
inductive StringPlace where
  | plain
  | escape
  | unit (digits value : Nat)
deriving Repr

/-- Read a string after its opening quote. -/
def scanString (content : StringContent) :
    StringPlace → List Char → Option (Option String × List Char)
  | _, [] => none
  | .plain, c :: rest =>
      if c = '"' then some (content.text?, rest)
      else if c = '\\' then scanString content .escape rest
      else if c.toNat < 0x20 then none
      else scanString (content.push c) .plain rest
  | .escape, c :: rest =>
      if c = 'u' then scanString content (.unit 0 0) rest
      else
        match shortEscape? c with
        | none => none
        | some character => scanString (content.push character) .plain rest
  | .unit digits value, c :: rest =>
      match Text.hexValue? c with
      | none => none
      | some digit =>
          let extended := value * 16 + digit
          if digits = 3 then scanString (content.pushUnit extended) .plain rest
          else scanString content (.unit (digits + 1) extended) rest

/-- Take digits into a significand as long as it fits a 64-bit word; also count them. -/
def takeFitting (significand taken : Nat) : List Char → Nat × Nat
  | [] => (significand, taken)
  | digit :: rest =>
      let extended := 10 * significand + Text.digitValue digit
      if extended < UInt64.size then takeFitting extended (taken + 1) rest
      else (significand, taken)

/-- The parts of a written number. -/
structure Numeral where
  negative : Bool
  whole : List Char
  fraction : Option (List Char)
  exponent : Option Int
deriving Repr

/-- The double with a decimal significand and exponent. -/
def doubleOf? (negative : Bool) (significand : Nat) (exponent : Int) : Option Number :=
  (Decimal.Binary64.ofDecimal? significand exponent).map fun magnitude =>
    .double (magnitude.withSign negative)

/-- The number that a numeral denotes, if there is one. -/
def Numeral.value? (numeral : Numeral) : Option Number :=
  let (leading, taken) := takeFitting 0 0 numeral.whole
  let raised : Int := (numeral.whole.length : Int) - (taken : Int)
  match numeral.fraction, numeral.exponent with
  | none, none =>
      if raised ≠ 0 then doubleOf? numeral.negative leading raised
      else if !numeral.negative then some (.unsigned (UInt64.ofNat leading))
      else if 0 < leading ∧ leading ≤ Text.int64Bound then
        some (.negative (Int64.ofInt (-(leading : Int))))
      else doubleOf? true leading 0
  | fraction, exponent =>
      let (significand, lowered) := takeFitting leading 0 (fraction.getD [])
      doubleOf? numeral.negative significand (raised - (lowered : Int) + exponent.getD 0)

/-- Split digits from what follows them; there must be one. -/
def scanDigits (text : List Char) : Option (List Char × List Char) :=
  let digits := text.takeWhile Char.isDigit
  if digits.isEmpty then none else some (digits, text.dropWhile Char.isDigit)

/-- Read the fraction of a number, if there is a point. -/
def scanFraction : List Char → Option (Option (List Char) × List Char)
  | '.' :: rest => (scanDigits rest).map fun (digits, rest') => (some digits, rest')
  | text => some (none, text)

/-- Read the exponent of a number after its letter. -/
def scanExponentDigits : List Char → Option (Option Int × List Char)
  | '-' :: rest =>
      (scanDigits rest).map fun (digits, rest') => (some (-(Text.digitsValue digits : Int)), rest')
  | '+' :: rest =>
      (scanDigits rest).map fun (digits, rest') => (some (Text.digitsValue digits : Int), rest')
  | rest =>
      (scanDigits rest).map fun (digits, rest') => (some (Text.digitsValue digits : Int), rest')

/-- Read the exponent of a number, if there is one. -/
def scanExponent : List Char → Option (Option Int × List Char)
  | 'e' :: rest => scanExponentDigits rest
  | 'E' :: rest => scanExponentDigits rest
  | text => some (none, text)

/-- Whether digits have a zero in front of others. -/
def hasLeadingZero : List Char → Bool
  | '0' :: _ :: _ => true
  | _ => false

/-- Read the parts of a number after its sign. -/
def scanUnsigned (negative : Bool) (text : List Char) : Option (Numeral × List Char) := do
  let (whole, afterWhole) ← scanDigits text
  if hasLeadingZero whole then none
  let (fraction, afterFraction) ← scanFraction afterWhole
  let (exponent, rest) ← scanExponent afterFraction
  return (⟨negative, whole, fraction, exponent⟩, rest)

def scanNumeral : List Char → Option (Numeral × List Char)
  | '-' :: rest => scanUnsigned true rest
  | text => scanUnsigned false text

/-- The first token of a text that begins with no blank, and the text after it. -/
def scanToken : List Char → Token × List Char
  | '[' :: rest => (.openBracket, rest)
  | ']' :: rest => (.closeBracket, rest)
  | '{' :: rest => (.openBrace, rest)
  | '}' :: rest => (.closeBrace, rest)
  | ',' :: rest => (.comma, rest)
  | ':' :: rest => (.colon, rest)
  | 'n' :: 'u' :: 'l' :: 'l' :: rest => (.null, rest)
  | 't' :: 'r' :: 'u' :: 'e' :: rest => (.bool true, rest)
  | 'f' :: 'a' :: 'l' :: 's' :: 'e' :: rest => (.bool false, rest)
  | '"' :: rest =>
      match scanString .start .plain rest with
      | some (text, rest') => (.string text, rest')
      | none => (.bad, [])
  | text =>
      match scanNumeral text with
      | some (numeral, rest) => (.number numeral.value?, rest)
      | none => (.bad, [])

/-- The tokens of a text, as many as a bound allows. -/
def scanUpTo : Nat → List Char → List Token
  | 0, _ => []
  | bound + 1, text =>
      match text.dropWhile isSpace with
      | [] => []
      | first :: rest =>
          let (token, remaining) := scanToken (first :: rest)
          token :: scanUpTo bound remaining

/-- The tokens of a text. Every token takes at least one character, so their number is bounded by
the length of the text. -/
def scan (text : String) : List Token :=
  let characters := text.toList
  scanUpTo characters.length characters

end CloudAdmin.Json
