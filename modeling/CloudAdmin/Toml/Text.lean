import CloudAdmin.Text.Hex

/-!
# Strings and keys in settings files

A string is written in double quotes, where a backslash begins an escape, or in single quotes, where
every character stands for itself. Three quotes begin a string that may go over several lines. A key
is a list of parts between dots, each bare or quoted.
-/

namespace CloudAdmin.Toml

/-- Whether a character is a blank inside a line. -/
def isBlank (c : Char) : Bool :=
  c == ' ' || c == '\t'

/-- A text without blanks at its start. -/
def skipBlanks (text : List Char) : List Char :=
  text.dropWhile isBlank

/-- Whether a character may stand in a comment or a string: anything but a control character other
than the tab. -/
def isPrintable (c : Char) : Bool :=
  c == '\t' || (0x20 ≤ c.toNat && c != '\x7f')

/-- Whether a character may be part of a bare key. -/
def isKeyCharacter (c : Char) : Bool :=
  c.isAlphanum || c == '-' || c == '_'

/-- The character with a code, unless there is none. -/
def character? (code : Nat) : Option Char :=
  if code < 0xD800 ∨ (0xDFFF < code ∧ code ≤ 0x10FFFF) then some (Char.ofNat code) else none

/-- The character that an escape of a fixed number of hexadecimal digits stands for. -/
def codeEscape? (count : Nat) (text : List Char) : Option (Char × List Char) :=
  let digits := text.take count
  if digits.length = count ∧ digits.all Text.isHexDigit then
    ((Text.hexNatural? digits).bind character?).map fun c => (c, text.drop count)
  else none

/-- The character that an escape stands for, from the text after the backslash. -/
def escape? : List Char → Option (Char × List Char)
  | 'b' :: rest => some ('\x08', rest)
  | 't' :: rest => some ('\t', rest)
  | 'n' :: rest => some ('\n', rest)
  | 'f' :: rest => some ('\x0c', rest)
  | 'r' :: rest => some ('\r', rest)
  | '"' :: rest => some ('"', rest)
  | '\\' :: rest => some ('\\', rest)
  | 'u' :: rest => codeEscape? 4 rest
  | 'U' :: rest => codeEscape? 8 rest
  | _ => none

/-- A text without one line break at its start. -/
def skipLineBreak : List Char → List Char
  | '\n' :: rest => rest
  | '\r' :: '\n' :: rest => rest
  | text => text

/-- A text without blanks and line breaks at its start. -/
def skipSpace : List Char → List Char
  | [] => []
  | '\r' :: '\n' :: rest => skipSpace rest
  | c :: rest => if isBlank c || c == '\n' then skipSpace rest else c :: rest

/-- Read a string in double quotes, from the text after the opening quote. -/
def readBasic? : Nat → List Char → Option (List Char × List Char)
  | 0, _ => none
  | _, [] => none
  | bound + 1, c :: rest =>
      if c = '"' then some ([], rest)
      else if c = '\\' then
        (escape? rest).bind fun (escaped, after) =>
          (readBasic? bound after).map fun (text, final) => (escaped :: text, final)
      else if isPrintable c then
        (readBasic? bound rest).map fun (text, final) => (c :: text, final)
      else none

/-- Read a string in single quotes, from the text after the opening quote. -/
def readLiteral? (text : List Char) : Option (List Char × List Char) :=
  let content := text.takeWhile fun c => isPrintable c && c != '\x27'
  match text.drop content.length with
  | '\x27' :: rest => some (content, rest)
  | _ => none

/-- The content that a run of quotes closes, and what follows: up to two quotes before the three
that close a string belong to the string. Fewer than three close nothing. -/
def closing? (quote : Char) (text : List Char) : Option (List Char × List Char) :=
  let count := min (text.takeWhile (· == quote)).length 5
  if 3 ≤ count then some (List.replicate (count - 3) quote, text.drop count) else none

/-- Read a string of several lines in double quotes, from the text after its first line break. -/
def readBasicLines? : Nat → List Char → Option (List Char × List Char)
  | 0, _ => none
  | _, [] => none
  | bound + 1, c :: rest =>
      let continueWith := fun (c : Char) (after : List Char) =>
        (readBasicLines? bound after).map fun (text, final) => (c :: text, final)
      if c = '"' then
        match closing? '"' (c :: rest) with
        | some closed => some closed
        | none => continueWith c rest
      else if c = '\\' then
        match skipBlanks rest with
        | '\n' :: after => readBasicLines? bound (skipSpace after)
        | '\r' :: '\n' :: after => readBasicLines? bound (skipSpace after)
        | _ => (escape? rest).bind fun (escaped, after) => continueWith escaped after
      else if c = '\r' ∧ rest.head? = some '\n' then readBasicLines? bound rest
      else if c = '\n' ∨ isPrintable c then continueWith c rest
      else none

/-- Read a string of several lines in single quotes, from the text after its first line break. -/
def readLiteralLines? : List Char → Option (List Char × List Char)
  | [] => none
  | c :: rest =>
      if c = '\x27' then
        match closing? '\x27' (c :: rest) with
        | some closed => some closed
        | none => (readLiteralLines? rest).map fun (text, final) => (c :: text, final)
      else if c = '\r' ∧ rest.head? = some '\n' then readLiteralLines? rest
      else if c = '\n' ∨ isPrintable c then
        (readLiteralLines? rest).map fun (text, final) => (c :: text, final)
      else none

/-- Read a string on one line. -/
def readLine? : List Char → Option (List Char × List Char)
  | '"' :: rest => readBasic? rest.length rest
  | '\x27' :: rest => readLiteral? rest
  | _ => none

def readString? : List Char → Option (String × List Char)
  | '"' :: '"' :: '"' :: rest => finished (readBasicLines? rest.length (skipLineBreak rest))
  | '\x27' :: '\x27' :: '\x27' :: rest => finished (readLiteralLines? (skipLineBreak rest))
  | text => finished (readLine? text)
where
  /-- A string that was read as characters. -/
  finished (result : Option (List Char × List Char)) : Option (String × List Char) :=
    result.map fun (text, rest) => (String.ofList text, rest)

/-- Read one part of a key. -/
def readKeyPart? (text : List Char) : Option (String × List Char) :=
  match text with
  | [] => none
  | c :: _ =>
      if c = '"' ∨ c = '\x27' then
        (readLine? text).map fun (part, rest) => (String.ofList part, rest)
      else
        let part := text.takeWhile isKeyCharacter
        if part.isEmpty then none else some (String.ofList part, text.drop part.length)

/-- How many parts a key may have. -/
def greatestKeyLength : Nat := 79

/-- Read the parts of a key, with blanks around each of them, as many as a bound allows. -/
def readKeyParts? : Nat → List Char → Option (List String × List Char)
  | 0, _ => none
  | bound + 1, text => do
      let (part, rest) ← readKeyPart? (skipBlanks text)
      match skipBlanks rest with
      | '.' :: more =>
          let (parts, final) ← readKeyParts? bound more
          return (part :: parts, final)
      | final => return ([part], final)

def readKey? (text : List Char) : Option (List String × List Char) :=
  readKeyParts? greatestKeyLength text

end CloudAdmin.Toml
