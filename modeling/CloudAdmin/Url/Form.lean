import CloudAdmin.Url.Percent

/-!
# Form encoding

Queries and login forms are lists of name and value pairs, written as `name=value` with `&`
between pairs. A blank is written as a plus sign; letters, digits and `*-._` stand for themselves;
every other character is percent-encoded. Reading is lenient: empty pieces are passed over, a piece
without an equals sign is a name with an empty value, and bytes that are not UTF-8 become
replacement characters.
-/

namespace CloudAdmin.Url

/-- Name and value pairs, in order and with repetitions. -/
abbrev Pairs := List (String × String)

/-- Whether a character stands for itself in a form. -/
def isFormSafe (c : Char) : Bool :=
  c.isAlphanum || c == '*' || c == '-' || c == '.' || c == '_'

/-- A character of a form. -/
def formEncodeChar (c : Char) : List Char :=
  if c = ' ' then ['+']
  else if isFormSafe c then [c]
  else (String.utf8EncodeChar c).flatMap percentByte

/-- A name or value of a form. -/
def formEncode (text : String) : List Char :=
  text.toList.flatMap formEncodeChar

/-- One pair of a form. -/
def formEncodePair (pair : String × String) : List Char :=
  formEncode pair.1 ++ '=' :: formEncode pair.2

def renderForm (pairs : Pairs) : String :=
  String.ofList (List.intercalate ['&'] (pairs.map formEncodePair))

/-- A name or value read back. -/
def formDecode (text : List Char) : String :=
  let spaced := text.map fun c => if c = '+' then ' ' else c
  String.ofList (Text.Utf8.decodeLenient (percentDecode spaced))

/-- Cut a text at every occurrence of a separator. -/
def splitAll (separator : Char) : List Char → List (List Char)
  | [] => [[]]
  | c :: rest =>
      match splitAll separator rest with
      | [] => [[]]
      | piece :: pieces => if c = separator then [] :: piece :: pieces else (c :: piece) :: pieces

/-- Cut a text at the first occurrence of a separator; without one the second part is missing. -/
def splitFirst (separator : Char) : List Char → List Char × Option (List Char)
  | [] => ([], none)
  | c :: rest =>
      if c = separator then ([], some rest)
      else
        let (before, after) := splitFirst separator rest
        (c :: before, after)

/-- One pair read back. -/
def formDecodePair (piece : List Char) : String × String :=
  let (name, value) := splitFirst '=' piece
  (formDecode name, formDecode (value.getD []))

/-- A whole form read back. -/
def parseForm (text : List Char) : Pairs :=
  ((splitAll '&' text).filter fun piece => !piece.isEmpty).map formDecodePair

end CloudAdmin.Url
