import CloudAdmin.Text.Blank

/-!
# Media types

A content type names a type, a subtype whose last part after a plus sign is a suffix, and
parameters. A server that takes JSON takes it under the subtype itself and under every subtype with
that suffix, but only if the whole content type is well formed.
-/

namespace CloudAdmin.Http

/-- A type and a subtype in lower case, with the suffix of the subtype. -/
structure MediaType where
  type : List Char
  subtype : List Char
  suffix : Option (List Char)
deriving DecidableEq, Repr

namespace MediaType

/-- The characters of a token that are neither letters nor digits. -/
def tokenMarks : List Char :=
  ['!', '#', '$', '%', '&', '\x27', '*', '+', '-', '.', '^', '_', '\x60', '|', '~']

def isTokenCharacter (c : Char) : Bool :=
  c.isAlphanum || tokenMarks.contains c

/-- Whether a character may stand between quotes. -/
def isQuotable (c : Char) : Bool :=
  0x20 ≤ c.toNat && c != '\x7f'

/-- The parameters that follow a value in quotes. -/
def afterQuotes? (text : List Char) : Option (List Char) :=
  match text.dropWhile (· == ' ') with
  | [] => some []
  | ';' :: rest => some rest
  | _ => none

/-- The parameters that follow the value of one. A value in quotes is not empty. -/
def afterValue? : List Char → Option (List Char)
  | '"' :: first :: rest =>
      if isQuotable first then
        match (rest.dropWhile fun c => isQuotable c && c != '"') with
        | '"' :: more => afterQuotes? more
        | _ => none
      else none
  | text =>
      let value := text.takeWhile isTokenCharacter
      match text.drop value.length with
      | [] => some []
      | ';' :: rest => if value.isEmpty then none else some rest
      | _ => none

/-- Whether a text consists of parameters, as many as a bound allows. -/
def areParameters : Nat → List Char → Bool
  | _, [] => true
  | 0, _ => false
  | bound + 1, ' ' :: rest => areParameters bound rest
  | bound + 1, text =>
      let name := text.takeWhile isTokenCharacter
      match text.drop name.length with
      | '=' :: rest =>
          if name.isEmpty then false
          else
            match afterValue? rest with
            | some more => areParameters bound more
            | none => false
      | _ => false

/-- A subtype cut at its last plus sign, unless it begins with it. -/
def splitSuffix (name : List Char) : List Char × Option (List Char) :=
  let suffix := (name.reverse.takeWhile (· != '+')).reverse
  if suffix.length + 1 < name.length then
    (name.take (name.length - suffix.length - 1), some suffix)
  else (name, none)

/-- The media type in a content type. -/
def parse? (text : List Char) : Option MediaType :=
  let type := text.takeWhile isTokenCharacter
  match text.drop type.length with
  | '/' :: rest =>
      let name := rest.takeWhile isTokenCharacter
      let (subtype, suffix) := splitSuffix (name.map Char.toLower)
      let mediaType := ⟨type.map Char.toLower, subtype, suffix⟩
      match rest.drop name.length with
      | [] => if type.isEmpty then none else some mediaType
      | ';' :: parameters =>
          if type.isEmpty || name.isEmpty || !areParameters parameters.length parameters then none
          else some mediaType
      | _ => none
  | _ => none

def isJson (mediaType : MediaType) : Bool :=
  let json := ['j', 's', 'o', 'n']
  mediaType.type == "application".toList &&
    (mediaType.subtype == json || mediaType.suffix == some json)

end MediaType

end CloudAdmin.Http
