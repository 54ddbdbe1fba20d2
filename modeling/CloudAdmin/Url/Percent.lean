import CloudAdmin.Text.Hex
import CloudAdmin.Text.Utf8

/-!
# Percent encoding

A character that may not stand for itself in some part of a URL is written as its UTF-8 bytes, each
as a percent sign and two upper-case hexadecimal digits. Which characters have to be encoded
depends on the part; the sets below are nested, as the URL standard has them.
-/

namespace CloudAdmin.Url

/-- A byte as a percent sign and two digits. -/
def percentByte (byte : UInt8) : List Char :=
  ['%', Text.upperHex (byte.toNat / 16), Text.upperHex (byte.toNat % 16)]

/-- Encode the characters of a set. -/
def percentEncode (mustEncode : Char → Bool) (text : List Char) : List Char :=
  text.flatMap fun c =>
    if mustEncode c then (String.utf8EncodeChar c).flatMap percentByte else [c]

/-- The bytes of a text whose percent signs with two digits stand for bytes; every other percent
sign stands for itself. -/
def percentDecode : List Char → List UInt8
  | [] => []
  | '%' :: a :: b :: rest =>
      match Text.hexValue? a, Text.hexValue? b with
      | some high, some low => UInt8.ofNat (high * 16 + low) :: percentDecode rest
      | _, _ => String.utf8EncodeChar '%' ++ percentDecode (a :: b :: rest)
  | c :: rest => String.utf8EncodeChar c ++ percentDecode rest

/-- Controls and everything beyond ASCII. -/
def inControlSet (c : Char) : Bool :=
  c.toNat < 0x20 || 0x7F ≤ c.toNat

/-- What is encoded in a query. -/
def inQuerySet (c : Char) : Bool :=
  inControlSet c || c == ' ' || c == '"' || c == '#' || c == '<' || c == '>'

/-- What is encoded in the query of a special URL. -/
def inSpecialQuerySet (c : Char) : Bool :=
  inQuerySet c || c == '\x27'

/-- What is encoded in a fragment. -/
def inFragmentSet (c : Char) : Bool :=
  inControlSet c || c == ' ' || c == '"' || c == '<' || c == '>' || c == '\x60'

/-- What is encoded in a path. -/
def inPathSet (c : Char) : Bool :=
  inFragmentSet c || c == '#' || c == '?' || c == '\x7b' || c == '\x7d'

/-- What is encoded in one segment of a path, so that it stays one segment. -/
def inSegmentSet (c : Char) : Bool :=
  inPathSet c || c == '/' || c == '%' || c == '\\'

/-- What is encoded in a user name or a password. -/
def inUserInfoSet (c : Char) : Bool :=
  inPathSet c || c == '/' || c == ':' || c == ';' || c == '=' || c == '@' || c == '[' ||
    c == '\\' || c == ']' || c == '^' || c == '|'

end CloudAdmin.Url
