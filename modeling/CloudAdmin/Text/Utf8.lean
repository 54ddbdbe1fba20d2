/-!
# UTF-8

Percent-encoded texts are sequences of bytes that should be UTF-8 but need not be. The decoder
splits any byte sequence into scalar values and ill-formed parts, where an ill-formed part is the
longest piece that begins some encoding without completing it, or a single byte that begins none.
A lenient reader shows each such part as one replacement character, a strict one refuses the text.
-/

namespace CloudAdmin.Text.Utf8

def encode (text : List Char) : List UInt8 :=
  text.flatMap String.utf8EncodeChar

/-- The kinds of first byte: how many bytes follow, and the range of the second byte. -/
def lead? (byte : UInt8) : Option (Nat × UInt8 × UInt8) :=
  if 0xC2 ≤ byte && byte ≤ 0xDF then some (1, 0x80, 0xBF)
  else if byte == 0xE0 then some (2, 0xA0, 0xBF)
  else if byte == 0xED then some (2, 0x80, 0x9F)
  else if 0xE1 ≤ byte && byte ≤ 0xEF then some (2, 0x80, 0xBF)
  else if byte == 0xF0 then some (3, 0x90, 0xBF)
  else if 0xF1 ≤ byte && byte ≤ 0xF3 then some (3, 0x80, 0xBF)
  else if byte == 0xF4 then some (3, 0x80, 0x8F)
  else none

def isContinuation (byte : UInt8) : Bool :=
  0x80 ≤ byte && byte ≤ 0xBF

/-- The payload bits of a continuation byte. -/
def payload (byte : UInt8) : Nat :=
  byte.toNat % 64

/-- The scalar values of a byte sequence, with `none` for every ill-formed part. -/
def decodeParts : List UInt8 → List (Option Char)
  | [] => []
  | first :: rest =>
      if first < 0x80 then some (Char.ofNat first.toNat) :: decodeParts rest
      else
        match lead? first with
        | none => none :: decodeParts rest
        | some (following, low, high) =>
            match rest with
            | [] => [none]
            | second :: rest₁ =>
                if !(low ≤ second && second ≤ high) then none :: decodeParts (second :: rest₁)
                else if following == 1 then
                  some (Char.ofNat (first.toNat % 32 * 64 + payload second)) :: decodeParts rest₁
                else
                  match rest₁ with
                  | [] => [none]
                  | third :: rest₂ =>
                      if !isContinuation third then none :: decodeParts (third :: rest₂)
                      else if following == 2 then
                        some (Char.ofNat
                          (first.toNat % 16 * 4096 + payload second * 64 + payload third)) ::
                            decodeParts rest₂
                      else
                        match rest₂ with
                        | [] => [none]
                        | fourth :: rest₃ =>
                            if !isContinuation fourth then none :: decodeParts (fourth :: rest₃)
                            else
                              some (Char.ofNat
                                (first.toNat % 8 * 262144 + payload second * 4096 +
                                  payload third * 64 + payload fourth)) :: decodeParts rest₃

/-- Decode with a replacement character for every ill-formed part. -/
def decodeLenient (bytes : List UInt8) : List Char :=
  (decodeParts bytes).map fun part => part.getD '\uFFFD'

/-- Decode a well-formed text. -/
def decode? (bytes : List UInt8) : Option (List Char) :=
  (decodeParts bytes).mapM id

end CloudAdmin.Text.Utf8
