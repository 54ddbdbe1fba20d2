/-!
# Hexadecimal digits

Escapes in JSON, percent encoding, addresses and digests all write numbers in base sixteen.
-/

namespace CloudAdmin.Text

/-- The value of a hexadecimal digit of either case. -/
def hexValue? (c : Char) : Option Nat :=
  if '0' ≤ c ∧ c ≤ '9' then some (c.toNat - 48)
  else if 'a' ≤ c ∧ c ≤ 'f' then some (c.toNat - 87)
  else if 'A' ≤ c ∧ c ≤ 'F' then some (c.toNat - 55)
  else none

def isHexDigit (c : Char) : Bool :=
  (hexValue? c).isSome

/-- The lower-case hexadecimal digit of a number below sixteen. -/
def lowerHex (value : Nat) : Char :=
  Char.ofNat (if value < 10 then 48 + value else 87 + value)

/-- The upper-case hexadecimal digit of a number below sixteen. -/
def upperHex (value : Nat) : Char :=
  Char.ofNat (if value < 10 then 48 + value else 55 + value)

/-- A byte as two lower-case digits. -/
def hexByte (byte : UInt8) : List Char :=
  [lowerHex (byte.toNat / 16), lowerHex (byte.toNat % 16)]

/-- The lower-case digits of a number, without zeros in front. -/
def hexadecimal (value : Nat) : List Char :=
  Nat.toDigits 16 value

/-- The number that hexadecimal digits denote. -/
def hexNatural? (digits : List Char) : Option Nat :=
  digits.foldl
    (fun value digit =>
      match value, hexValue? digit with
      | some total, some next => some (16 * total + next)
      | _, _ => none)
    (some 0)

end CloudAdmin.Text
