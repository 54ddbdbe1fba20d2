import CloudAdmin.Json.Value
import CloudAdmin.Decimal.Shortest
import CloudAdmin.Text.Hex
import CloudAdmin.Text.Numeral

/-!
# Writing JSON

A value is written without blanks, the members of an object in ascending key order. In a string
the quote, the backslash and the control characters are escaped and every other character stands
for itself.
-/

namespace CloudAdmin.Json

/-- A double is written positionally from a hundred-thousandth up to sixteen digits before the
point. -/
def doubleLayout : Decimal.Layout := ⟨-5, 15⟩

/-- A character inside a string. -/
def escapeChar (c : Char) : List Char :=
  if c = '"' then ['\\', '"']
  else if c = '\\' then ['\\', '\\']
  else if c = '\x08' then ['\\', 'b']
  else if c = '\x0c' then ['\\', 'f']
  else if c = '\n' then ['\\', 'n']
  else if c = '\r' then ['\\', 'r']
  else if c = '\t' then ['\\', 't']
  else if c.toNat < 0x20 then
    ['\\', 'u', '0', '0', Text.lowerHex (c.toNat / 16), Text.lowerHex (c.toNat % 16)]
  else [c]

/-- A string with its quotes. -/
def renderString (text : String) : List Char :=
  '"' :: (text.toList.flatMap escapeChar ++ ['"'])

def Number.render : Number → List Char
  | .unsigned value => Nat.toDigits 10 value.toNat
  | .negative value => (Text.signedDecimal value.toInt).toList
  | .double value => doubleLayout.renderDouble value

def Number.text (number : Number) : String :=
  String.ofList number.render

mutual

def Value.render : Value → List Char
  | .null => ['n', 'u', 'l', 'l']
  | .bool true => ['t', 'r', 'u', 'e']
  | .bool false => ['f', 'a', 'l', 's', 'e']
  | .number value => value.render
  | .string text => renderString text
  | .array items => '[' :: (List.intercalate [','] (renderItems items) ++ [']'])
  | .object fields => '{' :: (List.intercalate [','] (renderFields fields) ++ ['}'])

def renderItems : List Value → List (List Char)
  | [] => []
  | item :: rest => item.render :: renderItems rest

def renderFields : List (String × Value) → List (List Char)
  | [] => []
  | (key, value) :: rest => (renderString key ++ ':' :: value.render) :: renderFields rest

end

def Value.text (value : Value) : String :=
  String.ofList value.render

end CloudAdmin.Json
