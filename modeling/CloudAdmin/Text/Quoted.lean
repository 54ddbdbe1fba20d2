import CloudAdmin.Text.Hex
import CloudAdmin.Text.Invisible
import CloudAdmin.Text.Mark

/-!
# Quoted text

Settings are shown with their texts in double quotes. Inside the quotes the usual control
characters have short escapes, the quote and the backslash are escaped, and every character that
would not be visible on its own is shown by its code: marks that attach to the character before
them, and characters that print nothing.
-/

namespace CloudAdmin.Text

/-- A character inside double quotes. -/
def quoteChar (c : Char) : List Char :=
  if c = '\x00' then ['\\', '0']
  else if c = '\t' then ['\\', 't']
  else if c = '\n' then ['\\', 'n']
  else if c = '\r' then ['\\', 'r']
  else if c = '"' then ['\\', '"']
  else if c = '\\' then ['\\', '\\']
  else if 0x20 ≤ c.toNat && c.toNat < 0x7F then [c]
  else if isExtender c || isInvisible c || isFiller c then
    '\\' :: 'u' :: '\x7b' :: (hexadecimal c.toNat ++ ['\x7d'])
  else [c]

/-- A text in double quotes. -/
def quoted (text : String) : String :=
  String.ofList ('"' :: (text.toList.flatMap quoteChar ++ ['"']))

end CloudAdmin.Text
