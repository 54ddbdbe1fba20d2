/-!
# Blank characters

Headers, cookies and page bodies are trimmed before they are looked at. What is trimmed is the
class of characters with the Unicode property `White_Space`, which is larger than the class that
`Char.isWhitespace` knows: it contains the vertical tab, the form feed and the no-break spaces.
-/

namespace CloudAdmin.Text

/-- The characters with the Unicode property `White_Space`. -/
def isBlank (c : Char) : Bool :=
  let code := c.toNat
  (9 ≤ code && code ≤ 13) || code == 0x20 || code == 0x85 || code == 0xA0 || code == 0x1680 ||
    (0x2000 ≤ code && code ≤ 0x200A) || code == 0x2028 || code == 0x2029 || code == 0x202F ||
    code == 0x205F || code == 0x3000

/-- A text without its blanks at both ends. -/
def trimBlanks (text : List Char) : List Char :=
  ((text.dropWhile isBlank).reverse.dropWhile isBlank).reverse

/-- Whether nothing but blanks is left of a text. -/
def isBlankText (text : String) : Bool :=
  text.toList.all isBlank

/-- A string without its blanks at both ends. -/
def trim (text : String) : String :=
  String.ofList (trimBlanks text.toList)

/-- A text without a given character at its start. -/
def dropLeading (c : Char) (text : String) : String :=
  String.ofList (text.toList.dropWhile (· == c))

/-- A text without a given character at its end. -/
def dropTrailing (c : Char) (text : String) : String :=
  String.ofList (text.toList.reverse.dropWhile (· == c)).reverse

end CloudAdmin.Text
