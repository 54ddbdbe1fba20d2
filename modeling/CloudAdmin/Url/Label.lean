import CloudAdmin.Text.Composition
import CloudAdmin.Text.Direction
import CloudAdmin.Text.Joining
import CloudAdmin.Url.DomainCharacter
import CloudAdmin.Url.Punycode

/-!
# Labels of domain names

A label with characters beyond ASCII is carried in Punycode behind the mark `xn--`. A label that
comes with the mark is accepted if its Punycode stands for characters that are written as they are,
mapped and composed. The characters of a label have to form whole letters: none starts with a mark,
and joiners stand only where they make a difference.
-/

namespace CloudAdmin.Url

/-- The mark of a label in Punycode. -/
def punycodeMark : List Char := ['x', 'n', '-', '-']

/-- The greatest length of the Punycode of a label that is looked at. -/
def maxPunycodeLength : Nat := 2000

/-- The greatest length of a label that is put into Punycode. -/
def maxLabelLength : Nat := 1000

def isAscii (text : List Char) : Bool :=
  text.all (·.toNat < 0x80)

/-- Whether characters are written as they are in a domain name. -/
def isPlainText (text : List Char) : Bool :=
  text.all (fun c => mapCharacter? c == some [c]) && Text.compose text == text

/-- The characters that the Punycode of a label stands for. -/
def decodeLabel? (encoded : List Char) : Option (List Char) :=
  if encoded.isEmpty || encoded.getLast? == some '-' || maxPunycodeLength < encoded.length then none
  else (Punycode.decode? encoded).filter isPlainText

/-- The characters of a mapped label. -/
def labelCharacters? (label : List Char) : Option (List Char) :=
  if punycodeMark.isPrefixOf label then decodeLabel? (label.drop punycodeMark.length)
  else some label

/-- Whether the characters of a label form whole letters. -/
def formsLetters (characters : List Char) : Bool :=
  !(characters.head?).any Text.isMark && Text.joinersFit [] characters

/-- A mapped label in ASCII. -/
def labelToAscii? (label : List Char) : Option (List Char) :=
  if isAscii label then some label
  else if maxLabelLength < label.length then none
  else some (punycodeMark ++ Punycode.encode label)

end CloudAdmin.Url
