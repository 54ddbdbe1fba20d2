import CloudAdmin.Url.Label

/-!
# Domain names

A domain name is compared and sent in lower case and in ASCII. Its characters are mapped and the
whole is put into composed form; then the labels are checked and written one by one. A name with a
character that has a meaning elsewhere in a URL is refused. In a name with letters that are written
from right to left, every label has to keep to one direction, so that the labels can be told apart
when the name is shown.
-/

namespace CloudAdmin.Url

/-- The characters that no domain name contains, because they delimit parts of a URL. -/
def domainDelimiters : List Char :=
  ['%', '#', '/', ':', '<', '>', '?', '@', '[', '\\', ']', '^', '|']

/-- Whether a character may not stand in a mapped domain name. -/
def isForbiddenInDomain (c : Char) : Bool :=
  c.toNat ≤ 0x20 || c.toNat == 0x7F || domainDelimiters.contains c

/-- A domain name with its characters mapped and composed. -/
def mapDomain? (name : List Char) : Option (List Char) :=
  (name.mapM mapCharacter?).map fun parts => Text.compose parts.flatten

/-- Whether the labels of a domain name can be told apart when they are shown. -/
def areDistinguishable (labels : List (List Char)) : Bool :=
  !labels.any Text.turnsLeft ||
    labels.all fun characters => characters.isEmpty || Text.hasOneDirection characters

/-- A domain name in lower case and ASCII. -/
def domainToAscii? (name : List Char) : Option (List Char) := do
  let mapped ← mapDomain? name
  if mapped.any isForbiddenInDomain then none
  let labels := splitAll '.' mapped
  let characters ← labels.mapM labelCharacters?
  if !characters.all formsLetters || !areDistinguishable characters then none
  let written ← labels.mapM labelToAscii?
  return List.intercalate ['.'] written

end CloudAdmin.Url
