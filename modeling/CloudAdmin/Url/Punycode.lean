/-!
# Punycode

A label with characters beyond ASCII is carried in the domain name system as its ASCII characters,
a hyphen and a run of letters and digits. The run is a list of differences: the characters are
inserted in ascending order of their codes, and each difference counts the pairs of code and
position that are passed over before the next insertion. Differences are written in a
variable-length base-36 notation whose thresholds adapt to the size of the ones before.
-/

namespace CloudAdmin.Url.Punycode

/-- The digit of a number below thirty-six. -/
def digit (value : Nat) : Char :=
  Char.ofNat (if value < 26 then 97 + value else 22 + value)

def digitValue? (c : Char) : Option Nat :=
  if 'a' ≤ c ∧ c ≤ 'z' then some (c.toNat - 97)
  else if 'A' ≤ c ∧ c ≤ 'Z' then some (c.toNat - 65)
  else if '0' ≤ c ∧ c ≤ '9' then some (c.toNat - 22)
  else none

/-- The threshold of a digit position. -/
def threshold (position bias : Nat) : Nat :=
  if position ≤ bias then 1 else if bias + 26 ≤ position then 26 else position - bias

/-- Halve a difference until it is small, counting the steps. -/
def scaleDown : Nat → Nat → Nat → Nat × Nat
  | 0, difference, steps => (difference, steps)
  | bound + 1, difference, steps =>
      if 455 < difference then scaleDown bound (difference / 35) (steps + 36)
      else (difference, steps)

/-- The bias after a difference. -/
def adapt (difference count : Nat) (first : Bool) : Nat :=
  let halved := if first then difference / 700 else difference / 2
  let (small, steps) := scaleDown 64 (halved + halved / count) 0
  steps + 36 * small / (small + 38)

/-- A difference in digits. -/
def writeDifference (bias : Nat) : Nat → Nat → Nat → List Char
  | 0, _, _ => []
  | bound + 1, position, rest =>
      let limit := threshold position bias
      if rest < limit then [digit rest]
      else
        let radix := 36 - limit
        digit (limit + (rest - limit) % radix) ::
          writeDifference bias bound (position + 36) ((rest - limit) / radix)

/-- What encoding keeps between insertions. -/
structure Progress where
  difference : Nat
  bias : Nat
  handled : Nat
  written : List Char

/-- Pass over one character of the label while a code is being inserted. -/
def passCharacter (basic code : Nat) (progress : Progress) (c : Char) : Progress :=
  if c.toNat < code then { progress with difference := progress.difference + 1 }
  else if c.toNat = code then
    { difference := 0
      bias := adapt progress.difference (progress.handled + 1) (progress.handled = basic)
      handled := progress.handled + 1
      written := progress.written ++ writeDifference progress.bias 64 36 progress.difference }
  else progress

/-- Insert all characters of the given ascending codes. -/
def insertCodes (label : List Char) (basic : Nat) : Nat → List Nat → Progress → Progress
  | _, [], progress => progress
  | next, code :: codes, progress =>
      let skipped := { progress with
        difference := progress.difference + (code - next) * (progress.handled + 1) }
      let passed := label.foldl (passCharacter basic code) skipped
      insertCodes label basic (code + 1) codes { passed with difference := passed.difference + 1 }

/-- The codes beyond ASCII of a label, ascending and each once. -/
def codesBeyondAscii (label : List Char) : List Nat :=
  let codes := (label.map Char.toNat).filter (0x80 ≤ ·)
  (codes.mergeSort (· ≤ ·)).eraseDups

/-- A label in ASCII, without the mark that announces it. -/
def encode (label : List Char) : List Char :=
  let basic := label.filter (·.toNat < 0x80)
  let front := if basic.isEmpty then [] else basic ++ ['-']
  let progress := insertCodes label basic.length 0x80 (codesBeyondAscii label)
    ⟨0, 72, basic.length, []⟩
  front ++ progress.written

/-- Insert an element at a position. -/
def insertAt (position : Nat) (c : Char) (label : List Char) : List Char :=
  label.take position ++ c :: label.drop position

/-- Read the differences of an encoded label into the label. `old` is the index before the
difference being read, `index` the index after it as far as it is read. -/
def decodeFrom (label : List Char) (code bias old index weight position : Nat) :
    List Char → Option (List Char)
  | [] => if position = 36 then some label else none
  | c :: rest =>
      match digitValue? c with
      | none => none
      | some value =>
          let index' := index + value * weight
          let limit := threshold position bias
          if value < limit then
            let size := label.length + 1
            let code' := code + index' / size
            let place := index' % size
            if 0x10FFFF < code' ∨ (0xD800 ≤ code' ∧ code' ≤ 0xDFFF) then none
            else
              decodeFrom (insertAt place (Char.ofNat code') label) code'
                (adapt (index' - old) size (old = 0)) (place + 1) (place + 1) 1 36 rest
          else if 0x10FFFF * 0x1000 < index' then none
          else decodeFrom label code bias old index' (weight * (36 - limit)) (position + 36) rest

/-- Read a label back. A hyphen at the very start ends no ASCII characters, and it is no digit. -/
def decode? (encoded : List Char) : Option (List Char) :=
  let reversed := encoded.reverse
  let tail := (reversed.takeWhile (· ≠ '-')).reverse
  let front := ((reversed.dropWhile (· ≠ '-')).drop 1).reverse
  if front.any (0x80 ≤ ·.toNat) || (front.isEmpty && encoded.contains '-') then none
  else decodeFrom front 0x80 72 0 0 1 36 tail

end CloudAdmin.Url.Punycode
