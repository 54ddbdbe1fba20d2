import CloudAdmin.Text.Numeral
import CloudAdmin.Url.Domain
import CloudAdmin.Url.Segment

/-!
# Hosts

The host of a URL is a name, an IPv4 address or an IPv6 address in brackets. In the schemes of the
web a name is a domain name, and a name whose last label is a number is an IPv4 address or nothing.
In other schemes a name is any text without delimiters.
-/

namespace CloudAdmin.Url

/-- Why a text is not a URL. -/
inductive Fault where
  | relative
  | emptyHost
  | invalidPort
  | invalidIpv4
  | invalidIpv6
  | invalidDomain
  | invalidHostCharacter
deriving DecidableEq, Repr

/-- What a fault is called. -/
def Fault.message : Fault → String
  | .relative => "relative URL without a base"
  | .emptyHost => "empty host"
  | .invalidPort => "invalid port number"
  | .invalidIpv4 => "invalid IPv4 address"
  | .invalidIpv6 => "invalid IPv6 address"
  | .invalidDomain => "invalid international domain name"
  | .invalidHostCharacter => "invalid domain character"

/-- The host of a URL. -/
inductive Host where
  | name (text : List Char)
  | ipv4 (address : Nat)
  | ipv6 (pieces : List Nat)
deriving DecidableEq, Repr

/-- What one part of an IPv4 address denotes: nothing if it is not a number. Numbers are
hexadecimal behind `0x`, octal behind another zero, and decimal otherwise. -/
def ipv4Number? : List Char → Option Nat
  | [] => none
  | '0' :: 'x' :: digits => Text.hexNatural? digits
  | '0' :: 'X' :: digits => Text.hexNatural? digits
  | '0' :: digit :: digits =>
      if (digit :: digits).all fun c => '0' ≤ c && c ≤ '7' then
        some ((digit :: digits).foldl (fun value c => 8 * value + Text.digitValue c) 0)
      else none
  | digits => Text.natural? digits

/-- The labels of a name, without an empty one at its end. -/
def significantLabels (name : List Char) : List (List Char) :=
  let labels := splitAll '.' name
  if labels.getLast? = some [] then labels.dropLast else labels

/-- Whether the last label of a name is a number. -/
def endsInNumber (name : List Char) : Bool :=
  match (significantLabels name).getLast? with
  | none => false
  | some label => (!label.isEmpty && label.all Char.isDigit) || (ipv4Number? label).isSome

/-- The address of a list of numbers: all but the last are bytes, and the last fills the rest. -/
def ipv4OfNumbers? : Nat → List Nat → Option Nat
  | _, [] => none
  | room, [last] => if last < room then some last else none
  | room, byte :: rest =>
      if byte < 256 then (ipv4OfNumbers? (room / 256) rest).map (byte * (room / 256) + ·) else none

def parseIpv4? (name : List Char) : Option Nat := do
  let labels := significantLabels name
  if labels.length ≤ 4 then
    let numbers ← labels.mapM ipv4Number?
    ipv4OfNumbers? UInt32.size numbers
  else none

/-- The byte that a part of an IPv4 address inside an IPv6 address denotes: decimal, without a
superfluous zero. -/
def decimalByte? (digits : List Char) : Option Nat :=
  match digits with
  | '0' :: _ :: _ => none
  | _ => (Text.natural? digits).bind fun value => if value < 256 then some value else none

/-- The two pieces that an IPv4 address at the end of an IPv6 address makes. -/
def embeddedIpv4? (text : List Char) : Option (List Nat) :=
  match (splitAll '.' text).mapM decimalByte? with
  | some [a, b, c, d] => some [a * 256 + b, c * 256 + d]
  | _ => none

/-- A piece of an IPv6 address: one to four hexadecimal digits. -/
def ipv6Piece? (digits : List Char) : Option Nat :=
  if digits.isEmpty || 4 < digits.length then none else Text.hexNatural? digits

/-- The pieces between colons, where an IPv4 address may stand at the end. -/
def ipv6Pieces? : List (List Char) → Option (List Nat)
  | [] => some []
  | [last] => if last.contains '.' then embeddedIpv4? last else (ipv6Piece? last).map ([·])
  | piece :: rest =>
      match ipv6Piece? piece, ipv6Pieces? rest with
      | some first, some others => some (first :: others)
      | _, _ => none

def splitDoubleColon : List Char → List Char × Option (List Char)
  | [] => ([], none)
  | ':' :: ':' :: rest => ([], some rest)
  | c :: rest =>
      let (before, after) := splitDoubleColon rest
      (c :: before, after)

/-- The pieces of one side of a double colon. -/
def ipv6Side? (text : List Char) : Option (List Nat) :=
  if text.isEmpty then some [] else ipv6Pieces? (splitAll ':' text)

/-- The eight pieces of an IPv6 address. A double colon stands for as many zeros as are missing,
and for at least one. -/
def parseIpv6? (text : List Char) : Option (List Nat) := do
  match splitDoubleColon text with
  | (_, none) =>
      let pieces ← ipv6Pieces? (splitAll ':' text)
      if pieces.length = 8 then some pieces else none
  | (before, some after) =>
      let front ← if before.contains '.' then none else ipv6Side? before
      let back ← ipv6Side? after
      if front.length + back.length < 8 then
        some (front ++ List.replicate (8 - front.length - back.length) 0 ++ back)
      else none

/-- The length of the run of zeros at the start of a list. -/
def zeroRun (pieces : List Nat) : Nat :=
  (pieces.takeWhile (· = 0)).length

/-- The position and length of the first longest run of zeros. -/
def longestZeroRun : Nat → List Nat → Nat × Nat
  | position, [] => (position, 0)
  | position, piece :: rest =>
      let here := zeroRun (piece :: rest)
      let later := longestZeroRun (position + 1) rest
      if later.2 ≤ here then (position, here) else later

def renderPieces (pieces : List Nat) : List Char :=
  List.intercalate [':'] (pieces.map Text.hexadecimal)

/-- An IPv6 address, with its longest run of two or more zeros left out. -/
def renderIpv6 (pieces : List Nat) : List Char :=
  let (position, length) := longestZeroRun 0 pieces
  if length < 2 then renderPieces pieces
  else
    renderPieces (pieces.take position) ++ [':', ':'] ++
      renderPieces (pieces.drop (position + length))

namespace Host

def render : Host → List Char
  | .name text => text
  | .ipv4 address =>
      List.intercalate ['.']
        ([address / 0x1000000, address / 0x10000 % 0x100, address / 0x100 % 0x100,
          address % 0x100].map (Nat.toDigits 10))
  | .ipv6 pieces => '[' :: (renderIpv6 pieces ++ [']'])

/-- Whether a host is the empty name. -/
def isEmpty : Host → Bool
  | .name text => text.isEmpty
  | _ => false

/-- A host in brackets. -/
def parseBracketed (text : List Char) : Except Fault Host :=
  if text.getLast? = some ']' then
    match parseIpv6? text.dropLast with
    | some pieces => .ok (.ipv6 pieces)
    | none => .error .invalidIpv6
  else .error .invalidIpv6

/-- The host of a URL in a scheme of the web. -/
def parseDomain (text : List Char) : Except Fault Host :=
  match text with
  | '[' :: rest => parseBracketed rest
  | _ =>
      match (Text.Utf8.decode? (percentDecode text)).bind domainToAscii? with
      | none => .error .invalidDomain
      | some [] => .error .emptyHost
      | some domain =>
          if endsInNumber domain then
            match parseIpv4? domain with
            | some address => .ok (.ipv4 address)
            | none => .error .invalidIpv4
          else .ok (.name domain)

/-- Whether a character may not stand in the host of a URL in another scheme. -/
def isForbidden (c : Char) : Bool :=
  c == '\x00' || isIgnored c || c == ' ' ||
    ['#', '/', ':', '<', '>', '?', '@', '[', '\\', ']', '^', '|'].contains c

/-- The host of a URL in a scheme other than those of the web. -/
def parseGeneral (text : List Char) : Except Fault Host :=
  match text with
  | '[' :: rest => parseBracketed rest
  | _ =>
      if text.any isForbidden then .error .invalidHostCharacter
      else .ok (.name (percentEncode inControlSet text))

end Host

end CloudAdmin.Url
