import CloudAdmin.Url.Basic

/-!
# Reading URLs

A text is cut into its parts from the left: the scheme up to the first colon, the authority up to
the first slash, question mark or number sign, then the path, the query and the fragment. Each part
is read on its own and normalised, so that two texts for the same URL give the same value: the
scheme and the host in lower case, the port of the scheme left out, dot segments resolved, and
characters that a part may not hold percent-encoded. Blanks around a text and tabs and line breaks
anywhere in it are ignored.

A segment that names a drive is never left by a dot segment. The path to a file may start with a
drive, and the file is a local one then. There, and only there, a tab or a line break shows: it
separates the colon of the drive from what follows.
-/

namespace CloudAdmin.Url

/-- A text without controls and spaces around it. -/
def trim (text : List Char) : List Char :=
  ((text.dropWhile (·.toNat ≤ 0x20)).reverse.dropWhile (·.toNat ≤ 0x20)).reverse

/-- A text without tabs and line breaks. -/
def withoutBreaks (text : List Char) : List Char :=
  text.filter fun c => !isIgnored c

/-- Whether a character may stand in a scheme after its first letter. -/
def isSchemeCharacter (c : Char) : Bool :=
  c.isAlphanum || c == '+' || c == '-' || c == '.'

/-- Cut a text into its scheme, in lower case, and what follows the colon. -/
def splitScheme? (text : List Char) : Option (List Char × List Char) :=
  match text with
  | [] => none
  | first :: _ =>
      match splitFirst ':' text with
      | (scheme, some rest) =>
          if first.isAlpha && scheme.all isSchemeCharacter then some (scheme.map Char.toLower, rest)
          else none
      | (_, none) => none

/-- Whether a character separates segments. -/
def isSlash (special : Bool) (c : Char) : Bool :=
  c == '/' || (special && c == '\\')

/-- Whether a character ends an authority. -/
def endsAuthority (special : Bool) (c : Char) : Bool :=
  isSlash special c || c == '?' || c == '#'

/-- Whether a character ends a path. -/
def endsPath (c : Char) : Bool :=
  c == '?' || c == '#'

/-- Whether a segment stands for the one before it. -/
def isParentSegment (segment : List Char) : Bool :=
  let lowered := String.ofList (segment.map Char.toLower)
  lowered == ".." || lowered == ".%2e" || lowered == "%2e." || lowered == "%2e%2e"

/-- Whether a segment stands for nothing. -/
def isCurrentSegment (segment : List Char) : Bool :=
  let lowered := String.ofList (segment.map Char.toLower)
  lowered == "." || lowered == "%2e"

/-- Whether a segment is the letter of a drive. -/
def isDriveLetter : List Char → Bool
  | [letter, mark] => letter.isAlpha && (mark == ':' || mark == '|')
  | _ => false

/-- Whether a segment names a drive: its letter, alone or with a backslash behind it. -/
def namesDrive (segment : List Char) : Bool :=
  isDriveLetter (segment.take 2) && (segment.length == 2 || segment[2]? == some '\\')

/-- Leave the last of some segments in reverse. A drive is never left. -/
def leaveSegment : List (List Char) → List (List Char)
  | [] => []
  | last :: before => if namesDrive last then last :: before else before

/-- What a dot segment leaves of the segments before it, in reverse; `none` if a segment is no dot
segment. At the end of a path it leaves an empty segment, so that the path still ends in a slash. -/
def resolveDots? (before : List (List Char)) (segment : List Char) (atEnd : Bool) :
    Option (List (List Char)) :=
  let closed := fun kept : List (List Char) => if atEnd then [] :: kept else kept
  if isParentSegment segment then some (closed (leaveSegment before))
  else if isCurrentSegment segment then some (closed before)
  else none

/-- Resolve dot segments, given the resolved segments before them in reverse. -/
def resolveSegments : List (List Char) → List (List Char) → List (List Char)
  | before, [] => before.reverse
  | before, segment :: rest =>
      resolveSegments ((resolveDots? before segment rest.isEmpty).getD (segment :: before)) rest

def splitSlashes (special : Bool) (text : List Char) : List (List Char) :=
  splitAll '/' (text.map fun c => if isSlash special c then '/' else c)

/-- A text without a slash at its start. -/
def belowRoot (special : Bool) : List Char → List Char
  | [] => []
  | first :: rest => if isSlash special first then rest else first :: rest

def parseSegments (special : Bool) (text : List Char) : List (List Char) :=
  resolveSegments [] ((splitSlashes special (belowRoot special text)).map (percentEncode inPathSet))

/-- The path after an authority. -/
def parsePath (special : Bool) (text : List Char) : Path :=
  if text.isEmpty && !special then .segments [] else .segments (parseSegments special text)

/-- Cut the user information off an authority. -/
def splitUserInfo (authority : List Char) : Option (List Char) × List Char :=
  let host := (authority.reverse.takeWhile (· ≠ '@')).reverse
  if host.length = authority.length then (none, authority)
  else (some (authority.take (authority.length - host.length - 1)), host)

/-- The user information in written form: a user name, a password if it is not empty, and `@`
unless there is neither. -/
def renderUserInfo (text : List Char) : List Char :=
  let (user, password) := splitFirst ':' text
  let name := percentEncode inUserInfoSet user
  let secret := match password with
    | none | some [] => []
    | some password => ':' :: percentEncode inUserInfoSet password
  if name.isEmpty && secret.isEmpty then [] else name ++ secret ++ ['@']

/-- Cut a host and its port apart, at the first colon outside brackets. -/
def splitPort : Bool → List Char → List Char × Option (List Char)
  | _, [] => ([], none)
  | bracketed, c :: rest =>
      if c = ':' ∧ bracketed = false then ([], some rest)
      else
        let (host, port) :=
          splitPort (if c = '[' then true else if c = ']' then false else bracketed) rest
        (c :: host, port)

/-- A port; an empty one and the one that the scheme implies are none. -/
def parsePort (scheme digits : List Char) : Except Fault (Option Nat) :=
  if digits.isEmpty then .ok none
  else
    match Text.natural? digits with
    | none => .error .invalidPort
    | some port =>
        if 65535 < port then .error .invalidPort
        else if defaultPort? scheme = some port then .ok none
        else .ok (some port)

/-- The authority of a URL, and what is left of its text: a backslash ends a port in every scheme.
`followed` says whether more of the URL comes after the authority. -/
def parseAuthority (scheme text : List Char) (followed : Bool) :
    Except Fault (Authority × List Char) := do
  let special := isSpecialScheme scheme
  let (userText, hostAndPort) := splitUserInfo text
  let userInfo := renderUserInfo (userText.getD [])
  let (hostText, portText) := splitPort false hostAndPort
  if hostText.isEmpty &&
      (special || portText.isSome || !userInfo.isEmpty || (followed && userText == some [])) then
    .error .emptyHost
  let host ← if special then Host.parseDomain hostText else Host.parseGeneral hostText
  let digits := (portText.getD []).takeWhile (· ≠ '\\')
  let port ← parsePort scheme digits
  return (⟨userInfo, host, port⟩, (portText.getD []).drop digits.length)

/-- The query and the fragment of a URL, from the text after its path. -/
def parseTail (special : Bool) (text : List Char) : Option (List Char) × Option (List Char) :=
  let (before, fragment) := splitFirst '#' text
  let query := match before with
    | [] => none
    | _ :: query =>
        some (percentEncode (if special then inSpecialQuerySet else inQuerySet) query)
  (query, fragment.map (percentEncode inFragmentSet))

/-- A URL from its scheme, its authority and the text after the authority. -/
def assemble (scheme : List Char) (authority : Option Authority) (parse : List Char → Path)
    (text : List Char) : Url :=
  let (query, fragment) := parseTail (isSpecialScheme scheme) (text.dropWhile (!endsPath ·))
  ⟨scheme, authority, parse (text.takeWhile (!endsPath ·)), query, fragment⟩

/-- A text without tabs and line breaks, but with one tab behind each colon that some follow. The
character before the text is given. -/
def markColons : Char → List Char → List Char
  | _, [] => []
  | previous, c :: rest =>
      if isIgnored c then
        if previous == ':' then '\t' :: markColons '\t' rest else markColons previous rest
      else c :: markColons c rest

/-- The drive at the start of the path to a file, and what follows it in its segment. A mark behind
the colon ends the letter of the drive. -/
def splitDrive? (segment : List Char) : Option (List Char × Option (List Char)) :=
  match segment with
  | letter :: ':' :: '\t' :: c :: rest =>
      if letter.isAlpha then some ([letter, ':'], some (c :: rest)) else none
  | _ =>
      let kept := withoutBreaks segment
      if isDriveLetter kept then some (kept.take 1 ++ [':'], none) else none

/-- Resolve the segments of the path to a file, given the resolved ones before them in reverse and
whether a drive was met. The letter of a drive at the start is followed by a colon; what a mark
separates from it is a segment of its own. -/
def resolveFile : Bool → List (List Char) → List (List Char) → Bool × List (List Char)
  | isLocal, before, [] => (isLocal, before.reverse)
  | isLocal, before, marked :: rest =>
      let segment := withoutBreaks marked
      match resolveDots? before segment rest.isEmpty with
      | some kept => resolveFile isLocal kept rest
      | none =>
          match if before.isEmpty then splitDrive? marked else none with
          | none => resolveFile isLocal (percentEncode inPathSet segment :: before) rest
          | some (drive, none) => resolveFile true [drive] rest
          | some (drive, some below) =>
              resolveFile isLocal [percentEncode inPathSet (withoutBreaks below), drive] rest

/-- A URL of a file, from its host and its path with what follows. A path that starts with a drive
is a local one, whatever the host. Empty segments at the start are dropped. -/
def assembleFile (scheme : List Char) (host : Host) (text : List Char) : Url :=
  let (query, fragment) := parseTail true (withoutBreaks (text.dropWhile (!endsPath ·)))
  let (isLocal, resolved) :=
    resolveFile false [] (splitSlashes true (text.takeWhile (!endsPath ·)))
  let kept := resolved.dropWhile (·.isEmpty)
  ⟨scheme, some ⟨[], if isLocal then .name [] else host, none⟩,
    .segments (if kept.isEmpty then [[]] else kept), query, fragment⟩

/-- A URL of a file, from the text after its scheme with marks behind colons. A local host is the
same as none. -/
def parseFile (scheme text : List Char) : Except Fault Url :=
  match text with
  | first :: second :: rest =>
      if isSlash true first && isSlash true second then
        let hostText := withoutBreaks (rest.takeWhile (!endsAuthority true ·))
        if hostText.isEmpty || isDriveLetter hostText then
          .ok (assembleFile scheme (.name []) rest)
        else do
          let after := rest.dropWhile (!endsAuthority true ·)
          let host ← Host.parseDomain hostText
          if host = .name "localhost".toList then return assembleFile scheme (.name []) after
          else return assembleFile scheme host (belowRoot true after)
      else .ok (assembleFile scheme (.name []) (belowRoot true text))
  | _ => .ok (assembleFile scheme (.name []) (belowRoot true text))

/-- A URL with an authority, from the text after the slashes in front of it. -/
def parseHierarchical (scheme text : List Char) : Except Fault Url := do
  let special := isSpecialScheme scheme
  let after := text.dropWhile (!endsAuthority special ·)
  let (authority, left) ←
    parseAuthority scheme (text.takeWhile (!endsAuthority special ·)) (!after.isEmpty)
  return assemble scheme (some authority) (parsePath special) (left ++ after)

/-- A URL in a scheme other than those of the web, from the text after its scheme. -/
def parseOther (scheme : List Char) : List Char → Except Fault Url
  | '/' :: '/' :: rest => parseHierarchical scheme rest
  | '/' :: rest => .ok (assemble scheme none (parsePath false) ('/' :: rest))
  | text => .ok (assemble scheme none (fun path => .plain (percentEncode inControlSet path)) text)

/-- Read a URL. -/
def parseChars (text : List Char) : Except Fault Url :=
  let trimmed := trim text
  match splitScheme? (withoutBreaks trimmed) with
  | none => .error .relative
  | some (scheme, rest) =>
      if scheme = "file".toList then
        parseFile scheme (markColons ' ' ((splitFirst ':' trimmed).2.getD []))
      else if isSpecialScheme scheme then
        parseHierarchical scheme (rest.dropWhile (isSlash true))
      else parseOther scheme rest

def parse (text : String) : Except Fault Url :=
  parseChars text.toList

end CloudAdmin.Url
