import CloudAdmin.Url.Host

/-!
# URLs

A URL has a scheme, an optional authority, a path and optionally a query and a fragment. The schemes
of the web are special: their URLs always have a host, their paths always start with a slash, and a
backslash means the same as a slash in them. The path of most URLs is a list of segments; a URL
without authority whose path does not start with a slash has a plain text instead.

The parts are kept as they are written, so the text of a URL is the concatenation of its parts.
-/

namespace CloudAdmin

/-- Who answers for a URL: the user information with its `@` if there is any, the host and a port
that is not the scheme's own. -/
structure Url.Authority where
  userInfo : List Char
  host : Url.Host
  port : Option Nat
deriving DecidableEq, Repr

/-- The path of a URL. -/
inductive Url.Path where
  | segments (parts : List (List Char))
  | plain (text : List Char)
deriving DecidableEq, Repr

structure Url where
  scheme : List Char
  authority : Option Url.Authority
  path : Url.Path
  query : Option (List Char)
  fragment : Option (List Char)
deriving DecidableEq, Repr

namespace Url

/-- The schemes of the web. -/
def specialSchemes : List String := ["http", "https", "ws", "wss", "ftp", "file"]

/-- Whether a scheme is one of the web's. -/
def isSpecialScheme (scheme : List Char) : Bool :=
  specialSchemes.contains (String.ofList scheme)

/-- The port that a scheme implies. -/
def defaultPort? (scheme : List Char) : Option Nat :=
  match String.ofList scheme with
  | "http" | "ws" => some 80
  | "https" | "wss" => some 443
  | "ftp" => some 21
  | _ => none

/-- The text of an authority, without the slashes in front. -/
def Authority.render (authority : Authority) : List Char :=
  authority.userInfo ++ authority.host.render ++
    match authority.port with
    | some port => ':' :: Nat.toDigits 10 port
    | none => []

def Path.render : Path → List Char
  | .segments parts => parts.flatMap ('/' :: ·)
  | .plain text => text

/-- A part that is announced by a mark, if there is one. -/
def renderPart (mark : Char) : Option (List Char) → List Char
  | some text => mark :: text
  | none => []

/-- What stands between the scheme and the path. A path that begins with an empty segment would be
read as an authority, so a dot segment keeps them apart. -/
def renderAuthority (url : Url) : List Char :=
  match url.authority, url.path with
  | some authority, _ => '/' :: '/' :: authority.render
  | none, .segments ([] :: _ :: _) => ['/', '.']
  | none, _ => []

/-- The text of a URL as characters. -/
def render (url : Url) : List Char :=
  url.scheme ++ ':' :: (url.renderAuthority ++ url.path.render ++ renderPart '?' url.query ++
    renderPart '#' url.fragment)

def text (url : Url) : String :=
  String.ofList url.render

/-- What a request for a URL asks the host for: path and query. -/
def target (url : Url) : List Char :=
  url.path.render ++ renderPart '?' url.query

/-- The pairs that the query of a URL carries. -/
def queryPairs (url : Url) : Pairs :=
  parseForm (url.query.getD [])

/-- A URL with pairs added at the end of its query. -/
def appendPairs (pairs : Pairs) (url : Url) : Url :=
  if pairs.isEmpty then url
  else
    let form := (renderForm pairs).toList
    { url with
      query := match url.query with
        | none | some [] => some form
        | some query => some (query ++ '&' :: form) }

end Url

end CloudAdmin
