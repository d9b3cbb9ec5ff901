import RelayTunnel.Url.Domain
import RelayTunnel.Url.Form

/-!
# URLs

A URL taken apart, its text, and the reading of a text. The schemes of the web
are special: they need a host, a backslash counts as a slash in them, and the
port that goes with the scheme is left out.
-/

namespace RelayTunnel

/-- The path of a URL: its segments, or a text that follows the scheme at once. -/
inductive UrlPath where
  | segments (list : List String)
  | rootless (text : String)
  deriving DecidableEq, Repr

/-- A URL; all parts but the host are kept in their encoded form. -/
structure Url where
  scheme : String
  username : String := ""
  password : String := ""
  host : Option Host := none
  port : Option Nat := none
  path : UrlPath
  query : Option String := none
  fragment : Option String := none
  deriving DecidableEq, Repr

/-- What a scheme asks of the rest of the URL. -/
inductive SchemeKind where
  | special
  | file
  | other
  deriving DecidableEq, Repr

namespace Url

/-- The kind of a scheme. -/
def schemeKind (scheme : String) : SchemeKind :=
  if ["http", "https", "ws", "wss", "ftp"].contains scheme then .special
  else if scheme = "file" then .file
  else .other

/-- The port that goes with a scheme. -/
def defaultPort? (scheme : String) : Option Nat :=
  if scheme = "http" || scheme = "ws" then some 80
  else if scheme = "https" || scheme = "wss" then some 443
  else if scheme = "ftp" then some 21
  else none

/-- The text of a path. -/
def pathText (url : Url) : String :=
  match url.path with
  | .segments list => String.join (list.map ("/" ++ ·))
  | .rootless text => text

/-- The user name and password before the host. -/
def userText (url : Url) : String :=
  if url.username.isEmpty && url.password.isEmpty then ""
  else if url.password.isEmpty then url.username ++ "@"
  else url.username ++ ":" ++ url.password ++ "@"

/-- The host with what surrounds it. -/
def authorityText (url : Url) : String :=
  match url.host with
  | none => if schemeKind url.scheme = .file then "//" else ""
  | some host =>
    "//" ++ userText url ++ host.text ++ (url.port.map fun port => s!":{port}").getD ""

/-- The text of a URL. -/
def text (url : Url) : String :=
  url.scheme ++ ":" ++ authorityText url ++ pathText url ++
    (url.query.map ("?" ++ ·)).getD "" ++ (url.fragment.map ("#" ++ ·)).getD ""

/-- The pairs in the query. -/
def queryPairs (url : Url) : List (String × String) :=
  match url.query with
  | some query => Form.pairs query.toList
  | none => []

/-- Whether a character is left out wherever it stands. -/
def isIgnored (c : Char) : Bool := c == '\t' || c == '\n' || c == '\r'

/-- The characters of a text that count: no controls or spaces at its ends, no
    tabs and line breaks within. -/
def significant (text : String) : List Char :=
  (trimEnds text.toList).filter (!isIgnored ·)
where
  /-- Drop controls and spaces at both ends. -/
  trimEnds (cs : List Char) : List Char :=
    ((cs.dropWhile (·.toNat ≤ 0x20)).reverse.dropWhile (·.toNat ≤ 0x20)).reverse

/-- Whether a character may stand in a scheme behind its first letter. -/
def isSchemeChar (c : Char) : Bool :=
  c.isAlphanum || c == '+' || c == '-' || c == '.'

/-- The scheme of a text, in lower case, and what follows its colon. -/
def scheme? (text : List Char) : Option (String × List Char) :=
  let name := text.takeWhile isSchemeChar
  match name, text.drop name.length with
  | first :: _, ':' :: rest =>
    if first.isAlpha then some (String.ofList (name.map Char.toLower), rest) else none
  | _, _ => none

/-- Whether a character ends the part before the path. -/
def endsAuthority (kind : SchemeKind) (c : Char) : Bool :=
  c == '/' || c == '?' || c == '#' || kind != .other && c == '\\'

/-- A user name and a password. -/
structure UserInfo where
  username : String := ""
  password : String := ""

/-- The user name and password of what stands before the last `@`. -/
def userInfo (text : List Char) : UserInfo :=
  let name := text.takeWhile (· ≠ ':')
  let secret := text.drop (name.length + 1)
  ⟨String.ofList (Percent.encode Percent.userSet name),
    String.ofList (Percent.encode Percent.userSet secret)⟩

/-- What stands before the last `@`, if there is one, and what stands behind it. -/
def splitUser (authority : List Char) : Option (List Char) × List Char :=
  if authority.contains '@' then
    let behind := (authority.reverse.takeWhile (· ≠ '@')).reverse
    (some (authority.take (authority.length - behind.length - 1)), behind)
  else
    (none, authority)

/-- The host and, behind a colon outside brackets, the port. -/
def splitPort (bracket : Bool) : List Char → List Char × Option (List Char)
  | [] => ([], none)
  | c :: rest =>
    if c = ':' && !bracket then ([], some rest)
    else
      let bracket := if c = '[' then true else if c = ']' then false else bracket
      let (host, port) := splitPort bracket rest
      (c :: host, port)

/-- The port that digits denote; no digits denote none, and neither does the port
    that goes with the scheme. -/
def parsePort (scheme : String) (digits : List Char) : Except UrlError (Option Nat) :=
  if digits.isEmpty then .ok none
  else
    match (Net.number 10 none 65536).whole? digits with
    | some port => .ok (if some port = defaultPort? scheme then none else some port)
    | none => .error .invalidPort

/-- Whether a segment stands for the one above it. -/
def isDoubleDot (segment : List Char) : Bool :=
  ["..", "%2e.", ".%2e", "%2e%2e"].contains (String.ofList (segment.map Char.toLower))

/-- Whether a segment stands for the place where it is. -/
def isSingleDot (segment : List Char) : Bool :=
  [".", "%2e"].contains (String.ofList (segment.map Char.toLower))

/-- Add a segment to those before it, where `last` says that no slash follows. -/
def addSegment (before : List String) (segment : List Char) (last : Bool) : List String :=
  if isDoubleDot segment then
    if last then before.dropLast ++ [""] else before.dropLast
  else if isSingleDot segment then
    if last then before ++ [""] else before
  else
    before ++ [String.ofList (Percent.encode Percent.pathSet segment)]

/-- Add the segments of a path, given between slashes. -/
def addSegments (before : List String) : List (List Char) → List String
  | [] => before
  | [segment] => addSegment before segment true
  | segment :: rest => addSegments (addSegment before segment false) rest

/-- The segments of a path. -/
def pathSegments (kind : SchemeKind) (path : List Char) : List String :=
  let slashed := if kind = .other then path else path.map fun c => if c = '\\' then '/' else c
  let slashed := if slashed.head? = some '/' then slashed.drop 1 else slashed
  addSegments [] (Form.splitAll '/' slashed)

/-- Attach the query and the fragment at the end of a text. -/
def attachTail (kind : SchemeKind) (url : Url) (tail : List Char) : Url :=
  let beforeHash := tail.takeWhile (· ≠ '#')
  let set := if kind = .other then Percent.querySet else Percent.specialQuerySet
  { url with
    query :=
      match beforeHash with
      | '?' :: query => some (String.ofList (Percent.encode set query))
      | _ => none
    fragment :=
      match tail.drop beforeHash.length with
      | '#' :: fragment => some (String.ofList (Percent.encode Percent.fragmentSet fragment))
      | _ => none }

/-- Whether a character ends the path. -/
def endsPath (c : Char) : Bool := c == '?' || c == '#'

/-- Attach the path, the query and the fragment that follow the authority. -/
def attachPath (kind : SchemeKind) (url : Url) (rest : List Char) : Url :=
  let path := rest.takeWhile (!endsPath ·)
  let segments :=
    if kind = .other && path.isEmpty then [] else pathSegments kind path
  attachTail kind { url with path := .segments segments } (rest.drop path.length)

/-- The URL of a scheme whose authority begins here. -/
def parseAuthority (scheme : String) (text : List Char) : Except UrlError Url := do
  let kind := schemeKind scheme
  let authority := text.takeWhile (!endsAuthority kind ·)
  let (user, hostPort) := splitUser authority
  let (host, port) := splitPort false hostPort
  if host.isEmpty && (kind = .special || user.isSome || port.isSome) then
    .error .emptyHost
  else
    let host ← if kind = .other then Host.parseOpaque host else Host.parse host
    let port ← parsePort scheme (port.getD [])
    let info := (user.map userInfo).getD {}
    let url : Url :=
      { scheme, username := info.username, password := info.password, host := some host, port
        path := .segments [] }
    return attachPath kind url (text.drop authority.length)

/-- The URL of a file; a host is looked for behind two slashes only. -/
def parseFile (text : List Char) : Except UrlError Url := do
  let url : Url := { scheme := "file", path := .segments [] }
  match text with
  | a :: b :: rest =>
    if (a = '/' || a = '\\') && (b = '/' || b = '\\') then
      let host := rest.takeWhile (!endsAuthority .file ·)
      let behind := rest.drop host.length
      if host.isEmpty then return attachPath .file url behind
      else
        let host ← Host.parse host
        let host := if host = .domain "localhost" then none else some host
        return attachPath .file { url with host } behind
    else return attachPath .file url text
  | _ => return attachPath .file url text

/-- The URL of a scheme that is not special. -/
def parseOther (scheme : String) (text : List Char) : Except UrlError Url :=
  match text with
  | '/' :: '/' :: rest => parseAuthority scheme rest
  | '/' :: _ => .ok (attachPath .other { scheme, path := .segments [] } text)
  | _ =>
    let path := text.takeWhile (!endsPath ·)
    let url : Url := { scheme, path := .rootless (String.ofList (Percent.encode [] path)) }
    .ok (attachTail .other url (text.drop path.length))

/-- The URL that a text denotes. -/
def parse (text : String) : Except UrlError Url :=
  match scheme? (significant text) with
  | none => .error .relativeWithoutBase
  | some (scheme, rest) =>
    match schemeKind scheme with
    | .special => parseAuthority scheme (rest.dropWhile fun c => c = '/' || c = '\\')
    | .file => parseFile rest
    | .other => parseOther scheme rest

end Url

end RelayTunnel
