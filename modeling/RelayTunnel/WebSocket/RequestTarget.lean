import RelayTunnel.Url

/-!
# Request targets

What the target of an HTTP request may look like. The rules are close to those of
URLs but not the same: of an authority fewer characters are allowed, and the whole
is bounded in length.
-/

namespace RelayTunnel

/-- Why a text is no target of a request. -/
inductive TargetDefect where
  | tooLong
  | invalidCharacter
  | invalidAuthority
  | invalidFormat
  deriving DecidableEq, Repr

/-- The wording of a defect. -/
def TargetDefect.message : TargetDefect → String
  | tooLong => "uri too long"
  | invalidCharacter => "invalid uri character"
  | invalidAuthority => "invalid authority"
  | invalidFormat => "invalid format"

namespace RequestTarget

/-- The most bytes of a target. -/
def maxLength : Nat := 65534

/-- Whether a character may stand in an authority as it is. -/
def isAuthorityChar (c : Char) : Bool :=
  c.isAlphanum || "!$&'()*+,-.:;=@[]_~".contains c

/-- What has been seen of an authority. A user name before an at sign does not
    count, and of a bracketed host only that it was there. -/
structure AuthorityScan where
  colons : Nat := 0
  opened : Bool := false
  closed : Bool := false
  percent : Bool := false

/-- The most colons of a bracketed host. -/
def maxColons : Nat := 8

/-- One more character of an authority. -/
def AuthorityScan.next (scan : AuthorityScan) (c : Char) : Except TargetDefect AuthorityScan :=
  if c = ':' then
    if maxColons ≤ scan.colons then .error .invalidAuthority
    else .ok { scan with colons := scan.colons + 1 }
  else if c = '[' then
    if scan.percent || scan.opened then .error .invalidAuthority
    else .ok { scan with opened := true }
  else if c = ']' then
    if !scan.opened || scan.closed then .error .invalidAuthority
    else .ok { scan with closed := true, colons := 0, percent := false }
  else if c = '@' then .ok { scan with colons := 0, percent := false }
  else if c = '%' then .ok { scan with percent := true }
  else if isAuthorityChar c then .ok scan
  else .error .invalidCharacter

/-- Checks an authority: brackets in pairs, at most the colon before a port,
    something behind the at sign, and no encoded host. -/
def checkAuthority (authority : List Char) : Except TargetDefect Unit := do
  let scan ← authority.foldlM AuthorityScan.next {}
  if scan.opened != scan.closed || 1 < scan.colons || authority.getLast? = some '@' ||
      scan.percent then
    .error .invalidAuthority
  else if authority.isEmpty then .error .invalidFormat
  else return ()

/-- Whether a character may stand in the path. -/
def isPathChar (c : Char) : Bool :=
  0x20 < c.toNat && !"#<>?\x60".contains c

/-- Whether a character may stand in the query. -/
def isQueryChar (c : Char) : Bool :=
  0x20 < c.toNat && !"\"#<>".contains c

/-- Checks the path and the query; a fragment is not part of the target. -/
def checkPath (rest : List Char) : Except TargetDefect Unit :=
  let shown := rest.takeWhile (· ≠ '#')
  let path := shown.takeWhile (· ≠ '?')
  let query := shown.drop (path.length + 1)
  if path.all isPathChar && query.all isQueryChar then .ok () else .error .invalidCharacter

/-- Whether a character ends an authority. -/
def endsAuthority (c : Char) : Bool := c == '/' || c == '?' || c == '#'

/-- The authority of the request for a URL, which has to be a target of requests. -/
def authority (url : Url) : Except TargetDefect String := do
  let text := url.text
  if maxLength < text.utf8ByteSize then .error .tooLong
  let behindScheme := text.toList.drop (url.scheme.length + 3)
  let authority := behindScheme.takeWhile (!endsAuthority ·)
  checkAuthority authority
  checkPath (behindScheme.drop authority.length)
  return String.ofList authority

end RequestTarget

end RelayTunnel
