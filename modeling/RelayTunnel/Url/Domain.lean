import RelayTunnel.Net.Reading
import RelayTunnel.Text.Utf8
import RelayTunnel.Url.Domain.Direction
import RelayTunnel.Url.Domain.Joiner
import RelayTunnel.Url.Domain.Mapping
import RelayTunnel.Url.Percent
import RelayTunnel.Url.Punycode

/-!
# Hosts of URLs

A host is a domain, in ASCII and lower case, or an address. A domain whose last
label is a number is an IPv4 address, written in up to four parts, each decimal,
octal or hexadecimal.
-/

namespace RelayTunnel

/-- Why a text is not a URL. -/
inductive UrlError where
  | emptyHost
  | invalidDomain
  | invalidPort
  | invalidIpv4
  | invalidIpv6
  | invalidHostCharacter
  | relativeWithoutBase
  deriving DecidableEq, Repr

/-- The wording of an error. -/
def UrlError.message : UrlError → String
  | emptyHost => "empty host"
  | invalidDomain => "invalid international domain name"
  | invalidPort => "invalid port number"
  | invalidIpv4 => "invalid IPv4 address"
  | invalidIpv6 => "invalid IPv6 address"
  | invalidHostCharacter => "invalid domain character"
  | relativeWithoutBase => "relative URL without a base"

/-- The host of a URL. -/
inductive Host where
  | domain (name : String)
  | address (ip : IpAddress)
  deriving DecidableEq, Repr

namespace Host

/-- The text of a host, an IPv6 address in brackets. -/
def text : Host → String
  | domain name => name
  | address (.v4 bits) => IpAddress.dotted bits
  | address (.v6 bits) => s!"[{IpAddress.grouped bits}]"

/-- The characters that a domain may not hold. -/
def isForbidden (c : Char) : Bool :=
  c.toNat ≤ 0x20 || c.toNat == 0x7F || "%#/:<>?@[\\]^|".toList.contains c

/-- The characters that a host of an unknown scheme may not hold. -/
def isForbiddenOpaque (c : Char) : Bool :=
  "\x00\t\n\r #/:<>?@[\\]^|".toList.contains c

/-- A text cut at every point. -/
def splitPoints : List Char → List (List Char)
  | [] => [[]]
  | c :: rest =>
    if c = '.' then [] :: splitPoints rest
    else
      match splitPoints rest with
      | [] => [[c]]
      | label :: labels => (c :: label) :: labels

/-- The text that a domain stands for. -/
def mapped? (domain : List Char) : Option (List Char) :=
  ((domain.mapM domainMapping).map List.flatten).map composed

/-- Whether a label in its own characters is valid. -/
def isLabel (label : List Char) : Bool := !label.any isForbidden && keepsJoiners label

/-- A label in its own characters, where it may be given in its ASCII form. -/
def openLabel : List Char → Option (List Char)
  | 'x' :: 'n' :: '-' :: '-' :: form => do
    let label ← Punycode.decode? form
    if label.all (fun c => c.toNat < 0x80) || mapped? label != some label then none
    else some label
  | label => some label

/-- The ASCII form of a label. -/
def asciiLabel (label : List Char) : List Char :=
  if label.all fun c => c.toNat < 0x80 then label
  else ['x', 'n', '-', '-'] ++ Punycode.encode label

/-- The ASCII form of a domain, `none` for one that is not valid. -/
def asciiDomain (domain : List Char) : Option (List Char) := do
  let labels ← (splitPoints (← mapped? domain)).mapM openLabel
  if labels.all isLabel && keepsDirections labels then
    some (List.intercalate ['.'] (labels.map asciiLabel))
  else
    none

/-- A part of an IPv4 address: `none` for a text that is no number. -/
def ipv4Part? (part : List Char) : Option Nat :=
  let number (radix : Nat) (digits : List Char) : Option Nat :=
    if digits.isEmpty then some 0
    else ((Net.digits radix).whole? digits).map (Net.digitsValue radix)
  match part with
  | [] => none
  | '0' :: 'x' :: digits | '0' :: 'X' :: digits => number 16 digits
  | '0' :: c :: digits => number 8 (c :: digits)
  | digits => number 10 digits

/-- The labels of a domain, without an empty one at the end. -/
def labels (domain : List Char) : List (List Char) :=
  let all := splitPoints domain
  if all.getLast? = some [] then all.dropLast else all

/-- Whether the last label is a number. -/
def endsInNumber (domain : List Char) : Bool :=
  match (labels domain).getLast? with
  | none | some [] => false
  | some last => last.all Char.isDigit || (ipv4Part? last).isSome

/-- The IPv4 address that a domain of numbers denotes; the last part fills the
    bytes that the others leave. -/
def ipv4? (domain : List Char) : Option (BitVec 32) := do
  let parts ← (labels domain).mapM ipv4Part?
  let last ← parts.getLast?
  let leading := parts.dropLast
  if 4 < parts.length || leading.any (255 < ·) || 1 <<< (8 * (4 - leading.length)) ≤ last then none
  else
    let high := leading.foldl (fun total part => total * 256 + part) 0
    some (BitVec.ofNat 32 (high <<< (8 * (4 - leading.length)) + last))

/-- The address between brackets. -/
def bracketed (host : List Char) : Except UrlError Host :=
  if host.getLast? = some ']' then
    match (Net.ipv6 .strict).whole? (host.drop 1).dropLast with
    | some bits => .ok (.address (.v6 bits))
    | none => .error .invalidIpv6
  else
    .error .invalidIpv6

/-- The host of a URL whose scheme is known. -/
def parse (host : List Char) : Except UrlError Host :=
  if host.head? = some '[' then bracketed host
  else
    match (Utf8.decode? (Percent.decode host)).bind fun name => asciiDomain name.toList with
    | none => .error .invalidDomain
    | some [] => .error .emptyHost
    | some name =>
      if endsInNumber name then
        match ipv4? name with
        | some bits => .ok (.address (.v4 bits))
        | none => .error .invalidIpv4
      else
        .ok (.domain (String.ofList name))

/-- The host of a URL of any other scheme. -/
def parseOpaque (host : List Char) : Except UrlError Host :=
  if host.head? = some '[' then bracketed host
  else if host.any isForbiddenOpaque then .error .invalidHostCharacter
  else .ok (.domain (String.ofList (Percent.encode [] host)))

end Host

end RelayTunnel
