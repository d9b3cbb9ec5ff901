import RelayTunnel.Bytes

/-!
# Percent encoding

Bytes that may not stand in a part of a URL are written as a percent sign and two
hexadecimal digits. Which ones those are depends on the part; bytes outside ASCII
and controls are among them everywhere.
-/

namespace RelayTunnel

namespace Percent

/-- The upper-case hexadecimal digit of a number below sixteen. -/
def hexDigit (n : Nat) : Char := (Nat.digitChar n).toUpper

/-- The value of a hexadecimal digit. -/
def hexValue? (c : Char) : Option Nat :=
  if '0' ≤ c ∧ c ≤ '9' then some (c.toNat - '0'.toNat)
  else if 'a' ≤ c ∧ c ≤ 'f' then some (c.toNat - 'a'.toNat + 10)
  else if 'A' ≤ c ∧ c ≤ 'F' then some (c.toNat - 'A'.toNat + 10)
  else none

/-- A byte as a percent sign and two digits. -/
def escape (byte : UInt8) : List Char :=
  ['%', hexDigit (byte.toNat / 16), hexDigit (byte.toNat % 16)]

/-- A set of ASCII characters that a part of a URL encodes besides controls. -/
abbrev CharSet := List Char

/-- What a fragment encodes. -/
def fragmentSet : CharSet := [' ', '"', '<', '>', '`']

/-- What a query encodes. -/
def querySet : CharSet := [' ', '"', '#', '<', '>']

/-- What the query of a special URL encodes. -/
def specialQuerySet : CharSet := '\'' :: querySet

/-- What a path encodes. -/
def pathSet : CharSet := fragmentSet ++ ['#', '?', '{', '}']

/-- What a user name and a password encode. -/
def userSet : CharSet := pathSet ++ ['/', ':', ';', '=', '@', '[', '\\', ']', '^', '|']

/-- One character, encoded if it is in the set, a control or outside ASCII. -/
def encodeChar (set : CharSet) (c : Char) : List Char :=
  if c.toNat < 0x20 || 0x7F ≤ c.toNat || set.contains c then
    (String.utf8EncodeChar c).flatMap escape
  else
    [c]

/-- A text with every character of the set encoded. -/
def encode (set : CharSet) (text : List Char) : List Char := text.flatMap (encodeChar set)

/-- The bytes of a text in which a percent sign and two digits stand for a byte;
    a percent sign without them stands for itself. -/
def decode : List Char → Bytes
  | [] => []
  | '%' :: high :: low :: rest =>
    match hexValue? high, hexValue? low with
    | some h, some l => UInt8.ofNat (h * 16 + l) :: decode rest
    | _, _ => String.utf8EncodeChar '%' ++ decode (high :: low :: rest)
  | c :: rest => String.utf8EncodeChar c ++ decode rest

end Percent

end RelayTunnel
