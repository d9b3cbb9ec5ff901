import RelayTunnel.Text.Utf8
import RelayTunnel.Url.Percent

/-!
# Pairs in a query

A query carries pairs of a name and a value, joined by `=` within and `&` between.
Letters, digits and `*-._` stand for themselves, a space becomes a plus sign, and
every other byte is percent-encoded, so that no value can be taken for a part of
another pair.
-/

namespace RelayTunnel

namespace Form

/-- Whether a byte stands for itself. -/
def isPlain (byte : UInt8) : Bool :=
  (0x30 ≤ byte && byte ≤ 0x39) || (0x41 ≤ byte && byte ≤ 0x5A) ||
    (0x61 ≤ byte && byte ≤ 0x7A) || byte == 0x2A || byte == 0x2D || byte == 0x2E || byte == 0x5F

/-- The form of one byte. -/
def encodeByte (byte : UInt8) : List Char :=
  if isPlain byte then [Char.ofNat byte.toNat]
  else if byte == 0x20 then ['+']
  else Percent.escape byte

/-- The form of a name or a value. -/
def encode (text : String) : List Char := (Utf8.encode text).flatMap encodeByte

/-- The form of a pair. -/
def encodePair (pair : String × String) : List Char := encode pair.1 ++ '=' :: encode pair.2

/-- The query that carries the pairs. -/
def query (pairs : List (String × String)) : List Char :=
  List.intercalate ['&'] (pairs.map encodePair)

/-- The name or value that a form stands for. -/
def decode (form : List Char) : String :=
  Utf8.decodeLossy (Percent.decode (form.map fun c => if c = '+' then ' ' else c))

/-- A list cut at every occurrence of `mark`. -/
def splitAll (mark : Char) : List Char → List (List Char)
  | [] => [[]]
  | c :: rest =>
    if c = mark then [] :: splitAll mark rest
    else
      match splitAll mark rest with
      | [] => [[c]]
      | part :: parts => (c :: part) :: parts

/-- The pair in one part of a query; without `=` the value is empty. -/
def decodePair (part : List Char) : String × String :=
  (decode (part.takeWhile (· ≠ '=')), decode ((part.dropWhile (· ≠ '=')).drop 1))

/-- The pairs that a query carries; empty parts carry none. -/
def pairs (query : List Char) : List (String × String) :=
  ((splitAll '&' query).filter (· ≠ [])).map decodePair

end Form

end RelayTunnel
