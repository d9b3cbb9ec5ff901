import RelayTunnel.Net.Address
import RelayTunnel.Text.Reader

/-!
# Reading addresses

Texts of socket addresses and networks. Two grammars are in use: sockets follow
the strict one, networks a laxer one in which a number may begin with zeros.
-/

namespace RelayTunnel

namespace Net

open Reader

/-- What a grammar leaves open. -/
structure Grammar where
  /-- Whether a byte in dotted form may begin with a zero. -/
  leadingZeros : Bool
  /-- Whether a run of zero groups may stand for no group at all. -/
  emptyRun : Bool

/-- The grammar of socket addresses. -/
def Grammar.strict : Grammar := ⟨false, false⟩

/-- The grammar of networks. -/
def Grammar.lax : Grammar := ⟨true, true⟩

/-- The value of a digit in a radix up to sixteen. -/
def digitValue? (radix : Nat) (c : Char) : Option Nat :=
  let value :=
    if c.isDigit then some (c.toNat - '0'.toNat)
    else if 'a' ≤ c ∧ c ≤ 'f' then some (c.toNat - 'a'.toNat + 10)
    else if 'A' ≤ c ∧ c ≤ 'F' then some (c.toNat - 'A'.toNat + 10)
    else none
  value.filter (· < radix)

/-- The number that digits of a radix denote. -/
def digitsValue (radix : Nat) (digits : List Char) : Nat :=
  digits.foldl (fun total c => total * radix + (digitValue? radix c).getD 0) 0

/-- The digits of a radix at the front of a text, at least one. -/
def digits (radix : Nat) : Reader (List Char) := run1 fun c => (digitValue? radix c).isSome

/-- A number below `bound`, of at most `most` digits if that is given. -/
def number (radix : Nat) (most : Option Nat) (bound : Nat) : Reader Nat := do
  let found ← digits radix
  let value := digitsValue radix found
  if most.any (· < found.length) || bound ≤ value then failure else return value

/-- A byte in decimal. -/
def octet (grammar : Grammar) : Reader Nat := do
  let found ← digits 10
  let value := digitsValue 10 found
  let padded := found.head? = some '0' && found.length ≠ 1
  if 3 < found.length || 256 ≤ value || padded && !grammar.leadingZeros then failure
  else return value

/-- Four bytes between points. -/
def ipv4 (grammar : Grammar) : Reader (BitVec 32) := do
  let a ← octet grammar
  mark '.'
  let b ← octet grammar
  mark '.'
  let c ← octet grammar
  mark '.'
  let d ← octet grammar
  return BitVec.ofNat 32 (((a * 256 + b) * 256 + c) * 256 + d)

/-- Groups of an IPv6 address found in a row. -/
structure Groups where
  values : List Nat
  /-- Whether the last two came in dotted form. -/
  dotted : Bool

/-- What stands behind a colon, or at once for the `first` group. -/
def separated {α : Type} (first : Bool) (reader : Reader α) : Reader α := do
  if !first then mark ':'
  reader

/-- At most so many groups between colons; the last two may be in dotted form. -/
def groupRun (grammar : Grammar) : Nat → Bool → Reader Groups
  | 0, _ => return ⟨[], false⟩
  | limit + 1, first => do
    let tail ← maybe (if limit = 0 then failure else separated first (ipv4 grammar))
    if let some bits := tail then
      return ⟨[bits.toNat / 65536, bits.toNat % 65536], true⟩
    let some group ← maybe (separated first (number 16 (some 4) 65536))
      | return ⟨[], false⟩
    let more ← groupRun grammar limit false
    return { more with values := group :: more.values }

/-- The address of eight groups. -/
def ofGroups (groups : List Nat) : BitVec 128 :=
  BitVec.ofNat 128 (groups.foldl (fun total group => total * 65536 + group) 0)

/-- Eight groups, or fewer around a double colon that stands for the others. -/
def ipv6 (grammar : Grammar) : Reader (BitVec 128) := do
  let head ← groupRun grammar 8 true
  let count := head.values.length
  if count = 8 then
    return ofGroups head.values
  if head.dotted then failure
  word "::"
  let tail ← groupRun grammar (if grammar.emptyRun then 8 - count else 7 - count) true
  let zeros := List.replicate (8 - count - tail.values.length) 0
  return ofGroups (head.values ++ zeros ++ tail.values)

/-- A percent sign and the number of a link, or nothing. -/
def scope : Reader Nat := do
  return (← maybe (do mark '%'; number 10 none UInt32.size)).getD 0

/-- A colon and a port. -/
def port : Reader Nat := do
  mark ':'
  number 10 none 65536

/-- An IPv4 address and a port. -/
def socketV4 : Reader SocketAddress := do
  let bits ← ipv4 .strict
  return ⟨.v4 bits, ← port, 0⟩

/-- An IPv6 address in brackets, perhaps with a link, and a port. -/
def socketV6 : Reader SocketAddress := do
  mark '['
  let bits ← ipv6 .strict
  let link ← scope
  mark ']'
  return ⟨.v6 bits, ← port, link⟩

/-- An IPv4 address and, behind a slash, the number of leading bits. -/
def networkV4 : Reader Network := do
  let bits ← ipv4 .lax
  mark '/'
  return ⟨.v4 bits, ← number 10 (some 2) 33⟩

/-- An IPv6 address and, behind a slash, the number of leading bits. -/
def networkV6 : Reader Network := do
  let bits ← ipv6 .lax
  mark '/'
  return ⟨.v6 bits, ← number 10 (some 3) 129⟩

end Net

/-- The socket address that a text denotes. -/
def SocketAddress.ofText? (text : String) : Option SocketAddress :=
  (Net.socketV4.whole? text.toList).or (Net.socketV6.whole? text.toList)

/-- The wording for a text that denotes no socket address. -/
def SocketAddress.invalid : String := "invalid socket address syntax"

/-- The network that a text denotes. -/
def Network.ofText? (text : String) : Option Network :=
  (Net.networkV4.whole? text.toList).or (Net.networkV6.whole? text.toList)

/-- The wording for a text that denotes no network. -/
def Network.invalid : String := "invalid IP address syntax"

end RelayTunnel
