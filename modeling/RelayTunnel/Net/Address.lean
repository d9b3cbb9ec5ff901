/-!
# Internet addresses

Addresses of both families as bit vectors, sockets and networks, and their text.
An IPv6 address is written in lower-case groups with the first longest run of
zero groups left out, an IPv4-mapped one with its last four bytes in dotted form.
-/

namespace RelayTunnel

/-- An address of either family. -/
inductive IpAddress where
  | v4 (bits : BitVec 32)
  | v6 (bits : BitVec 128)
  deriving DecidableEq, Repr

namespace IpAddress

/-- The address of four bytes. -/
def ofBytes (a b c d : Nat) : IpAddress :=
  .v4 (BitVec.ofNat 32 (((a * 256 + b) * 256 + c) * 256 + d))

/-- The IPv4 loopback address. -/
def localhost : IpAddress := ofBytes 127 0 0 1

/-- The IPv4 address inside an IPv4-mapped one, any other address as it is. -/
def unmapped : IpAddress → IpAddress
  | v6 bits => if bits >>> 32 = 0xFFFF#128 then v4 (bits.setWidth 32) else v6 bits
  | v4 bits => v4 bits

/-- Whether the address is one of the host's own: 127.0.0.0/8 or ::1. -/
def isLoopback : IpAddress → Bool
  | v4 bits => bits >>> 24 = 127#32
  | v6 bits => bits = 1#128

/-- Four numbers between points. -/
def dotted (bits : BitVec 32) : String :=
  ".".intercalate ([24, 16, 8, 0].map fun shift => toString ((bits >>> shift).toNat % 256))

/-- The eight groups of an IPv6 address. -/
def groups (bits : BitVec 128) : List Nat :=
  [112, 96, 80, 64, 48, 32, 16, 0].map fun shift => (bits >>> shift).toNat % 65536

/-- A run of zero groups. -/
structure ZeroRun where
  start : Nat
  length : Nat

/-- The run of zero groups that ends with `group`, where `run` ends before it. -/
def ZeroRun.extend (run : ZeroRun) (index group : Nat) : ZeroRun :=
  if group ≠ 0 then ⟨0, 0⟩
  else if run.length = 0 then ⟨index, 1⟩
  else ⟨run.start, run.length + 1⟩

/-- The first of the longest runs of zero groups, where `index` counts the groups
    before these, `run` ends there and `best` is the longest so far. -/
def longestZeroRun (index : Nat) (run best : ZeroRun) : List Nat → ZeroRun
  | [] => best
  | group :: rest =>
    let run := run.extend index group
    longestZeroRun (index + 1) run (if best.length < run.length then run else best) rest

/-- A group in lower-case hexadecimal digits. -/
def hexGroup (group : Nat) : String := String.ofList (Nat.toDigits 16 group)

/-- Groups between colons. -/
def joinGroups (groups : List Nat) : String := ":".intercalate (groups.map hexGroup)

/-- The groups of an address, a double colon standing for the longest run of two
    or more zero groups. -/
def grouped (bits : BitVec 128) : String :=
  let all := groups bits
  let run := longestZeroRun 0 ⟨0, 0⟩ ⟨0, 0⟩ all
  if 1 < run.length then
    joinGroups (all.take run.start) ++ "::" ++ joinGroups (all.drop (run.start + run.length))
  else
    joinGroups all

/-- The text of an address. -/
def text : IpAddress → String
  | v4 bits => dotted bits
  | v6 bits =>
    if bits >>> 32 = 0xFFFF#128 then "::ffff:" ++ dotted (bits.setWidth 32) else grouped bits

end IpAddress

/-- An address and a port; `scope` names a link for an IPv6 address. -/
structure SocketAddress where
  ip : IpAddress
  port : Nat
  scope : Nat := 0
  deriving DecidableEq, Repr

/-- The text of a socket address, an IPv6 one in brackets. -/
def SocketAddress.text (address : SocketAddress) : String :=
  match address.ip with
  | .v4 _ => s!"{address.ip.text}:{address.port}"
  | .v6 _ =>
    if address.scope = 0 then
      s!"[{address.ip.text}]:{address.port}"
    else
      s!"[{address.ip.text}%{address.scope}]:{address.port}"

/-- The addresses that agree with `address` on the first `length` bits. -/
structure Network where
  address : IpAddress
  length : Nat
  deriving DecidableEq, Repr

/-- The text of a network, host bits included. -/
def Network.text (network : Network) : String :=
  s!"{network.address.text}/{network.length}"

/-- Whether an address is of the network's family and agrees with it on the
    first bits. -/
def Network.contains (network : Network) : IpAddress → Bool
  | .v4 bits =>
    match network.address with
    | .v4 base => base >>> (32 - network.length) = bits >>> (32 - network.length)
    | .v6 _ => false
  | .v6 bits =>
    match network.address with
    | .v4 _ => false
    | .v6 base => base >>> (128 - network.length) = bits >>> (128 - network.length)

end RelayTunnel
