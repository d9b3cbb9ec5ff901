/-!
# Byte sequences

The payloads and messages of the relay are finite sequences of octets. Integers
travel in big-endian order; `BigEndian` holds their digits and the number that
digits denote.
-/

namespace RelayTunnel

/-- A finite sequence of octets. -/
abbrev Bytes := List UInt8

namespace BigEndian

/-- The low `width` base-256 digits of `n`, most significant first. -/
def encode : Nat → Nat → Bytes
  | 0, _ => []
  | width + 1, n => encode width (n / 256) ++ [UInt8.ofNat n]

/-- The number that the digits of `bytes` denote. -/
def decode (bytes : Bytes) : Nat :=
  bytes.foldl (fun total byte => total * 256 + byte.toNat) 0

@[simp] theorem encode_zero (n : Nat) : encode 0 n = [] := rfl

@[simp] theorem length_encode (width n : Nat) : (encode width n).length = width := by
  induction width generalizing n with
  | zero => rfl
  | succ width ih => simp [encode, ih]

end BigEndian

/-- The sequence cut into pieces of `size` bytes, the last one holding what is
    left; no piece is empty, and a `size` of zero counts as one. -/
def chunks (size : Nat) : Bytes → List Bytes
  | [] => []
  | byte :: bytes => (byte :: bytes.take (size - 1)) :: chunks size (bytes.drop (size - 1))
termination_by bytes => bytes.length
decreasing_by simp only [List.length_cons, List.length_drop]; omega

end RelayTunnel
