import RelayTunnel.Admission

/-!
# Who is admitted

Unless a custom policy decides, whether a client is admitted depends on the address it comes
from and on nothing else. An IPv4-mapped address stands for the IPv4 address inside it, a network
for the addresses that agree with it on its leading bits, and a list of networks for the set of
them.
-/

namespace RelayTunnel

namespace IpAddress

/-- The IPv6 form `::ffff:a.b.c.d` of an IPv4 address. -/
def mapped (bits : BitVec 32) : IpAddress := .v6 (0xFFFF#96 ++ bits)

/-- Whether two addresses are of one family and agree on so many leading bits. -/
def AgreesOn (count : Nat) : IpAddress → IpAddress → Prop
  | v4 a, v4 b => ∀ i < count, a.getMsbD i = b.getMsbD i
  | v6 a, v6 b => ∀ i < count, a.getMsbD i = b.getMsbD i
  | v4 _, v6 _ | v6 _, v4 _ => False

/-- What an address begins with is what is left when the other bits are shifted out. -/
theorem ushiftRight_eq_iff {width : Nat} (count : Nat) (a b : BitVec width) :
    a >>> (width - count) = b >>> (width - count) ↔
      ∀ i < count, a.getMsbD i = b.getMsbD i := by
  constructor
  · intro same i inside
    by_cases within : i < width
    · have shifted := congrArg (·.getMsbD (i + (width - count))) same
      have place : i + (width - count) < width := by omega
      simpa only [BitVec.getMsbD_ushiftRight, Nat.add_sub_cancel, place, decide_true,
        Bool.true_and, Nat.not_lt_of_le (Nat.le_add_left (width - count) i), decide_false,
        Bool.not_false] using shifted
    · rw [BitVec.getMsbD_of_ge _ _ (by omega), BitVec.getMsbD_of_ge _ _ (by omega)]
  · intro same
    refine BitVec.eq_of_getMsbD_eq fun i within => ?_
    simp only [BitVec.getMsbD_ushiftRight]
    by_cases front : i < width - count
    · simp [front]
    · rw [same (i - (width - count)) (by omega)]

theorem toNat_mapped (bits : BitVec 32) :
    (0xFFFF#96 ++ bits : BitVec 128).toNat = 0xFFFF * 4294967296 + bits.toNat := by
  rw [BitVec.toNat_append, Nat.shiftLeft_eq, Nat.mul_comm, ← Nat.two_pow_add_eq_or_of_lt bits.isLt]
  rfl

theorem unmapped_mapped (bits : BitVec 32) : (mapped bits).unmapped = .v4 bits := by
  have joined := toNat_mapped bits
  have small := bits.isLt
  have front : (0xFFFF#96 ++ bits : BitVec 128) >>> 32 = 0xFFFF#128 := by
    apply BitVec.eq_of_toNat_eq
    rw [BitVec.toNat_ushiftRight, Nat.shiftRight_eq_div_pow, joined, BitVec.toNat_ofNat]
    omega
  have back : (0xFFFF#96 ++ bits : BitVec 128).setWidth 32 = bits := by
    apply BitVec.eq_of_toNat_eq
    rw [BitVec.toNat_setWidth, joined]
    omega
  simp only [mapped, unmapped, front, back, if_true]

/-- Only a mapped address begins like one. -/
theorem eq_mapped {bits : BitVec 128} (front : bits >>> 32 = 0xFFFF#128) :
    .v6 bits = mapped (bits.setWidth 32) := by
  have high := congrArg BitVec.toNat front
  rw [BitVec.toNat_ushiftRight, Nat.shiftRight_eq_div_pow, BitVec.toNat_ofNat] at high
  have same : bits = (0xFFFF#96 ++ bits.setWidth 32 : BitVec 128) := by
    apply BitVec.eq_of_toNat_eq
    rw [toNat_mapped, BitVec.toNat_setWidth]
    omega
  exact congrArg v6 same

/-- The address that counts is the one inside a mapped address, and any other as it is. -/
theorem unmapped_cases (ip : IpAddress) :
    (∃ bits, ip = mapped bits ∧ ip.unmapped = .v4 bits) ∨
      (∀ bits, ip ≠ mapped bits) ∧ ip.unmapped = ip := by
  by_cases inside : ∃ bits, ip = mapped bits
  · obtain ⟨bits, rfl⟩ := inside
    exact .inl ⟨bits, rfl, unmapped_mapped bits⟩
  · refine .inr ⟨fun bits same => inside ⟨bits, same⟩, ?_⟩
    cases ip with
    | v4 bits => rfl
    | v6 bits =>
      have other : ¬ bits >>> 32 = 0xFFFF#128 := fun front => inside ⟨_, eq_mapped front⟩
      simp only [unmapped, other, if_false]

/-- The loopback addresses are those of 127.0.0.0/8 and `::1`. -/
theorem isLoopback_iff (ip : IpAddress) :
    ip.isLoopback = true ↔ (ofBytes 127 0 0 0).AgreesOn 8 ip ∨ ip = .v6 1 := by
  cases ip with
  | v4 bits =>
    have first : 127#32 = BitVec.ofNat 32 (((127 * 256 + 0) * 256 + 0) * 256 + 0) >>> 24 := by
      decide
    simp only [isLoopback, decide_eq_true_eq, ofBytes, AgreesOn, ← ushiftRight_eq_iff,
      reduceCtorEq, or_false, first]
    exact eq_comm
  | v6 bits => simp [isLoopback, ofBytes, AgreesOn]

end IpAddress

/-- A network contains the addresses that agree with it on its leading bits. -/
theorem Network.contains_iff (network : Network) (ip : IpAddress) :
    network.contains ip = true ↔ network.address.AgreesOn network.length ip := by
  unfold Network.contains
  cases ip with
  | v4 bits =>
    cases network.address with
    | v4 base => simp only [decide_eq_true_eq]; exact IpAddress.ushiftRight_eq_iff ..
    | v6 base => simp [IpAddress.AgreesOn]
  | v6 bits =>
    cases network.address with
    | v4 base => simp [IpAddress.AgreesOn]
    | v6 base => simp only [decide_eq_true_eq]; exact IpAddress.ushiftRight_eq_iff ..

namespace Admission

/-- An IPv4 client and its mapped form come from the same address, whatever their ports. -/
theorem admits_mapped (mode : AdmissionMode) (networks : List Network) (bits : BitVec 32)
    (port scope otherPort otherScope : Nat) :
    (ofMode mode networks).admits ⟨.mapped bits, port, scope⟩ =
      (ofMode mode networks).admits ⟨.v4 bits, otherPort, otherScope⟩ := by
  cases mode <;> simp only [ofMode, admits, IpAddress.unmapped_mapped] <;> rfl

/-- More networks admit more clients. -/
theorem admits_of_subset {mode : AdmissionMode} {networks more : List Network}
    {client : SocketAddress} (among : networks ⊆ more)
    (admitted : (ofMode mode networks).admits client = true) :
    (ofMode mode more).admits client = true := by
  cases mode with
  | loopback | allowAll => exact admitted
  | allowList =>
    obtain ⟨network, listed, contains⟩ := List.any_eq_true.mp admitted
    exact List.any_eq_true.mpr ⟨network, among listed, contains⟩

/-- A client counts as the IPv4 client it is, and is admitted by an allow list for a network of
    its family with the leading bits of its address, in loopback mode for a loopback address, and
    otherwise always. So its mapped form is treated alike on every port, the order and the
    repetition of networks do not matter, and one more network never turns a client away. -/
theorem admits_by_address (networks : List Network) (client : SocketAddress) :
    let counts := client.ip.unmapped
    ((∃ bits, client.ip = .mapped bits ∧ counts = .v4 bits) ∨
        (∀ bits, client.ip ≠ .mapped bits) ∧ counts = client.ip) ∧
      ((ofMode .allowList networks).admits client = true ↔
        ∃ network ∈ networks, network.address.AgreesOn network.length counts) ∧
      ((ofMode .loopback networks).admits client = true ↔
        (IpAddress.ofBytes 127 0 0 0).AgreesOn 8 counts ∨ counts = .v6 1) ∧
      (ofMode .allowAll networks).admits client = true ∧
      ∀ mode,
        (∀ bits port scope otherPort otherScope,
          (ofMode mode networks).admits ⟨.mapped bits, port, scope⟩ =
            (ofMode mode networks).admits ⟨.v4 bits, otherPort, otherScope⟩) ∧
        (∀ others, (∀ network, network ∈ others ↔ network ∈ networks) →
          (ofMode mode others).admits client = (ofMode mode networks).admits client) ∧
        ∀ more, networks ⊆ more → (ofMode mode networks).admits client = true →
          (ofMode mode more).admits client = true := by
  intro counts
  refine ⟨client.ip.unmapped_cases, ?_, client.ip.unmapped.isLoopback_iff, rfl, fun mode => ?_⟩
  · simp only [ofMode, admits, List.any_eq_true, Network.contains_iff, counts]
  · refine ⟨admits_mapped mode networks, fun others same => ?_, fun more => admits_of_subset⟩
    rw [Bool.eq_iff_iff]
    exact ⟨admits_of_subset fun network => (same network).mp,
      admits_of_subset fun network => (same network).mpr⟩

/-- The mapped form of 10.127.0.1 agrees with 10.64.9.9 on nine bits, though not with ::/0, and so
    does it when the list is turned round and has a network twice. -/
theorem admits_by_address_mapped_client :
    let listed : Network := ⟨.ofBytes 10 64 9 9, 9⟩
    let all : Network := ⟨.v6 0, 0⟩
    let client : SocketAddress := ⟨.mapped (BitVec.ofNat 32 0x0A7F0001), 22, 0⟩
    (ofMode .allowList [all]).admits client = false ∧
      (ofMode .allowList [all, listed]).admits client = true ∧
      (ofMode .allowList [listed, all, listed]).admits client = true := by
  intro listed all client
  have alone : (ofMode .allowList [all]).admits client = false := by decide
  have both : (ofMode .allowList [all, listed]).admits client = true := by decide
  have decided := (admits_by_address [all, listed] client).2.2.2.2 .allowList
  have same := decided.2.1 [listed, all, listed] (by simp [or_comm])
  exact ⟨alone, both, same.trans both⟩

end Admission

end RelayTunnel
