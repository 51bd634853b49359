import Mathlib.Order.Basic
import Mathlib.Order.Lattice
import TcpIp.Lib.Writer

/-!
# Addresses

* `MacAddress` — six octets, with the broadcast address;
* `Ipv4Addr` — the address type of the standard library, with its order (the numerical one).
-/

namespace TcpIp

open TcpIp.Lib

/-- `MacAddress([u8; 6])`. -/
structure MacAddress where
  octet0 : UInt8
  octet1 : UInt8
  octet2 : UInt8
  octet3 : UInt8
  octet4 : UInt8
  octet5 : UInt8
  deriving DecidableEq, Repr

namespace MacAddress

def octets (mac : MacAddress) : Bytes :=
  [mac.octet0, mac.octet1, mac.octet2, mac.octet3, mac.octet4, mac.octet5]

def broadcast : MacAddress := ⟨0xff, 0xff, 0xff, 0xff, 0xff, 0xff⟩

@[simp] lemma octets_length (mac : MacAddress) : mac.octets.length = 6 := rfl

end MacAddress

/-- `std::net::Ipv4Addr`. -/
structure Ipv4Addr where
  octet0 : UInt8
  octet1 : UInt8
  octet2 : UInt8
  octet3 : UInt8
  deriving Repr

namespace Ipv4Addr

def octets (ip : Ipv4Addr) : Bytes := [ip.octet0, ip.octet1, ip.octet2, ip.octet3]

@[simp] lemma octets_length (ip : Ipv4Addr) : ip.octets.length = 4 := rfl

lemma octets_length_mod (ip : Ipv4Addr) : ip.octets.length % 2 = 0 := by rw [octets_length]

/-- `Ipv4Addr::to_bits`. -/
def toBits (ip : Ipv4Addr) : ℕ :=
  16777216 * ip.octet0.toNat + 65536 * ip.octet1.toNat + 256 * ip.octet2.toNat + ip.octet3.toNat

lemma toBits_injective : Function.Injective toBits := by
  rintro ⟨a0, a1, a2, a3⟩ ⟨b0, b1, b2, b3⟩ h
  have ha1 := a1.toNat_lt
  have ha2 := a2.toNat_lt
  have ha3 := a3.toNat_lt
  have hb1 := b1.toNat_lt
  have hb2 := b2.toNat_lt
  have hb3 := b3.toNat_lt
  simp only [toBits] at h
  have h0 : a0.toNat = b0.toNat := by omega
  have h1 : a1.toNat = b1.toNat := by omega
  have h2 : a2.toNat = b2.toNat := by omega
  have h3 : a3.toNat = b3.toNat := by omega
  rw [UInt8.toNat_inj] at h0 h1 h2 h3
  rw [h0, h1, h2, h3]

instance : LinearOrder Ipv4Addr := LinearOrder.lift' toBits toBits_injective

end Ipv4Addr

end TcpIp
