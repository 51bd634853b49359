import TcpIp.Address
import TcpIp.Checksum

/-!
# Checksums with a pseudo-header

UDP and TCP checksum their bytes behind a pseudo-header of twelve bytes that is not sent.  `udp.rs` and `tcp.rs` build
it in the same way; here it is once, with the protocol number as an argument.
-/

namespace TcpIp.Transport

open TcpIp.Lib TcpIp.Checksum

variable {ε : Type}

def pseudoHeader (protocol : UInt8) (sourceIp destinationIp : Ipv4Addr) (length : UInt16) : Bytes :=
  sourceIp.octets ++ destinationIp.octets ++ [0] ++ [protocol] ++ u16ToBeBytes length

/-- The body of `calculate_udp_checksum` and `calculate_tcp_checksum`, capacity hint included. -/
def calculateChecksum (protocol : UInt8) (sourceIp destinationIp : Ipv4Addr) (length : UInt16) (bytes : Bytes) :
    Outcome ε UInt16 := do
  let _capacity ← addUsize 12 bytes.length
  checksum (pseudoHeader protocol sourceIp destinationIp length ++ bytes)

/-- The checksum of `bytes` behind the pseudo-header. -/
def transportChecksum (protocol : UInt8) (sourceIp destinationIp : Ipv4Addr) (length : UInt16) (bytes : Bytes) :
    UInt16 :=
  internetChecksum (pseudoHeader protocol sourceIp destinationIp length ++ bytes)

variable {protocol : UInt8} {sourceIp destinationIp : Ipv4Addr} {length : UInt16}

lemma pseudoHeader_length : (pseudoHeader protocol sourceIp destinationIp length).length = 12 := rfl

lemma pseudoHeader_length_mod : (pseudoHeader protocol sourceIp destinationIp length).length % 2 = 0 := by
  rw [pseudoHeader_length]

lemma calculateChecksum_eq {bytes : Bytes} (h : 12 + bytes.length ≤ usizeMax) :
    (calculateChecksum protocol sourceIp destinationIp length bytes : Outcome ε UInt16) =
      .ok (transportChecksum protocol sourceIp destinationIp length bytes) := by
  unfold calculateChecksum
  rw [addUsize_of_le h, Outcome.ok_bind, checksum_eq, transportChecksum]

section Stored

variable {top : Bytes} (htop : top.length % 2 = 0) (bottom : Bytes)
include htop

lemma pseudoHeader_append_length_mod :
    (pseudoHeader protocol sourceIp destinationIp length ++ top).length % 2 = 0 := by
  rw [List.length_append, pseudoHeader_length]
  omega

/-- **What a stored checksum can be**: the checksum, or all ones for a checksum of zero. -/
theorem transportChecksum_stored_iff (c : UInt16) :
    transportChecksum protocol sourceIp destinationIp length (top ++ u16ToBeBytes c ++ bottom) = 0 ↔
      c = transportChecksum protocol sourceIp destinationIp length (top ++ u16ToBeBytes 0 ++ bottom) ∨
        (transportChecksum protocol sourceIp destinationIp length (top ++ u16ToBeBytes 0 ++ bottom) = 0 ∧
          c = 0xffff) := by
  unfold transportChecksum
  simp only [← List.append_assoc]
  exact internetChecksum_stored_iff (pseudoHeader_append_length_mod htop) bottom c

end Stored

lemma transportChecksum_ne_ones (h : protocol ≠ 0) (bytes : Bytes) :
    transportChecksum protocol sourceIp destinationIp length bytes ≠ 0xffff := by
  have hprotocol : 0 < protocol.toNat := Nat.pos_of_ne_zero fun hzero => h (UInt8.toNat_inj.1 hzero)
  have hsum : wordSum ([0] ++ [protocol]) = protocol.toNat := by
    rw [List.singleton_append, wordSum, u16FromBeBytes_toNat, wordSum]
    simp
  apply internetChecksum_ne_ones
  unfold pseudoHeader
  simp only [List.append_assoc]
  rw [wordSum_append _ sourceIp.octets_length_mod, wordSum_append _ destinationIp.octets_length_mod,
    ← List.append_assoc [0], wordSum_append _ (by simp), hsum]
  omega

/-- **A noticeable change of the bytes is noticed.** -/
theorem transportChecksum_corrupted {bytes bytes' : Bytes} (hcorrupt : Noticeable bytes bytes')
    (h : transportChecksum protocol sourceIp destinationIp length bytes = 0) :
    transportChecksum protocol sourceIp destinationIp length bytes' ≠ 0 := by
  have hpart := @internetChecksum_corrupted_part (pseudoHeader protocol sourceIp destinationIp length) _ _ []
    pseudoHeader_length_mod (Or.inl rfl) hcorrupt
  rw [List.append_nil, List.append_nil] at hpart
  exact hpart h

/-- One of the addresses is corrupted. -/
def AddressCorruption (sourceIp destinationIp sourceIp' destinationIp' : Ipv4Addr) : Prop :=
  (Corruption sourceIp.octets sourceIp'.octets ∧ destinationIp' = destinationIp) ∨
    (sourceIp' = sourceIp ∧ Corruption destinationIp.octets destinationIp'.octets)

/-- **A corruption of an address is noticed.** -/
theorem transportChecksum_corrupted_address {sourceIp' destinationIp' : Ipv4Addr} {bytes : Bytes}
    (hcorrupt : AddressCorruption sourceIp destinationIp sourceIp' destinationIp')
    (h : transportChecksum protocol sourceIp destinationIp length bytes = 0) :
    transportChecksum protocol sourceIp' destinationIp' length bytes ≠ 0 := by
  unfold transportChecksum pseudoHeader at h ⊢
  simp only [List.append_assoc] at h ⊢
  rcases hcorrupt with ⟨hsource, rfl⟩ | ⟨rfl, hdestination⟩
  · exact @internetChecksum_corrupted_part [] _ _ _ rfl (Or.inr sourceIp.octets_length_mod) hsource.noticeable h
  · rw [← List.append_assoc] at h ⊢
    exact internetChecksum_corrupted_part sourceIp'.octets_length_mod (Or.inr destinationIp.octets_length_mod)
      hdestination.noticeable h

end TcpIp.Transport
