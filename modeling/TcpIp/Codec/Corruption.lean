import TcpIp.Icmp
import TcpIp.Ipv4
import TcpIp.Tcp
import TcpIp.Udp

/-!
# Corruption of what was accepted

* `parseIpv4Packet_changed`, `parseIcmpMessage_changed`, `validateTcpChecksum_changed`, `validateUdpChecksum_changed` —
  what was accepted with a checksum is refused after a change that the sum of its words notices, whichever of the checks
  is the one that fails;
* `single_word_corruption` — the four of them for one word, with the words of the addresses.
-/

namespace TcpIp

open TcpIp.Lib TcpIp.Checksum TcpIp.Transport

namespace Ipv4

lemma parseIpv4Packet_changed {data header' : Bytes} {packet : Ipv4Packet} (h : parseIpv4Packet data = .ok packet)
    (hcorrupt : Noticeable (data.take (headerLength data)) header')
    (hihl : ihl (header' ++ data.drop (headerLength data)) = ihl data) :
    ∃ e, parseIpv4Packet (header' ++ data.drop (headerLength data)) = .err e := by
  obtain ⟨hwf, -⟩ := parseIpv4Packet_ok_iff.1 h
  have hheader := hwf.headerLength_le.trans hwf.totalLength_le
  have hlength : header'.length = headerLength data :=
    hcorrupt.length_eq.trans (List.length_take_of_le hheader)
  apply Outcome.exists_err (parseIpv4Packet_panics _)
  intro packet' hparse
  obtain ⟨hwf', -⟩ := parseIpv4Packet_ok_iff.1 hparse
  -- the checksum is over the same part of the packet
  have hsame : headerLength (header' ++ data.drop (headerLength data)) = headerLength data := by
    rw [headerLength, hihl]
    rfl
  have hchecksum := hwf'.checksum_eq
  rw [hsame, List.take_left' hlength] at hchecksum
  exact internetChecksum_corrupted hcorrupt hwf.checksum_eq hchecksum

lemma parseIpv4Packet_corrupted {data header' : Bytes} {packet : Ipv4Packet} (h : parseIpv4Packet data = .ok packet)
    (hcorrupt : Corruption (data.take (headerLength data)) header')
    (hihl : ihl (header' ++ data.drop (headerLength data)) = ihl data) :
    ∃ e, parseIpv4Packet (header' ++ data.drop (headerLength data)) = .err e :=
  parseIpv4Packet_changed h hcorrupt.noticeable hihl

end Ipv4

namespace Icmp

lemma parseIcmpMessage_changed {data data' : Bytes} {message : IcmpMessage}
    (h : parseIcmpMessage data = .ok message) (hcorrupt : Noticeable data data') :
    ∃ e, parseIcmpMessage data' = .err e := by
  obtain ⟨-, -, hchecksum, -⟩ := of_parse h
  apply Outcome.exists_err (parseIcmpMessage_panics _)
  intro message' hparse
  obtain ⟨-, -, hchecksum', -⟩ := of_parse hparse
  exact internetChecksum_corrupted hcorrupt hchecksum hchecksum'

lemma parseIcmpMessage_corrupted {data data' : Bytes} {message : IcmpMessage}
    (h : parseIcmpMessage data = .ok message) (hcorrupt : Corruption data data') :
    ∃ e, parseIcmpMessage data' = .err e := parseIcmpMessage_changed h hcorrupt.noticeable

end Icmp

namespace Tcp

lemma transportChecksum_of_validate {sourceIp destinationIp : Ipv4Addr} {data : Bytes}
    (h : validateTcpChecksum sourceIp destinationIp data = .ok ()) :
    transportChecksum ipv4TcpProtocolNumber sourceIp destinationIp (UInt16.ofNat data.length) data = 0 := by
  obtain ⟨segment, hparse, -⟩ := Outcome.bind_eq_ok h
  rw [validateTcpChecksum_of_parse hparse] at h
  split_ifs at h with hlong hzero
  exact hzero

variable {sourceIp destinationIp : Ipv4Addr} {data : Bytes}
  (h : validateTcpChecksum sourceIp destinationIp data = .ok ())
include h

lemma validateTcpChecksum_changed {data' : Bytes} (hcorrupt : Noticeable data data') :
    ∃ e, validateTcpChecksum sourceIp destinationIp data' = .err e := by
  apply Outcome.exists_err (validateTcpChecksum_panics _ _ _)
  rintro ⟨⟩ hvalid
  have hzero := transportChecksum_of_validate hvalid
  -- the pseudo-header has the same length in it
  rw [hcorrupt.length_eq] at hzero
  exact transportChecksum_corrupted hcorrupt (transportChecksum_of_validate h) hzero

lemma validateTcpChecksum_corrupted {data' : Bytes} (hcorrupt : Corruption data data') :
    ∃ e, validateTcpChecksum sourceIp destinationIp data' = .err e :=
  validateTcpChecksum_changed h hcorrupt.noticeable

lemma validateTcpChecksum_corrupted_address {sourceIp' destinationIp' : Ipv4Addr}
    (hcorrupt : AddressCorruption sourceIp destinationIp sourceIp' destinationIp') :
    ∃ e, validateTcpChecksum sourceIp' destinationIp' data = .err e := by
  apply Outcome.exists_err (validateTcpChecksum_panics _ _ _)
  rintro ⟨⟩ hvalid
  exact transportChecksum_corrupted_address hcorrupt (transportChecksum_of_validate h)
    (transportChecksum_of_validate hvalid)

end Tcp

namespace Udp

lemma transportChecksum_of_validate {sourceIp destinationIp : Ipv4Addr} {data : Bytes} {datagram : UdpDatagram}
    (hparse : parseUdpDatagram data = .ok datagram) (hsent : datagram.checksum ≠ 0)
    (h : validateUdpChecksum sourceIp destinationIp data = .ok ()) :
    transportChecksum ipv4UdpProtocolNumber sourceIp destinationIp datagram.length
      (data.take datagram.length.toNat) = 0 := by
  rw [validateUdpChecksum_of_parse hparse] at h
  split_ifs at h with hzero
  exact hzero.resolve_left hsent

variable {sourceIp destinationIp : Ipv4Addr} {data : Bytes} {datagram : UdpDatagram}
  (hparse : parseUdpDatagram data = .ok datagram) (hsent : datagram.checksum ≠ 0)
  (h : validateUdpChecksum sourceIp destinationIp data = .ok ())
include hparse hsent h

/-- A changed datagram is refused, as long as it keeps its length and its checksum is not omitted. -/
lemma validateUdpChecksum_changed {bytes' : Bytes} (hcorrupt : Noticeable (data.take datagram.length.toNat) bytes')
    (hlength : wordAt bytes' 4 = wordAt data 4) (hsent' : wordAt bytes' 6 ≠ 0) :
    ∃ e, validateUdpChecksum sourceIp destinationIp (bytes' ++ data.drop datagram.length.toNat) = .err e := by
  have hzero := transportChecksum_of_validate hparse hsent h
  obtain ⟨⟨hmin, hmax⟩, rfl⟩ := parseUdpDatagram_ok_iff.1 hparse
  have hbytes : bytes'.length = (view data).length.toNat :=
    hcorrupt.length_eq.trans (List.length_take_of_le hmax)
  have hlong : 8 ≤ bytes'.length := hmin.trans_eq hbytes.symm
  apply Outcome.exists_err (validateUdpChecksum_panics _ _ _)
  rintro ⟨⟩ hvalid
  obtain ⟨datagram', hparse', -⟩ := Outcome.bind_eq_ok hvalid
  obtain ⟨-, hview⟩ := parseUdpDatagram_ok_iff.1 hparse'
  have hlength' : datagram'.length = (view data).length := by
    rw [← hview]
    show wordAt (bytes' ++ _) 4 = wordAt data 4
    rw [wordAt_append (by omega), hlength]
  have hchecksum' : datagram'.checksum ≠ 0 := by
    rw [← hview]
    show wordAt (bytes' ++ _) 6 ≠ 0
    rw [wordAt_append hlong]
    exact hsent'
  have hzero' := transportChecksum_of_validate hparse' hchecksum' hvalid
  rw [hlength', List.take_left' hbytes] at hzero'
  exact transportChecksum_corrupted hcorrupt hzero hzero'

lemma validateUdpChecksum_corrupted {bytes' : Bytes} (hcorrupt : Corruption (data.take datagram.length.toNat) bytes')
    (hlength : wordAt bytes' 4 = wordAt data 4) (hsent' : wordAt bytes' 6 ≠ 0) :
    ∃ e, validateUdpChecksum sourceIp destinationIp (bytes' ++ data.drop datagram.length.toNat) = .err e :=
  validateUdpChecksum_changed hparse hsent h hcorrupt.noticeable hlength hsent'

lemma validateUdpChecksum_corrupted_address {sourceIp' destinationIp' : Ipv4Addr}
    (hcorrupt : AddressCorruption sourceIp destinationIp sourceIp' destinationIp') :
    ∃ e, validateUdpChecksum sourceIp' destinationIp' data = .err e := by
  apply Outcome.exists_err (validateUdpChecksum_panics _ _ _)
  rintro ⟨⟩ hvalid
  exact transportChecksum_corrupted_address hcorrupt (transportChecksum_of_validate hparse hsent h)
    (transportChecksum_of_validate hparse hsent hvalid)

end Udp

/-- **A corruption of one word is always noticed**, in an IPv4 header that keeps its length, in an ICMP message, in a
TCP segment, in a UDP datagram with a checksum that keeps its length, and in the addresses of the last two. -/
theorem single_word_corruption :
    (∀ data packet, Ipv4.parseIpv4Packet data = .ok packet → ∀ header',
      Corruption (data.take (Ipv4.headerLength data)) header' →
      Ipv4.ihl (header' ++ data.drop (Ipv4.headerLength data)) = Ipv4.ihl data →
        ∃ e, Ipv4.parseIpv4Packet (header' ++ data.drop (Ipv4.headerLength data)) = .err e) ∧
    (∀ data message, Icmp.parseIcmpMessage data = .ok message → ∀ data', Corruption data data' →
        ∃ e, Icmp.parseIcmpMessage data' = .err e) ∧
    (∀ sourceIp destinationIp data, Tcp.validateTcpChecksum sourceIp destinationIp data = .ok () →
      (∀ data', Corruption data data' → ∃ e, Tcp.validateTcpChecksum sourceIp destinationIp data' = .err e) ∧
      ∀ sourceIp' destinationIp', AddressCorruption sourceIp destinationIp sourceIp' destinationIp' →
        ∃ e, Tcp.validateTcpChecksum sourceIp' destinationIp' data = .err e) ∧
    ∀ sourceIp destinationIp data datagram, Udp.parseUdpDatagram data = .ok datagram → datagram.checksum ≠ 0 →
      Udp.validateUdpChecksum sourceIp destinationIp data = .ok () →
      (∀ bytes', Corruption (data.take datagram.length.toNat) bytes' → wordAt bytes' 4 = wordAt data 4 →
        wordAt bytes' 6 ≠ 0 →
          ∃ e, Udp.validateUdpChecksum sourceIp destinationIp (bytes' ++ data.drop datagram.length.toNat) = .err e) ∧
      ∀ sourceIp' destinationIp', AddressCorruption sourceIp destinationIp sourceIp' destinationIp' →
        ∃ e, Udp.validateUdpChecksum sourceIp' destinationIp' data = .err e := by
  refine ⟨?_, ?_, ?_, ?_⟩
  · intro data packet h header' hcorrupt hihl
    exact Ipv4.parseIpv4Packet_corrupted h hcorrupt hihl
  · intro data message h data' hcorrupt
    exact Icmp.parseIcmpMessage_corrupted h hcorrupt
  · intro sourceIp destinationIp data h
    refine ⟨fun data' hcorrupt => ?_, fun sourceIp' destinationIp' hcorrupt => ?_⟩
    · exact Tcp.validateTcpChecksum_corrupted h hcorrupt
    · exact Tcp.validateTcpChecksum_corrupted_address h hcorrupt
  · intro sourceIp destinationIp data datagram hparse hsent h
    refine ⟨fun bytes' hcorrupt hlength hsent' => ?_, fun sourceIp' destinationIp' hcorrupt => ?_⟩
    · exact Udp.validateUdpChecksum_corrupted hparse hsent h hcorrupt hlength hsent'
    · exact Udp.validateUdpChecksum_corrupted_address hparse hsent h hcorrupt

end TcpIp
