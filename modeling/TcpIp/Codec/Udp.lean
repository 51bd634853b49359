import TcpIp.Udp

/-!
# The format of UDP datagrams

* `datagram_round_trip` — the writer succeeds on the payloads that fit the length field and the buffer, and what it
  writes is parsed back and validated, whatever trails it;
* `withChecksum_view` — a datagram that the parser accepts is made of the fields that the parser finds;
* `udp_validator_exact` — the validation accepts an omitted checksum and what the writer writes, and no more.
-/

namespace TcpIp.Udp

open TcpIp.Lib TcpIp.Checksum TcpIp.Transport

/-- **What is written is read back and validated**, whatever trails it, and its checksum is not omitted. -/
theorem datagram_round_trip (sourceIp destinationIp : Ipv4Addr) (sourcePort destinationPort : UInt16)
    (payload output : Bytes) :
    ((∃ n, ((serialiseUdpDatagram sourceIp destinationIp sourcePort destinationPort payload).run output).1 = .ok n) ↔
      8 + payload.length ≤ 65535 ∧ 8 + payload.length ≤ output.length) ∧
    ∀ n written, (serialiseUdpDatagram sourceIp destinationIp sourcePort destinationPort payload).run output =
        (.ok n, written) → ∀ trailing,
      (∃ datagram, parseUdpDatagram (written.take n ++ trailing) = .ok datagram ∧ datagram.sourcePort = sourcePort ∧
        datagram.destinationPort = destinationPort ∧ datagram.length.toNat = n ∧ datagram.payload = payload ∧
        datagram.checksum ≠ 0) ∧
      validateUdpChecksum sourceIp destinationIp (written.take n ++ trailing) = .ok () := by
  have hwrites := writes sourceIp destinationIp sourcePort destinationPort payload
  have hheader : udpHeaderLen = 8 := rfl
  refine ⟨?_, ?_⟩
  · rw [hwrites.ok_iff, encode_length, hheader]
  · intro n written hrun trailing
    obtain ⟨h, rfl, -, rfl⟩ := hwrites.of_ok hrun
    rw [List.take_left' rfl]
    have hnonzero := transmittedChecksum_ne_zero sourceIp destinationIp sourcePort destinationPort payload
    have hvalid := (validateUdpChecksum_withChecksum_iff sourceIp destinationIp sourcePort destinationPort h _
      trailing).2 (Or.inr rfl)
    rw [encode_length, encode]
    generalize transmittedChecksum sourceIp destinationIp sourcePort destinationPort payload = c at hnonzero hvalid ⊢
    refine ⟨⟨_, parseUdpDatagram_withChecksum sourcePort destinationPort h c trailing, rfl, rfl, ?_, rfl, hnonzero⟩,
      hvalid⟩
    rw [UInt16.toNat_ofNat', Nat.mod_eq_of_lt (by omega)]

/-! ### What the validation accepts -/

section Parsed

variable {data : Bytes} {datagram : UdpDatagram} (h : parseUdpDatagram data = .ok datagram)
include h

lemma length_toNat_le : udpHeaderLen + datagram.payload.length ≤ 65535 := by
  rw [payload_length h]
  exact Nat.le_of_lt_succ datagram.length.toNat_lt

/-- **A datagram that the parser accepts is a datagram of the writer**, with some word for the checksum, and what trails
it. -/
theorem withChecksum_view :
    withChecksum datagram.sourcePort datagram.destinationPort datagram.payload datagram.checksum =
      data.take datagram.length.toNat := by
  have hlength := payload_length h
  obtain ⟨⟨hmin, hmax⟩, rfl⟩ := parseUdpDatagram_ok_iff.1 h
  have hstart : data.take 8 = headerTop (view data).sourcePort (view data).destinationPort (view data).payload ++
      u16ToBeBytes (view data).checksum := by
    have hfield : u16ToBeBytes (UInt16.ofNat (udpHeaderLen + (view data).payload.length)) =
        [byteAt data 4, byteAt data 5] := by
      rw [hlength, UInt16.ofNat_toNat]
      exact u16ToBeBytes_fromBeBytes _ _
    have hsource : u16ToBeBytes (view data).sourcePort = [byteAt data 0, byteAt data 1] := u16ToBeBytes_fromBeBytes _ _
    have hdestination : u16ToBeBytes (view data).destinationPort = [byteAt data 2, byteAt data 3] :=
      u16ToBeBytes_fromBeBytes _ _
    have hchecksum : u16ToBeBytes (view data).checksum = [byteAt data 6, byteAt data 7] := u16ToBeBytes_fromBeBytes _ _
    have hlong : 8 ≤ data.length := hmin.trans hmax
    rw [take_eq_map_byteAt hlong, headerTop, hfield, hsource, hdestination, hchecksum]
    rfl
  have htake : data.take 8 = (data.take (view data).length.toNat).take 8 := by
    have height : 8 ≤ (view data).length.toNat := hmin
    rw [List.take_take, Nat.min_eq_left height]
  rw [withChecksum, ← hstart, htake]
  exact List.take_append_drop 8 _

lemma replaceWord_checksum (c : UInt16) : replaceWord data 6 c =
    withChecksum datagram.sourcePort datagram.destinationPort datagram.payload c ++
      data.drop datagram.length.toNat := by
  have hdata : data = headerTop datagram.sourcePort datagram.destinationPort datagram.payload ++
      u16ToBeBytes datagram.checksum ++ (datagram.payload ++ data.drop datagram.length.toNat) := by
    have hwhole := List.take_append_drop datagram.length.toNat data
    rw [← withChecksum_view h, withChecksum, List.append_assoc] at hwhole
    exact hwhole.symm
  have hmid := replaceWord_mid (headerTop_length datagram.sourcePort datagram.destinationPort datagram.payload)
    datagram.checksum c (datagram.payload ++ data.drop datagram.length.toNat)
  rw [← hdata] at hmid
  rw [hmid, withChecksum, List.append_assoc _ datagram.payload]

end Parsed

/-- **The validation accepts exactly an omitted checksum and what the writer writes**; and just one checksum that is not
omitted is accepted. -/
theorem udp_validator_exact (sourceIp destinationIp : Ipv4Addr) {data : Bytes} {datagram : UdpDatagram}
    (hparse : parseUdpDatagram data = .ok datagram) :
    (validateUdpChecksum sourceIp destinationIp data = .ok () ↔ datagram.checksum = 0 ∨
      Produces (serialiseUdpDatagram sourceIp destinationIp datagram.sourcePort datagram.destinationPort
        datagram.payload) (data.take datagram.length.toNat)) ∧
    ∃! c : UInt16, c ≠ 0 ∧ validateUdpChecksum sourceIp destinationIp (replaceWord data 6 c) = .ok () := by
  have hlength := length_toNat_le hparse
  have hwrites := writes sourceIp destinationIp datagram.sourcePort datagram.destinationPort datagram.payload
  have haccepts := fun c => validateUdpChecksum_withChecksum_iff sourceIp destinationIp datagram.sourcePort
    datagram.destinationPort hlength c (data.drop datagram.length.toNat)
  have hnonzero := transmittedChecksum_ne_zero sourceIp destinationIp datagram.sourcePort datagram.destinationPort
    datagram.payload
  have hchecksum : ∀ c c', withChecksum datagram.sourcePort datagram.destinationPort datagram.payload c =
      withChecksum datagram.sourcePort datagram.destinationPort datagram.payload c' ↔ c = c' := by
    intro c c'
    constructor
    · intro hsame
      have hword := wordAt_mid (headerTop_length datagram.sourcePort datagram.destinationPort datagram.payload) c
        datagram.payload
      rw [← withChecksum, hsame, withChecksum, wordAt_mid (headerTop_length ..)] at hword
      exact hword.symm
    · rintro rfl
      rfl
  refine ⟨?_, ?_⟩
  · have hvalid := haccepts datagram.checksum
    rw [withChecksum_view hparse, List.take_append_drop] at hvalid
    rw [hvalid, hwrites.produces_iff, ← withChecksum_view hparse, encode, hchecksum, and_iff_right hlength]
  · refine ⟨_, ⟨hnonzero, ?_⟩, ?_⟩
    · rw [replaceWord_checksum hparse]
      exact (haccepts _).2 (Or.inr rfl)
    · rintro c ⟨hc, hvalid⟩
      rw [replaceWord_checksum hparse] at hvalid
      exact ((haccepts c).1 hvalid).resolve_left hc

/-- A datagram whose checksum is omitted, with a byte behind it. -/
theorem udp_validator_exact_omitted :
    let data : Bytes := [0x9c, 0x40, 0, 7, 0, 9, 0, 0, 0x68, 0xff]
    validateUdpChecksum ⟨192, 0, 2, 1⟩ ⟨198, 51, 100, 2⟩ data = .ok () ∧
      ∃! c : UInt16, c ≠ 0 ∧ validateUdpChecksum ⟨192, 0, 2, 1⟩ ⟨198, 51, 100, 2⟩ (replaceWord data 6 c) = .ok () := by
  intro data
  have hparse : parseUdpDatagram data = .ok ⟨40000, 7, 9, 0, [0x68]⟩ := by decide +kernel
  have hexact := udp_validator_exact ⟨192, 0, 2, 1⟩ ⟨198, 51, 100, 2⟩ hparse
  exact ⟨hexact.1.2 (Or.inl rfl), hexact.2⟩

end TcpIp.Udp
