import TcpIp.Ipv4

/-!
# The format of IPv4 packets

* `header_view` — the header of a packet that the parser accepts is made of the fields that the parser finds, with some
  word in the place of the checksum;
* `format_exact` — the parser accepts what the writer writes, followed by any bytes, and the same with all ones for a
  checksum of zero (`accepted_iff`); and what it parsed is written back (`written_back`).
-/

namespace TcpIp.Ipv4

open TcpIp.Lib TcpIp.Checksum

/-! ### Fields and bytes -/

lemma version_ihl_byte_ofNat : ∀ n < 256, UInt8.ofNat n >>> 4 = 4 →
    (((4 : UInt8) <<< 4) ||| (UInt8.ofNat n &&& 0x0f)) = UInt8.ofNat n := by decide +kernel

lemma dscp_ecn_byte_ofNat : ∀ n < 256,
    ((UInt8.ofNat n >>> 2) <<< 2) ||| (UInt8.ofNat n &&& 0x03) = UInt8.ofNat n := by decide +kernel

lemma version_ihl_byte {b : UInt8} (h : b >>> 4 = 4) : ((4 : UInt8) <<< 4) ||| (b &&& 0x0f) = b := by
  have hbyte := version_ihl_byte_ofNat b.toNat b.toNat_lt
  rw [UInt8.ofNat_toNat] at hbyte
  exact hbyte h

lemma dscp_ecn_byte (b : UInt8) : ((b >>> 2) <<< 2) ||| (b &&& 0x03) = b := by
  have hbyte := dscp_ecn_byte_ofNat b.toNat b.toNat_lt
  rwa [UInt8.ofNat_toNat] at hbyte

section View

variable {data : Bytes} (h : WellFormed data)
include h

lemma twenty_le_headerLength : 20 ≤ headerLength data := by
  have hihl : 5 ≤ (ihl data).toNat := UInt8.le_iff_toNat_le.1 h.five_le_ihl
  have hheader : headerLength data = (ihl data).toNat * 4 := rfl
  omega

lemma headerLength_le_length : headerLength data ≤ data.length := h.headerLength_le.trans h.totalLength_le

lemma lengths_view : (view data).headerLen = headerLength data ∧ (view data).totalLen = totalLength data := by
  have htwenty := twenty_le_headerLength h
  have hheader := headerLength_le_length h
  have htotal := h.totalLength_le
  have hle := h.headerLength_le
  have hheaderLen : (view data).headerLen = headerLength data := by
    simp only [Ipv4Packet.headerLen, view, ipv4MinHeaderLen, List.length_drop, List.length_take]
    omega
  refine ⟨hheaderLen, ?_⟩
  rw [Ipv4Packet.totalLen, hheaderLen]
  simp only [view, List.length_drop, List.length_take]
  omega

lemma encodable_view : (view data).Encodable := by
  have hparse := parseIpv4Packet_of_wellFormed h
  obtain ⟨hheaderLen, htotalLen⟩ := lengths_view h
  have hoptions : (view data).headerLen = 20 + (view data).options.length := rfl
  have hheader : headerLength data = (ihl data).toNat * 4 := rfl
  have hnibble : (ihl data).toNat ≤ 15 := by
    rw [ihl, UInt8.toNat_and]
    exact Nat.and_le_right
  have htotal : totalLength data < 65536 := UInt16.toNat_lt _
  refine ⟨by omega, by omega, dscp_le hparse, ecn_le hparse, ?_, by omega⟩
  rw [UInt16.le_iff_toNat_le]
  show (flagsAndFragmentOffset data &&& 0x1fff).toNat ≤ 8191
  rw [UInt16.toNat_and]
  exact Nat.and_le_right

lemma flagsWord_view : (view data).flagsWord = flagsAndFragmentOffset data := by
  have hlt := (flagsAndFragmentOffset data).toNat_lt
  have hreserved := h.reserved
  have hmask15 : (0x8000 : UInt16).toNat = 2 ^ 15 := rfl
  have hmask14 : (0x4000 : UInt16).toNat = 2 ^ 14 := rfl
  have hmask13 : (0x2000 : UInt16).toNat = 2 ^ 13 := rfl
  have hbit : ∀ n : ℕ, (decide ¬(n % 2 = 0)).toNat = n % 2 := by
    intro n
    rcases Nat.mod_two_eq_zero_or_one n with hn | hn <;> simp [hn]
  have hoffset : (flagsAndFragmentOffset data &&& 0x1fff).toNat = (flagsAndFragmentOffset data).toNat % 2 ^ 13 := by
    rw [UInt16.toNat_and]
    exact Nat.and_two_pow_sub_one_eq_mod _ 13
  rw [u16_and_mask_eq_zero_iff hmask15] at hreserved
  rw [← UInt16.toNat_inj, Ipv4Packet.flagsWord_toNat (encodable_view h).fragmentOffset_le]
  simp only [view, hoffset, ne_eq, u16_and_mask_eq_zero_iff hmask14, u16_and_mask_eq_zero_iff hmask13, hbit]
  omega

/-- **The header is made of its fields**, and of a word for the checksum. -/
lemma header_view : data.take (headerLength data) = (view data).header (wordAt data 10) := by
  have htwenty := twenty_le_headerLength h
  have hheader := headerLength_le_length h
  obtain ⟨hheaderLen, htotalLen⟩ := lengths_view h
  have hquarter : UInt8.ofNat ((view data).headerLen / 4) = byteAt data 0 &&& 0x0f := by
    have hnibble : (view data).headerLen / 4 = (ihl data).toNat := by
      rw [hheaderLen]
      exact Nat.mul_div_cancel _ (by omega)
    rw [hnibble, UInt8.ofNat_toNat]
    rfl
  have htop : (view data).headerTop = (List.range 10).map (byteAt data) := by
    have hlength : u16ToBeBytes (UInt16.ofNat (view data).totalLen) = [byteAt data 2, byteAt data 3] := by
      rw [htotalLen, totalLength, UInt16.ofNat_toNat, u16ToBeBytes_fromBeBytes]
    have hflags : u16ToBeBytes (view data).flagsWord = [byteAt data 6, byteAt data 7] := by
      rw [flagsWord_view h, flagsAndFragmentOffset, u16ToBeBytes_fromBeBytes]
    have hidentification : u16ToBeBytes (view data).identification = [byteAt data 4, byteAt data 5] :=
      u16ToBeBytes_fromBeBytes _ _
    have hprotocol : (view data).protocol.asU8 = byteAt data 9 := Ipv4Protocol.asU8_fromU8 _
    have hdscp : ((view data).dscp <<< 2) ||| (view data).ecn = byteAt data 1 := dscp_ecn_byte _
    rw [Ipv4Packet.headerTop, hlength, hflags, hidentification, hprotocol, hdscp, hquarter,
      version_ihl_byte h.version_eq]
    rfl
  have hstart : data.take 20 = (view data).headerTop ++ u16ToBeBytes (wordAt data 10) ++
      (view data).source.octets ++ (view data).destination.octets := by
    have hlong : 20 ≤ data.length := h.long
    rw [take_eq_map_byteAt hlong, htop, wordAt, u16ToBeBytes_fromBeBytes]
    rfl
  have hcut : data.take (headerLength data) = data.take 20 ++ (data.take (headerLength data)).drop 20 := by
    have htake : data.take 20 = (data.take (headerLength data)).take 20 := by
      rw [List.take_take, Nat.min_eq_left htwenty]
    rw [htake, List.take_append_drop]
  rw [hcut, hstart, Ipv4Packet.header, Ipv4Packet.headerBottom]
  simp only [List.append_assoc]
  rfl

/-- **A packet that the parser accepts is a packet of the writer**, with some word for the checksum, and what trails
it. -/
theorem withChecksum_view : (view data).withChecksum (wordAt data 10) ++ (view data).trailingBytes = data := by
  have hsplit : data.take (headerLength data) ++ (view data).payload = data.take (totalLength data) := by
    have htake : data.take (headerLength data) = (data.take (totalLength data)).take (headerLength data) := by
      rw [List.take_take, Nat.min_eq_left h.headerLength_le]
    rw [htake]
    exact List.take_append_drop _ _
  rw [Ipv4Packet.withChecksum, ← header_view h, hsplit]
  exact List.take_append_drop (totalLength data) data

lemma wordAt_view : wordAt data 10 = internetChecksum ((view data).header 0) ∨
    (internetChecksum ((view data).header 0) = 0 ∧ wordAt data 10 = 0xffff) := by
  have hchecksum := h.checksum_eq
  rw [header_view h, Ipv4Packet.header] at hchecksum
  exact (internetChecksum_stored_iff (by rw [Ipv4Packet.headerTop_length]) _ _).1 hchecksum

end View

/-- **Another payload of the same length** behind the same header. -/
theorem parseIpv4Packet_withPayload {data : Bytes} {packet : Ipv4Packet} (h : parseIpv4Packet data = .ok packet)
    {payload : Bytes} (hlength : payload.length = packet.payload.length) :
    parseIpv4Packet (data.take packet.headerLen ++ payload ++ packet.trailingBytes) = .ok { packet with payload } := by
  obtain ⟨hwf, rfl⟩ := parseIpv4Packet_ok_iff.1 h
  have hchecksum := hwf.checksum_eq
  have hencodable := encodable_view hwf
  have hprotocol : Ipv4Protocol.fromU8 (view data).protocol.asU8 = (view data).protocol :=
    congrArg Ipv4Protocol.fromU8 (Ipv4Protocol.asU8_fromU8 _)
  rw [(lengths_view hwf).1, header_view hwf]
  rw [header_view hwf] at hchecksum
  generalize view data = packet at hchecksum hencodable hprotocol hlength ⊢
  -- the header depends on the payload through its length
  have htotalLen : Ipv4Packet.totalLen { packet with payload } = packet.totalLen :=
    congrArg (packet.headerLen + ·) hlength
  have hheader : Ipv4Packet.header { packet with payload } (wordAt data 10) = packet.header (wordAt data 10) := by
    unfold Ipv4Packet.header Ipv4Packet.headerTop
    rw [htotalLen]
    rfl
  have hencodable' : Ipv4Packet.Encodable { packet with payload } :=
    ⟨hencodable.options_le, hencodable.options_mod, hencodable.dscp_le, hencodable.ecn_le,
      hencodable.fragmentOffset_le, htotalLen.trans_le hencodable.payload_le⟩
  rw [← hheader] at hchecksum ⊢
  refine (parseIpv4Packet_of_wellFormed (Ipv4Packet.wellFormed_withChecksum hencodable' _ packet.trailingBytes
    hchecksum)).trans (congrArg Outcome.ok ((Ipv4Packet.view_withChecksum hencodable' _ _).trans ?_))
  dsimp only
  rw [hprotocol]

namespace Ipv4Packet

variable (packet : Ipv4Packet)

lemma withChecksum_eq (c : UInt16) : packet.withChecksum c =
    packet.headerTop ++ u16ToBeBytes c ++ (packet.headerBottom ++ packet.payload) := by
  rw [withChecksum, header, List.append_assoc]

lemma wordAt_encode : wordAt packet.encode 10 = internetChecksum (packet.header 0) := by
  have hencode : packet.encode = packet.withChecksum (internetChecksum (packet.header 0)) := rfl
  rw [hencode, withChecksum_eq, wordAt_mid packet.headerTop_length]

lemma checksum_ne_ones : internetChecksum (packet.header 0) ≠ 0xffff := by
  have hheader : ∃ low rest, packet.header 0 = (((4 : UInt8) <<< 4) ||| low) :: rest := ⟨_, _, rfl⟩
  obtain ⟨low, rest, hheader⟩ := hheader
  have hbyte : 64 ≤ (((4 : UInt8) <<< 4) ||| low).toNat := by
    rw [UInt8.toNat_or]
    exact Nat.left_le_or
  refine internetChecksum_ne_ones ?_
  rw [hheader]
  cases rest with
  | nil => rw [wordSum]; omega
  | cons b rest => rw [wordSum, u16FromBeBytes_toNat]; omega

lemma wellFormed_of_upToZero {packet : Ipv4Packet} (hencodable : packet.Encodable) {bytes : Bytes}
    (hzero : UpToZero 10 packet.encode bytes) (trailing : Bytes) : WellFormed (bytes ++ trailing) := by
  have heven : packet.headerTop.length % 2 = 0 := by rw [headerTop_length]
  have hencode : packet.encode = packet.withChecksum (internetChecksum (packet.header 0)) := rfl
  have hstored := internetChecksum_stored_iff heven packet.headerBottom
  rcases hzero with rfl | ⟨hword, rfl⟩
  · rw [hencode]
    exact wellFormed_withChecksum hencodable _ trailing ((hstored _).2 (Or.inl rfl))
  · rw [hencode, withChecksum_eq, wordAt_mid packet.headerTop_length] at hword
    rw [hencode, withChecksum_eq, replaceWord_mid packet.headerTop_length, ← withChecksum_eq]
    exact wellFormed_withChecksum hencodable _ trailing ((hstored _).2 (Or.inr ⟨hword, rfl⟩))

end Ipv4Packet

lemma upToZero_view {data : Bytes} (h : WellFormed data) :
    UpToZero 10 (view data).encode ((view data).withChecksum (wordAt data 10)) := by
  have hencode : (view data).encode = (view data).withChecksum (internetChecksum ((view data).header 0)) := rfl
  rw [hencode, Ipv4Packet.withChecksum_eq, Ipv4Packet.withChecksum_eq, upToZero_mid_iff (view data).headerTop_length]
  exact wordAt_view h

/-- The parser accepts what the writer writes, followed by any bytes, and the same with all ones for a checksum of
zero. -/
lemma accepted_iff (data : Bytes) : (∃ packet, parseIpv4Packet data = .ok packet) ↔
    ∃ packet written bytes trailing, Produces (Ipv4Packet.writeTo packet) written ∧ UpToZero 10 written bytes ∧
      data = bytes ++ trailing := by
  constructor
  · rintro ⟨packet, hparse⟩
    obtain ⟨h, rfl⟩ := parseIpv4Packet_ok_iff.1 hparse
    exact ⟨view data, (view data).encode, _, _, (Ipv4Packet.writes _).produces_iff.2 ⟨encodable_view h, rfl⟩,
      upToZero_view h, (withChecksum_view h).symm⟩
  · rintro ⟨packet, written, bytes, trailing, hproduces, hzero, rfl⟩
    obtain ⟨hencodable, rfl⟩ := (Ipv4Packet.writes packet).produces_iff.1 hproduces
    exact ⟨_, parseIpv4Packet_of_wellFormed (Ipv4Packet.wellFormed_of_upToZero hencodable hzero trailing)⟩

/-- What was parsed is written back as it was, but for all ones in the place of the checksum, which become zero. -/
lemma written_back {data : Bytes} {packet : Ipv4Packet} (hparse : parseIpv4Packet data = .ok packet)
    (output : Bytes) (hroom : data.length - packet.trailingBytes.length ≤ output.length) :
    ∃ written, packet.writeTo.run output = (.ok (data.length - packet.trailingBytes.length), written) ∧
      written.take (data.length - packet.trailingBytes.length) =
        zeroForOnes 10 (data.take (data.length - packet.trailingBytes.length)) := by
  obtain ⟨h, rfl⟩ := parseIpv4Packet_ok_iff.1 hparse
  have hdata := withChecksum_view h
  have hzero : zeroForOnes 10 ((view data).withChecksum (wordAt data 10)) = (view data).encode := by
    apply (upToZero_view h).zeroForOnes_eq
    · have htotalLen : (view data).totalLen = 20 + (view data).options.length + (view data).payload.length := rfl
      rw [Ipv4Packet.encode_length]
      omega
    · rw [Ipv4Packet.wordAt_encode]
      exact (view data).checksum_ne_ones
  have hencodable := encodable_view h
  generalize view data = packet at hdata hzero hencodable hroom ⊢
  generalize wordAt data 10 = c at hdata hzero
  have hlength : data.length - packet.trailingBytes.length = packet.encode.length := by
    rw [← hdata, List.length_append, Ipv4Packet.withChecksum_length, Ipv4Packet.encode_length, Nat.add_sub_cancel]
  have hfront : data.take packet.encode.length = packet.withChecksum c := by
    rw [← hdata, Ipv4Packet.encode_length, List.take_left' (packet.withChecksum_length c)]
  rw [hlength] at hroom ⊢
  rw [hfront, hzero]
  exact packet.writes.written_of_le hencodable hroom

/-- **The format of the parser is that of the writer.**  The parser accepts exactly what the writer writes, up to the
zero in the place of the checksum and with any bytes behind it; and what it parsed is written back as it was, but for
that zero. -/
theorem format_exact (data : Bytes) :
    ((∃ packet, parseIpv4Packet data = .ok packet) ↔
      ∃ packet written bytes trailing, Produces (Ipv4Packet.writeTo packet) written ∧ UpToZero 10 written bytes ∧
        data = bytes ++ trailing) ∧
    ∀ packet, parseIpv4Packet data = .ok packet →
      let n := data.length - packet.trailingBytes.length
      ∀ output : Bytes, n ≤ output.length → ∃ written, packet.writeTo.run output = (.ok n, written) ∧
        written.take n = zeroForOnes 10 (data.take n) :=
  ⟨accepted_iff data, fun _ hparse output hroom => written_back hparse output hroom⟩

end TcpIp.Ipv4
