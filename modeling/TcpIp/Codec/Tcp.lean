import TcpIp.Tcp

/-!
# The format of TCP segments

* `segment_round_trip` — the writer succeeds on the segments that fit the data offset, the length field and the
  buffer, and what it writes is validated and parsed back;
* `TcpSegment.toSend` — the fields of a segment that was parsed, to be sent again;
* `validator_exact` — with the reserved bits at zero, the validation accepts what the writer writes, and the same with
  all ones for a checksum of zero.
-/

namespace TcpIp.Tcp

open TcpIp.Lib TcpIp.Checksum TcpIp.Transport

/-- **What is written is validated and read back.** -/
theorem segment_round_trip (segment : TcpSegmentToSend) (sourceIp destinationIp : Ipv4Addr) (output : Bytes) :
    ((∃ n, ((segment.writeTo sourceIp destinationIp).run output).1 = .ok n) ↔
      segment.options.length % 4 = 0 ∧ segment.options.length ≤ 40 ∧
      20 + segment.options.length + segment.payload.length ≤ 65535 ∧
      20 + segment.options.length + segment.payload.length ≤ output.length) ∧
    ∀ n written, (segment.writeTo sourceIp destinationIp).run output = (.ok n, written) →
      validateTcpChecksum sourceIp destinationIp (written.take n) = .ok () ∧
      ∃ dataOffset checksum, dataOffset.toNat = (20 + segment.options.length) / 4 ∧
        parseTcpSegment (written.take n) = .ok {
          sourcePort := segment.sourcePort
          destinationPort := segment.destinationPort
          sequenceNumber := segment.sequenceNumber
          acknowledgementNumber := segment.acknowledgementNumber
          dataOffset := dataOffset
          reserved := 0
          flags := segment.flags
          windowSize := segment.windowSize
          checksum := checksum
          urgentPointer := segment.urgentPointer
          options := segment.options
          payload := segment.payload } := by
  have hwrites := TcpSegmentToSend.writes segment sourceIp destinationIp
  have hsegmentLen : segment.segmentLen = 20 + segment.options.length + segment.payload.length := rfl
  have hheaderLen : segment.headerLen = 20 + segment.options.length := rfl
  refine ⟨?_, ?_⟩
  · rw [hwrites.ok_iff, TcpSegmentToSend.encode_length]
    constructor
    · rintro ⟨⟨hoptions, hmod, hlength⟩, hroom⟩
      exact ⟨hmod, hoptions, hsegmentLen ▸ hlength, hsegmentLen ▸ hroom⟩
    · rintro ⟨hmod, hoptions, hlength, hroom⟩
      exact ⟨⟨hoptions, hmod, hsegmentLen ▸ hlength⟩, hsegmentLen ▸ hroom⟩
  · intro n written hrun
    obtain ⟨h, rfl, -, rfl⟩ := hwrites.of_ok hrun
    have hoptions := h.options_le
    rw [List.take_left' rfl]
    refine ⟨TcpSegmentToSend.validateTcpChecksum_encode sourceIp destinationIp h, UInt8.ofNat (segment.headerLen / 4),
      segment.sentChecksum sourceIp destinationIp, ?_, TcpSegmentToSend.parseTcpSegment_encode sourceIp destinationIp h⟩
    rw [UInt8.toNat_ofNat', Nat.mod_eq_of_lt (by omega), hheaderLen]

/-! ### Segments that are sent again -/

/-- The segment with the fields that were parsed. -/
def TcpSegment.toSend (segment : TcpSegment) : TcpSegmentToSend where
  sourcePort := segment.sourcePort
  destinationPort := segment.destinationPort
  sequenceNumber := segment.sequenceNumber
  acknowledgementNumber := segment.acknowledgementNumber
  flags := segment.flags
  windowSize := segment.windowSize
  urgentPointer := segment.urgentPointer
  options := segment.options
  payload := segment.payload

lemma data_offset_byte_ofNat : ∀ n < 256, UInt8.ofNat n &&& 0x0f = 0 →
    (UInt8.ofNat n >>> 4) <<< 4 = UInt8.ofNat n := by decide +kernel

lemma data_offset_byte {b : UInt8} (h : b &&& 0x0f = 0) : (b >>> 4) <<< 4 = b := by
  have hbyte := data_offset_byte_ofNat b.toNat b.toNat_lt
  rw [UInt8.ofNat_toNat] at hbyte
  exact hbyte h

section Parsed

variable {data : Bytes} {segment : TcpSegment} (h : parseTcpSegment data = .ok segment)
include h

lemma lengths_toSend : segment.toSend.headerLen = segment.dataOffset.toNat * 4 ∧
    segment.toSend.segmentLen = data.length := by
  obtain ⟨hlong, htwenty, hheader, rfl⟩ := of_parse h
  have hheaderLen : (view data).toSend.headerLen = (view data).dataOffset.toNat * 4 := by
    have hoptions : (view data).options.length = (view data).dataOffset.toNat * 4 - 20 := by
      have hlength : (view data).options.length = min ((view data).dataOffset.toNat * 4) data.length - 20 := by
        simp [view, tcpMinHeaderLen]
      rw [hlength, Nat.min_eq_left hheader]
    have hlen : (view data).toSend.headerLen = 20 + (view data).options.length := rfl
    omega
  refine ⟨hheaderLen, ?_⟩
  have hpayload : (view data).payload.length = data.length - (view data).dataOffset.toNat * 4 := List.length_drop
  have hlen : (view data).toSend.segmentLen = (view data).toSend.headerLen + (view data).payload.length := rfl
  omega

lemma encodable_toSend (hlength : data.length ≤ 65535) : segment.toSend.Encodable := by
  obtain ⟨hheaderLen, hsegmentLen⟩ := lengths_toSend h
  obtain ⟨-, -, -, rfl⟩ := of_parse h
  have hlen : (view data).toSend.headerLen = 20 + (view data).toSend.options.length := rfl
  have hnibble : (view data).dataOffset.toNat ≤ 15 := by
    have hb := (byteAt data 12).toNat_lt
    have hshift : (view data).dataOffset.toNat = (byteAt data 12).toNat / 2 ^ 4 := by
      show (byteAt data 12 >>> 4).toNat = _
      rw [UInt8.toNat_shiftRight]
      exact Nat.shiftRight_eq_div_pow _ 4
    omega
  exact ⟨by omega, by omega, by omega⟩

/-- **A segment that the parser accepts is a segment of the writer**, with some word for the checksum, unless it has
reserved bits. -/
theorem withChecksum_toSend (hreserved : byteAt data 12 &&& 0x0f = 0) :
    segment.toSend.withChecksum segment.checksum = data := by
  obtain ⟨hheaderLen, -⟩ := lengths_toSend h
  obtain ⟨hlong, htwenty, hheader, rfl⟩ := of_parse h
  have htop : (view data).toSend.top = (List.range 16).map (byteAt data) := by
    have hoffset : UInt8.ofNat ((view data).toSend.headerLen / 4) <<< 4 = byteAt data 12 := by
      rw [hheaderLen, Nat.mul_div_cancel _ (by omega), UInt8.ofNat_toNat]
      exact data_offset_byte hreserved
    have hsource : u16ToBeBytes (view data).toSend.sourcePort = [byteAt data 0, byteAt data 1] :=
      u16ToBeBytes_fromBeBytes _ _
    have hdestination : u16ToBeBytes (view data).toSend.destinationPort = [byteAt data 2, byteAt data 3] :=
      u16ToBeBytes_fromBeBytes _ _
    have hsequence : u32ToBeBytes (view data).toSend.sequenceNumber =
        [byteAt data 4, byteAt data 5, byteAt data 6, byteAt data 7] := u32ToBeBytes_fromBeBytes _ _ _ _
    have hacknowledgement : u32ToBeBytes (view data).toSend.acknowledgementNumber =
        [byteAt data 8, byteAt data 9, byteAt data 10, byteAt data 11] := u32ToBeBytes_fromBeBytes _ _ _ _
    have hwindow : u16ToBeBytes (view data).toSend.windowSize = [byteAt data 14, byteAt data 15] :=
      u16ToBeBytes_fromBeBytes _ _
    rw [TcpSegmentToSend.top, hoffset, hsource, hdestination, hsequence, hacknowledgement, hwindow]
    rfl
  have hstart : data.take 20 = (view data).toSend.top ++ u16ToBeBytes (view data).checksum ++
      u16ToBeBytes (view data).urgentPointer := by
    have hchecksum : u16ToBeBytes (view data).checksum = [byteAt data 16, byteAt data 17] :=
      u16ToBeBytes_fromBeBytes _ _
    have hurgent : u16ToBeBytes (view data).urgentPointer = [byteAt data 18, byteAt data 19] :=
      u16ToBeBytes_fromBeBytes _ _
    rw [take_eq_map_byteAt hlong, htop, hchecksum, hurgent]
    rfl
  have hcut : data.take ((view data).dataOffset.toNat * 4) = data.take 20 ++ (view data).options := by
    have htake : data.take 20 = (data.take ((view data).dataOffset.toNat * 4)).take 20 := by
      rw [List.take_take, Nat.min_eq_left htwenty]
    rw [htake]
    exact (List.take_append_drop 20 _).symm
  have hdata : data.take ((view data).dataOffset.toNat * 4) ++ (view data).payload = data := List.take_append_drop _ _
  rw [hcut, hstart] at hdata
  simp only [List.append_assoc] at hdata
  simp only [TcpSegmentToSend.withChecksum, TcpSegmentToSend.bottom, List.append_assoc]
  exact hdata

end Parsed

/-! ### What the validation accepts -/

section Exact

variable (sourceIp destinationIp : Ipv4Addr) {data : Bytes}

lemma produces_of_validate {segment : TcpSegment} (hparse : parseTcpSegment data = .ok segment)
    (hreserved : byteAt data 12 &&& 0x0f = 0) (hvalid : validateTcpChecksum sourceIp destinationIp data = .ok ()) :
    Produces (segment.toSend.writeTo sourceIp destinationIp) (zeroForOnes 16 data) ∧
      UpToZero 16 (zeroForOnes 16 data) data := by
  have hlength : data.length ≤ 65535 := by
    rw [validateTcpChecksum_of_parse hparse] at hvalid
    split_ifs at hvalid with hlong
    exact Nat.le_of_not_lt hlong
  have hencodable := encodable_toSend hparse hlength
  have hdata := withChecksum_toSend hparse hreserved
  have hones : segment.toSend.sentChecksum sourceIp destinationIp ≠ 0xffff := transportChecksum_ne_ones (by decide) _
  generalize segment.checksum = c at hdata
  subst hdata
  rw [TcpSegmentToSend.validateTcpChecksum_withChecksum_iff _ _ hencodable] at hvalid
  have hupToZero : UpToZero 16 (segment.toSend.encode sourceIp destinationIp) (segment.toSend.withChecksum c) :=
    (upToZero_mid_iff segment.toSend.top_length _ _ _).2 hvalid
  have hzero : zeroForOnes 16 (segment.toSend.withChecksum c) = segment.toSend.encode sourceIp destinationIp := by
    apply hupToZero.zeroForOnes_eq
    · have hsegmentLen : segment.toSend.segmentLen =
          20 + segment.toSend.options.length + segment.toSend.payload.length := rfl
      rw [TcpSegmentToSend.encode_length]
      omega
    · rw [TcpSegmentToSend.encode, TcpSegmentToSend.withChecksum, wordAt_mid segment.toSend.top_length]
      exact hones
  rw [hzero]
  exact ⟨(TcpSegmentToSend.writes _ _ _).produces_iff.2 ⟨hencodable, rfl⟩, hupToZero⟩

lemma validate_of_produces {segment : TcpSegmentToSend} {written : Bytes}
    (hproduces : Produces (segment.writeTo sourceIp destinationIp) written) (hzero : UpToZero 16 written data) :
    validateTcpChecksum sourceIp destinationIp data = .ok () ∧
      ∃ parsed, parseTcpSegment data = .ok parsed ∧ parsed.toSend = segment := by
  obtain ⟨h, rfl⟩ := (TcpSegmentToSend.writes segment sourceIp destinationIp).produces_iff.1 hproduces
  obtain ⟨c, rfl, hc⟩ : ∃ c, data = segment.withChecksum c ∧ (c = segment.sentChecksum sourceIp destinationIp ∨
      (segment.sentChecksum sourceIp destinationIp = 0 ∧ c = 0xffff)) := by
    rcases hzero with rfl | ⟨hword, rfl⟩
    · exact ⟨_, rfl, Or.inl rfl⟩
    · rw [TcpSegmentToSend.encode, TcpSegmentToSend.withChecksum, wordAt_mid segment.top_length] at hword
      rw [TcpSegmentToSend.encode, TcpSegmentToSend.withChecksum, replaceWord_mid segment.top_length]
      exact ⟨0xffff, rfl, Or.inr ⟨hword, rfl⟩⟩
  exact ⟨(TcpSegmentToSend.validateTcpChecksum_withChecksum_iff sourceIp destinationIp h c).2 hc, _,
    TcpSegmentToSend.parseTcpSegment_withChecksum h c, rfl⟩

end Exact

/-- **The validation accepts exactly what the writer writes**, up to the zero in the place of the checksum; and then the
segment is the one that is parsed, and is written back as it was, but for that zero. -/
theorem validator_exact (sourceIp destinationIp : Ipv4Addr) {data : Bytes}
    (hreserved : byteAt data 12 &&& 0x0f = 0) :
    (validateTcpChecksum sourceIp destinationIp data = .ok () ↔
      ∃ segment written, Produces (TcpSegmentToSend.writeTo segment sourceIp destinationIp) written ∧
        UpToZero 16 written data) ∧
    (∀ segment written, Produces (TcpSegmentToSend.writeTo segment sourceIp destinationIp) written →
      UpToZero 16 written data → ∃ parsed, parseTcpSegment data = .ok parsed ∧ parsed.toSend = segment) ∧
    ∀ parsed, validateTcpChecksum sourceIp destinationIp data = .ok () → parseTcpSegment data = .ok parsed →
      Produces (parsed.toSend.writeTo sourceIp destinationIp) (zeroForOnes 16 data) := by
  refine ⟨⟨?_, ?_⟩, ?_, ?_⟩
  · intro hvalid
    obtain ⟨parsed, hparse, -⟩ := Outcome.bind_eq_ok hvalid
    obtain ⟨hproduces, hzero⟩ := produces_of_validate sourceIp destinationIp hparse hreserved hvalid
    exact ⟨_, _, hproduces, hzero⟩
  · rintro ⟨segment, written, hproduces, hzero⟩
    exact (validate_of_produces sourceIp destinationIp hproduces hzero).1
  · intro segment written hproduces hzero
    exact (validate_of_produces sourceIp destinationIp hproduces hzero).2
  · intro parsed hvalid hparse
    exact (produces_of_validate sourceIp destinationIp hparse hreserved hvalid).1

/-- A SYN is validated, and written back as it was. -/
theorem validator_exact_syn :
    let syn : TcpSegmentToSend := ⟨40000, 7, 0x01020304, 0, TcpFlags.syn, 1024, 0, [], []⟩
    let data := syn.encode ⟨192, 0, 2, 1⟩ ⟨198, 51, 100, 2⟩
    validateTcpChecksum ⟨192, 0, 2, 1⟩ ⟨198, 51, 100, 2⟩ data = .ok () ∧
      Produces (syn.writeTo ⟨192, 0, 2, 1⟩ ⟨198, 51, 100, 2⟩) (zeroForOnes 16 data) := by
  intro syn data
  have hencodable : syn.Encodable := ⟨by decide, by decide, by decide⟩
  have hexact := validator_exact ⟨192, 0, 2, 1⟩ ⟨198, 51, 100, 2⟩ (by decide +kernel : byteAt data 12 &&& 0x0f = 0)
  have hvalid := TcpSegmentToSend.validateTcpChecksum_encode ⟨192, 0, 2, 1⟩ ⟨198, 51, 100, 2⟩ hencodable
  exact ⟨hvalid, hexact.2.2 _ hvalid (TcpSegmentToSend.parseTcpSegment_encode _ _ hencodable)⟩

end TcpIp.Tcp
