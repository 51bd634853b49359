import TcpIp.Arp

/-!
# The formats of the link

`link_round_trips` — ARP packets and Ethernet frames are parsed and written back byte for byte, and what is written is
parsed back, if its type codes are those that the parser gives.
-/

namespace TcpIp

open TcpIp.Lib

namespace Arp

lemma ArpPacket.written_back {data : Bytes} {packet : ArpPacket} (hparse : ArpPacket.parse data = .ok packet)
    {output : Bytes} (hroom : 28 ≤ output.length) :
    (∃ written, packet.writeTo.run output = (.ok 28, written) ∧ written.take 28 = data.take 28) ∧
      packet.trailingBytes = data.drop 28 := by
  obtain ⟨hdata, -, -⟩ := ArpPacket.encode_of_parse hparse
  have hlength : packet.encode.length = 28 := packet.encode_length
  rw [← hdata, List.take_left' hlength, List.drop_left' hlength]
  rw [← hlength] at hroom ⊢
  exact ⟨packet.writes.written_of_le trivial hroom, rfl⟩

lemma ArpPacket.parsed_back {packet : ArpPacket} (hhardware : packet.hardwareSize = 6)
    (hprotocol : packet.protocolSize = 4) {value : UInt16} (hoperation : packet.operation = ArpOperation.fromU16 value)
    {output : Bytes} (hroom : 28 ≤ output.length) (trailing : Bytes) :
    ∃ written, packet.writeTo.run output = (.ok 28, written) ∧
      ArpPacket.parse (written.take 28 ++ trailing) = .ok { packet with trailingBytes := trailing } := by
  have hlength : packet.encode.length = 28 := packet.encode_length
  have hsame : ArpOperation.fromU16 packet.operation.asU16 = packet.operation := by
    rw [hoperation, ArpOperation.asU16_fromU16]
  have hparse := ArpPacket.parse_encode hhardware hprotocol trailing
  rw [hsame] at hparse
  rw [← hlength] at hroom ⊢
  obtain ⟨written, hrun, hwritten⟩ := packet.writes.written_of_le trivial hroom
  refine ⟨written, hrun, ?_⟩
  rw [hwritten]
  exact hparse

end Arp

lemma EthernetFrame.written_back {data output : Bytes} (hlong : 14 ≤ data.length) (hroom : data.length ≤ output.length)
    (hmachine : output.length ≤ usizeMax) : ∃ frame written, parseEthFrame data = .ok frame ∧
      frame.writeTo.run output = (.ok data.length, written) ∧ written.take data.length = data := by
  have hcut := List.take_append_drop 14 data
  have hstart : data.take 14 = (List.range 14).map (byteAt data) := take_eq_map_byteAt hlong
  rw [hstart] at hcut
  obtain ⟨frame, hparse⟩ : ∃ frame, parseEthFrame data = .ok frame := by
    rw [← hcut]
    exact ⟨_, rfl⟩
  have hencode := encode_of_parseEthFrame hparse
  have hchecked : ethernetHeaderLen + frame.payload.length ≤ usizeMax := by
    rw [length_of_parseEthFrame hparse]
    exact hroom.trans hmachine
  rw [← hencode] at hroom
  obtain ⟨written, hrun, hwritten⟩ := frame.writes.written_of_le hchecked hroom
  rw [hencode] at hrun hwritten
  exact ⟨frame, written, hparse, hrun, hwritten⟩

lemma EthernetFrame.parsed_back {frame : EthernetFrame} {value : UInt16}
    (htype : frame.etherType = EtherType.fromU16 value) {output : Bytes}
    (hroom : 14 + frame.payload.length ≤ output.length) (hmachine : output.length ≤ usizeMax) : ∃ n written,
      frame.writeTo.run output = (.ok n, written) ∧ parseEthFrame (written.take n) = .ok frame := by
  have hsame : EtherType.fromU16 frame.etherType.asU16 = frame.etherType := by
    rw [htype, EtherType.asU16_fromU16]
  have hparse := parseEthFrame_encode frame
  rw [hsame] at hparse
  obtain ⟨written, hrun, hwritten⟩ :=
    frame.writes.written_of_le (hroom.trans hmachine) (frame.encode_length.trans_le hroom)
  refine ⟨_, written, hrun, ?_⟩
  rw [hwritten]
  exact hparse

lemma parseEthFrame_withPayload {data : Bytes} {frame : EthernetFrame} (h : parseEthFrame data = .ok frame)
    (payload : Bytes) : parseEthFrame (data.take ethernetHeaderLen ++ payload) = .ok { frame with payload } := by
  have hencode := encode_of_parseEthFrame h
  have hsame := (parseEthFrame_encode frame).symm.trans ((congrArg parseEthFrame hencode).trans h)
  have htype : EtherType.fromU16 frame.etherType.asU16 = frame.etherType :=
    congrArg EthernetFrame.etherType (Outcome.ok.inj hsame)
  have hheader : data.take ethernetHeaderLen ++ payload = EthernetFrame.encode { frame with payload } := by
    have htake : frame.encode.take ethernetHeaderLen = frame.destinationMac.octets ++ frame.sourceMac.octets ++
        u16ToBeBytes frame.etherType.asU16 := List.take_left' rfl
    rw [← hencode, htake]
    rfl
  rw [hheader, parseEthFrame_encode]
  dsimp only
  rw [htype]

/-- **The formats of the link lose nothing**: ARP packets from bytes to bytes and from packet to packet, and Ethernet
frames from bytes to bytes and from frame to frame.  No buffer is longer than `usizeMax`. -/
theorem link_round_trips :
    (∀ data packet, Arp.ArpPacket.parse data = .ok packet → ∀ output : Bytes, 28 ≤ output.length →
      (∃ written, packet.writeTo.run output = (.ok 28, written) ∧ written.take 28 = data.take 28) ∧
        packet.trailingBytes = data.drop 28) ∧
    (∀ packet : Arp.ArpPacket, packet.hardwareSize = 6 → packet.protocolSize = 4 →
      (∃ value, packet.operation = Arp.ArpOperation.fromU16 value) → ∀ output : Bytes, 28 ≤ output.length → ∀ trailing,
      ∃ written, packet.writeTo.run output = (.ok 28, written) ∧
        Arp.ArpPacket.parse (written.take 28 ++ trailing) = .ok { packet with trailingBytes := trailing }) ∧
    (∀ data : Bytes, 14 ≤ data.length → ∀ output : Bytes, data.length ≤ output.length → output.length ≤ usizeMax →
      ∃ frame written, parseEthFrame data = .ok frame ∧ frame.writeTo.run output = (.ok data.length, written) ∧
        written.take data.length = data) ∧
    ∀ frame : EthernetFrame, (∃ value, frame.etherType = EtherType.fromU16 value) → ∀ output : Bytes,
      14 + frame.payload.length ≤ output.length → output.length ≤ usizeMax →
      ∃ n written, frame.writeTo.run output = (.ok n, written) ∧ parseEthFrame (written.take n) = .ok frame := by
  refine ⟨?_, ?_, ?_, ?_⟩
  · intro data packet hparse output hroom
    exact Arp.ArpPacket.written_back hparse hroom
  · rintro packet hhardware hprotocol ⟨value, hoperation⟩ output hroom trailing
    exact Arp.ArpPacket.parsed_back hhardware hprotocol hoperation hroom trailing
  · intro data hlong output hroom hmachine
    exact EthernetFrame.written_back hlong hroom hmachine
  · rintro frame ⟨value, htype⟩ output hroom hmachine
    exact EthernetFrame.parsed_back htype hroom hmachine

end TcpIp
