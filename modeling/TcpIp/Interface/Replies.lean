import TcpIp.Interface.Parts

/-!
# The replies of the stack

What a frame that the stack sends says to a stack that parses it.

* `replyFrame`, `replyPacket`, `arpReplyFrame` are read back as they were built;
* `Answers` — when a frame is an answer to another: addressed to its sender, with a payload that the parsers and the
  checksums of the stack accept.  Every reply is an answer to the frame that provoked it (`reply_answers`);
* the echo services answer exactly the requests for them, with the payload that was sent (`echo_exact`).
-/

namespace TcpIp.Interface

open TcpIp.Lib TcpIp.Arp TcpIp.Arp.Resolver TcpIp.Icmp TcpIp.Ipv4 TcpIp.Tcp TcpIp.Tcp.Listener TcpIp.Udp

/-! ### Reading a reply back -/

namespace NetworkInterface

section ReadBack

variable {self : NetworkInterface} {ethernet : EthernetFrame} {request : Ipv4Packet} {protocol : Ipv4Protocol}
  {payload : Bytes}

lemma parse_replyFrame : parseEthFrame (self.replyFrame ethernet request protocol payload).encode =
    .ok (self.replyFrame ethernet request protocol payload) :=
  parseEthFrame_encode _

lemma parse_arpReplyFrame (reply : ArpPacket) : parseEthFrame (self.arpReplyFrame reply).encode =
    .ok (self.arpReplyFrame reply) :=
  parseEthFrame_encode _

lemma parse_replyPacket {data : Bytes} (hrequest : parseIpv4Packet data = .ok request)
    (hprotocol : Ipv4Protocol.fromU8 protocol.asU8 = protocol) (hpayload : payload.length ≤ 65515) :
    parseIpv4Packet (self.replyFrame ethernet request protocol payload).payload =
      .ok (self.replyPacket request protocol payload) := by
  have hencodable : (self.replyPacket request protocol payload).Encodable :=
    replyPacket_encodable hrequest protocol hpayload
  have hparse := Ipv4Packet.parseIpv4Packet_encode hencodable []
  have hsame : Ipv4Protocol.fromU8 (self.replyPacket request protocol payload).protocol.asU8 = protocol := hprotocol
  rw [List.append_nil, hsame] at hparse
  exact hparse

end ReadBack

lemma parse_arpReply {packet reply : ArpPacket} {mac : MacAddress} {ip : Ipv4Addr}
    (h : buildReply packet mac ip = some reply) : ArpPacket.parse reply.encode = .ok reply := by
  unfold buildReply at h
  split_ifs at h
  cases h
  refine (congrArg ArpPacket.parse (List.append_nil _).symm).trans ?_
  exact ArpPacket.parse_encode rfl rfl []

lemma parse_echoReply {data : Bytes} {ipv4 : Ipv4Packet} (hpacket : parseIpv4Packet data = .ok ipv4)
    {message : IcmpEchoMessage} (hrequest : parseIcmpMessage ipv4.payload = .ok (.echoRequest message)) :
    (IcmpMessage.echoReply message).encode.length ≤ 65515 ∧
    parseIcmpMessage (IcmpMessage.echoReply message).encode = .ok (.echoReply message) := by
  refine ⟨?_, IcmpMessage.parseIcmpMessage_encode trivial⟩
  rw [IcmpMessage.echoReply_encode_length hrequest]
  exact Ipv4.payload_length_le hpacket

lemma parse_echoDatagram {data : Bytes} {ipv4 : Ipv4Packet} (hpacket : parseIpv4Packet data = .ok ipv4)
    {request : UdpDatagram} (hrequest : parseUdpDatagram ipv4.payload = .ok request)
    (sourceIp destinationIp : Ipv4Addr) :
    (Udp.encode sourceIp destinationIp udpEchoPort request.sourcePort request.payload).length ≤ 65515 ∧
    validateUdpChecksum sourceIp destinationIp
      (Udp.encode sourceIp destinationIp udpEchoPort request.sourcePort request.payload) = .ok () ∧
    ∃ length checksum, checksum ≠ 0 ∧
      parseUdpDatagram (Udp.encode sourceIp destinationIp udpEchoPort request.sourcePort request.payload) =
        .ok ⟨udpEchoPort, request.sourcePort, length, checksum, request.payload⟩ := by
  have hpayload := Ipv4.payload_length_le hpacket
  have hlength := Udp.payload_length_le hrequest
  have hroom : udpHeaderLen + request.payload.length ≤ 65515 := by omega
  have hshort : udpHeaderLen + request.payload.length ≤ 65535 := by omega
  refine ⟨?_, validateUdpChecksum_encode _ _ _ _ hshort, _, _, transmittedChecksum_ne_zero _ _ _ _ _,
    parseUdpDatagram_encode _ _ _ _ hshort⟩
  rw [Udp.encode_length]
  exact hroom

lemma parse_synAckSegment (synAck : SynAck) (sourceIp destinationIp : Ipv4Addr) :
    ((synAckSegment synAck).encode sourceIp destinationIp).length ≤ 65515 ∧
    validateTcpChecksum sourceIp destinationIp ((synAckSegment synAck).encode sourceIp destinationIp) = .ok () ∧
    parseTcpSegment ((synAckSegment synAck).encode sourceIp destinationIp) =
      .ok ((synAckSegment synAck).received ((synAckSegment synAck).sentChecksum sourceIp destinationIp)) := by
  refine ⟨?_, TcpSegmentToSend.validateTcpChecksum_encode _ _ (synAckSegment_encodable synAck),
    TcpSegmentToSend.parseTcpSegment_encode _ _ (synAckSegment_encodable synAck)⟩
  rw [TcpSegmentToSend.encode_length, synAckSegment_segmentLen]
  decide

end NetworkInterface

/-! ### What an answer is -/

/-- The payload of `reply` answers the payload of `request`, and the checks of the stack accept it. -/
inductive TransportAnswer (request reply : Ipv4Packet) : Prop
  | echo {message : IcmpEchoMessage} (protocol : request.protocol = .icmp)
      (parse : parseIcmpMessage reply.payload = .ok (.echoReply message))
  | datagram {datagram : UdpDatagram} (protocol : request.protocol = .udp)
      (valid : validateUdpChecksum reply.source reply.destination reply.payload = .ok ())
      (parse : parseUdpDatagram reply.payload = .ok datagram) (checksum : datagram.checksum ≠ 0)
  | synAck {syn answer : TcpSegment} (protocol : request.protocol = .tcp)
      (valid : validateTcpChecksum reply.source reply.destination reply.payload = .ok ())
      (parseSyn : parseTcpSegment request.payload = .ok syn) (parse : parseTcpSegment reply.payload = .ok answer)
      (flags : answer.flags = TcpFlags.syn ||| TcpFlags.ack) (options : answer.options = [])
      (payload : answer.payload = []) (sourcePort : answer.sourcePort = syn.destinationPort)
      (destinationPort : answer.destinationPort = syn.sourcePort)

/-- The host with the address `ip` answers the packet `request` with the packet `reply`. -/
structure Ipv4Answer (ip : Ipv4Addr) (request reply : Ipv4Packet) : Prop where
  source : reply.source = ip
  destination : reply.destination = request.source
  protocol : reply.protocol = request.protocol
  dscp : reply.dscp = request.dscp
  ecn : reply.ecn = request.ecn
  options : reply.options = []
  unfragmented : reply.moreFragments = false ∧ reply.fragmentOffset = 0
  trailingBytes : reply.trailingBytes = []
  transport : TransportAnswer request reply

/-- The host with the addresses `mac` and `ip` answers the ARP packet `request` with `reply`. -/
structure ArpAnswer (mac : MacAddress) (ip : Ipv4Addr) (request reply : ArpPacket) : Prop where
  operation : request.operation = .request ∧ reply.operation = .reply
  asked : request.targetIp = ip
  sender : reply.senderMac = mac ∧ reply.senderIp = ip
  target : reply.targetMac = request.senderMac ∧ reply.targetIp = request.senderIp
  trailingBytes : reply.trailingBytes = []

/-- The host with the addresses `mac` and `ip` answers the frame `request` with the frame `reply`. -/
inductive Answers (mac : MacAddress) (ip : Ipv4Addr) (request reply : EthernetFrame) : Prop
  | ipv4 {q p : Ipv4Packet} (requestType : request.etherType = .ipv4) (replyType : reply.etherType = .ipv4)
      (source : reply.sourceMac = mac) (destination : reply.destinationMac = request.sourceMac)
      (parseRequest : parseIpv4Packet request.payload = .ok q) (parse : parseIpv4Packet reply.payload = .ok p)
      (answer : Ipv4Answer ip q p)
  | arp {q p : ArpPacket} (requestType : request.etherType = .arp) (replyType : reply.etherType = .arp)
      (source : reply.sourceMac = mac) (destination : reply.destinationMac = q.senderMac)
      (parseRequest : ArpPacket.parse request.payload = .ok q) (parse : ArpPacket.parse reply.payload = .ok p)
      (answer : ArpAnswer mac ip q p)

namespace NetworkInterface

variable {self : NetworkInterface} {input out : Bytes} {now : Instant}

lemma exists_delivery (h : ((processFrameAt input now).run self).1 = .ok (some out)) :
    ∃ delivery, Delivers self.macAddress self.ipv4Address input delivery ∧ (self.respond now delivery).1 = some out ∧
      ((processFrameAt input now).run self).2 = (self.respond now delivery).2 := by
  rcases processFrameAt_cases self input now with ⟨e, -, -, hrun⟩ | ⟨delivery, -, hdelivers, hrun⟩
  · rw [hrun] at h
    cases h
  · rw [hrun] at h ⊢
    exact ⟨delivery, hdelivers, Outcome.ok.inj h, rfl⟩

lemma replyFrame_answers {ethernet : EthernetFrame} {ipv4 : Ipv4Packet} {protocol : Ipv4Protocol} {payload : Bytes}
    (host : ForHost self.macAddress self.ipv4Address input ethernet ipv4) (hprotocol : ipv4.protocol = protocol)
    (hnumber : Ipv4Protocol.fromU8 protocol.asU8 = protocol) (hpayload : payload.length ≤ 65515)
    (htransport : TransportAnswer ipv4 (self.replyPacket ipv4 protocol payload)) :
    Answers self.macAddress self.ipv4Address ethernet (self.replyFrame ethernet ipv4 protocol payload) :=
  Answers.ipv4 host.etherType rfl rfl rfl host.packet (parse_replyPacket host.packet hnumber hpayload)
    ⟨rfl, rfl, hprotocol.symm, rfl, rfl, rfl, ⟨rfl, rfl⟩, rfl, htransport⟩

section Answer

variable {ethernet : EthernetFrame} {ipv4 : Ipv4Packet}
  (host : ForHost self.macAddress self.ipv4Address input ethernet ipv4)
include host

lemma echo_answers (hprotocol : ipv4.protocol = .icmp) {message : IcmpEchoMessage}
    (hrequest : parseIcmpMessage ipv4.payload = .ok (.echoRequest message)) :
    Answers self.macAddress self.ipv4Address ethernet
      (self.replyFrame ethernet ipv4 .icmp (IcmpMessage.echoReply message).encode) := by
  obtain ⟨hroom, hparse⟩ := parse_echoReply host.packet hrequest
  exact replyFrame_answers host hprotocol rfl hroom (TransportAnswer.echo hprotocol hparse)

lemma datagram_answers (hprotocol : ipv4.protocol = .udp) {request : UdpDatagram}
    (hrequest : parseUdpDatagram ipv4.payload = .ok request) :
    Answers self.macAddress self.ipv4Address ethernet (self.replyFrame ethernet ipv4 .udp
      (Udp.encode self.ipv4Address ipv4.source udpEchoPort request.sourcePort request.payload)) := by
  obtain ⟨hroom, hvalid, length, checksum, hchecksum, hparse⟩ :=
    parse_echoDatagram host.packet hrequest self.ipv4Address ipv4.source
  exact replyFrame_answers host hprotocol rfl hroom (TransportAnswer.datagram hprotocol hvalid hparse hchecksum)

lemma synAck_answers (hprotocol : ipv4.protocol = .tcp) {request : TcpSegment} {synAck : SynAck}
    (hrequest : parseTcpSegment ipv4.payload = .ok request)
    (haction : (self.tcpListener.step ⟨ipv4.source, request⟩).1 = .sendSynAck synAck) :
    Answers self.macAddress self.ipv4Address ethernet ((self.heard ⟨ipv4.source, request⟩).replyFrame ethernet ipv4
      .tcp ((synAckSegment synAck).encode self.ipv4Address ipv4.source)) := by
  obtain ⟨hsyn, connection, -, -, -, hreply⟩ := TcpListener.step_eq_sendSynAck_iff.1 haction
  have hsource : synAck.sourcePort = request.destinationPort := by
    rw [hreply]
    exact hsyn.1.symm
  have hdestination : synAck.destinationPort = request.sourcePort := by rw [hreply]; rfl
  obtain ⟨hroom, hvalid, hparse⟩ := parse_synAckSegment synAck self.ipv4Address ipv4.source
  have hheard : ForHost (self.heard ⟨ipv4.source, request⟩).macAddress (self.heard ⟨ipv4.source, request⟩).ipv4Address
    input ethernet ipv4 := host
  refine replyFrame_answers hheard hprotocol rfl hroom ?_
  exact TransportAnswer.synAck hprotocol hvalid hrequest hparse rfl rfl rfl hsource hdestination

end Answer

lemma arp_answers {ethernet : EthernetFrame} {packet reply : ArpPacket} (htype : ethernet.etherType = .arp)
    (hpacket : ArpPacket.parse ethernet.payload = .ok packet)
    (hreply : buildReply packet self.macAddress self.ipv4Address = some reply) :
    Answers self.macAddress self.ipv4Address ethernet (self.arpReplyFrame reply) := by
  have hparse := parse_arpReply hreply
  unfold buildReply at hreply
  split_ifs at hreply with hask
  push Not at hask
  cases hreply
  exact Answers.arp htype rfl rfl rfl hpacket hparse ⟨⟨hask.1, rfl⟩, hask.2, ⟨rfl, rfl⟩, ⟨rfl, rfl⟩, rfl⟩

/-- **Every frame that is sent answers the frame that provoked it.** -/
theorem reply_answers (h : ((processFrameAt input now).run self).1 = .ok (some out)) :
    ∃ request reply, parseEthFrame input = .ok request ∧ parseEthFrame out = .ok reply ∧
      Answers self.macAddress self.ipv4Address request reply := by
  obtain ⟨delivery, hdelivers, hrespond, -⟩ := exists_delivery h
  cases hdelivers with
  | ignored => cases hrespond
  | echo host hprotocol hrequest =>
    obtain rfl := Option.some.inj hrespond
    exact ⟨_, _, host.frame, parse_replyFrame, echo_answers host hprotocol hrequest⟩
  | datagram host hprotocol hvalid hrequest hdestination hsource =>
    obtain rfl := Option.some.inj hrespond
    exact ⟨_, _, host.frame, parse_replyFrame, datagram_answers host hprotocol hrequest⟩
  | @segment ethernet ipv4 request host hprotocol hvalid hrequest =>
    cases haction : (self.tcpListener.step ⟨ipv4.source, request⟩).1 with
    | noReply =>
      rw [respond_of_noReply haction] at hrespond
      cases hrespond
    | sendSynAck synAck =>
      rw [respond_of_sendSynAck haction] at hrespond
      obtain rfl := Option.some.inj hrespond
      exact ⟨_, _, host.frame, parse_replyFrame, synAck_answers host hprotocol hrequest haction⟩
  | arp hframe htype hmac hpacket =>
    obtain ⟨reply, hreply, rfl⟩ := Option.map_eq_some_iff.1 hrespond
    exact ⟨_, _, hframe, parse_arpReplyFrame reply, arp_answers htype hpacket hreply⟩

/-- The reply to a SYN is an answer. -/
theorem reply_answers_syn : ∃ out request reply,
    ((processFrameAt (TestFrames.tcpFrame 0xaabbccdd 0 TcpFlags.syn) 7).run TestFrames.interface).1 = .ok (some out) ∧
      parseEthFrame (TestFrames.tcpFrame 0xaabbccdd 0 TcpFlags.syn) = .ok request ∧ parseEthFrame out = .ok reply ∧
      Answers TestFrames.localMac TestFrames.localIp request reply := by
  have hreply : ((processFrameAt (TestFrames.tcpFrame 0xaabbccdd 0 TcpFlags.syn) 7).run TestFrames.interface).1 =
      .ok (some [2, 0, 0, 0, 0, 2, 2, 0, 0, 0, 0, 1, 8, 0, 69, 0, 0, 40, 0, 0, 0, 0, 64, 6, 102, 206, 10, 0, 0, 2,
        10, 0, 0, 1, 35, 40, 192, 0, 18, 52, 86, 120, 170, 187, 204, 222, 80, 18, 250, 240, 221, 111, 0, 0]) := by
    decide +kernel
  obtain ⟨request, reply, hrequest, hparse, hanswers⟩ := reply_answers hreply
  exact ⟨_, request, reply, hreply, hrequest, hparse, hanswers⟩

/-! ### The echo services -/

section Echo

variable {ethernet : EthernetFrame} {ipv4 : Ipv4Packet}
  (host : ForHost self.macAddress self.ipv4Address input ethernet ipv4)
include host

lemma processFrameAt_echo (hprotocol : ipv4.protocol = .icmp) {message : IcmpEchoMessage}
    (hrequest : parseIcmpMessage ipv4.payload = .ok (.echoRequest message)) :
    ((processFrameAt input now).run self).1 =
      .ok (some (self.replyFrame ethernet ipv4 .icmp (IcmpMessage.echoReply message).encode).encode) := by
  rw [processFrameAt_eq, demux_of_forHost host]
  unfold deliver
  rw [hprotocol, hrequest]
  rfl

lemma processFrameAt_datagram (hprotocol : ipv4.protocol = .udp) {request : UdpDatagram}
    (hvalid : validateUdpChecksum ipv4.source ipv4.destination ipv4.payload = .ok ())
    (hrequest : parseUdpDatagram ipv4.payload = .ok request) (hdestination : request.destinationPort = udpEchoPort)
    (hsource : request.sourcePort ≠ 0) :
    ((processFrameAt input now).run self).1 = .ok (some (self.replyFrame ethernet ipv4 .udp
      (Udp.encode self.ipv4Address ipv4.source udpEchoPort request.sourcePort request.payload)).encode) := by
  have hport : ¬(request.destinationPort ≠ udpEchoPort ∨ request.sourcePort = 0) := by
    push Not
    exact ⟨hdestination, hsource⟩
  rw [processFrameAt_eq, demux_of_forHost host, deliver_of_datagram hprotocol hvalid hrequest, if_neg hport]
  rfl

/-- What the host replies to: an echo request, a datagram for the echo port, or a segment. -/
lemma request_of_reply (hout : ((processFrameAt input now).run self).1 = .ok (some out)) :
    (ipv4.protocol = .icmp ∧ ∃ message, parseIcmpMessage ipv4.payload = .ok (.echoRequest message)) ∨
    (ipv4.protocol = .udp ∧ validateUdpChecksum ipv4.source ipv4.destination ipv4.payload = .ok () ∧
      ∃ request, parseUdpDatagram ipv4.payload = .ok request ∧ request.destinationPort = udpEchoPort ∧
        request.sourcePort ≠ 0) ∨
    ipv4.protocol = .tcp := by
  obtain ⟨delivery, hdelivers, hrespond, -⟩ := exists_delivery hout
  cases hdelivers with
  | ignored => cases hrespond
  | echo host' hprotocol hrequest =>
    obtain ⟨rfl, rfl⟩ := host.unique host'
    exact Or.inl ⟨hprotocol, _, hrequest⟩
  | datagram host' hprotocol hvalid hrequest hdestination hsource =>
    obtain ⟨rfl, rfl⟩ := host.unique host'
    exact Or.inr (Or.inl ⟨hprotocol, hvalid, _, hrequest, hdestination, hsource⟩)
  | segment host' hprotocol =>
    obtain ⟨rfl, rfl⟩ := host.unique host'
    exact Or.inr (Or.inr hprotocol)
  | arp hframe htype =>
    obtain rfl := Outcome.ok.inj (hframe.symm.trans host.frame)
    cases htype.symm.trans host.etherType

lemma datagram_of_reply (hprotocol : ipv4.protocol = .udp)
    (hout : ((processFrameAt input now).run self).1 = .ok (some out)) :
    validateUdpChecksum ipv4.source ipv4.destination ipv4.payload = .ok () ∧
      ∃ request, parseUdpDatagram ipv4.payload = .ok request ∧ request.destinationPort = udpEchoPort ∧
        request.sourcePort ≠ 0 := by
  rcases request_of_reply host hout with ⟨hicmp, -⟩ | ⟨-, hrequest⟩ | htcp
  · cases hicmp.symm.trans hprotocol
  · exact hrequest
  · cases htcp.symm.trans hprotocol

/-- **The echo services answer exactly the requests for them**, and send back the payload of the request. -/
theorem echo_exact :
    (ipv4.protocol = .icmp →
      ((∃ out, ((processFrameAt input now).run self).1 = .ok (some out)) ↔
        ∃ message, parseIcmpMessage ipv4.payload = .ok (.echoRequest message)) ∧
      ∀ out message, ((processFrameAt input now).run self).1 = .ok (some out) →
        parseIcmpMessage ipv4.payload = .ok (.echoRequest message) →
        ∃ frame packet, parseEthFrame out = .ok frame ∧ parseIpv4Packet frame.payload = .ok packet ∧
          packet.protocol = .icmp ∧ parseIcmpMessage packet.payload = .ok (.echoReply message)) ∧
    (ipv4.protocol = .udp →
      ((∃ out, ((processFrameAt input now).run self).1 = .ok (some out)) ↔
        validateUdpChecksum ipv4.source ipv4.destination ipv4.payload = .ok () ∧
          ∃ request, parseUdpDatagram ipv4.payload = .ok request ∧ request.destinationPort = 9000 ∧
            request.sourcePort ≠ 0) ∧
      ∀ out request, ((processFrameAt input now).run self).1 = .ok (some out) →
        parseUdpDatagram ipv4.payload = .ok request →
        ∃ frame packet datagram, parseEthFrame out = .ok frame ∧ parseIpv4Packet frame.payload = .ok packet ∧
          packet.protocol = .udp ∧ parseUdpDatagram packet.payload = .ok datagram ∧ datagram.sourcePort = 9000 ∧
          datagram.destinationPort = request.sourcePort ∧
          datagram.payload = (ipv4.payload.take request.length.toNat).drop udpHeaderLen) := by
  refine ⟨fun hprotocol => ⟨⟨?_, ?_⟩, ?_⟩, fun hprotocol => ⟨⟨?_, ?_⟩, ?_⟩⟩
  · rintro ⟨out, hout⟩
    rcases request_of_reply host hout with ⟨-, hmessage⟩ | ⟨hudp, -⟩ | htcp
    · exact hmessage
    · cases hudp.symm.trans hprotocol
    · cases htcp.symm.trans hprotocol
  · rintro ⟨message, hrequest⟩
    exact ⟨_, processFrameAt_echo host hprotocol hrequest⟩
  · intro out message hout hrequest
    obtain ⟨hroom, hparse⟩ := parse_echoReply host.packet hrequest
    rw [processFrameAt_echo host hprotocol hrequest] at hout
    obtain rfl := Option.some.inj (Outcome.ok.inj hout)
    exact ⟨_, _, parse_replyFrame, parse_replyPacket host.packet rfl hroom, rfl, hparse⟩
  · rintro ⟨out, hout⟩
    exact datagram_of_reply host hprotocol hout
  · rintro ⟨hvalid, request, hrequest, hdestination, hsource⟩
    exact ⟨_, processFrameAt_datagram host hprotocol hvalid hrequest hdestination hsource⟩
  · intro out request hout hparse
    obtain ⟨hvalid, request', hrequest, hdestination, hsource⟩ := datagram_of_reply host hprotocol hout
    obtain rfl : request' = request := Outcome.ok.inj (hrequest.symm.trans hparse)
    obtain ⟨hroom, -, length, checksum, -, hreparse⟩ :=
      parse_echoDatagram host.packet hrequest self.ipv4Address ipv4.source
    rw [processFrameAt_datagram host hprotocol hvalid hrequest hdestination hsource] at hout
    obtain rfl := Option.some.inj (Outcome.ok.inj hout)
    refine ⟨_, _, _, parse_replyFrame, parse_replyPacket host.packet rfl hroom, rfl, hreparse, rfl, rfl, ?_⟩
    obtain ⟨-, rfl⟩ := parseUdpDatagram_ok_iff.1 hrequest
    rfl

end Echo

/-- The datagram `hello` comes back. -/
theorem echo_exact_hello : ∃ out frame packet datagram,
    ((processFrameAt (TestFrames.udpEchoRequestFrame 49152) 7).run TestFrames.interface).1 = .ok (some out) ∧
      parseEthFrame out = .ok frame ∧ parseIpv4Packet frame.payload = .ok packet ∧
      parseUdpDatagram packet.payload = .ok datagram ∧ datagram.payload = [0x68, 0x65, 0x6c, 0x6c, 0x6f] := by
  have host : ForHost TestFrames.localMac TestFrames.localIp (TestFrames.udpEchoRequestFrame 49152)
      ⟨TestFrames.localMac, TestFrames.remoteMac, .ipv4, (TestFrames.udpEchoRequestFrame 49152).drop 14⟩
      ⟨0, 0, 0xabcd, 64, .udp, false, false, 0, TestFrames.remoteIp, TestFrames.localIp, [],
        (TestFrames.udpEchoRequestFrame 49152).drop 34, []⟩ :=
    ⟨by decide +kernel, rfl, rfl, by decide +kernel, rfl, rfl, rfl⟩
  obtain ⟨hiff, hpayload⟩ := (@echo_exact TestFrames.interface _ 7 _ _ host).2 rfl
  have hrequest : parseUdpDatagram ((TestFrames.udpEchoRequestFrame 49152).drop 34) =
      .ok ⟨49152, 9000, 13, 0xc4d6, [0x68, 0x65, 0x6c, 0x6c, 0x6f]⟩ := by decide +kernel
  obtain ⟨out, hout⟩ := hiff.2 ⟨by decide +kernel, _, hrequest, rfl, by decide⟩
  obtain ⟨frame, packet, datagram, hframe, hpacket, -, hdatagram, -, -, hsame⟩ := hpayload out _ hout hrequest
  exact ⟨out, frame, packet, datagram, hout, hframe, hpacket, hdatagram, hsame.trans (by decide +kernel)⟩

end NetworkInterface

end TcpIp.Interface
