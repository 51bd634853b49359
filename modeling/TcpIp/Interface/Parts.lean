import TcpIp.Interface.Demux

/-!
# The parts of an answer

* `Reply`, `replyTo` — what is sent: nothing, an IPv4 packet or an ARP packet.  It depends on the addresses and the
  listener alone, and the payload of an IPv4 packet is not longer than the one that it answers;
* `changed` — an IPv4 packet uses up an identification, a segment is for the listener, an ARP packet is for the
  resolver.

The answer to a delivery is these parts put together (`respond_eq`).
-/

namespace TcpIp.Interface

open TcpIp.Lib TcpIp.Arp TcpIp.Arp.Cache TcpIp.Arp.Resolver TcpIp.Icmp TcpIp.Ipv4 TcpIp.Tcp TcpIp.Tcp.Listener
  TcpIp.Udp

/-- What a host sends back. -/
inductive Reply where
  | nothing
  | ipv4 (ethernet : EthernetFrame) (request : Ipv4Packet) (protocol : Ipv4Protocol) (payload : Bytes)
  | arp (packet : ArpPacket)

/-- The number of identifications that a reply uses up. -/
def Reply.identifications : Reply → UInt16
  | .ipv4 _ _ _ _ => 1
  | .nothing | .arp _ => 0

/-- The listener after a delivery. -/
def Delivery.hear (listener : TcpListener) : Delivery → TcpListener
  | .segment _ ipv4 request => (listener.step ⟨ipv4.source, request⟩).2
  | .ignored | .echo _ _ _ | .datagram _ _ _ | .arp _ _ => listener

/-- The resolver after a delivery. -/
def Delivery.observe (resolver : ArpResolver) (now : Instant) : Delivery → ArpResolver
  | .arp _ packet => resolver.observed packet now
  | .ignored | .echo _ _ _ | .datagram _ _ _ | .segment _ _ _ => resolver

namespace NetworkInterface

section Parts

variable (self : NetworkInterface)

def replyTo : Delivery → Reply
  | .ignored => .nothing
  | .echo ethernet ipv4 message => .ipv4 ethernet ipv4 .icmp (IcmpMessage.echoReply message).encode
  | .datagram ethernet ipv4 request =>
    .ipv4 ethernet ipv4 .udp
      (Udp.encode self.ipv4Address ipv4.source udpEchoPort request.sourcePort request.payload)
  | .segment ethernet ipv4 request =>
    match (self.tcpListener.step ⟨ipv4.source, request⟩).1 with
    | .sendSynAck synAck => .ipv4 ethernet ipv4 .tcp ((synAckSegment synAck).encode self.ipv4Address ipv4.source)
    | .noReply => .nothing
  | .arp _ packet =>
    match buildReply packet self.macAddress self.ipv4Address with
    | some reply => .arp reply
    | none => .nothing

/-- The frame in which a reply is sent. -/
def frameOf : Reply → Option EthernetFrame
  | .nothing => none
  | .ipv4 ethernet request protocol payload => some (self.replyFrame ethernet request protocol payload)
  | .arp packet => some (self.arpReplyFrame packet)

/-- The interface after a delivery. -/
def changed (now : Instant) (delivery : Delivery) : NetworkInterface := { self with
  nextIpv4Identification := self.nextIpv4Identification + (self.replyTo delivery).identifications
  arpResolver := delivery.observe self.arpResolver now
  tcpListener := delivery.hear self.tcpListener }

/-- **The answer is its parts put together.** -/
theorem respond_eq (now : Instant) (delivery : Delivery) : self.respond now delivery =
    ((self.frameOf (self.replyTo delivery)).map EthernetFrame.encode, self.changed now delivery) := by
  have hnone : self.nextIpv4Identification + Reply.nothing.identifications = self.nextIpv4Identification :=
    UInt16.add_zero _
  cases delivery with
  | ignored =>
    unfold changed
    rw [replyTo, hnone]
    rfl
  | echo ethernet ipv4 message => rfl
  | datagram ethernet ipv4 request => rfl
  | segment ethernet ipv4 request =>
    unfold changed
    cases haction : (self.tcpListener.step ⟨ipv4.source, request⟩).1 with
    | noReply =>
      rw [respond_of_noReply haction, replyTo, haction]
      dsimp only
      rw [hnone]
      rfl
    | sendSynAck synAck =>
      rw [respond_of_sendSynAck haction, replyTo, haction]
      rfl
  | arp ethernet packet =>
    unfold changed
    have harp : ∀ reply, self.nextIpv4Identification + (Reply.arp reply).identifications =
        self.nextIpv4Identification := fun reply => UInt16.add_zero _
    cases hreply : buildReply packet self.macAddress self.ipv4Address with
    | none =>
      rw [respond, replyTo, hreply]
      dsimp only
      rw [hnone]
      rfl
    | some reply =>
      rw [respond, replyTo, hreply]
      dsimp only
      rw [harp]
      rfl

end Parts

lemma processFrameAt_parts (self : NetworkInterface) (input : Bytes) (now : Instant) :
    (∃ e, demux self.macAddress self.ipv4Address input = .err e ∧
      (processFrameAt input now).run self = (.err e, self)) ∨
    ∃ delivery, demux self.macAddress self.ipv4Address input = .ok delivery ∧
      Delivers self.macAddress self.ipv4Address input delivery ∧ (processFrameAt input now).run self =
        (.ok ((self.frameOf (self.replyTo delivery)).map EthernetFrame.encode), self.changed now delivery) := by
  rcases processFrameAt_cases self input now with ⟨e, hdemux, -, hrun⟩ | ⟨delivery, hdemux, hdelivers, hrun⟩
  · exact Or.inl ⟨e, hdemux, hrun⟩
  · rw [respond_eq] at hrun
    exact Or.inr ⟨delivery, hdemux, hdelivers, hrun⟩

lemma processFrameAt_addresses (self : NetworkInterface) (input : Bytes) (now : Instant) :
    ((processFrameAt input now).run self).2.macAddress = self.macAddress ∧
    ((processFrameAt input now).run self).2.ipv4Address = self.ipv4Address := by
  rcases processFrameAt_parts self input now with ⟨e, -, hrun⟩ | ⟨delivery, -, -, hrun⟩
  · rw [hrun]
    exact ⟨rfl, rfl⟩
  · rw [hrun]
    exact ⟨rfl, rfl⟩

section Sent

variable {self : NetworkInterface} {input : Bytes} {delivery : Delivery}
  (h : Delivers self.macAddress self.ipv4Address input delivery)
include h

lemma replyTo_ipv4 {ethernet : EthernetFrame} {request : Ipv4Packet} {protocol : Ipv4Protocol} {payload : Bytes}
    (hreply : self.replyTo delivery = .ipv4 ethernet request protocol payload) :
    ForHost self.macAddress self.ipv4Address input ethernet request ∧
      Ipv4Protocol.fromU8 protocol.asU8 = protocol ∧ payload.length ≤ request.payload.length := by
  cases h with
  | ignored => cases hreply
  | echo host hprotocol hrequest =>
    cases hreply
    exact ⟨host, rfl, (IcmpMessage.echoReply_encode_length hrequest).le⟩
  | datagram host hprotocol hvalid hrequest hdestination hsource =>
    cases hreply
    refine ⟨host, rfl, ?_⟩
    rw [Udp.encode_length]
    exact Udp.payload_length_le hrequest
  | @segment _ ipv4 segment host hprotocol hvalid hrequest =>
    rw [replyTo] at hreply
    cases haction : (self.tcpListener.step ⟨ipv4.source, segment⟩).1 with
    | noReply =>
      rw [haction] at hreply
      cases hreply
    | sendSynAck synAck =>
      rw [haction] at hreply
      cases hreply
      refine ⟨host, rfl, ?_⟩
      rw [TcpSegmentToSend.encode_length, synAckSegment_segmentLen]
      exact Tcp.length_of_parse hrequest
  | @arp _ packet hframe htype hmac hpacket =>
    rw [replyTo] at hreply
    split at hreply <;> cases hreply

lemma replyTo_arp {reply : ArpPacket} (hreply : self.replyTo delivery = .arp reply) : ∃ ethernet packet,
    parseEthFrame input = .ok ethernet ∧ ArpPacket.parse ethernet.payload = .ok packet ∧
      buildReply packet self.macAddress self.ipv4Address = some reply := by
  cases h with
  | ignored => cases hreply
  | echo => cases hreply
  | datagram => cases hreply
  | segment =>
    rw [replyTo] at hreply
    split at hreply <;> cases hreply
  | @arp ethernet packet hframe htype hmac hpacket =>
    rw [replyTo] at hreply
    split at hreply
    next hbuild =>
      cases hreply
      exact ⟨ethernet, packet, hframe, hpacket, hbuild⟩
    · cases hreply

end Sent

end NetworkInterface

end TcpIp.Interface
