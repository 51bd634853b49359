import TcpIp.Interface.Replies

/-!
# Two stacks on one link

What a stack does with the reply of another stack.

* ICMP, TCP and ARP replies are taken in silence, by every receiver in every state;
* a UDP reply is answered exactly when it goes from an echo port to an echo port (`EchoLoop`), and then the answer is
  of the same kind: the two stacks never stop (`silent_to_reply_iff`).
-/

namespace TcpIp.Interface

open TcpIp.Lib TcpIp.Arp TcpIp.Icmp TcpIp.Ipv4 TcpIp.Tcp TcpIp.Tcp.Listener TcpIp.Udp

namespace NetworkInterface

/-- The frame is a datagram for the echo port of `self` that comes from the echo port of `peer`. -/
def EchoLoop (self peer : NetworkInterface) (input : Bytes) : Prop :=
  ∃ ethernet ipv4 datagram, ForHost self.macAddress self.ipv4Address input ethernet ipv4 ∧ ipv4.protocol = .udp ∧
    validateUdpChecksum ipv4.source ipv4.destination ipv4.payload = .ok () ∧
    parseUdpDatagram ipv4.payload = .ok datagram ∧
    datagram.sourcePort = udpEchoPort ∧ datagram.destinationPort = udpEchoPort ∧
    ethernet.sourceMac = peer.macAddress ∧ ipv4.source = peer.ipv4Address

section Receive

variable {self peer : NetworkInterface} {input : Bytes} {now : Instant} {ethernet : EthernetFrame} {ipv4 : Ipv4Packet}

/-- An IPv4 reply reaches the host with the addresses of the request, and no other. -/
lemma demux_replyFrame {data payload : Bytes} {protocol : Ipv4Protocol} (hipv4 : parseIpv4Packet data = .ok ipv4)
    (hnumber : Ipv4Protocol.fromU8 protocol.asU8 = protocol) (hpayload : payload.length ≤ 65515) (mac : MacAddress)
    (ip : Ipv4Addr) : demux mac ip (self.replyFrame ethernet ipv4 protocol payload).encode =
      if ethernet.sourceMac = mac ∧ ipv4.source = ip then
        deliver (self.replyFrame ethernet ipv4 protocol payload) (self.replyPacket ipv4 protocol payload)
      else .ok .ignored := by
  have hpacket : parseIpv4Packet (self.replyFrame ethernet ipv4 protocol payload).payload =
      .ok (self.replyPacket ipv4 protocol payload) := parse_replyPacket hipv4 hnumber hpayload
  by_cases h : ethernet.sourceMac = mac ∧ ipv4.source = ip
  · rw [if_pos h]
    exact demux_of_forHost ⟨parse_replyFrame, rfl, h.1, hpacket, h.2, rfl, rfl⟩
  · rw [if_neg h]
    unfold demux
    rw [parse_replyFrame]
    show (if ethernet.sourceMac = mac then demuxIpv4 ip _ else _) = _
    by_cases hmac : ethernet.sourceMac = mac
    · rw [if_pos hmac]
      unfold demuxIpv4
      rw [hpacket]
      exact if_pos fun hip => h ⟨hmac, hip⟩
    · rw [if_neg hmac]
      rfl

lemma processFrameAt_of_ignored (h : demux self.macAddress self.ipv4Address input = .ok .ignored) :
    ((processFrameAt input now).run self).1 = .ok none := by
  rw [processFrameAt_eq, h]
  rfl

lemma silent_to_echoReply (host : ForHost self.macAddress self.ipv4Address input ethernet ipv4)
    {message : IcmpEchoMessage} (hrequest : parseIcmpMessage ipv4.payload = .ok (.echoRequest message)) :
    ((processFrameAt (self.replyFrame ethernet ipv4 .icmp (IcmpMessage.echoReply message).encode).encode now).run
      peer).1 = .ok none := by
  obtain ⟨hroom, hreply⟩ := parse_echoReply host.packet hrequest
  refine processFrameAt_of_ignored ?_
  rw [demux_replyFrame host.packet rfl hroom]
  split_ifs
  · exact deliver_of_echoReply rfl hreply
  · rfl

lemma step_synAckSegment (listener : TcpListener) (remoteIp : Ipv4Addr) (synAck : SynAck) (checksum : UInt16) :
    (listener.step ⟨remoteIp, (synAckSegment synAck).received checksum⟩).1 = .noReply := by
  cases haction : (listener.step ⟨remoteIp, (synAckSegment synAck).received checksum⟩).1 with
  | noReply => rfl
  | sendSynAck reply =>
    obtain ⟨⟨-, -, -, hclear, -⟩, -⟩ := TcpListener.step_eq_sendSynAck_iff.1 haction
    have hack : ((synAckSegment synAck).received checksum).flags.contains TcpFlags.ack = true := by
      show (TcpFlags.syn ||| TcpFlags.ack).contains TcpFlags.ack = true
      decide
    cases hclear.symm.trans hack

lemma silent_to_synAck (host : ForHost self.macAddress self.ipv4Address input ethernet ipv4) (synAck : SynAck) :
    ((processFrameAt (self.replyFrame ethernet ipv4 .tcp
      ((synAckSegment synAck).encode self.ipv4Address ipv4.source)).encode now).run peer).1 = .ok none := by
  obtain ⟨hroom, hvalid, hparse⟩ := parse_synAckSegment synAck self.ipv4Address ipv4.source
  let packet := self.replyPacket ipv4 .tcp ((synAckSegment synAck).encode self.ipv4Address ipv4.source)
  rw [processFrameAt_eq, demux_replyFrame host.packet rfl hroom]
  split_ifs
  · rw [@deliver_of_segment _ packet rfl _ hvalid hparse]
    show Outcome.ok (peer.respond now (.segment _ _ _)).1 = _
    rw [respond_of_noReply (step_synAckSegment ..)]
  · rfl

lemma silent_to_arpReply {packet reply : ArpPacket}
    (hreply : buildReply packet self.macAddress self.ipv4Address = some reply) :
    ((processFrameAt (self.arpReplyFrame reply).encode now).run peer).1 = .ok none := by
  have hparse := parse_arpReply hreply
  have hoperation : reply.operation = .reply := by
    unfold buildReply at hreply
    split_ifs at hreply
    cases hreply
    rfl
  rw [processFrameAt_eq]
  unfold demux
  rw [parse_arpReplyFrame]
  show (peer.answer now (if reply.targetMac = peer.macAddress ∨ reply.targetMac = MacAddress.broadcast then
    (ArpPacket.parse reply.encode).mapErr .arp >>= _ else _)).1 = _
  split_ifs
  · rw [hparse]
    show Outcome.ok ((buildReply reply peer.macAddress peer.ipv4Address).map _) = _
    unfold buildReply
    rw [if_pos (Or.inl (by rw [hoperation]; decide))]
    rfl
  · rfl

lemma silent_to_datagram (host : ForHost self.macAddress self.ipv4Address input ethernet ipv4)
    {request : UdpDatagram} (hrequest : parseUdpDatagram ipv4.payload = .ok request)
    (hquiet : ethernet.sourceMac = peer.macAddress → ipv4.source = peer.ipv4Address →
      request.sourcePort ≠ udpEchoPort) :
    ((processFrameAt (self.replyFrame ethernet ipv4 .udp (Udp.encode self.ipv4Address ipv4.source udpEchoPort
      request.sourcePort request.payload)).encode now).run peer).1 = .ok none := by
  obtain ⟨hroom, hvalid, length, checksum, -, hparse⟩ :=
    parse_echoDatagram host.packet hrequest self.ipv4Address ipv4.source
  let packet := self.replyPacket ipv4 .udp
    (Udp.encode self.ipv4Address ipv4.source udpEchoPort request.sourcePort request.payload)
  refine processFrameAt_of_ignored ?_
  rw [demux_replyFrame host.packet rfl hroom]
  split_ifs with haddressed
  · rw [@deliver_of_datagram _ packet rfl _ hvalid hparse]
    exact if_pos (Or.inl (hquiet haddressed.1 haddressed.2))
  · rfl

/-- **The loop goes on**: a datagram between two echo ports is answered, and so is the answer. -/
lemma EchoLoop.reply (h : EchoLoop self peer input) (now : Instant) :
    ∃ reply, ((processFrameAt input now).run self).1 = .ok (some reply) ∧ EchoLoop peer self reply := by
  obtain ⟨ethernet, ipv4, request, host, hprotocol, hvalid, hrequest, hsource, hdestination, hmac, hip⟩ := h
  have hport : request.sourcePort ≠ 0 := by
    rw [hsource]
    decide
  obtain ⟨hroom, hrevalid, length, checksum, -, hreparse⟩ :=
    parse_echoDatagram host.packet hrequest self.ipv4Address ipv4.source
  refine ⟨_, processFrameAt_datagram host hprotocol hvalid hrequest hdestination hport, ?_⟩
  refine ⟨_, _, _, ⟨parse_replyFrame, rfl, hmac, parse_replyPacket host.packet rfl hroom, hip, rfl, rfl⟩, rfl,
    hrevalid, hreparse, rfl, hsource, rfl, rfl⟩

lemma silent_of_not_echoLoop (hloop : ¬EchoLoop self peer input) {now' : Instant} {reply : Bytes}
    (hreply : ((processFrameAt input now).run self).1 = .ok (some reply)) :
    ((processFrameAt reply now').run peer).1 = .ok none := by
  obtain ⟨delivery, hdelivers, hrespond, -⟩ := exists_delivery hreply
  cases hdelivers with
  | ignored => cases hrespond
  | echo host hprotocol hrequest =>
    obtain rfl := Option.some.inj hrespond
    exact silent_to_echoReply host hrequest
  | datagram host hprotocol hvalid hrequest hdestination hsource =>
    obtain rfl := Option.some.inj hrespond
    refine silent_to_datagram host hrequest fun hmac hip hport => hloop ?_
    exact ⟨_, _, _, host, hprotocol, hvalid, hrequest, hport, hdestination, hmac, hip⟩
  | @segment ethernet ipv4 request host hprotocol hvalid hrequest =>
    cases haction : (self.tcpListener.step ⟨ipv4.source, request⟩).1 with
    | noReply =>
      rw [respond_of_noReply haction] at hrespond
      cases hrespond
    | sendSynAck synAck =>
      rw [respond_of_sendSynAck haction] at hrespond
      obtain rfl := Option.some.inj hrespond
      have hheard : ForHost (self.heard ⟨ipv4.source, request⟩).macAddress
        (self.heard ⟨ipv4.source, request⟩).ipv4Address input ethernet ipv4 := host
      exact silent_to_synAck hheard synAck
  | arp hframe htype hmac hpacket =>
    obtain ⟨arpReply, harp, rfl⟩ := Option.map_eq_some_iff.1 hrespond
    exact silent_to_arpReply harp

end Receive

/-! ### A frame that goes back and forth -/

/-- A frame on its way from one interface to another. -/
structure Link where
  receiver : NetworkInterface
  sender : NetworkInterface
  frame : Bytes

namespace Link

/-- The receiver handles the frame; its reply, if it sends one, goes back. -/
def pass (now : Instant) (link : Link) : Option Link :=
  match ((processFrameAt link.frame now).run link.receiver).1 with
  | .ok (some reply) => some {
      receiver := link.sender
      sender := ((processFrameAt link.frame now).run link.receiver).2
      frame := reply }
  | _ => none

/-- One pass for each reading of the clock; `none` once nothing is on its way any more. -/
def exchange : List Instant → Link → Option Link
  | [], link => some link
  | now :: later, link => (link.pass now).bind (exchange later)

lemma pass_of_reply {link : Link} {now : Instant} {reply : Bytes}
    (h : ((processFrameAt link.frame now).run link.receiver).1 = .ok (some reply)) :
    link.pass now = some ⟨link.sender, ((processFrameAt link.frame now).run link.receiver).2, reply⟩ := by
  rw [pass, h]

lemma pass_of_silent {link : Link} {now : Instant}
    (h : ∀ reply, ((processFrameAt link.frame now).run link.receiver).1 ≠ .ok (some reply)) :
    link.pass now = none := by
  rw [pass]
  split
  next reply hreply =>
    exact absurd hreply (h reply)
  · rfl

/-- **A loop between echo ports never ends.** -/
lemma exchange_of_echoLoop (clock : List Instant) (link : Link) (h : EchoLoop link.receiver link.sender link.frame) :
    (link.exchange clock).isSome = true := by
  induction clock generalizing link with
  | nil => rfl
  | cons now later ih =>
    obtain ⟨reply, hreply, hloop⟩ := h.reply now
    obtain ⟨hmac, hip⟩ := processFrameAt_addresses link.receiver link.frame now
    rw [exchange, pass_of_reply hreply, Option.bind_some]
    refine ih _ ?_
    unfold EchoLoop at hloop ⊢
    rw [hmac, hip]
    exact hloop

/-- Any other frame is answered at most once. -/
lemma exchange_of_not_echoLoop (link : Link) (h : ¬EchoLoop link.receiver link.sender link.frame)
    (now now' : Instant) (later : List Instant) : link.exchange (now :: now' :: later) = none := by
  rw [exchange]
  cases hpass : link.pass now with
  | none => rfl
  | some next =>
    rw [pass] at hpass
    split at hpass
    next reply hreply =>
      cases hpass
      have hsilent :
          Link.pass now' ⟨link.sender, ((processFrameAt link.frame now).run link.receiver).2, reply⟩ = none :=
        pass_of_silent fun reply' hreply' => by
          cases (silent_of_not_echoLoop h hreply).symm.trans hreply'
      rw [Option.bind_some, exchange, hsilent]
      rfl
    · cases hpass

end Link

/-- **When a reply is answered.**  Whatever provoked it, a reply finds silence, and the exchange ends, unless it is the
echo of a datagram that came from the echo port of its receiver. -/
theorem silent_to_reply_iff (self peer : NetworkInterface) (input : Bytes) (now now' : Instant) :
    ((∀ reply, ((processFrameAt input now).run self).1 = .ok (some reply) →
      ((processFrameAt reply now').run peer).1 = .ok none) ↔ ¬EchoLoop self peer input) ∧
    ((∃ clock, Link.exchange clock ⟨self, peer, input⟩ = none) ↔ ¬EchoLoop self peer input) := by
  refine ⟨⟨?_, ?_⟩, ⟨?_, ?_⟩⟩
  · intro hsilent hloop
    obtain ⟨reply, hreply, hloop'⟩ := hloop.reply now
    obtain ⟨reply', hreply', -⟩ := hloop'.reply now'
    cases (hsilent reply hreply).symm.trans hreply'
  · intro hloop reply hreply
    exact silent_of_not_echoLoop hloop hreply
  · rintro ⟨clock, hend⟩ hloop
    have hgoes := Link.exchange_of_echoLoop clock ⟨self, peer, input⟩ hloop
    rw [hend] at hgoes
    cases hgoes
  · intro hloop
    exact ⟨[now, now'], Link.exchange_of_not_echoLoop ⟨self, peer, input⟩ hloop now now' []⟩

/-- The echo of a datagram from port 9000 is echoed by its sender. -/
theorem reply_to_reply_port_9000 :
    let peer := NetworkInterface.new TestFrames.remoteMac TestFrames.remoteIp
    ∃ reply answer, ((processFrameAt (TestFrames.udpEchoRequestFrame 9000) 7).run TestFrames.interface).1 =
      .ok (some reply) ∧ ((processFrameAt reply 8).run peer).1 = .ok (some answer) := by
  intro peer
  refine ⟨[2, 0, 0, 0, 0, 2, 2, 0, 0, 0, 0, 1, 8, 0, 69, 0, 0, 33, 0, 0, 0, 0, 64, 17, 102, 202, 10, 0, 0, 2, 10, 0,
      0, 1, 35, 40, 35, 40, 0, 13, 97, 175, 104, 101, 108, 108, 111],
    [2, 0, 0, 0, 0, 1, 2, 0, 0, 0, 0, 2, 8, 0, 69, 0, 0, 33, 0, 0, 0, 0, 64, 17, 102, 202, 10, 0, 0, 1, 10, 0, 0, 2,
      35, 40, 35, 40, 0, 13, 97, 175, 104, 101, 108, 108, 111], ?_, ?_⟩
  · decide +kernel
  · decide +kernel

end NetworkInterface

end TcpIp.Interface
