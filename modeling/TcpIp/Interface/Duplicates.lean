import TcpIp.Interface.Replies

/-!
# Frames that arrive twice

* `hear_hear`, `observe_observe`, `replyTo_changed` — what a delivery did it does not do again, and it is answered
  again;
* `Renumbered` — two IPv4 replies that differ in the identification, by one, and in the checksum of the header.  The
  second time all is as the first time, or such a reply is sent (`processFrameAt_twice`);
* `duplicate_harmless` — a frame that comes again at once is answered again, and only the counter of identifications
  can tell.
-/

namespace TcpIp.Interface

open TcpIp.Lib TcpIp.Arp TcpIp.Arp.Cache TcpIp.Arp.Resolver TcpIp.Icmp TcpIp.Ipv4 TcpIp.Tcp TcpIp.Tcp.Listener
  TcpIp.Udp

namespace Delivery

lemma hear_hear (delivery : Delivery) (listener : TcpListener) :
    delivery.hear (delivery.hear listener) = delivery.hear listener := by
  cases delivery with
  | segment ethernet ipv4 request => exact congrArg Prod.snd (TcpListener.step_step listener ⟨ipv4.source, request⟩)
  | ignored => rfl
  | echo ethernet ipv4 message => rfl
  | datagram ethernet ipv4 request => rfl
  | arp ethernet packet => rfl

lemma observe_observe (delivery : Delivery) (resolver : ArpResolver) (now : Instant) :
    delivery.observe (delivery.observe resolver now) now = delivery.observe resolver now := by
  cases delivery with
  | arp ethernet packet => exact ArpResolver.observed_observed packet now resolver
  | ignored => rfl
  | echo ethernet ipv4 message => rfl
  | datagram ethernet ipv4 request => rfl
  | segment ethernet ipv4 request => rfl

end Delivery

/-- Two IPv4 replies that differ in the identification, by one, and in the checksum of the header. -/
structure Renumbered (out out' : Bytes) : Prop where
  bytes : ∃ top flags rest : Bytes, ∃ identification checksum checksum' : UInt16,
    top.length = 18 ∧ flags.length = 4 ∧
    out = top ++ u16ToBeBytes identification ++ flags ++ u16ToBeBytes checksum ++ rest ∧
    out' = top ++ u16ToBeBytes (identification + 1) ++ flags ++ u16ToBeBytes checksum' ++ rest
  packets : ∃ frame packet payload', parseEthFrame out = .ok frame ∧ frame.etherType = .ipv4 ∧
    parseIpv4Packet frame.payload = .ok packet ∧ parseEthFrame out' = .ok { frame with payload := payload' } ∧
    parseIpv4Packet payload' = .ok { packet with identification := packet.identification + 1 }

namespace NetworkInterface

variable {self : NetworkInterface}

lemma replyTo_changed (self : NetworkInterface) (now : Instant) (delivery : Delivery) :
    (self.changed now delivery).replyTo delivery = self.replyTo delivery := by
  cases delivery with
  | segment ethernet ipv4 request =>
    have hstep := congrArg Prod.fst (TcpListener.step_step self.tcpListener ⟨ipv4.source, request⟩)
    rw [replyTo, replyTo, ← hstep]
    rfl
  | ignored => rfl
  | echo ethernet ipv4 message => rfl
  | datagram ethernet ipv4 request => rfl
  | arp ethernet packet => rfl

lemma changed_changed (self : NetworkInterface) (now : Instant) (delivery : Delivery) :
    (self.changed now delivery).changed now delivery = { self.changed now delivery with
      nextIpv4Identification :=
        (self.changed now delivery).nextIpv4Identification + (self.replyTo delivery).identifications } := by
  have hlistener := delivery.hear_hear self.tcpListener
  have hresolver := delivery.observe_observe self.arpResolver now
  rw [changed, replyTo_changed]
  show ({ self.changed now delivery with
    nextIpv4Identification := _
    arpResolver := delivery.observe (delivery.observe self.arpResolver now) now
    tcpListener := delivery.hear (delivery.hear self.tcpListener) } : NetworkInterface) = _
  rw [hlistener, hresolver]
  rfl

/-- **The second time** a delivery takes its identifications, and changes nothing else. -/
lemma processFrameAt_changed {input : Bytes} {delivery : Delivery}
    (hdemux : demux self.macAddress self.ipv4Address input = .ok delivery) (now : Instant) :
    (processFrameAt input now).run (self.changed now delivery) =
      (.ok (((self.changed now delivery).frameOf (self.replyTo delivery)).map EthernetFrame.encode),
        { self.changed now delivery with nextIpv4Identification :=
            (self.changed now delivery).nextIpv4Identification + (self.replyTo delivery).identifications }) := by
  have hdemux' : demux (self.changed now delivery).macAddress (self.changed now delivery).ipv4Address input =
      .ok delivery := hdemux
  rw [processFrameAt_eq, hdemux', answer, respond_eq, replyTo_changed, changed_changed]

lemma renumbered_replyFrame {data : Bytes} {request : Ipv4Packet} (hrequest : parseIpv4Packet data = .ok request)
    {protocol : Ipv4Protocol} (hnumber : Ipv4Protocol.fromU8 protocol.asU8 = protocol) {payload : Bytes}
    (hpayload : payload.length ≤ 65515) (ethernet : EthernetFrame) :
    Renumbered (self.replyFrame ethernet request protocol payload).encode
      (self.sentIpv4.replyFrame ethernet request protocol payload).encode where
  bytes := by
    let packet := self.replyPacket request protocol payload
    let packet' := self.sentIpv4.replyPacket request protocol payload
    exact ⟨ethernet.sourceMac.octets ++ self.macAddress.octets ++ u16ToBeBytes 0x0800 ++ packet.headerTop.take 4,
      packet.headerTop.drop 6, packet.headerBottom ++ payload, self.nextIpv4Identification,
      Checksum.internetChecksum (packet.header 0), Checksum.internetChecksum (packet'.header 0), rfl, rfl, rfl, rfl⟩
  packets := by
    have hparse : parseIpv4Packet (self.sentIpv4.replyFrame ethernet request protocol payload).payload =
        .ok (self.sentIpv4.replyPacket request protocol payload) := parse_replyPacket hrequest hnumber hpayload
    exact ⟨_, _, _, parse_replyFrame, rfl, parse_replyPacket hrequest hnumber hpayload, parse_replyFrame, hparse⟩

lemma replyFrame_changed {now : Instant} {delivery : Delivery} {ethernet : EthernetFrame} {request : Ipv4Packet}
    {protocol : Ipv4Protocol} {payload : Bytes}
    (hreply : self.replyTo delivery = .ipv4 ethernet request protocol payload) :
    (self.changed now delivery).replyFrame ethernet request protocol payload =
      self.sentIpv4.replyFrame ethernet request protocol payload := by
  have hnext : (self.changed now delivery).nextIpv4Identification = self.sentIpv4.nextIpv4Identification := by
    rw [changed, hreply]
    rfl
  unfold replyFrame replyPacket
  rw [hnext]
  rfl

/-- The second time all is as the first time, or a second IPv4 reply with the next identification is sent. -/
lemma processFrameAt_twice (self : NetworkInterface) (input : Bytes) (now : Instant) :
    let first := (processFrameAt input now).run self
    let second := (processFrameAt input now).run first.2
    (second = first ∧ ∀ out frame, first.1 = .ok (some out) → parseEthFrame out = .ok frame →
      frame.etherType ≠ .ipv4) ∨
    ∃ out out' frame, first.1 = .ok (some out) ∧ parseEthFrame out = .ok frame ∧ frame.etherType = .ipv4 ∧
      Renumbered out out' ∧ second = (.ok (some out'), { first.2 with
        nextIpv4Identification := first.2.nextIpv4Identification + 1 }) := by
  intro first second
  rcases processFrameAt_parts self input now with ⟨e, -, hrun⟩ | ⟨delivery, hdemux, hdelivers, hrun⟩
  · have hfirst : first = (.err e, self) := hrun
    have hsecond : second = first := by
      show (processFrameAt input now).run first.2 = first
      rw [hfirst]
      exact hrun
    refine Or.inl ⟨hsecond, fun out frame hout => ?_⟩
    rw [hfirst] at hout
    cases hout
  · have hfirst : first = (.ok ((self.frameOf (self.replyTo delivery)).map EthernetFrame.encode),
        self.changed now delivery) := hrun
    have hstate : first.2 = self.changed now delivery := congrArg Prod.snd hfirst
    have hsecond : second = _ :=
      (congrArg (processFrameAt input now).run hstate).trans (processFrameAt_changed hdemux now)
    cases hreply : self.replyTo delivery with
    | nothing =>
      rw [hreply] at hfirst hsecond
      refine Or.inl ⟨?_, fun out frame hout => ?_⟩
      · rw [hfirst, hsecond, Reply.identifications, UInt16.add_zero]
        rfl
      · rw [hfirst] at hout
        cases hout
    | ipv4 ethernet request protocol payload =>
      obtain ⟨host, hnumber, hpayload⟩ := replyTo_ipv4 hdelivers hreply
      have hroom := hpayload.trans (Ipv4.payload_length_le host.packet)
      rw [hreply] at hfirst hsecond
      refine Or.inr ⟨(self.replyFrame ethernet request protocol payload).encode,
        (self.sentIpv4.replyFrame ethernet request protocol payload).encode, _, ?_, parse_replyFrame, rfl,
        renumbered_replyFrame host.packet hnumber hroom ethernet, ?_⟩
      · rw [hfirst]
        rfl
      · rw [hfirst, hsecond, frameOf, replyFrame_changed hreply]
        rfl
    | arp reply =>
      rw [hreply] at hfirst hsecond
      refine Or.inl ⟨?_, fun out frame hout hparse htype => ?_⟩
      · rw [hfirst, hsecond, Reply.identifications, UInt16.add_zero]
        rfl
      · rw [hfirst] at hout
        obtain rfl := Option.some.inj (Outcome.ok.inj hout)
        obtain rfl := Outcome.ok.inj (hparse.symm.trans (parse_arpReplyFrame reply))
        cases htype

/-- **A frame that arrives twice is harmless.**  The second time it changes nothing but the counter of identifications,
and is answered as the first time, with the next identification in an IPv4 reply. -/
theorem duplicate_harmless (self : NetworkInterface) (input : Bytes) (now : Instant) :
    let first := (processFrameAt input now).run self
    let second := (processFrameAt input now).run first.2
    second.2 = { first.2 with nextIpv4Identification := second.2.nextIpv4Identification } ∧
    (∀ out frame, first.1 = .ok (some out) → parseEthFrame out = .ok frame → frame.etherType = .ipv4 →
      ∃ out', second.1 = .ok (some out') ∧ Renumbered out out' ∧
        second.2.nextIpv4Identification = first.2.nextIpv4Identification + 1) ∧
    ((∀ out frame, first.1 = .ok (some out) → parseEthFrame out = .ok frame → frame.etherType ≠ .ipv4) →
      second = first) := by
  intro first second
  rcases processFrameAt_twice self input now with
    ⟨hsame, hother⟩ | ⟨out, out', frame, hout, hparse, htype, hrenumbered, hnext⟩
  · have hsecond : second = first := hsame
    refine ⟨by rw [hsecond], fun out frame hout hparse htype => ?_, fun _ => hsecond⟩
    exact absurd htype (hother out frame hout hparse)
  · have hsecond : second = (.ok (some out'), { first.2 with
        nextIpv4Identification := first.2.nextIpv4Identification + 1 }) := hnext
    refine ⟨by rw [hsecond], fun sent _ hsent _ _ => ?_, fun hother => absurd htype (hother out frame hout hparse)⟩
    obtain rfl := Option.some.inj (Outcome.ok.inj (hout.symm.trans hsent))
    exact ⟨out', by rw [hsecond], hrenumbered, by rw [hsecond]⟩

end NetworkInterface

end TcpIp.Interface
