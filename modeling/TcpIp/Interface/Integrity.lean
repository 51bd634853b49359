import TcpIp.Codec.Corruption
import TcpIp.Codec.Ipv4
import TcpIp.Codec.Link
import TcpIp.Interface.WireTable
import TcpIp.Lib.Bits

/-!
# What counts of a frame

* `Damaged` — a copy of a frame with a burst of damaged bits, in the IPv4 header or in what the packet carries;
* `damage_is_loss` — damaged copies are refused, and a run with them is the run without them;
* `Interchangeable`, `header_fields_invisible` — an IPv4 packet for the host counts by its source, its protocol, its
  DSCP and ECN, its payload and the Ethernet source.  Two runs that differ in anything else are the same.
-/

namespace TcpIp.Interface

open TcpIp.Lib TcpIp.Icmp TcpIp.Ipv4 TcpIp.Tcp TcpIp.Udp TcpIp.Arp.Cache

/-! ### Damage -/

/-- The frame with another payload in its packet. -/
def withPayload (input : Bytes) (ethernet : EthernetFrame) (ipv4 : Ipv4Packet) (payload : Bytes) : Bytes :=
  input.take ethernetHeaderLen ++ (ethernet.payload.take ipv4.headerLen ++ payload ++ ipv4.trailingBytes)

/-- A copy of a frame for the host in which a burst of at most sixteen bits is damaged: in the IPv4 header, which keeps
its length, or in the message, the segment or the datagram that was accepted with its checksum. -/
inductive Damaged (mac : MacAddress) (ip : Ipv4Addr) (input : Bytes) : Bytes → Prop
  | header {ethernet : EthernetFrame} {ipv4 : Ipv4Packet} {header' : Bytes} (host : ForHost mac ip input ethernet ipv4)
      (damage : Burst (ethernet.payload.take ipv4.headerLen) header')
      (ihl : ihl (header' ++ ethernet.payload.drop ipv4.headerLen) = ihl ethernet.payload) :
      Damaged mac ip input (input.take ethernetHeaderLen ++ (header' ++ ethernet.payload.drop ipv4.headerLen))
  | message {ethernet : EthernetFrame} {ipv4 : Ipv4Packet} {message : IcmpMessage} {payload' : Bytes}
      (host : ForHost mac ip input ethernet ipv4) (protocol : ipv4.protocol = .icmp)
      (parse : parseIcmpMessage ipv4.payload = .ok message) (damage : Burst ipv4.payload payload') :
      Damaged mac ip input (withPayload input ethernet ipv4 payload')
  | segment {ethernet : EthernetFrame} {ipv4 : Ipv4Packet} {payload' : Bytes}
      (host : ForHost mac ip input ethernet ipv4) (protocol : ipv4.protocol = .tcp)
      (valid : validateTcpChecksum ipv4.source ipv4.destination ipv4.payload = .ok ())
      (damage : Burst ipv4.payload payload') : Damaged mac ip input (withPayload input ethernet ipv4 payload')
  | datagram {ethernet : EthernetFrame} {ipv4 : Ipv4Packet} {datagram : UdpDatagram} {bytes' : Bytes}
      (host : ForHost mac ip input ethernet ipv4) (protocol : ipv4.protocol = .udp)
      (valid : validateUdpChecksum ipv4.source ipv4.destination ipv4.payload = .ok ())
      (parse : parseUdpDatagram ipv4.payload = .ok datagram) (sent : datagram.checksum ≠ 0)
      (damage : Burst (ipv4.payload.take datagram.length.toNat) bytes')
      (length : wordAt bytes' 4 = wordAt ipv4.payload 4) (checksum : wordAt bytes' 6 ≠ 0) :
      Damaged mac ip input (withPayload input ethernet ipv4 (bytes' ++ ipv4.payload.drop datagram.length.toNat))

section Damage

variable {mac : MacAddress} {ip : Ipv4Addr} {input input' : Bytes} {ethernet : EthernetFrame} {ipv4 : Ipv4Packet}

lemma ForHost.withPayload (host : ForHost mac ip input ethernet ipv4) {payload : Bytes}
    (hlength : payload.length = ipv4.payload.length) :
    ∃ ethernet', ForHost mac ip (withPayload input ethernet ipv4 payload) ethernet' { ipv4 with payload } :=
  ⟨_, parseEthFrame_withPayload host.frame _, host.etherType, host.accepted,
    parseIpv4Packet_withPayload host.packet hlength, host.destination, host.unfragmented⟩

/-- **A damaged copy is refused.** -/
theorem Damaged.refused (h : Damaged mac ip input input') : ∃ e, demux mac ip input' = .err e := by
  cases h with
  | @header ethernet ipv4 header' host damage hihl =>
    have hlength : ipv4.headerLen = headerLength ethernet.payload := by
      obtain ⟨hwf, rfl⟩ := parseIpv4Packet_ok_iff.1 host.packet
      exact (lengths_view hwf).1
    rw [hlength] at damage hihl ⊢
    obtain ⟨e, he⟩ := parseIpv4Packet_changed host.packet damage.noticeable hihl
    refine ⟨.ipv4 e, ?_⟩
    rw [demux_of_frame (parseEthFrame_withPayload host.frame _), demuxFrame, host.etherType]
    dsimp only
    rw [if_pos host.accepted, demuxIpv4, he]
    rfl
  | message host protocol parse damage =>
    obtain ⟨ethernet', host'⟩ := host.withPayload damage.length_eq
    obtain ⟨e, he⟩ := parseIcmpMessage_changed parse damage.noticeable
    refine ⟨.icmp e, ?_⟩
    rw [demux_of_forHost host', deliver, protocol, he]
    rfl
  | segment host protocol valid damage =>
    obtain ⟨ethernet', host'⟩ := host.withPayload damage.length_eq
    obtain ⟨e, he⟩ := validateTcpChecksum_changed valid damage.noticeable
    refine ⟨.tcp e, ?_⟩
    rw [demux_of_forHost host', deliver, protocol, he]
    rfl
  | @datagram ethernet ipv4 datagram bytes' host protocol valid parse sent damage hlength hchecksum =>
    have hbytes : (bytes' ++ ipv4.payload.drop datagram.length.toNat).length = ipv4.payload.length := by
      rw [List.length_append, damage.length_eq, ← List.length_append, List.take_append_drop]
    obtain ⟨ethernet', host'⟩ := host.withPayload hbytes
    obtain ⟨e, he⟩ := validateUdpChecksum_changed parse sent valid damage.noticeable hlength hchecksum
    refine ⟨.udp e, ?_⟩
    rw [demux_of_forHost host', deliver, protocol, he]
    rfl

end Damage

/-- The event is not the arrival of a damaged copy of some frame. -/
def Event.Intact (mac : MacAddress) (ip : Ipv4Addr) (event : Event) : Prop :=
  ∀ input input' now, event = .frame input' now → ¬Damaged mac ip input input'

namespace NetworkInterface

lemma step_of_not_intact {self : NetworkInterface} {event : Event}
    (h : ¬event.Intact self.macAddress self.ipv4Address) : ∃ e, step event self = (.frame (.err e), self) := by
  unfold Event.Intact at h
  push Not at h
  obtain ⟨input, input', now, rfl, hdamaged⟩ := h
  obtain ⟨e, he⟩ := hdamaged.refused
  refine ⟨e, ?_⟩
  rw [step, processFrameAt_eq, he]
  rfl

open Classical in
/-- **Damage is loss.**  In every run, a damaged copy of a frame is refused and changes nothing; and the calls that are
left when all damaged copies are lost return what they return, in the states in which they are. -/
theorem damage_is_loss (self : NetworkInterface) (events : List Event) :
    (trace step self events).filter (fun t => t.input.Intact self.macAddress self.ipv4Address) =
      trace step self (events.filter fun event => event.Intact self.macAddress self.ipv4Address) ∧
    run step self events =
      run step self (events.filter fun event => event.Intact self.macAddress self.ipv4Address) ∧
    ∀ t ∈ trace step self events, ¬t.input.Intact self.macAddress self.ipv4Address →
      (∃ e, t.output = .frame (.err e)) ∧ t.after = t.before := by
  let SameAs : NetworkInterface → Prop := fun s => s.macAddress = self.macAddress ∧ s.ipv4Address = self.ipv4Address
  have hstep : ∀ event s, SameAs s → SameAs (step event s).2 := by
    intro event s h
    obtain ⟨hmac, hip⟩ := step_addresses s event
    exact ⟨hmac.trans h.1, hip.trans h.2⟩
  have hdamage : ∀ event s, SameAs s → ¬event.Intact self.macAddress self.ipv4Address →
      ∃ e, step event s = (.frame (.err e), s) := by
    intro event s h hintact
    rw [← h.1, ← h.2] at hintact
    exact step_of_not_intact hintact
  have hdrop : ∀ event s, SameAs s → decide (event.Intact self.macAddress self.ipv4Address) = false →
      (step event s).2 = s := by
    intro event s h hintact
    obtain ⟨e, he⟩ := hdamage event s h (of_decide_eq_false hintact)
    rw [he]
  obtain ⟨htrace, hrun⟩ := trace_filter (fun event : Event => decide (event.Intact self.macAddress self.ipv4Address))
    SameAs hstep hdrop ⟨rfl, rfl⟩ events
  refine ⟨htrace, hrun, fun t ht hintact => ?_⟩
  obtain ⟨past, future, -, hbefore, houtput, hafter⟩ := mem_trace_iff.1 ht
  obtain ⟨e, he⟩ := hdamage t.input t.before (hbefore ▸ run_addresses self past) hintact
  rw [houtput, hafter, he]
  exact ⟨⟨e, rfl⟩, rfl⟩

/-- An echo request with two damaged bits, in the identifier and in the sequence number. -/
example : ¬(Event.frame ((TestFrames.echoRequestFrame.set 39 0x35).set 40 0x80) 7).Intact TestFrames.localMac
    TestFrames.localIp := by
  let ethernet : EthernetFrame :=
    ⟨TestFrames.localMac, TestFrames.remoteMac, .ipv4, TestFrames.echoRequestFrame.drop 14⟩
  let ipv4 : Ipv4Packet := ⟨0, 0, 0xabcd, 64, .icmp, false, false, 0, TestFrames.remoteIp, TestFrames.localIp, [],
    (IcmpMessage.echoRequest TestFrames.echoRequest).encode, []⟩
  have host : ForHost TestFrames.localMac TestFrames.localIp TestFrames.echoRequestFrame ethernet ipv4 :=
    ⟨by decide +kernel, rfl, rfl, by decide +kernel, rfl, ⟨rfl, rfl⟩⟩
  have hparse : parseIcmpMessage ipv4.payload = .ok (.echoRequest TestFrames.echoRequest) := by decide +kernel
  let payload' := (ipv4.payload.set 5 0x35).set 6 0x80
  have hdamage : Burst ipv4.payload payload' :=
    ⟨(bitsOf ipv4.payload).take 47, [false, false], [true, true], (bitsOf ipv4.payload).drop 49, by decide +kernel,
      by decide +kernel, rfl, by decide, by decide, by unfold Zeros; decide⟩
  have hbytes : (TestFrames.echoRequestFrame.set 39 0x35).set 40 0x80 =
      withPayload TestFrames.echoRequestFrame ethernet ipv4 payload' := by decide +kernel
  intro hintact
  refine hintact TestFrames.echoRequestFrame _ 7 rfl ?_
  rw [hbytes]
  exact Damaged.message host rfl hparse hdamage

/-! ### Header fields -/

end NetworkInterface

/-- Two calls that an interface with these addresses takes for the same: IPv4 packets for it may differ in the
identification, the time to live, the DF flag, the options and what trails them, and may come at another time. -/
inductive Interchangeable (mac : MacAddress) (ip : Ipv4Addr) : Event → Event → Prop
  | same (event : Event) : Interchangeable mac ip event event
  | packet {input input' : Bytes} {ethernet ethernet' : EthernetFrame} {ipv4 ipv4' : Ipv4Packet} {now now' : Instant}
      (host : ForHost mac ip input ethernet ipv4) (host' : ForHost mac ip input' ethernet' ipv4')
      (sourceMac : ethernet'.sourceMac = ethernet.sourceMac) (source : ipv4'.source = ipv4.source)
      (protocol : ipv4'.protocol = ipv4.protocol) (service : ipv4'.dscp = ipv4.dscp ∧ ipv4'.ecn = ipv4.ecn)
      (payload : ipv4'.payload = ipv4.payload) : Interchangeable mac ip (.frame input now) (.frame input' now')

/-- The delivery with other headers. -/
def Delivery.reheader (ethernet : EthernetFrame) (ipv4 : Ipv4Packet) : Delivery → Delivery
  | .ignored => .ignored
  | .echo _ _ message => .echo ethernet ipv4 message
  | .datagram _ _ request => .datagram ethernet ipv4 request
  | .segment _ _ request => .segment ethernet ipv4 request
  | .arp ethernet packet => .arp ethernet packet

lemma deliver_reheader {ethernet ethernet' : EthernetFrame} {ipv4 ipv4' : Ipv4Packet}
    (hsource : ipv4'.source = ipv4.source) (hdestination : ipv4'.destination = ipv4.destination)
    (hprotocol : ipv4'.protocol = ipv4.protocol) (hpayload : ipv4'.payload = ipv4.payload) :
    deliver ethernet' ipv4' = Delivery.reheader ethernet' ipv4' <$> deliver ethernet ipv4 := by
  unfold deliver
  rw [hsource, hdestination, hprotocol, hpayload]
  cases ipv4.protocol with
  | icmp =>
    dsimp only
    cases parseIcmpMessage ipv4.payload with
    | ok message => cases message <;> rfl
    | err e => rfl
    | panic p => rfl
  | udp =>
    dsimp only
    cases validateUdpChecksum ipv4.source ipv4.destination ipv4.payload with
    | ok u =>
      cases parseUdpDatagram ipv4.payload with
      | ok request =>
        show (if _ then _ else _) = Delivery.reheader ethernet' ipv4' <$> (if _ then _ else _)
        split_ifs <;> rfl
      | err e => rfl
      | panic p => rfl
    | err e => rfl
    | panic p => rfl
  | tcp =>
    dsimp only
    cases validateTcpChecksum ipv4.source ipv4.destination ipv4.payload with
    | ok u => cases parseTcpSegment ipv4.payload <;> rfl
    | err e => rfl
    | panic p => rfl
  | unknown value => rfl

namespace NetworkInterface

lemma replyFrame_congr {self : NetworkInterface} {ethernet ethernet' : EthernetFrame} {ipv4 ipv4' : Ipv4Packet}
    (hmac : ethernet'.sourceMac = ethernet.sourceMac) (hsource : ipv4'.source = ipv4.source)
    (hservice : ipv4'.dscp = ipv4.dscp ∧ ipv4'.ecn = ipv4.ecn) (protocol : Ipv4Protocol) (payload : Bytes) :
    self.replyFrame ethernet' ipv4' protocol payload = self.replyFrame ethernet ipv4 protocol payload := by
  unfold replyFrame replyPacket
  rw [hmac, hsource, hservice.1, hservice.2]

lemma step_of_interchangeable {self : NetworkInterface} {event event' : Event}
    (h : Interchangeable self.macAddress self.ipv4Address event event') : step event self = step event' self := by
  cases h with
  | same event => rfl
  | @packet input input' ethernet ethernet' ipv4 ipv4' now now' host host' hmac hsource hprotocol hservice hpayload =>
    have hframe := fun self : NetworkInterface => self.replyFrame_congr hmac hsource hservice
    have hdestination : ipv4'.destination = ipv4.destination := host'.destination.trans host.destination.symm
    suffices hanswer : self.answer now (deliver ethernet ipv4) = self.answer now' (deliver ethernet' ipv4') by
      rw [step, step, processFrameAt_eq, processFrameAt_eq, demux_of_forHost host, demux_of_forHost host', hanswer]
    rw [deliver_reheader hsource hdestination hprotocol hpayload]
    cases hdeliver : deliver ethernet ipv4 with
    | err e => rfl
    | panic p => rfl
    | ok delivery =>
      -- what is delivered has these headers
      suffices hrespond : self.respond now delivery = self.respond now' (delivery.reheader ethernet' ipv4') by
        rw [Outcome.map_ok, answer, answer, hrespond]
      cases delivers_of_deliver host hdeliver with
      | ignored => rfl
      | echo host₁ =>
        obtain ⟨rfl, rfl⟩ := host.unique host₁
        rw [Delivery.reheader, respond, respond, hframe]
      | datagram host₁ =>
        obtain ⟨rfl, rfl⟩ := host.unique host₁
        rw [Delivery.reheader, respond, respond, hframe, hsource]
      | segment host₁ =>
        obtain ⟨rfl, rfl⟩ := host.unique host₁
        rw [Delivery.reheader, respond, respond, hsource]
        simp only [hframe]
      | arp hframe₁ htype =>
        obtain rfl := Outcome.ok.inj (host.frame.symm.trans hframe₁)
        cases host.etherType.symm.trans htype

/-- **Header fields do not show.**  Two runs whose packets for the host have the same source, the same protocol, the
same DSCP and ECN, and the same payload return the same and end in the same state, whatever else differs in their
headers: the time to live is not looked at, nor the DF flag, the identification or the options, nor the time of
arrival. -/
theorem header_fields_invisible {self : NetworkInterface} {events events' : List Event}
    (h : List.Forall₂ (Interchangeable self.macAddress self.ipv4Address) events events') :
    (trace step self events).map Lib.Step.output = (trace step self events').map Lib.Step.output ∧
      run step self events = run step self events' := by
  refine trace_congr (Interchangeable self.macAddress self.ipv4Address)
    (fun s => s.macAddress = self.macAddress ∧ s.ipv4Address = self.ipv4Address) (fun event s hs => ?_)
    (fun event event' s hs hsame => ?_) ⟨rfl, rfl⟩ h
  · obtain ⟨hmac, hip⟩ := step_addresses s event
    exact ⟨hmac.trans hs.1, hip.trans hs.2⟩
  · rw [← hs.1, ← hs.2] at hsame
    exact step_of_interchangeable hsame

/-- An echo request, and one with options that is out of time. -/
theorem header_fields_invisible_echo :
    let ipv4 : Ipv4Packet := ⟨0, 0, 7, 0, .icmp, true, false, 0, TestFrames.remoteIp, TestFrames.localIp, [1, 1, 1, 0],
      (IcmpMessage.echoRequest TestFrames.echoRequest).encode, []⟩
    let input := (EthernetFrame.mk TestFrames.localMac TestFrames.remoteMac .ipv4 ipv4.encode).encode
    run step TestFrames.interface [.frame TestFrames.echoRequestFrame 7, .lookup TestFrames.remoteIp 8] =
      run step TestFrames.interface [.frame input 9, .lookup TestFrames.remoteIp 8] := by
  intro ipv4 input
  have host : ForHost TestFrames.localMac TestFrames.localIp TestFrames.echoRequestFrame
      ⟨TestFrames.localMac, TestFrames.remoteMac, .ipv4, TestFrames.echoRequestFrame.drop 14⟩
      { ipv4 with identification := 0xabcd, ttl := 64, dontFragment := false, options := [] } :=
    ⟨by decide +kernel, rfl, rfl, by decide +kernel, rfl, ⟨rfl, rfl⟩⟩
  have host' : ForHost TestFrames.localMac TestFrames.localIp input
      ⟨TestFrames.localMac, TestFrames.remoteMac, .ipv4, ipv4.encode⟩ ipv4 :=
    ⟨by decide +kernel, rfl, rfl, by decide +kernel, rfl, ⟨rfl, rfl⟩⟩
  refine (header_fields_invisible (List.Forall₂.cons ?_ (List.Forall₂.cons ?_ List.Forall₂.nil))).2
  · exact Interchangeable.packet host host' rfl rfl rfl ⟨rfl, rfl⟩ rfl
  · exact Interchangeable.same _

end NetworkInterface

end TcpIp.Interface
