import TcpIp.Interface

/-!
# The stack in two halves

* `Delivery`, `demux` — what a frame is to a host with given addresses: nothing, an echo request, a datagram for the
  echo port, a segment, or an ARP packet.  It depends on the addresses and the bytes, not on the state;
* `respond` — what the host answers to a delivery and how its state changes.  It cannot fail.

The handlers of the source do the first half, then the second (`processFrameAt_eq`): an error is an error of a parser,
it is found before the state changes, and the writers have the room and the ranges they ask for.
-/

namespace TcpIp.Interface

open TcpIp.Lib TcpIp.Arp TcpIp.Arp.Resolver TcpIp.Icmp TcpIp.Ipv4 TcpIp.Tcp TcpIp.Tcp.Listener TcpIp.Udp

/-- What a frame is to a host. -/
inductive Delivery where
  | ignored
  | echo (ethernet : EthernetFrame) (ipv4 : Ipv4Packet) (message : IcmpEchoMessage)
  | datagram (ethernet : EthernetFrame) (ipv4 : Ipv4Packet) (request : UdpDatagram)
  | segment (ethernet : EthernetFrame) (ipv4 : Ipv4Packet) (request : TcpSegment)
  | arp (ethernet : EthernetFrame) (packet : ArpPacket)
  deriving DecidableEq, Repr

/-- What an unfragmented packet for the host is. -/
def deliver (ethernet : EthernetFrame) (ipv4 : Ipv4Packet) : Outcome InterfaceError Delivery :=
  match ipv4.protocol with
  | .icmp => do
    let message ← (parseIcmpMessage ipv4.payload).mapErr .icmp
    match message with
    | .echoRequest message => return .echo ethernet ipv4 message
    | .echoReply _ => return .ignored
    | .unknown _ _ _ => return .ignored
  | .udp => do
    (validateUdpChecksum ipv4.source ipv4.destination ipv4.payload).mapErr .udp
    let request ← (parseUdpDatagram ipv4.payload).mapErr .udp
    if request.destinationPort ≠ udpEchoPort ∨ request.sourcePort = 0 then return .ignored
    else return .datagram ethernet ipv4 request
  | .tcp => do
    (validateTcpChecksum ipv4.source ipv4.destination ipv4.payload).mapErr .tcp
    let request ← (parseTcpSegment ipv4.payload).mapErr .tcp
    return .segment ethernet ipv4 request
  | .unknown _ => return .ignored

/-- What an IPv4 frame for the host is. -/
def demuxIpv4 (ip : Ipv4Addr) (ethernet : EthernetFrame) : Outcome InterfaceError Delivery := do
  let ipv4 ← (parseIpv4Packet ethernet.payload).mapErr .ipv4
  if ipv4.destination ≠ ip then return .ignored
  else if ipv4.moreFragments ∨ ipv4.fragmentOffset ≠ 0 then return .ignored
  else deliver ethernet ipv4

/-- What a frame that parses is to the host with the addresses `mac` and `ip`. -/
def demuxFrame (mac : MacAddress) (ip : Ipv4Addr) (ethernet : EthernetFrame) : Outcome InterfaceError Delivery :=
  match ethernet.etherType with
  | .ipv4 => if ethernet.destinationMac = mac then demuxIpv4 ip ethernet else return .ignored
  | .arp =>
    if ethernet.destinationMac = mac ∨ ethernet.destinationMac = MacAddress.broadcast then do
      let packet ← (ArpPacket.parse ethernet.payload).mapErr .arp
      return .arp ethernet packet
    else return .ignored
  | .ipv6 => return .ignored
  | .unknown _ => return .ignored

/-- What a frame is to the host. -/
def demux (mac : MacAddress) (ip : Ipv4Addr) (input : Bytes) : Outcome InterfaceError Delivery := do
  let ethernet ← (parseEthFrame input).mapErr .ethernet
  demuxFrame mac ip ethernet

lemma demux_of_frame {mac : MacAddress} {ip : Ipv4Addr} {input : Bytes} {ethernet : EthernetFrame}
    (h : parseEthFrame input = .ok ethernet) : demux mac ip input = demuxFrame mac ip ethernet := by
  rw [demux, h]
  rfl

/-- The errors of the parsers. -/
def InterfaceError.isParseError : InterfaceError → Bool
  | .ethernet _ | .ipv4 _ | .icmp _ | .arp _ | .udp _ | .tcp _ => true
  | .serialise _ | .ipv4Serialise _ | .udpSerialise _ | .tcpSerialise _ => false

lemma deliver_fails (ethernet : EthernetFrame) (ipv4 : Ipv4Packet) :
    (deliver ethernet ipv4).FailsOnlyWith fun e => e.isParseError = true := by
  unfold deliver
  cases ipv4.protocol with
  | icmp =>
    refine Outcome.FailsOnlyWith.bind (Outcome.failsOnlyWith_mapErr (parseIcmpMessage_panics _) fun _ => rfl) ?_
    rintro (message | message | ⟨messageType, code, body⟩) <;> trivial
  | udp =>
    refine Outcome.FailsOnlyWith.bind (Outcome.failsOnlyWith_mapErr (validateUdpChecksum_panics _ _ _) fun _ => rfl)
      fun _ => ?_
    refine Outcome.FailsOnlyWith.bind (Outcome.failsOnlyWith_mapErr (parseUdpDatagram_panics _) fun _ => rfl)
      fun request => ?_
    split_ifs <;> trivial
  | tcp =>
    refine Outcome.FailsOnlyWith.bind (Outcome.failsOnlyWith_mapErr (validateTcpChecksum_panics _ _ _) fun _ => rfl)
      fun _ => ?_
    exact Outcome.FailsOnlyWith.bind (Outcome.failsOnlyWith_mapErr (parseTcpSegment_panics _) fun _ => rfl)
      fun _ => trivial
  | unknown value => trivial

lemma demuxFrame_fails (mac : MacAddress) (ip : Ipv4Addr) (ethernet : EthernetFrame) :
    (demuxFrame mac ip ethernet).FailsOnlyWith fun e => e.isParseError = true := by
  unfold demuxFrame
  cases ethernet.etherType with
  | ipv4 =>
    dsimp only
    split_ifs
    · refine Outcome.FailsOnlyWith.bind (Outcome.failsOnlyWith_mapErr (parseIpv4Packet_panics _) fun _ => rfl)
        fun ipv4 => ?_
      split_ifs
      · trivial
      · trivial
      · exact deliver_fails ethernet ipv4
    · trivial
  | arp =>
    dsimp only
    split_ifs
    · exact Outcome.FailsOnlyWith.bind (Outcome.failsOnlyWith_mapErr (ArpPacket.parse_panics _) fun _ => rfl)
        fun _ => trivial
    · trivial
  | ipv6 => trivial
  | unknown value => trivial

/-- **Demultiplexing does not panic, and fails with an error of a parser only.** -/
theorem demux_fails (mac : MacAddress) (ip : Ipv4Addr) (input : Bytes) :
    (demux mac ip input).FailsOnlyWith fun e => e.isParseError = true :=
  Outcome.FailsOnlyWith.bind (Outcome.failsOnlyWith_mapErr (parseEthFrame_panics _) fun _ => rfl)
    fun ethernet => demuxFrame_fails mac ip ethernet

/-- The frame carries an unfragmented IPv4 packet for the host. -/
structure ForHost (mac : MacAddress) (ip : Ipv4Addr) (input : Bytes) (ethernet : EthernetFrame) (ipv4 : Ipv4Packet) :
    Prop where
  frame : parseEthFrame input = .ok ethernet
  etherType : ethernet.etherType = .ipv4
  accepted : ethernet.destinationMac = mac
  packet : parseIpv4Packet ethernet.payload = .ok ipv4
  destination : ipv4.destination = ip
  unfragmented : ipv4.moreFragments = false ∧ ipv4.fragmentOffset = 0

/-- Where a delivery comes from. -/
inductive Delivers (mac : MacAddress) (ip : Ipv4Addr) (input : Bytes) : Delivery → Prop
  | ignored : Delivers mac ip input .ignored
  | echo {ethernet : EthernetFrame} {ipv4 : Ipv4Packet} {message : IcmpEchoMessage}
      (host : ForHost mac ip input ethernet ipv4) (protocol : ipv4.protocol = .icmp)
      (request : parseIcmpMessage ipv4.payload = .ok (.echoRequest message)) :
      Delivers mac ip input (.echo ethernet ipv4 message)
  | datagram {ethernet : EthernetFrame} {ipv4 : Ipv4Packet} {request : UdpDatagram}
      (host : ForHost mac ip input ethernet ipv4) (protocol : ipv4.protocol = .udp)
      (valid : validateUdpChecksum ipv4.source ipv4.destination ipv4.payload = .ok ())
      (parse : parseUdpDatagram ipv4.payload = .ok request) (destinationPort : request.destinationPort = udpEchoPort)
      (sourcePort : request.sourcePort ≠ 0) : Delivers mac ip input (.datagram ethernet ipv4 request)
  | segment {ethernet : EthernetFrame} {ipv4 : Ipv4Packet} {request : TcpSegment}
      (host : ForHost mac ip input ethernet ipv4) (protocol : ipv4.protocol = .tcp)
      (valid : validateTcpChecksum ipv4.source ipv4.destination ipv4.payload = .ok ())
      (parse : parseTcpSegment ipv4.payload = .ok request) : Delivers mac ip input (.segment ethernet ipv4 request)
  | arp {ethernet : EthernetFrame} {packet : ArpPacket} (frame : parseEthFrame input = .ok ethernet)
      (etherType : ethernet.etherType = .arp)
      (accepted : ethernet.destinationMac = mac ∨ ethernet.destinationMac = MacAddress.broadcast)
      (parse : ArpPacket.parse ethernet.payload = .ok packet) : Delivers mac ip input (.arp ethernet packet)

section Delivers

variable {mac : MacAddress} {ip : Ipv4Addr} {input : Bytes} {ethernet : EthernetFrame} {ipv4 : Ipv4Packet}
  {delivery : Delivery}

lemma ForHost.unique {ethernet' : EthernetFrame} {ipv4' : Ipv4Packet} (h : ForHost mac ip input ethernet ipv4)
    (h' : ForHost mac ip input ethernet' ipv4') : ethernet' = ethernet ∧ ipv4' = ipv4 := by
  have hframe : ethernet' = ethernet := Outcome.ok.inj (h'.frame.symm.trans h.frame)
  subst hframe
  exact ⟨rfl, Outcome.ok.inj (h'.packet.symm.trans h.packet)⟩

lemma demux_of_forHost (h : ForHost mac ip input ethernet ipv4) : demux mac ip input = deliver ethernet ipv4 := by
  have hfragment : ¬(ipv4.moreFragments = true ∨ ipv4.fragmentOffset ≠ 0) := by simp [h.unfragmented]
  rw [demux_of_frame h.frame, demuxFrame, h.etherType]
  dsimp only
  rw [if_pos h.accepted, demuxIpv4, h.packet]
  show (if ipv4.destination ≠ ip then _ else _) = _
  rw [if_neg (not_not_intro h.destination), if_neg hfragment]

lemma delivers_of_deliver (h : ForHost mac ip input ethernet ipv4) (hdeliver : deliver ethernet ipv4 = .ok delivery) :
    Delivers mac ip input delivery := by
  unfold deliver at hdeliver
  cases hprotocol : ipv4.protocol with
  | icmp =>
    rw [hprotocol] at hdeliver
    obtain ⟨message, hmessage, hdeliver⟩ := Outcome.bind_eq_ok hdeliver
    have hparse := Outcome.mapErr_eq_ok hmessage
    cases message with
    | echoRequest message =>
      cases hdeliver
      exact Delivers.echo h hprotocol hparse
    | echoReply message =>
      cases hdeliver
      exact Delivers.ignored
    | unknown messageType code body =>
      cases hdeliver
      exact Delivers.ignored
  | udp =>
    rw [hprotocol] at hdeliver
    obtain ⟨_, hvalid, hdeliver⟩ := Outcome.bind_eq_ok hdeliver
    obtain ⟨request, hrequest, hdeliver⟩ := Outcome.bind_eq_ok hdeliver
    split_ifs at hdeliver with hport
    · cases hdeliver
      exact Delivers.ignored
    · cases hdeliver
      push Not at hport
      exact Delivers.datagram h hprotocol (Outcome.mapErr_eq_ok hvalid) (Outcome.mapErr_eq_ok hrequest) hport.1 hport.2
  | tcp =>
    rw [hprotocol] at hdeliver
    obtain ⟨_, hvalid, hdeliver⟩ := Outcome.bind_eq_ok hdeliver
    obtain ⟨request, hrequest, hdeliver⟩ := Outcome.bind_eq_ok hdeliver
    cases hdeliver
    exact Delivers.segment h hprotocol (Outcome.mapErr_eq_ok hvalid) (Outcome.mapErr_eq_ok hrequest)
  | unknown value =>
    rw [hprotocol] at hdeliver
    cases hdeliver
    exact Delivers.ignored

/-- **A delivery has its origin in the frame.** -/
theorem delivers_of_demux (h : demux mac ip input = .ok delivery) : Delivers mac ip input delivery := by
  unfold demux at h
  obtain ⟨ethernet, hethernet, h⟩ := Outcome.bind_eq_ok h
  have hframe := Outcome.mapErr_eq_ok hethernet
  unfold demuxFrame at h
  cases htype : ethernet.etherType with
  | ipv4 =>
    rw [htype] at h
    dsimp only at h
    split_ifs at h with hmac
    · obtain ⟨ipv4, hipv4, h⟩ := Outcome.bind_eq_ok h
      split_ifs at h with hdestination hfragment
      · cases h
        exact Delivers.ignored
      · cases h
        exact Delivers.ignored
      · push Not at hdestination hfragment
        refine delivers_of_deliver ⟨hframe, htype, hmac, Outcome.mapErr_eq_ok hipv4, hdestination, ?_, hfragment.2⟩ h
        exact Bool.eq_false_iff.2 hfragment.1
    · cases h
      exact Delivers.ignored
  | arp =>
    rw [htype] at h
    dsimp only at h
    split_ifs at h with hmac
    · obtain ⟨packet, hpacket, h⟩ := Outcome.bind_eq_ok h
      cases h
      exact Delivers.arp hframe htype hmac (Outcome.mapErr_eq_ok hpacket)
    · cases h
      exact Delivers.ignored
  | ipv6 =>
    rw [htype] at h
    cases h
    exact Delivers.ignored
  | unknown value =>
    rw [htype] at h
    cases h
    exact Delivers.ignored

lemma deliver_of_echoReply (hprotocol : ipv4.protocol = .icmp) {message : IcmpEchoMessage}
    (hmessage : parseIcmpMessage ipv4.payload = .ok (.echoReply message)) :
    deliver ethernet ipv4 = .ok .ignored := by
  unfold deliver
  rw [hprotocol, hmessage]
  rfl

lemma deliver_of_datagram (hprotocol : ipv4.protocol = .udp) {request : UdpDatagram}
    (hvalid : validateUdpChecksum ipv4.source ipv4.destination ipv4.payload = .ok ())
    (hrequest : parseUdpDatagram ipv4.payload = .ok request) : deliver ethernet ipv4 =
      if request.destinationPort ≠ udpEchoPort ∨ request.sourcePort = 0 then .ok .ignored
      else .ok (.datagram ethernet ipv4 request) := by
  unfold deliver
  rw [hprotocol, hvalid, hrequest]
  rfl

lemma deliver_of_segment (hprotocol : ipv4.protocol = .tcp) {request : TcpSegment}
    (hvalid : validateTcpChecksum ipv4.source ipv4.destination ipv4.payload = .ok ())
    (hrequest : parseTcpSegment ipv4.payload = .ok request) :
    deliver ethernet ipv4 = .ok (.segment ethernet ipv4 request) := by
  unfold deliver
  rw [hprotocol, hvalid, hrequest]
  rfl

end Delivers

/-! ### The answer to a delivery -/

def synAckSegment (synAck : SynAck) : TcpSegmentToSend where
  sourcePort := synAck.sourcePort
  destinationPort := synAck.destinationPort
  sequenceNumber := synAck.sequenceNumber
  acknowledgementNumber := synAck.acknowledgementNumber
  flags := TcpFlags.syn ||| TcpFlags.ack
  windowSize := synAck.windowSize
  urgentPointer := 0
  options := []
  payload := []

namespace NetworkInterface

variable (self : NetworkInterface)

/-- The IPv4 packet that answers `request`. -/
def replyPacket (request : Ipv4Packet) (protocol : Ipv4Protocol) (payload : Bytes) : Ipv4Packet where
  dscp := request.dscp
  ecn := request.ecn
  identification := self.nextIpv4Identification
  ttl := defaultIpv4Ttl
  protocol := protocol
  dontFragment := false
  moreFragments := false
  fragmentOffset := 0
  source := self.ipv4Address
  destination := request.source
  options := []
  payload := payload
  trailingBytes := []

/-- The frame with the IPv4 packet that answers `request`. -/
def replyFrame (ethernet : EthernetFrame) (request : Ipv4Packet) (protocol : Ipv4Protocol) (payload : Bytes) :
    EthernetFrame where
  destinationMac := ethernet.sourceMac
  sourceMac := self.macAddress
  etherType := .ipv4
  payload := (self.replyPacket request protocol payload).encode

/-- The frame with an ARP reply. -/
def arpReplyFrame (reply : ArpPacket) : EthernetFrame where
  destinationMac := reply.targetMac
  sourceMac := self.macAddress
  etherType := .arp
  payload := reply.encode

/-- An IPv4 reply uses up one identification. -/
def sentIpv4 : NetworkInterface := { self with nextIpv4Identification := self.nextIpv4Identification + 1 }

/-- The listener has seen a segment. -/
def heard (call : Call) : NetworkInterface := { self with tcpListener := (self.tcpListener.step call).2 }

@[simp] lemma heard_ipv4Address (call : Call) : (self.heard call).ipv4Address = self.ipv4Address := rfl

/-- The answer to a delivery, and the state after it. -/
def respond (now : Instant) : Delivery → Option Bytes × NetworkInterface
  | .ignored => (none, self)
  | .echo ethernet ipv4 message =>
    (some (self.replyFrame ethernet ipv4 .icmp (IcmpMessage.echoReply message).encode).encode, self.sentIpv4)
  | .datagram ethernet ipv4 request =>
    (some (self.replyFrame ethernet ipv4 .udp
      (Udp.encode self.ipv4Address ipv4.source udpEchoPort request.sourcePort request.payload)).encode, self.sentIpv4)
  | .segment ethernet ipv4 request =>
    match (self.tcpListener.step ⟨ipv4.source, request⟩).1 with
    | .sendSynAck synAck =>
      (some ((self.heard ⟨ipv4.source, request⟩).replyFrame ethernet ipv4 .tcp
        ((synAckSegment synAck).encode self.ipv4Address ipv4.source)).encode,
        (self.heard ⟨ipv4.source, request⟩).sentIpv4)
    | .noReply => (none, self.heard ⟨ipv4.source, request⟩)
  | .arp _ packet =>
    ((buildReply packet self.macAddress self.ipv4Address).map fun reply => (self.arpReplyFrame reply).encode,
      { self with arpResolver := self.arpResolver.observed packet now })

/-- Demultiplexing first, then the answer; a failure leaves the state. -/
def answer (now : Instant) : Outcome InterfaceError Delivery → Outcome InterfaceError (Option Bytes) × NetworkInterface
  | .ok delivery => (.ok (self.respond now delivery).1, (self.respond now delivery).2)
  | .err e => (.err e, self)
  | .panic p => (.panic p, self)

section Segment

variable {self} {now : Instant} {ethernet : EthernetFrame} {ipv4 : Ipv4Packet} {request : TcpSegment}

lemma respond_of_sendSynAck {synAck : SynAck}
    (h : (self.tcpListener.step ⟨ipv4.source, request⟩).1 = .sendSynAck synAck) :
    self.respond now (.segment ethernet ipv4 request) =
      (some ((self.heard ⟨ipv4.source, request⟩).replyFrame ethernet ipv4 .tcp
        ((synAckSegment synAck).encode self.ipv4Address ipv4.source)).encode,
        (self.heard ⟨ipv4.source, request⟩).sentIpv4) := by
  rw [respond, h]

lemma respond_of_noReply (h : (self.tcpListener.step ⟨ipv4.source, request⟩).1 = .noReply) :
    self.respond now (.segment ethernet ipv4 request) = (none, self.heard ⟨ipv4.source, request⟩) := by
  rw [respond, h]

end Segment

/-! ### The handlers refine demultiplexing and answering -/

variable {self} {now : Instant}

lemma propagate_answer {ε α : Type} {into : ε → InterfaceError} {o : Outcome ε α}
    {f : α → Exec NetworkInterface InterfaceError (Option Bytes)} {g : α → Outcome InterfaceError Delivery}
    (h : ∀ a, o = .ok a → (f a).run self = self.answer now (g a)) :
    (Exec.propagate into o >>= f).run self = self.answer now (o.mapErr into >>= g) := by
  cases o with
  | ok a => exact h a rfl
  | err e => rfl
  | panic p => rfl

lemma replyPacket_encodable {data : Bytes} {request : Ipv4Packet} (hrequest : parseIpv4Packet data = .ok request)
    (protocol : Ipv4Protocol) {payload : Bytes} (hpayload : payload.length ≤ 65515) :
    (self.replyPacket request protocol payload).Encodable := by
  have hdscp : request.dscp ≤ 63 := Ipv4.dscp_le hrequest
  have hecn : request.ecn ≤ 3 := Ipv4.ecn_le hrequest
  have hoffset : (0 : UInt16) ≤ 0x1fff := by decide
  have htotal : 20 + payload.length ≤ 65535 := by omega
  exact ⟨Nat.zero_le _, rfl, hdscp, hecn, hoffset, htotal⟩

/-- **The reply is built**: every layer has the room it asks for. -/
lemma buildIpv4Reply_run {data : Bytes} {request : Ipv4Packet} (hrequest : parseIpv4Packet data = .ok request)
    (ethernet : EthernetFrame) (protocol : Ipv4Protocol) {payload : Bytes} (hpayload : payload.length ≤ 65515) :
    (buildIpv4Reply ethernet request protocol payload).run self =
      (.ok (some (self.replyFrame ethernet request protocol payload).encode), self.sentIpv4) := by
  have hmax : usizeMax = 18446744073709551615 := rfl
  have hheader : ipv4MinHeaderLen = 20 := rfl
  have hipv4Length : (self.replyPacket request protocol payload).encode.length = ipv4MinHeaderLen + payload.length :=
    Ipv4Packet.encode_length _
  have hroom : ethernetHeaderLen + (ipv4MinHeaderLen + payload.length) ≤ usizeMax := by
    rw [ethernetHeaderLen]
    omega
  have hethernetLength : (self.replyFrame ethernet request protocol payload).encode.length =
      ethernetHeaderLen + (ipv4MinHeaderLen + payload.length) := by
    rw [← hipv4Length]
    exact EthernetFrame.encode_length _
  have hipv4 : (self.replyPacket request protocol payload).writeTo.run (vec 0 (ipv4MinHeaderLen + payload.length)) =
      (.ok (ipv4MinHeaderLen + payload.length), (self.replyPacket request protocol payload).encode) :=
    run_vec (Ipv4Packet.writeTo_eq (replyPacket_encodable hrequest protocol hpayload))
  have hethernet := run_vec (EthernetFrame.writeTo_eq
    (show ethernetHeaderLen + (self.replyFrame ethernet request protocol payload).payload.length ≤ usizeMax from
      hipv4Length.symm ▸ hroom))
  rw [hethernetLength] at hethernet
  unfold replyFrame at hethernet hethernetLength
  unfold buildIpv4Reply
  rw [Exec.get_bind]
  dsimp only
  rw [addUsize_of_le (by omega), Exec.lift_ok_bind]
  refine (onLocal_vec_bind hipv4 hipv4Length _ _).trans ?_
  dsimp only
  rw [addUsize_of_le hroom, Exec.lift_ok_bind]
  refine (onLocal_vec_bind hethernet hethernetLength _ _).trans ?_
  rw [Exec.modify_bind, Exec.pure_run]
  rfl

/-! ### One handler after the other -/

lemma processIcmpPacket_run {data : Bytes} {ipv4 : Ipv4Packet} (hipv4 : parseIpv4Packet data = .ok ipv4)
    (hprotocol : ipv4.protocol = .icmp) (ethernet : EthernetFrame) :
    (processIcmpPacket ethernet ipv4).run self = self.answer now (deliver ethernet ipv4) := by
  have hmax : usizeMax = 18446744073709551615 := rfl
  have hpayload := Ipv4.payload_length_le hipv4
  unfold processIcmpPacket deliver
  rw [hprotocol]
  refine propagate_answer fun message hmessage => ?_
  cases message with
  | echoReply message => rfl
  | unknown messageType code body => rfl
  | echoRequest message =>
    have hencode := IcmpMessage.echoReply_encode_length hmessage
    have hlength : (IcmpMessage.echoReply message).encode.length = 4 + (IcmpMessage.echoReply message).body.length :=
      IcmpMessage.withChecksum_length _ _
    have hroom : 4 + (IcmpMessage.echoReply message).body.length ≤ usizeMax := by omega
    have hicmp := run_vec (IcmpMessage.writeTo_eq hroom)
    rw [hencode] at hicmp
    refine (onLocal_vec_bind hicmp hencode _ _).trans ?_
    dsimp only
    exact buildIpv4Reply_run hipv4 ethernet .icmp (by omega)

lemma processUdpDatagram_run {data : Bytes} {ipv4 : Ipv4Packet} (hipv4 : parseIpv4Packet data = .ok ipv4)
    (hprotocol : ipv4.protocol = .udp) (ethernet : EthernetFrame) :
    (processUdpDatagram ethernet ipv4).run self = self.answer now (deliver ethernet ipv4) := by
  have hmax : usizeMax = 18446744073709551615 := rfl
  have hpayload := Ipv4.payload_length_le hipv4
  unfold processUdpDatagram deliver
  rw [hprotocol]
  refine propagate_answer fun _ _ => propagate_answer fun request hrequest => ?_
  have hlength := Udp.payload_length_le hrequest
  by_cases hport : request.destinationPort ≠ udpEchoPort ∨ request.sourcePort = 0
  · rw [if_pos hport, if_pos hport]
    rfl
  · rw [if_neg hport, if_neg hport, Exec.get_bind]
    have hudp := run_vec (serialiseUdpDatagram_eq self.ipv4Address ipv4.source udpEchoPort request.sourcePort
      (show udpHeaderLen + request.payload.length ≤ 65535 by omega))
    have hencode := Udp.encode_length self.ipv4Address ipv4.source udpEchoPort request.sourcePort request.payload
    rw [addUsize_of_le (by omega), Exec.lift_ok_bind]
    refine (onLocal_vec_bind hudp hencode _ _).trans ?_
    dsimp only
    exact buildIpv4Reply_run hipv4 ethernet .udp (by omega)

lemma synAckSegment_segmentLen (synAck : SynAck) : (synAckSegment synAck).segmentLen = tcpMinHeaderLen := rfl

lemma synAckSegment_encodable (synAck : SynAck) : (synAckSegment synAck).Encodable where
  options_le := Nat.zero_le _
  options_mod := rfl
  segmentLen_le := by
    rw [synAckSegment_segmentLen]
    decide

lemma processTcpSegment_run {data : Bytes} {ipv4 : Ipv4Packet} (hipv4 : parseIpv4Packet data = .ok ipv4)
    (hprotocol : ipv4.protocol = .tcp) (ethernet : EthernetFrame) :
    (processTcpSegment ethernet ipv4).run self = self.answer now (deliver ethernet ipv4) := by
  unfold processTcpSegment deliver
  rw [hprotocol]
  refine propagate_answer fun _ _ => propagate_answer fun request _ => ?_
  show _ = (Outcome.ok (self.respond now (.segment ethernet ipv4 request)).1,
    (self.respond now (.segment ethernet ipv4 request)).2)
  have hcall : TcpListener.receiveSegment ipv4.source request self.tcpListener =
      self.tcpListener.step ⟨ipv4.source, request⟩ := rfl
  rw [onListener, Exec.zoom_bind_of_ok (Exec.state_run _ _), hcall]
  show Exec.run _ (self.heard ⟨ipv4.source, request⟩) = _
  cases haction : (self.tcpListener.step ⟨ipv4.source, request⟩).1 with
  | noReply =>
    rw [respond_of_noReply haction]
    rfl
  | sendSynAck synAck =>
    rw [respond_of_sendSynAck haction]
    have hencode : ((synAckSegment synAck).encode self.ipv4Address ipv4.source).length = tcpMinHeaderLen :=
      TcpSegmentToSend.encode_length ..
    have htcp := run_vec (TcpSegmentToSend.writeTo_eq self.ipv4Address ipv4.source (synAckSegment_encodable synAck))
    rw [synAckSegment_segmentLen] at htcp
    dsimp only
    unfold synAckSegment at htcp hencode
    rw [Exec.get_bind, heard_ipv4Address, onLocal_vec_bind htcp hencode]
    exact buildIpv4Reply_run hipv4 ethernet .tcp (by rw [hencode]; decide)

lemma processIpv4Frame_run (ethernet : EthernetFrame) :
    (processIpv4Frame ethernet).run self = self.answer now (demuxIpv4 self.ipv4Address ethernet) := by
  unfold processIpv4Frame demuxIpv4
  refine propagate_answer fun ipv4 hipv4 => ?_
  rw [Exec.get_bind]
  by_cases hdestination : ipv4.destination ≠ self.ipv4Address
  · rw [if_pos hdestination, if_pos hdestination]
    rfl
  rw [if_neg hdestination, if_neg hdestination]
  by_cases hfragment : ipv4.moreFragments ∨ ipv4.fragmentOffset ≠ 0
  · rw [if_pos hfragment, if_pos hfragment]
    rfl
  rw [if_neg hfragment, if_neg hfragment]
  cases hprotocol : ipv4.protocol with
  | icmp => exact processIcmpPacket_run hipv4 hprotocol ethernet
  | udp => exact processUdpDatagram_run hipv4 hprotocol ethernet
  | tcp => exact processTcpSegment_run hipv4 hprotocol ethernet
  | unknown value =>
    unfold deliver
    rw [hprotocol]
    rfl

lemma processArpFrame_run (ethernet : EthernetFrame) (now : Instant) :
    (processArpFrame ethernet now).run self = self.answer now (do
      let packet ← (ArpPacket.parse ethernet.payload).mapErr .arp
      return .arp ethernet packet) := by
  unfold processArpFrame
  refine propagate_answer fun packet _ => ?_
  have hobserve := ArpResolver.observe_run (ε := InterfaceError) packet now self.arpResolver
  show _ = (Outcome.ok (self.respond now (.arp ethernet packet)).1, (self.respond now (.arp ethernet packet)).2)
  rw [onResolver, Exec.zoom_bind_of_ok hobserve, respond, Exec.get_bind]
  dsimp only
  cases hreply : buildReply packet self.macAddress self.ipv4Address with
  | none => rfl
  | some reply =>
    have hencode : reply.encode.length = arpHeaderLen := ArpPacket.encode_length reply
    have hframe : (self.arpReplyFrame reply).encode.length = ethernetHeaderLen + arpHeaderLen := rfl
    have harpRoom : ethernetHeaderLen + arpHeaderLen ≤ usizeMax := by decide
    have harp := run_vec (ArpPacket.writeTo_eq reply)
    have hethernet := run_vec (EthernetFrame.writeTo_eq
      (show ethernetHeaderLen + (self.arpReplyFrame reply).payload.length ≤ usizeMax from harpRoom))
    rw [hframe] at hethernet
    unfold arpReplyFrame at hethernet hframe
    dsimp only
    rw [onLocal_vec_bind harp hencode]
    dsimp only
    rw [addUsize_of_le harpRoom, Exec.lift_ok_bind, onLocal_vec_bind hethernet hframe]
    rfl

/-- **The handlers demultiplex first and then answer.** -/
theorem processFrameAt_eq (self : NetworkInterface) (input : Bytes) (now : Instant) :
    (processFrameAt input now).run self = self.answer now (demux self.macAddress self.ipv4Address input) := by
  unfold processFrameAt demux
  refine propagate_answer fun ethernet _ => ?_
  rw [Exec.get_bind]
  unfold demuxFrame
  cases ethernet.etherType with
  | ipv4 =>
    dsimp only
    by_cases hmac : ethernet.destinationMac = self.macAddress
    · rw [if_pos hmac, if_pos hmac]
      exact processIpv4Frame_run ethernet
    · rw [if_neg hmac, if_neg hmac]
      rfl
  | arp =>
    dsimp only
    by_cases hmac : ethernet.destinationMac = self.macAddress ∨ ethernet.destinationMac = MacAddress.broadcast
    · rw [if_pos hmac, if_pos hmac]
      exact processArpFrame_run ethernet now
    · rw [if_neg hmac, if_neg hmac]
      rfl
  | ipv6 => rfl
  | unknown value => rfl

/-! ### Errors and panics -/

/-- **A frame is refused by a parser and changes nothing, or it is delivered and answered.** -/
theorem processFrameAt_cases (self : NetworkInterface) (input : Bytes) (now : Instant) :
    (∃ e, demux self.macAddress self.ipv4Address input = .err e ∧ e.isParseError = true ∧
      (processFrameAt input now).run self = (.err e, self)) ∨
    ∃ delivery, demux self.macAddress self.ipv4Address input = .ok delivery ∧
      Delivers self.macAddress self.ipv4Address input delivery ∧
      (processFrameAt input now).run self = (.ok (self.respond now delivery).1, (self.respond now delivery).2) := by
  have hfails := demux_fails self.macAddress self.ipv4Address input
  rw [processFrameAt_eq]
  cases hdemux : demux self.macAddress self.ipv4Address input with
  | ok delivery => exact Or.inr ⟨delivery, rfl, delivers_of_demux hdemux, rfl⟩
  | err e =>
    rw [hdemux] at hfails
    exact Or.inl ⟨e, rfl, hfails, rfl⟩
  | panic p =>
    rw [hdemux] at hfails
    exact hfails.elim

lemma processFrameAt_panics (self : NetworkInterface) (input : Bytes) (now : Instant) :
    ((processFrameAt input now).run self).1.panics = false := by
  rcases processFrameAt_cases self input now with ⟨e, -, -, hrun⟩ | ⟨delivery, -, -, hrun⟩
  · rw [hrun]
    rfl
  · rw [hrun]
    rfl

/-- **A frame that is refused leaves no trace**, and it is refused by a parser: no error of a writer is reachable. -/
theorem error_leaves_state {input : Bytes} {e : InterfaceError}
    (h : ((processFrameAt input now).run self).1 = .err e) :
    ((processFrameAt input now).run self).2 = self ∧ e.isParseError = true := by
  rcases processFrameAt_cases self input now with ⟨e', -, hparse, hrun⟩ | ⟨delivery, -, -, hrun⟩
  · rw [hrun] at h ⊢
    obtain rfl : e' = e := by cases h; rfl
    exact ⟨rfl, hparse⟩
  · rw [hrun] at h
    cases h

/-- A packet that ends early is refused after its frame was accepted. -/
theorem error_leaves_state_truncated :
    let input := TestFrames.wrapEthernet .ipv4 [0x45]
    ((processFrameAt input 7).run TestFrames.interface).1 = .err (.ipv4 (.packetTooShort 1 20)) ∧
      ((processFrameAt input 7).run TestFrames.interface).2 = TestFrames.interface := by
  intro input
  have herror : ((processFrameAt input 7).run TestFrames.interface).1 = .err (.ipv4 (.packetTooShort 1 20)) := by
    decide
  exact ⟨herror, (error_leaves_state herror).1⟩

/-- **No input makes the stack panic**, in any state: neither a frame, nor a lookup or a resolution of an address, nor
data of any length that is to be summed. -/
theorem no_panic (self : NetworkInterface) (input : Bytes) (ip : Ipv4Addr) (now : Instant) :
    ((processFrameAt input now).run self).1.panics = false ∧
    ((cachedMac ip now : Exec NetworkInterface InterfaceError _).run self).1.panics = false ∧
    ((ArpResolver.resolve ip now : Exec ArpResolver InterfaceError _).run self.arpResolver).1.panics = false ∧
    (Checksum.checksum input : Outcome InterfaceError UInt16).panics = false := by
  refine ⟨processFrameAt_panics self input now, ?_, ?_, ?_⟩
  · rw [cachedMac, onResolver, Exec.zoom_run, ArpResolver.cachedMac_run]
    rfl
  · rw [ArpResolver.resolve_run]
    rfl
  · rw [Checksum.checksum_eq]
    rfl

end NetworkInterface

end TcpIp.Interface
